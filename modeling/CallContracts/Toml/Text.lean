import CallContracts.Text.CharReader

/-!
# Texts and keys in TOML

Blanks, comments and line ends; the four kinds of quoted texts; keys, which are bare or quoted on
one line. No control character except the tab may stand in a comment or a text, and a carriage
return only in front of a line feed.
-/

namespace CallContracts.TomlText

def isBlank (character : Char) : Bool :=
  character = ' ' || character = '\t'

def skipBlanks (text : List Char) : List Char :=
  text.dropWhile isBlank

/-- The characters that may stand unescaped in comments and texts. -/
def isPlain (character : Char) : Bool :=
  character = '\t' || (0x20 ≤ character.toNat && character.toNat ≠ 0x7F)

/-- The text behind a comment, if one comes next. -/
def skipComment : List Char → List Char
  | '#' :: rest => rest.dropWhile isPlain
  | text => text

def lineEnd : CharReader (List Char)
  | '\n' :: rest => some (['\n'], rest)
  | '\r' :: '\n' :: rest => some (['\r', '\n'], rest)
  | _ => none

/-- The text behind the line end that must come next, behind blanks and an optional comment. -/
def closeLine (text : List Char) : Option (List Char) :=
  match skipComment (skipBlanks text) with
  | [] => some []
  | rest => (lineEnd rest).map Prod.snd

/-- The text behind at most `bound` lines of blanks and comments and the blanks of the next line. -/
def skipLines : (bound : Nat) → List Char → List Char
  | 0, text => text
  | bound + 1, text =>
    let text := skipComment (skipBlanks text)
    match lineEnd text with
    | some (_, rest) => skipLines bound rest
    | none => text

/-- The text behind all blanks, comments and line ends. -/
def skipFiller (text : List Char) : List Char :=
  skipLines (text.length + 1) text

/-- The text behind at most `bound` blank lines and the blanks of the next line. -/
def skipBlankLines : (bound : Nat) → List Char → List Char
  | 0, text => text
  | bound + 1, text =>
    match lineEnd (skipBlanks text) with
    | some (_, rest) => skipBlankLines bound rest
    | none => skipBlanks text

/-! ## Quoted texts -/

/-- The character of a code point, which must not be a surrogate. -/
def ofCodePoint? (code : Nat) : Option Char :=
  if code.isValidChar then some (Char.ofNat code) else none

/-- The character that `count` hexadecimal digits stand for. -/
def codePoint (count : Nat) : CharReader Char := fun text => do
  let (code, rest) ← Digit.hexadecimalNumeral count text
  let character ← ofCodePoint? code
  return (character, rest)

/-- The character that an escape stands for, behind its backslash. -/
def escaped : CharReader Char
  | 'b' :: rest => some ('\x08', rest)
  | 't' :: rest => some ('\t', rest)
  | 'n' :: rest => some ('\n', rest)
  | 'f' :: rest => some ('\x0c', rest)
  | 'r' :: rest => some ('\r', rest)
  | 'e' :: rest => some ('\x1b', rest)
  | '"' :: rest => some ('"', rest)
  | '\\' :: rest => some ('\\', rest)
  | 'x' :: rest => codePoint 2 rest
  | 'u' :: rest => codePoint 4 rest
  | 'U' :: rest => codePoint 8 rest
  | _ => none

/-- The kinds of quoted texts: with escapes in double quotes, or as they are in single quotes; on
one line, or on several between three quotes. -/
structure QuoteStyle where
  mark : Char
  escapes : Bool
  multiline : Bool

def QuoteStyle.countMarks (style : QuoteStyle) (text : List Char) : Nat :=
  (text.takeWhile (· = style.mark)).length

/-- A part of a quoted text that is neither a quote nor a line end: one character, or none for an
escaped line end, which swallows all blanks and line ends behind it. -/
def QuoteStyle.part (style : QuoteStyle) : CharReader (List Char)
  | [] => none
  | character :: rest =>
    if style.escapes && character = '\\' then
      match escaped rest with
      | some (meant, rest) => some ([meant], rest)
      | none =>
        match style.multiline, lineEnd (skipBlanks rest) with
        | true, some (_, rest) => some ([], skipBlankLines (rest.length + 1) rest)
        | _, _ => none
    else if isPlain character then some ([character], rest)
    else none

/-- The characters up to the closing quotes, in at most `bound` parts. Between three quotes up to
two quotes may stand in front of the closing ones. -/
def QuoteStyle.body (style : QuoteStyle) : (bound : Nat) → CharReader (List Char)
  | 0, _ => none
  | bound + 1, text =>
    let marks := style.countMarks text
    if marks = 0 then do
      let (part, rest) ←
        match style.multiline, lineEnd text with
        | true, some found => some found
        | _, _ => style.part text
      let (characters, rest) ← style.body bound rest
      return (part ++ characters, rest)
    else if !style.multiline then some ([], text.drop 1)
    else if marks < 3 then do
      let (characters, rest) ← style.body bound (text.drop marks)
      return (text.take marks ++ characters, rest)
    else
      let content := min marks 5 - 3
      some (text.take content, text.drop (content + 3))

/-- A quoted text behind its opening quotes. A line end right behind three quotes does not count. -/
def QuoteStyle.text (style : QuoteStyle) : CharReader String := fun input =>
  let input :=
    match style.multiline, lineEnd input with
    | true, some (_, rest) => rest
    | _, _ => input
  (style.body (input.length + 1) input).map fun (characters, rest) =>
    (String.ofList characters, rest)

def quoted : CharReader String
  | '"' :: '"' :: '"' :: rest => (QuoteStyle.mk '"' true true).text rest
  | '"' :: rest => (QuoteStyle.mk '"' true false).text rest
  | '\x27' :: '\x27' :: '\x27' :: rest => (QuoteStyle.mk '\x27' false true).text rest
  | '\x27' :: rest => (QuoteStyle.mk '\x27' false false).text rest
  | _ => none

/-! ## Keys -/

def isBareKey (character : Char) : Bool :=
  character.isAlphanum || character = '-' || character = '_'

def keyPart : CharReader String
  | '"' :: rest => (QuoteStyle.mk '"' true false).text rest
  | '\x27' :: rest => (QuoteStyle.mk '\x27' false false).text rest
  | text =>
    let name := text.takeWhile isBareKey
    if name.isEmpty then none else some (String.ofList name, text.dropWhile isBareKey)

/-- Further parts of a key, each behind a dot. -/
def moreKeyParts : (bound : Nat) → CharReader (List String)
  | 0, _ => none
  | bound + 1, text =>
    match skipBlanks text with
    | '.' :: rest => do
      let (part, rest) ← keyPart (skipBlanks rest)
      let (parts, rest) ← moreKeyParts bound rest
      return (part :: parts, rest)
    | text => some ([], text)

/-- The parts of a key, and the text behind the blanks that follow it. -/
def key : CharReader (List String) := fun text => do
  let (part, rest) ← keyPart text
  let (parts, rest) ← moreKeyParts (rest.length + 1) rest
  return (part :: parts, rest)

end CallContracts.TomlText
