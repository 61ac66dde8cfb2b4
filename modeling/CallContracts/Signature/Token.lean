/-!
# Tokens of the signature language

Words, nine punctuation marks and the arrow, with any run of blanks, tabs and line ends between
them. Reading tokens never fails: a character that starts no token is a token of its own kind, which
no rule of the grammar accepts. Each token remembers where it starts, in bytes of the text.
-/

namespace CallContracts

/-- The units a signature is made of. -/
inductive Token where
  | word (name : String)
  | openParen
  | closeParen
  | comma
  | question
  | colon
  | arrow
  | openBracket
  | closeBracket
  | openAngle
  | closeAngle
  /-- A character that starts no token. -/
  | stray (character : Char)
  deriving DecidableEq

/-- A token and the byte offset of its first character. -/
structure Lexeme where
  token : Token
  start : Nat

namespace Token

/-- Blank, tab, carriage return and line feed separate tokens. -/
def isBlank (character : Char) : Bool :=
  character = ' ' || character = '\t' || character = '\r' || character = '\n'

/-- Words start with an ASCII letter, an underscore or a dollar sign. -/
def isWordStart (character : Char) : Bool :=
  character.isAlpha || character = '_' || character = '$'

/-- Words go on with the same characters and with ASCII digits. -/
def isWordPart (character : Char) : Bool :=
  character.isAlphanum || character = '_' || character = '$'

def ofMark (character : Char) : Token :=
  if character = '(' then .openParen
  else if character = ')' then .closeParen
  else if character = ',' then .comma
  else if character = '?' then .question
  else if character = ':' then .colon
  else if character = '[' then .openBracket
  else if character = ']' then .closeBracket
  else if character = '<' then .openAngle
  else if character = '>' then .closeAngle
  else .stray character

def firstChar : Token → Char
  | .word name => name.toList.headD '_'
  | .openParen => '('
  | .closeParen => ')'
  | .comma => ','
  | .question => '?'
  | .colon => ':'
  | .arrow => '='
  | .openBracket => '['
  | .closeBracket => ']'
  | .openAngle => '<'
  | .closeAngle => '>'
  | .stray character => character

end Token

namespace Lexeme

def byteLength (characters : List Char) : Nat :=
  characters.foldl (fun length character => length + character.utf8Size) 0

theorem length_dropWhile_le {α : Type} (keep : α → Bool) (items : List α) :
    (items.dropWhile keep).length ≤ items.length :=
  (List.dropWhile_sublist keep).length_le

/-- The tokens of `characters`, of which the first stands at byte `start` of the text. -/
def scan (start : Nat) (characters : List Char) : List Lexeme :=
  match characters with
  | [] => []
  | '=' :: '>' :: rest => ⟨.arrow, start⟩ :: scan (start + 2) rest
  | character :: rest =>
    if Token.isBlank character then
      scan (start + character.utf8Size) rest
    else if Token.isWordStart character then
      let name := character :: rest.takeWhile Token.isWordPart
      ⟨.word (String.ofList name), start⟩ ::
        scan (start + byteLength name) (rest.dropWhile Token.isWordPart)
    else
      ⟨.ofMark character, start⟩ :: scan (start + character.utf8Size) rest
termination_by characters.length
decreasing_by
  · simp only [List.length_cons]
    omega
  · simp only [List.length_cons]
    omega
  · have shorter := length_dropWhile_le Token.isWordPart rest
    simp only [List.length_cons]
    omega
  · simp only [List.length_cons]
    omega

def ofText (text : String) : List Lexeme :=
  scan 0 text.toList

end Lexeme

end CallContracts
