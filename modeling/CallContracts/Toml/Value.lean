import CallContracts.Toml.Moment
import CallContracts.Toml.Number
import CallContracts.Toml.Table
import CallContracts.Toml.Text

/-!
# Values in TOML

Quoted texts, numbers, `true` and `false`, dates and times, arrays and inline tables. Items of
arrays and entries of inline tables are separated by commas, of which one may stand behind the last;
comments and line ends may stand anywhere around them.
-/

namespace CallContracts.TomlText

def isScalar (character : Char) : Bool :=
  character.isAlphanum || character = '+' || character = '-' || character = '.' ||
    character = '_' || character = ':'

def scalar? (text : List Char) : Option Toml :=
  if text = "true".toList then some (.bool true)
  else if text = "false".toList then some (.bool false)
  else
    match integer? text with
    | some value => some (.integer value)
    | none => if isReal text then some (.real (String.ofList text)) else none

def scalar : CharReader Toml := fun text =>
  match moment text with
  | some (written, rest) =>
    if rest.head?.any isScalar then none else some (.moment written, rest)
  | none => (scalar? (text.takeWhile isScalar)).map fun value => (value, text.dropWhile isScalar)

/-- At most `bound` items up to `closing`, with commas between them. -/
def itemsUntil {α : Type} (item : CharReader α) (closing : Char) :
    (bound : Nat) → CharReader (List α)
  | 0, _ => none
  | bound + 1, text =>
    match skipFiller text with
    | [] => none
    | next :: rest =>
      if next = closing then some ([], rest)
      else do
        let (value, rest) ← item (next :: rest)
        match skipFiller rest with
        | ',' :: rest =>
          let (values, rest) ← itemsUntil item closing bound rest
          return (value :: values, rest)
        | next :: rest => if next = closing then some ([value], rest) else none
        | [] => none

/-- A key, an equals sign and a value. -/
def entry (value : CharReader Toml) : CharReader (List String × Toml) := fun text => do
  let (path, rest) ← key text
  let (content, rest) ← value (skipBlanks (← mark '=' rest))
  return ((path, content), rest)

def quotedValue : CharReader Toml := fun text =>
  (quoted text).map fun (content, rest) => (.string content, rest)

/-- A value in which arrays and inline tables nest at most `depth` levels deep. -/
def value : (depth : Nat) → CharReader Toml
  | _, '"' :: rest => quotedValue ('"' :: rest)
  | _, '\x27' :: rest => quotedValue ('\x27' :: rest)
  | depth + 1, '[' :: rest =>
    (itemsUntil (value depth) ']' (rest.length + 1) rest).map fun (items, rest) =>
      (.array items, rest)
  | depth + 1, '\x7b' :: rest => do
    let (entries, rest) ← itemsUntil (entry (value depth)) '\x7d' (rest.length + 1) rest
    let table ←
      entries.foldlM (fun table (path, content) => Toml.Entries.assign content path table) []
    return (.table .inline table, rest)
  | _, text => scalar text

end CallContracts.TomlText
