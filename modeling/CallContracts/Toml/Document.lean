import CallContracts.Toml.Value

/-!
# TOML documents

A document is a sequence of lines, each blank, a header or an entry of the table that the last
header opened; a value may go on over several lines. `Toml.read` returns the table that a text
describes, or nothing if the text is not TOML or adds to a table what it must not.
-/

namespace CallContracts

/-- A document as far as it has been read, and the path of the header whose table is filled. -/
structure TomlDocument where
  entries : Toml.Entries
  path : List String

namespace TomlDocument

/-- Opens the table of a header, by `openAs` in the table around it. -/
def openHeader (openAs : String → Toml.Entries → Option Toml.Entries) (path : List String)
    (document : TomlDocument) : Option TomlDocument := do
  let key ← path.getLast?
  let entries ← document.entries.enter (openAs key) path.dropLast
  return ⟨entries, path⟩

def addEntry (path : List String) (value : Toml) (document : TomlDocument) :
    Option TomlDocument := do
  let entries ← document.entries.enter (Toml.Entries.assign value path) document.path
  return { document with entries }

end TomlDocument

namespace TomlText

/-- How many levels deep values may nest. -/
def deepestNesting : Nat :=
  80

/-- The document behind a line that is a header or an entry, and the text behind that line. -/
def statement (document : TomlDocument) : List Char → Option (TomlDocument × List Char)
  | '[' :: '[' :: rest => do
    let (path, rest) ← key (skipBlanks rest)
    let rest ← closeLine (← mark ']' (← mark ']' rest))
    return (← document.openHeader Toml.Entries.openNextTable path, rest)
  | '[' :: rest => do
    let (path, rest) ← key (skipBlanks rest)
    let rest ← closeLine (← mark ']' rest)
    return (← document.openHeader Toml.Entries.openTable path, rest)
  | text => do
    let ((path, content), rest) ← entry (value deepestNesting) text
    let rest ← closeLine rest
    return (← document.addEntry path content, rest)

/-- The document behind at most `bound` lines, which must be the rest of the text. -/
def lines : (bound : Nat) → TomlDocument → List Char → Option TomlDocument
  | _, document, [] => some document
  | 0, _, _ => none
  | bound + 1, document, text =>
    match closeLine text with
    | some rest => lines bound document rest
    | none => do
      let (document, rest) ← statement document (skipBlanks text)
      lines bound document rest

end TomlText

/-- The table that a text describes. A byte order mark may stand in front. -/
def Toml.read (text : String) : Option Toml.Entries :=
  let characters :=
    match text.toList with
    | '\ufeff' :: rest => rest
    | characters => characters
  (TomlText.lines characters.length ⟨[], []⟩ characters).map TomlDocument.entries

end CallContracts
