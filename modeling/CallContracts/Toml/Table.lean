import CallContracts.Toml.Basic

/-!
# Adding to tables

A table is written once. A header `[a.b]` may pass through tables of every origin but braces, and
opens a table that was only passed through so far; `[[a.b]]` adds one more table to an array of such
tables. A dotted key may pass through tables that no header has opened, and adds to a table only if
dotted keys made it. Behind an array of tables both go on in its last table.
-/

namespace CallContracts.Toml.Entries

def changeLast (change : Entries → Option Entries) (siblings : List Entries) :
    Option (List Entries) := do
  let last ← siblings.getLast?
  let changed ← change last
  return siblings.dropLast ++ [changed]

/-- Adds `value` under a dotted key. -/
def assign (value : Toml) : (path : List String) → Entries → Option Entries
  | [], _ => none
  | [key], entries => entries.add? key value
  | key :: next :: path, entries =>
    match entries.find? key with
    | none =>
      (assign value (next :: path) []).map fun inner => entries.put key (.table .dotted inner)
    | some (.table .dotted inner) =>
      (assign value (next :: path) inner).map fun inner => entries.put key (.table .dotted inner)
    | some (.table .passedThrough inner) =>
      if path.isEmpty then none
      else (assign value (next :: path) inner).map fun inner =>
        entries.put key (.table .passedThrough inner)
    | some (.tables siblings) =>
      if path.isEmpty then none
      else (changeLast (assign value (next :: path)) siblings).map fun siblings =>
        entries.put key (.tables siblings)
    | some _ => none

/-- Changes the table that the path of a header leads to. -/
def enter (change : Entries → Option Entries) : (path : List String) → Entries → Option Entries
  | [], entries => change entries
  | key :: path, entries =>
    match entries.find? key with
    | none =>
      (enter change path []).map fun inner => entries.put key (.table .passedThrough inner)
    | some (.table .inline _) => none
    | some (.table origin inner) =>
      (enter change path inner).map fun inner => entries.put key (.table origin inner)
    | some (.tables siblings) =>
      (changeLast (enter change path) siblings).map fun siblings =>
        entries.put key (.tables siblings)
    | some _ => none

/-- Opens the table under `key` by a header. -/
def openTable (key : String) (entries : Entries) : Option Entries :=
  match entries.find? key with
  | none => some (entries.put key (.table .header []))
  | some (.table .passedThrough inner) => some (entries.put key (.table .header inner))
  | some _ => none

/-- Adds a table to the array of tables under `key`. -/
def openNextTable (key : String) (entries : Entries) : Option Entries :=
  match entries.find? key with
  | none => some (entries.put key (.tables [[]]))
  | some (.tables siblings) => some (entries.put key (.tables (siblings ++ [[]])))
  | some _ => none

end CallContracts.Toml.Entries
