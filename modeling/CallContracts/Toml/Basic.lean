/-!
# TOML data

A document is a table. Tables remember how they came to be, because that decides what a later line
may still add to them.
-/

namespace CallContracts

/-- How a table came to be. -/
inductive TableOrigin where
  /-- By a header of its own, or as the document itself. -/
  | header
  /-- As part of the way to a table with a header. -/
  | passedThrough
  /-- By a dotted key. -/
  | dotted
  /-- In braces; nothing can be added to it. -/
  | inline
  deriving DecidableEq

/-- TOML data. -/
inductive Toml where
  | string (value : String)
  | integer (value : Int)
  /-- A floating-point number, as it is written. -/
  | real (written : String)
  | bool (value : Bool)
  /-- A date, a time or both, as they are written. -/
  | moment (written : String)
  | array (items : List Toml)
  | table (origin : TableOrigin) (entries : List (String × Toml))
  /-- An array of tables that have headers of their own. -/
  | tables (tables : List (List (String × Toml)))

namespace Toml

/-- The entries of a table, in the order in which they were written. -/
abbrev Entries : Type :=
  List (String × Toml)

namespace Entries

/-- The data under `key`. -/
def find? (key : String) (entries : Entries) : Option Toml :=
  entries.lookup key

/-- The entries with `value` under `key`, in the place of what is there. -/
def put (key : String) (value : Toml) : Entries → Entries
  | [] => [(key, value)]
  | (other, current) :: entries =>
    if other = key then (key, value) :: entries else (other, current) :: put key value entries

/-- The entries with a new entry, unless there is one of this key. -/
def add? (key : String) (value : Toml) (entries : Entries) : Option Entries :=
  match entries.find? key with
  | none => some (entries.put key value)
  | some _ => none

end Entries

end Toml

end CallContracts
