import CallContracts.Log.Notice
import CallContracts.Toml.Document

/-!
# Reading settings

A section is a table of settings by name, or an array of settings in their order. Unknown settings
are ignored, a setting of the wrong type makes the whole file unusable. A file that asks for reports
of no issue has its validation section reset, with a warning.
-/

namespace CallContracts

/-- What a section says about each of its settings. A date says nothing about any. -/
def Toml.settings? (names : List String) : Toml → Option (List (Option Toml))
  | .table _ entries => some (names.map fun name => Entries.find? name entries)
  | .array items => some (names.zipIdx.map fun (_, position) => items[position]?)
  | .tables siblings =>
    some (names.zipIdx.map fun (_, position) => siblings[position]?.map (.table .header))
  | .moment _ => some (names.map fun _ => none)
  | _ => none

/-- Whether nothing is listed. -/
def Toml.isEmptyList : Toml → Bool
  | .array items => items.isEmpty
  | .table _ entries => entries.isEmpty
  | _ => false

/-- The format that a setting names, by a word or as the only key of a table, with nothing in it. -/
def ReportFormat.ofToml? : Toml → Option ReportFormat
  | .string word => ofKeyword? word
  | .table _ [(word, content)] => if content.isEmptyList then ofKeyword? word else none
  | _ => none

def Toml.bool? : Toml → Option Bool
  | .bool value => some value
  | _ => none

def Toml.string? : Toml → Option String
  | .string value => some value
  | _ => none

/-- A setting that is a count of at most 64 bits. -/
def Toml.count? : Toml → Option Nat
  | .integer value =>
    if 0 ≤ value && value.toNat < Nat.pow 2 64 then some value.toNat else none
  | _ => none

def OutputSettings.ofToml? (content : Toml) : Option OutputSettings := do
  match ← content.settings? ["format", "use_color"] with
  | [format, useColor] =>
    return ⟨← format.mapM ReportFormat.ofToml?, ← useColor.mapM Toml.bool?⟩
  | _ => none

def ValidationSettings.ofToml? (content : Toml) : Option ValidationSettings := do
  match ← content.settings? ["max_reported_issues"] with
  | [limit] => return ⟨← limit.mapM Toml.count?⟩
  | _ => none

def LoggingSettings.ofToml? (content : Toml) : Option LoggingSettings := do
  match ← content.settings? ["filter"] with
  | [filter] => return ⟨← filter.mapM Toml.string?⟩
  | _ => none

namespace Settings

def ofToml? (document : Toml.Entries) : Option Settings := do
  let output ← (document.find? "output").mapM OutputSettings.ofToml?
  let validation ← (document.find? "validation").mapM ValidationSettings.ofToml?
  let logging ← (document.find? "logging").mapM LoggingSettings.ofToml?
  return ⟨output, validation, logging⟩

/-- The settings with a validation section that asks for reports of no issue reset, and a warning if
there is one. -/
def validated (settings : Settings) : Settings × List Notice :=
  if settings.validation = some ⟨some 0⟩ then
    ({ settings with validation := some ⟨none⟩ }, [.emptyReports])
  else (settings, [])

/-- The settings that a text spells, with the warnings about them. -/
def read (text : String) : Option (Settings × List Notice) := do
  let document ← Toml.read text
  let settings ← ofToml? document
  return settings.validated

end Settings

end CallContracts
