import CallContracts.Issue.Json
import CallContracts.Json.Printer
import CallContracts.Settings.Basic
import CallContracts.Signature.Compatibility
import CallContracts.Signature.Json
import CallContracts.Signature.Printer
import CallContracts.Text.Style
import CallContracts.Text.Table

/-!
# Reports

What the commands say about a signature, about two signatures side by side and about an argument
list. Every report has a text form, with styles if they are wanted, and a JSON form. A report on a
rejected argument list shows issues up to a limit and says how many more there are.
-/

namespace CallContracts

namespace Signature

/-- The parameters of a signature, one a row. -/
def parameterTable (signature : Signature) : Table where
  header := ["#", "Name", "Type", "Optional"]
  rows := signature.parameters.zipIdx.map fun (parameter, position) =>
    [toString position, parameter.name.getD "-", parameter.type.text,
      if parameter.optional then "yes" else "no"]

def textReport (styled : Bool) (signature : Signature) : String :=
  Style.bold.apply styled signature.text ++ "\n" ++ signature.parameterTable.text ++ "\n" ++
    Style.dimmed.apply styled "returns" ++ " " ++ signature.returns.text ++
    (if signature.isAsync then " (async)" else "")

def report (format : ReportFormat) (styled : Bool) (signature : Signature) : String :=
  match format with
  | .json => signature.toJson.pretty
  | .text => signature.textReport styled

/-- The report on the compatibility of two signatures as JSON data. -/
def comparisonJson (expected actual : Signature) : Json :=
  .object [("compatible", .bool (expected.compatible actual)), ("expected", expected.toJson),
    ("actual", actual.toJson)]

/-- The report on the compatibility of two signatures as text. -/
def comparisonText (styled : Bool) (expected actual : Signature) : String :=
  if expected.compatible actual then
    Style.boldGreen.apply styled "compatible:" ++ " " ++ expected.text
  else
    Style.boldRed.apply styled "incompatible" ++ "\n  expected: " ++ expected.text ++
      "\n  actual:   " ++ actual.text

/-- The report on the compatibility of two signatures. -/
def comparisonReport (format : ReportFormat) (styled : Bool) (expected actual : Signature) :
    String :=
  match format with
  | .json => (comparisonJson expected actual).sorted.pretty
  | .text => comparisonText styled expected actual

/-- The report on an argument list that a signature accepts. -/
def acceptanceReport (format : ReportFormat) (styled : Bool) (signature : Signature) : String :=
  match format with
  | .json => (Json.object [("valid", .bool true)]).compact
  | .text => Style.boldGreen.apply styled "valid:" ++ " " ++ signature.text

end Signature

namespace ValidationFailure

/-- How many issues a report with this limit leaves out. -/
def omitted (failure : ValidationFailure) (limit : Nat) : Nat :=
  failure.issues.length - limit

def toJson (failure : ValidationFailure) (limit : Nat) : Json :=
  .object [("valid", .bool false), ("phase", .string failure.phase.word),
    ("issues", .array ((failure.issues.take limit).map Issue.toJson)),
    ("omitted", .ofNat (failure.omitted limit))]

/-- The issues, one a row. -/
def issueTable (failure : ValidationFailure) (limit : Nat) : Table where
  header := ["Location", "Expected", "Received"]
  rows := (failure.issues.take limit).map fun issue =>
    [issue.path.text, issue.expected, issue.received]

def textReport (styled : Bool) (limit : Nat) (failure : ValidationFailure) : String :=
  Style.boldRed.apply styled "invalid arguments" ++ "\n" ++ (failure.issueTable limit).text ++
    if 0 < failure.omitted limit then
      "\n... and " ++ toString (failure.omitted limit) ++ " more"
    else ""

def report (format : ReportFormat) (styled : Bool) (limit : Nat) (failure : ValidationFailure) :
    String :=
  match format with
  | .json => (failure.toJson limit).sorted.pretty
  | .text => failure.textReport styled limit

end ValidationFailure

end CallContracts
