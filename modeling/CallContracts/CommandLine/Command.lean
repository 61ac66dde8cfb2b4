import CallContracts.Json.Reader
import CallContracts.Log.Notice
import CallContracts.Report
import CallContracts.Schema.Function
import CallContracts.Settle
import CallContracts.Value.OfJson

/-!
# Commands

The three things the program does: show a signature, compare two signatures, validate an argument
list against a signature. Promise-typed parameters are driven to their settlements, so that a report
also covers what is behind them. Return values play no role.
-/

namespace CallContracts

/-- What the program is asked to do. -/
inductive Command where
  | parse (signature : String)
  | compare (expected actual : String)
  | validate (signature arguments : String)

/-- Why a command has no report. -/
inductive CommandFault where
  | ofFault (fault : Fault)
  /-- The arguments are not JSON. -/
  | malformedArguments
  /-- The arguments are JSON, but not an array. -/
  | argumentsNotArray (arguments : Json)

def CommandFault.message : CommandFault → String
  | .ofFault fault => fault.message
  | .malformedArguments => "arguments must be valid JSON"
  | .argumentsNotArray arguments =>
    "arguments must be a JSON array, got " ++ arguments.sorted.compact

/-- What a command comes to: a report, and whether what was asked for holds. -/
structure Report where
  text : String
  passed : Bool

/-- How reports are written. -/
structure ReportOptions where
  format : ReportFormat
  styled : Bool
  issueLimit : Nat

def readArguments (text : String) : Except CommandFault (List Value) :=
  match Json.read text with
  | none => .error .malformedArguments
  | some (.array items) => .ok (Value.ofJsonList items)
  | some other => .error (.argumentsNotArray other)

/-- Checks arguments and settles what has been checked. Arguments without promises of their own need
one level for each promise type around another and one more, so there always is a result. -/
def ParameterSchema.checkSettled (schema : ParameterSchema) (arguments : List Value) :
    Except Fault (List Value) :=
  let depth := Schema.promiseDepths (schema.slots.map Slot.schema) + 1
  match Store.empty.checkAndSettle depth schema arguments with
  | some (settled, _) => settled
  | none => .error (.raised "the arguments do not settle")

def readSignature (text : String) : Except CommandFault Signature :=
  match Signature.parse text with
  | .ok signature => .ok signature
  | .error fault => .error (.ofFault (.malformedSignature fault))

/-- The report on an argument list. A rejected list is a report that did not pass, every other
failure is a fault of the command. -/
def FunctionSchema.reportArguments (schema : FunctionSchema) (options : ReportOptions)
    (text : String) : Except CommandFault Report := do
  let arguments ← readArguments text
  match schema.parameters.checkSettled arguments with
  | .ok _ => return ⟨schema.signature.acceptanceReport options.format options.styled, true⟩
  | .error (.invalid failure) =>
    return ⟨failure.report options.format options.styled options.issueLimit, false⟩
  | .error fault => throw (.ofFault fault)

/-- What a command comes to, and what there is to tell about its work. -/
structure Execution where
  notices : List Notice
  result : Except CommandFault Report

def Command.execute (options : ReportOptions) : Command → Execution
  | .parse text =>
    ⟨[], do
      let signature ← readSignature text
      return ⟨signature.report options.format options.styled, true⟩⟩
  | .compare expected actual =>
    ⟨[], do
      let expected ← readSignature expected
      let actual ← readSignature actual
      return ⟨Signature.comparisonReport options.format options.styled expected actual,
        expected.compatible actual⟩⟩
  | .validate text arguments =>
    match readSignature text with
    | .error fault => ⟨[], .error fault⟩
    | .ok signature =>
      match FunctionSchema.compile signature with
      | .error fault => ⟨[], .error (.ofFault fault)⟩
      | .ok schema => ⟨[.compiledSignature signature], schema.reportArguments options arguments⟩

end CallContracts
