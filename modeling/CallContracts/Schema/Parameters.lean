import CallContracts.Schema.Check

/-!
# Checking an argument list

Required parameters come first and optional ones behind them; a list that breaks this order does not
compile. Arguments are checked by position. An optional argument may be missing, and `undefined` may
stand in its place.
-/

namespace CallContracts

/-- The first required parameter behind an optional one, counted from `index`. -/
def Parameter.misplaced? (seenOptional : Bool) (index : Nat) : List Parameter → Option Nat
  | [] => none
  | parameter :: parameters =>
    if !parameter.optional && seenOptional then some index
    else misplaced? (seenOptional || parameter.optional) (index + 1) parameters

/-- Fails at the first required parameter behind an optional one. -/
def Parameter.checkOrder (parameters : List Parameter) : Except Fault Unit :=
  match Parameter.misplaced? false 0 parameters with
  | some index => .error (.parameterOrder index)
  | none => .ok ()

/-- What is asked of the argument at one position. -/
structure Slot where
  schema : Schema
  optional : Bool

/-- What is asked of an argument list, position by position. -/
structure ParameterSchema where
  slots : List Slot

namespace ParameterSchema

def compile (parameters : List Parameter) : Except Fault ParameterSchema := do
  Parameter.checkOrder parameters
  return ⟨parameters.map fun parameter => ⟨parameter.type.schema, parameter.optional⟩⟩

/-- The issues of arguments at the positions from `position` on, as far as there are slots. -/
def slotIssues : List Slot → (position : Nat) → List Value → List Issue
  | [], _, _ => []
  | slot :: slots, position, [] =>
    (if slot.optional then []
      else [⟨IssuePath.arguments.push position, slot.schema.describe, "nothing"⟩]) ++
      slotIssues slots (position + 1) []
  | slot :: slots, position, argument :: arguments =>
    (match slot.optional, argument with
      | true, .undefined => []
      | _, argument => slot.schema.issues argument (IssuePath.arguments.push position)) ++
      slotIssues slots (position + 1) arguments

def issues (schema : ParameterSchema) (arguments : List Value) : List Issue :=
  slotIssues schema.slots 0 arguments ++
    if schema.slots.length < arguments.length then
      [⟨IssuePath.arguments.push schema.slots.length,
        "at most " ++ toString schema.slots.length ++ " arguments",
        toString arguments.length ++ " arguments"⟩]
    else []

/-- Passes on arguments at the positions from `position` on, with new promises for their
promise-typed parts. -/
def deliverSlots : List Slot → (position : Nat) → List Value → (List Value → Program) → Program
  | slot :: slots, position, argument :: arguments, resume =>
    let behind : Value → Program := fun argument =>
      deliverSlots slots (position + 1) arguments fun arguments => resume (argument :: arguments)
    match slot.optional, argument with
    | true, .undefined => behind .undefined
    | _, argument => slot.schema.deliver argument (IssuePath.arguments.push position) behind
  | _, _, arguments, resume => resume arguments

/-- Goes on with the arguments as they are passed on if there is nothing wrong with them, and with
the failure otherwise. -/
def checkThen (schema : ParameterSchema) (arguments : List Value)
    (accepted : List Value → Program) (rejected : ValidationFailure → Program) : Program :=
  match schema.issues arguments with
  | [] => deliverSlots schema.slots 0 arguments accepted
  | first :: others => rejected ⟨.arguments, first, others⟩

/-- Ends with an array of the arguments as they are passed on, or with their issues. -/
def check (schema : ParameterSchema) (arguments : List Value) : Program :=
  schema.checkThen arguments
    (fun arguments => .finish (.ok (.array arguments)))
    (fun failure => .finish (.error (.invalid failure)))

end ParameterSchema

end CallContracts
