import CallContracts.Program
import CallContracts.Schema.Basic

/-!
# Checking a value

`Schema.issues` lists what is wrong with a value now; it never looks into a promise.
`Schema.deliver` passes an accepted value on with each promise-typed part replaced by a new promise,
which settles with the part's resolution once that has been checked in turn, at the place where the
part stood.
-/

namespace CallContracts

namespace Schema

/-- The issues of each item at its index, counted from `index`. -/
def itemIssues (issues : Value → IssuePath → List Issue) (path : IssuePath) :
    (index : Nat) → List Value → List Issue
  | _, [] => []
  | index, item :: items =>
    issues item (path.push index) ++ itemIssues issues path (index + 1) items

/-- Passes on each item as `deliver` does, at its index counted from `index`. -/
def deliverItems (deliver : Value → IssuePath → (Value → Program) → Program) (path : IssuePath) :
    (index : Nat) → List Value → (List Value → Program) → Program
  | _, [], resume => resume []
  | index, item :: items, resume =>
    deliver item (path.push index) fun item =>
      deliverItems deliver path (index + 1) items fun items => resume (item :: items)

mutual

/-- What is wrong with a value that stands at `path`. -/
def issues : Schema → Value → IssuePath → List Issue
  | .any, _, _ => []
  | .number, .number value, path =>
    if value.isFinite then [] else [⟨path, "finite number", Value.numberFormat.write value⟩]
  | .string, .string _, _ => []
  | .boolean, .bool _, _ => []
  | .null, .null, _ => []
  | .undefined, .undefined, _ => []
  | .void, .undefined, _ => []
  | .callable, .function _, _ => []
  | .array element, .array items, path => itemIssues element.issues path 0 items
  | .tuple elements, .array items, path =>
    if elements.length = items.length then elementIssues elements path 0 items
    else [⟨path, "tuple of " ++ toString elements.length, "array of " ++ toString items.length⟩]
  | .promise _, _, _ => []
  | schema, value, path => [.mismatch path schema.describe value]
termination_by structural schema => schema

/-- What is wrong with items of which each has a schema of its own. -/
def elementIssues : List Schema → IssuePath → (index : Nat) → List Value → List Issue
  | schema :: schemas, path, index, item :: items =>
    schema.issues item (path.push index) ++ elementIssues schemas path (index + 1) items
  | _, _, _, _ => []
termination_by structural schemas => schemas

end

mutual

/-- Passes on an accepted value that stands at `path`, with new promises for its promise-typed
parts. -/
def deliver : Schema → Value → IssuePath → (Value → Program) → Program
  | .array element, .array items, path, resume =>
    deliverItems element.deliver path 0 items fun items => resume (.array items)
  | .tuple elements, .array items, path, resume =>
    deliverElements elements path 0 items fun items => resume (.array items)
  | .promise inner, value, path, resume =>
    .defer
      (Program.resolve value fun resolution =>
        match inner.issues resolution path with
        | [] => inner.deliver resolution path fun value => .finish (.ok value)
        | first :: others => .finish (.error (.invalid ⟨path.phase, first, others⟩)))
      fun promise => resume (.promise promise)
  | _, value, _, resume => resume value
termination_by structural schema => schema

/-- Passes on items of which each has a schema of its own. -/
def deliverElements : List Schema → IssuePath → (index : Nat) → List Value →
    (List Value → Program) → Program
  | schema :: schemas, path, index, item :: items, resume =>
    schema.deliver item (path.push index) fun item =>
      deliverElements schemas path (index + 1) items fun items => resume (item :: items)
  | _, _, _, items, resume => resume items
termination_by structural schemas => schemas

end

/-- Ends with the value as it is passed on, or with its issues. -/
def check (schema : Schema) (value : Value) (path : IssuePath) : Program :=
  match schema.issues value path with
  | [] => schema.deliver value path fun value => .finish (.ok value)
  | first :: others => .finish (.error (.invalid ⟨path.phase, first, others⟩))

end Schema

end CallContracts
