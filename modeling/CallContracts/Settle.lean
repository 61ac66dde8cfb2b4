import CallContracts.Schema.Parameters
import CallContracts.Store.Run

/-!
# Settling values

Settling drives every promise that can be reached from a list of values through arrays and through
the resolutions of promises, from left to right, and puts resolutions in the places of promises.
Objects are not entered. The first rejection that is no validation failure ends the walk at once;
validation failures are gathered, and the walk goes on behind them.
-/

namespace CallContracts

/-- What the walk over a part comes to: the part with its resolutions in place, or the failures met
in it. -/
abbrev Settled (α : Type) : Type :=
  Except ValidationFailure α

/-- Two failures as one, which keeps the side of the first. -/
def ValidationFailure.append (left right : ValidationFailure) : ValidationFailure :=
  ⟨left.phase, left.first, left.others ++ right.issues⟩

namespace Settled

/-- An item in front of other items. A failure anywhere is a failure of the whole. -/
def cons : Settled Value → Settled (List Value) → Settled (List Value)
  | .ok item, .ok items => .ok (item :: items)
  | .ok _, .error failure => .error failure
  | .error failure, .ok _ => .error failure
  | .error left, .error right => .error (left.append right)

end Settled

mutual

/-- Walks over a value, with `follow` for promises. -/
def Value.settle
    (follow : PromiseId → Store → Option (Except Fault (Settled Value) × Store)) :
    Value → Store → Option (Except Fault (Settled Value) × Store)
  | .promise id, store => follow id store
  | .array items, store =>
    match Value.settleList follow items store with
    | none => none
    | some (.error fault, store) => some (.error fault, store)
    | some (.ok items, store) => some (.ok (items.map .array), store)
  | value, store => some (.ok (.ok value), store)
termination_by structural value => value

def Value.settleList
    (follow : PromiseId → Store → Option (Except Fault (Settled Value) × Store)) :
    List Value → Store → Option (Except Fault (Settled (List Value)) × Store)
  | [], store => some (.ok (.ok []), store)
  | item :: items, store =>
    match item.settle follow store with
    | none => none
    | some (.error fault, store) => some (.error fault, store)
    | some (.ok item, store) =>
      match Value.settleList follow items store with
      | none => none
      | some (.error fault, store) => some (.error fault, store)
      | some (.ok items, store) => some (.ok (item.cons items), store)
termination_by structural items => items

end

namespace Store

def follow : (depth : Nat) → PromiseId → Store → Option (Except Fault (Settled Value) × Store)
  | 0, _, _ => none
  | depth + 1, promise, store =>
    match store.await (depth + 1) promise with
    | none => none
    | some (.ok resolution, store) => resolution.settle (follow depth) store
    | some (.error (.invalid failure), store) => some (.ok (.error failure), store)
    | some (.error fault, store) => some (.error fault, store)

/-- Settles values. All validation failures met are reported as one failure of the side `phase`. -/
def settle (depth : Nat) (values : List Value) (phase : Phase) (store : Store) :
    Option (Except Fault (List Value) × Store) :=
  match Value.settleList (follow depth) values store with
  | none => none
  | some (.error fault, store) => some (.error fault, store)
  | some (.ok (.ok values), store) => some (.ok values, store)
  | some (.ok (.error failure), store) => some (.error (.invalid { failure with phase }), store)

/-- Checks arguments and settles what has been checked. -/
def checkAndSettle (depth : Nat) (schema : ParameterSchema) (arguments : List Value)
    (store : Store) : Option (Except Fault (List Value) × Store) :=
  match store.run depth (schema.check arguments) with
  | some (.ok (.array checked), store) => store.settle depth checked .arguments
  | some (.error fault, store) => some (.error fault, store)
  | some (.ok _, _) | none => none

end Store

end CallContracts
