import CallContracts.Value.Basic

/-!
# Equality of values

Data is equal by structure, functions by identity, and a promise is equal to nothing, itself
included. Numbers compare as floating-point numbers: `NaN` differs from itself and the two zeros are
equal. Objects are equal if they show the same keys with equal members, however they are layered.
-/

namespace CallContracts

mutual

def Value.beq : Value → Value → Bool
  | .undefined, .undefined => true
  | .null, .null => true
  | .bool left, .bool right => left == right
  | .number left, .number right => left == right
  | .string left, .string right => left == right
  | .array left, .array right => Value.beqList left right
  | .object left, .object right => left.keys == right.keys && Object.agrees left right []
  | .function left, .function right => left == right
  | _, _ => false
termination_by structural left => left

/-- Whether two lists have the same length and equal values at each place. -/
def Value.beqList : List Value → List Value → Bool
  | [], [] => true
  | left :: lefts, right :: rights => left.beq right && Value.beqList lefts rights
  | _, _ => false
termination_by structural lefts => lefts

/-- Whether `other` shows an equal member for each visible member of the first object, apart from
the keys that a layer above it has hidden. -/
def Object.agrees : Object → (other : Object) → (hidden : List String) → Bool
  | .root own, other, hidden => Value.membersAgree own other hidden
  | .layer own delegate, other, hidden =>
    Value.membersAgree own other hidden && delegate.agrees other (Members.keys own ++ hidden)
termination_by structural object => object

/-- Whether `other` shows an equal member for the first member of each key that is not hidden. -/
def Value.membersAgree : List (String × Value) → (other : Object) → (hidden : List String) → Bool
  | [], _, _ => true
  | (key, value) :: members, other, hidden =>
    (if hidden.contains key then true
      else match other.get? key with
        | some content => value.beq content
        | none => false) &&
      Value.membersAgree members other (key :: hidden)
termination_by structural members => members

end

instance : BEq Value := ⟨Value.beq⟩

def Object.beq (left right : Object) : Bool :=
  Value.beq (.object left) (.object right)

instance : BEq Object := ⟨Object.beq⟩

end CallContracts
