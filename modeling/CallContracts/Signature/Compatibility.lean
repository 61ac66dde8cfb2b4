import CallContracts.Signature.Basic

/-!
# Compatible signatures

Two signatures are compatible if they have exactly the same shape. Parameter names are ignored at
every depth; nothing is coerced, reordered or allowed to vary.
-/

namespace CallContracts

mutual

def TypeExpr.compatible : (expected actual : TypeExpr) → Bool
  | .primitive expected, .primitive actual => expected = actual
  | .array expected, .array actual => expected.compatible actual
  | .tuple expected, .tuple actual => TypeExpr.compatibleList expected actual
  | .promise expected, .promise actual => expected.compatible actual
  | .function expected, .function actual => expected.compatible actual
  | _, _ => false
termination_by structural expected => expected

/-- Whether two lists have the same length and types of the same shape at each place. -/
def TypeExpr.compatibleList : (expected actual : List TypeExpr) → Bool
  | [], [] => true
  | expected :: expectedRest, actual :: actualRest =>
    expected.compatible actual && TypeExpr.compatibleList expectedRest actualRest
  | _, _ => false
termination_by structural expected => expected

/-- Whether two parameters are equally optional and have types of the same shape. -/
def Parameter.compatible : (expected actual : Parameter) → Bool
  | ⟨_, expectedOptional, expected⟩, ⟨_, actualOptional, actual⟩ =>
    expectedOptional = actualOptional && expected.compatible actual
termination_by structural expected => expected

/-- Whether two lists have the same length and compatible parameters at each place. -/
def Parameter.compatibleList : (expected actual : List Parameter) → Bool
  | [], [] => true
  | expected :: expectedRest, actual :: actualRest =>
    expected.compatible actual && Parameter.compatibleList expectedRest actualRest
  | _, _ => false
termination_by structural expected => expected

def Signature.compatible : (expected actual : Signature) → Bool
  | ⟨expectedAsync, expectedParameters, expected⟩, ⟨actualAsync, actualParameters, actual⟩ =>
    expectedAsync = actualAsync &&
      Parameter.compatibleList expectedParameters actualParameters &&
      expected.compatible actual
termination_by structural expected => expected

end

end CallContracts
