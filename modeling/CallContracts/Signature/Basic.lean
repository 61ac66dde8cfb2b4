/-!
# Signatures

A signature names the parameters a function takes and the type it returns. Types nest: the type
of a function-valued parameter is again a signature. Equality is exact and sees parameter names;
`Signature.compatible` compares shapes instead.
-/

namespace CallContracts

/-- The types written as a single keyword. -/
inductive Primitive where
  | number
  | string
  | boolean
  | null
  | undefined
  | void
  | dontcare
  deriving DecidableEq

namespace Primitive

/-- Every keyword type, in the order keywords are looked up. -/
def all : List Primitive :=
  [.number, .string, .boolean, .null, .undefined, .void, .dontcare]

def keyword : Primitive → String
  | .number => "number"
  | .string => "string"
  | .boolean => "boolean"
  | .null => "null"
  | .undefined => "undefined"
  | .void => "void"
  | .dontcare => "dontcare"

/-- The type that a word names, if it is a keyword. -/
def ofKeyword? (word : String) : Option Primitive :=
  all.find? fun primitive => primitive.keyword = word

theorem ofKeyword?_keyword (primitive : Primitive) :
    ofKeyword? primitive.keyword = some primitive := by
  cases primitive <;> decide

theorem keyword_of_ofKeyword? {word : String} {primitive : Primitive}
    (found : ofKeyword? word = some primitive) : primitive.keyword = word := by
  simpa using List.find?_some found

end Primitive

mutual

/-- A type in a signature. -/
inductive TypeExpr where
  | primitive (kind : Primitive)
  | array (element : TypeExpr)
  | tuple (elements : List TypeExpr)
  | promise (inner : TypeExpr)
  | function (signature : Signature)

/-- One parameter. Its name is for reports only and never affects what is accepted. -/
structure Parameter where
  name : Option String
  optional : Bool
  type : TypeExpr

/-- What a function takes and returns, and whether it delivers its result asynchronously. -/
structure Signature where
  isAsync : Bool
  parameters : List Parameter
  returns : TypeExpr

end

mutual

def TypeExpr.decEq : (left right : TypeExpr) → Decidable (left = right)
  | .primitive left, .primitive right =>
    if same : left = right then isTrue (by rw [same]) else isFalse (by simpa using same)
  | .array left, .array right =>
    match left.decEq right with
    | isTrue same => isTrue (by rw [same])
    | isFalse differ => isFalse (by simpa using differ)
  | .tuple left, .tuple right =>
    match TypeExpr.decEqList left right with
    | isTrue same => isTrue (by rw [same])
    | isFalse differ => isFalse (by simpa using differ)
  | .promise left, .promise right =>
    match left.decEq right with
    | isTrue same => isTrue (by rw [same])
    | isFalse differ => isFalse (by simpa using differ)
  | .function left, .function right =>
    match left.decEq right with
    | isTrue same => isTrue (by rw [same])
    | isFalse differ => isFalse (by simpa using differ)
  | .primitive _, .array _ | .primitive _, .tuple _ | .primitive _, .promise _
  | .primitive _, .function _ | .array _, .primitive _ | .array _, .tuple _
  | .array _, .promise _ | .array _, .function _ | .tuple _, .primitive _
  | .tuple _, .array _ | .tuple _, .promise _ | .tuple _, .function _
  | .promise _, .primitive _ | .promise _, .array _ | .promise _, .tuple _
  | .promise _, .function _ | .function _, .primitive _ | .function _, .array _
  | .function _, .tuple _ | .function _, .promise _ => isFalse (by simp)
termination_by structural left => left

def TypeExpr.decEqList : (left right : List TypeExpr) → Decidable (left = right)
  | [], [] => isTrue rfl
  | [], _ :: _ | _ :: _, [] => isFalse (by simp)
  | left :: lefts, right :: rights =>
    match left.decEq right, TypeExpr.decEqList lefts rights with
    | isTrue same, isTrue sames => isTrue (by rw [same, sames])
    | isFalse differ, _ => isFalse (by simp [differ])
    | _, isFalse differ => isFalse (by simp [differ])
termination_by structural left => left

def Parameter.decEq : (left right : Parameter) → Decidable (left = right)
  | ⟨leftName, leftOptional, left⟩, ⟨rightName, rightOptional, right⟩ =>
    match left.decEq right with
    | isFalse differ => isFalse (by simp [differ])
    | isTrue same =>
      if rest : leftName = rightName ∧ leftOptional = rightOptional then
        isTrue (by simp [rest, same])
      else
        isFalse (by simp_all)
termination_by structural left => left

def Parameter.decEqList : (left right : List Parameter) → Decidable (left = right)
  | [], [] => isTrue rfl
  | [], _ :: _ | _ :: _, [] => isFalse (by simp)
  | left :: lefts, right :: rights =>
    match left.decEq right, Parameter.decEqList lefts rights with
    | isTrue same, isTrue sames => isTrue (by rw [same, sames])
    | isFalse differ, _ => isFalse (by simp [differ])
    | _, isFalse differ => isFalse (by simp [differ])
termination_by structural left => left

def Signature.decEq : (left right : Signature) → Decidable (left = right)
  | ⟨leftAsync, lefts, left⟩, ⟨rightAsync, rights, right⟩ =>
    match Parameter.decEqList lefts rights, left.decEq right with
    | isFalse differ, _ => isFalse (by simp [differ])
    | _, isFalse differ => isFalse (by simp [differ])
    | isTrue sames, isTrue same =>
      if rest : leftAsync = rightAsync then isTrue (by simp [rest, same, sames])
      else isFalse (by simp [rest])
termination_by structural left => left

end

instance : DecidableEq TypeExpr := TypeExpr.decEq
instance : DecidableEq Parameter := Parameter.decEq
instance : DecidableEq Signature := Signature.decEq

namespace Signature

def arity (signature : Signature) : Nat :=
  signature.parameters.length

def requiredArity (signature : Signature) : Nat :=
  signature.parameters.countP fun parameter => !parameter.optional

end Signature

end CallContracts
