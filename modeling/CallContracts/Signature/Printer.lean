import CallContracts.Signature.Basic

/-!
# Written form of signatures

The canonical text of a signature: one blank after `async`, after a comma, after the colon of a
named parameter and on both sides of the arrow, and no other blank. An array type is its element
followed by `[]`, except that an array of functions is written `Array<…>`, because a suffix behind
a signature belongs to its return type.
-/

namespace CallContracts

/-- Items one after another, with a comma and a blank between two of them. -/
def commaSeparated (items : List String) : String :=
  ", ".intercalate items

mutual

def TypeExpr.text : TypeExpr → String
  | .primitive kind => kind.keyword
  | .array (.function signature) => "Array<" ++ signature.text ++ ">"
  | .array element => element.text ++ "[]"
  | .tuple elements => "[" ++ commaSeparated (TypeExpr.texts elements) ++ "]"
  | .promise inner => "Promise<" ++ inner.text ++ ">"
  | .function signature => signature.text
termination_by structural type => type

def TypeExpr.texts : List TypeExpr → List String
  | [] => []
  | type :: types => type.text :: TypeExpr.texts types
termination_by structural types => types

/-- The written form of a parameter: an optional one is marked behind its name, or behind its type
if it has no name. -/
def Parameter.text : Parameter → String
  | ⟨some name, false, type⟩ => name ++ ": " ++ type.text
  | ⟨some name, true, type⟩ => name ++ "?: " ++ type.text
  | ⟨none, false, type⟩ => type.text
  | ⟨none, true, type⟩ => type.text ++ "?"
termination_by structural parameter => parameter

def Parameter.texts : List Parameter → List String
  | [] => []
  | parameter :: parameters => parameter.text :: Parameter.texts parameters
termination_by structural parameters => parameters

def Signature.text : Signature → String
  | ⟨isAsync, parameters, returns⟩ =>
    (if isAsync then "async (" else "(") ++ commaSeparated (Parameter.texts parameters) ++
      ") => " ++ returns.text
termination_by structural signature => signature

end

theorem TypeExpr.texts_eq_map (types : List TypeExpr) :
    TypeExpr.texts types = types.map TypeExpr.text := by
  induction types with
  | nil => simp [TypeExpr.texts]
  | cons type types ih => simp [TypeExpr.texts, ih]

theorem Parameter.texts_eq_map (parameters : List Parameter) :
    Parameter.texts parameters = parameters.map Parameter.text := by
  induction parameters with
  | nil => simp [Parameter.texts]
  | cons parameter parameters ih => simp [Parameter.texts, ih]

instance : ToString TypeExpr := ⟨TypeExpr.text⟩
instance : ToString Signature := ⟨Signature.text⟩

end CallContracts
