import CallContracts.Json.Basic
import CallContracts.Signature.Basic

/-!
# Signatures as JSON data

A keyword type is its keyword, every other type is an object tagged by `type`. A parameter without a
name has no member for it.
-/

namespace CallContracts

mutual

def TypeExpr.toJson : TypeExpr → Json
  | .primitive kind => .string kind.keyword
  | .array element => .object [("type", .string "array"), ("element", element.toJson)]
  | .tuple elements =>
    .object [("type", .string "tuple"), ("elements", .array (TypeExpr.toJsonList elements))]
  | .promise inner => .object [("type", .string "promise"), ("inner", inner.toJson)]
  | .function signature => signature.toJson
termination_by structural type => type

def TypeExpr.toJsonList : List TypeExpr → List Json
  | [] => []
  | type :: types => type.toJson :: TypeExpr.toJsonList types
termination_by structural types => types

def Parameter.toJson : Parameter → Json
  | ⟨some name, optional, type⟩ =>
    .object [("optional", .bool optional), ("type", type.toJson), ("name", .string name)]
  | ⟨none, optional, type⟩ => .object [("optional", .bool optional), ("type", type.toJson)]
termination_by structural parameter => parameter

def Parameter.toJsonList : List Parameter → List Json
  | [] => []
  | parameter :: parameters => parameter.toJson :: Parameter.toJsonList parameters
termination_by structural parameters => parameters

def Signature.toJson : Signature → Json
  | ⟨isAsync, parameters, returns⟩ =>
    .object [("type", .string "function"), ("async", .bool isAsync),
      ("parameters", .array (Parameter.toJsonList parameters)), ("return", returns.toJson)]
termination_by structural signature => signature

end

/-! ## Reading the data back -/

namespace Json

/-- The member under `key` of an object; the first one, if there are several. -/
def member? (key : String) : List (String × Json) → Option Json
  | [] => none
  | (other, value) :: members => if other = key then some value else member? key members

end Json

mutual

def TypeExpr.ofJson? : Json → Option TypeExpr
  | .string word => (Primitive.ofKeyword? word).map .primitive
  | .object members =>
    match Json.member? "type" members with
    | some (.string "array") => (TypeExpr.memberOfJson? "element" members).map .array
    | some (.string "promise") => (TypeExpr.memberOfJson? "inner" members).map .promise
    | some (.string "tuple") => (TypeExpr.elementsOfJson? members).map .tuple
    | some (.string "function") =>
      match Json.member? "async" members, Parameter.membersOfJson? members,
        TypeExpr.memberOfJson? "return" members with
      | some (.bool isAsync), some parameters, some returns =>
        some (.function ⟨isAsync, parameters, returns⟩)
      | _, _, _ => none
    | _ => none
  | _ => none
termination_by structural json => json

/-- The type under `key` of a JSON object. -/
def TypeExpr.memberOfJson? (key : String) : List (String × Json) → Option TypeExpr
  | [] => none
  | (other, value) :: members =>
    if other = key then TypeExpr.ofJson? value else TypeExpr.memberOfJson? key members
termination_by structural members => members

def TypeExpr.listOfJson? : List Json → Option (List TypeExpr)
  | [] => some []
  | json :: jsons =>
    match TypeExpr.ofJson? json, TypeExpr.listOfJson? jsons with
    | some type, some types => some (type :: types)
    | _, _ => none
termination_by structural jsons => jsons

def TypeExpr.arrayOfJson? : Json → Option (List TypeExpr)
  | .array items => TypeExpr.listOfJson? items
  | _ => none
termination_by structural json => json

/-- The types in the member `elements`. -/
def TypeExpr.elementsOfJson? : List (String × Json) → Option (List TypeExpr)
  | [] => none
  | (key, value) :: members =>
    if key = "elements" then TypeExpr.arrayOfJson? value else TypeExpr.elementsOfJson? members
termination_by structural members => members

def Parameter.ofJson? : Json → Option Parameter
  | .object members =>
    match Json.member? "optional" members, TypeExpr.memberOfJson? "type" members,
      Json.member? "name" members with
    | some (.bool optional), some type, none => some ⟨none, optional, type⟩
    | some (.bool optional), some type, some (.string name) => some ⟨some name, optional, type⟩
    | _, _, _ => none
  | _ => none
termination_by structural json => json

/-- The parameters that a list of JSON data stands for. -/
def Parameter.listOfJson? : List Json → Option (List Parameter)
  | [] => some []
  | json :: jsons =>
    match Parameter.ofJson? json, Parameter.listOfJson? jsons with
    | some parameter, some parameters => some (parameter :: parameters)
    | _, _ => none
termination_by structural jsons => jsons

def Parameter.arrayOfJson? : Json → Option (List Parameter)
  | .array items => Parameter.listOfJson? items
  | _ => none
termination_by structural json => json

/-- The parameters in the member `parameters`. -/
def Parameter.membersOfJson? : List (String × Json) → Option (List Parameter)
  | [] => none
  | (key, value) :: members =>
    if key = "parameters" then Parameter.arrayOfJson? value else Parameter.membersOfJson? members
termination_by structural members => members

end

def Signature.ofJson? (json : Json) : Option Signature :=
  match TypeExpr.ofJson? json with
  | some (.function signature) => some signature
  | _ => none

end CallContracts
