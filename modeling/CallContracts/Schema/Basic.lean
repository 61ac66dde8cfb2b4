import CallContracts.Signature.Basic

/-!
# Schemas

What a type asks of a value. Parameter names and the signatures of function types leave no trace in
a schema: a function-valued position asks for a function and nothing more.
-/

namespace CallContracts

/-- What is asked of a value. -/
inductive Schema where
  | number
  | string
  | boolean
  | null
  | undefined
  | void
  /-- Nothing is asked. -/
  | any
  /-- Any function; what it does is never tried. -/
  | callable
  | array (element : Schema)
  | tuple (elements : List Schema)
  | promise (inner : Schema)

def Primitive.schema : Primitive → Schema
  | .number => .number
  | .string => .string
  | .boolean => .boolean
  | .null => .null
  | .undefined => .undefined
  | .void => .void
  | .dontcare => .any

mutual

def TypeExpr.schema : TypeExpr → Schema
  | .primitive kind => kind.schema
  | .array element => .array element.schema
  | .tuple elements => .tuple (TypeExpr.schemas elements)
  | .promise inner => .promise inner.schema
  | .function _ => .callable
termination_by structural type => type

def TypeExpr.schemas : List TypeExpr → List Schema
  | [] => []
  | type :: types => type.schema :: TypeExpr.schemas types
termination_by structural types => types

end

/-- The name under which a report says what was expected. -/
def Schema.describe : Schema → String
  | .number => "number"
  | .string => "string"
  | .boolean => "boolean"
  | .null => "null"
  | .undefined => "undefined"
  | .void => "void"
  | .any => "anything"
  | .callable => "function"
  | .array element => "array of " ++ element.describe
  | .tuple elements => "tuple of " ++ toString elements.length
  | .promise inner => "promise of " ++ inner.describe

namespace Schema

mutual

/-- How many promises stand within each other at most. -/
def promiseDepth : Schema → Nat
  | .array element => element.promiseDepth
  | .tuple elements => promiseDepths elements
  | .promise inner => inner.promiseDepth + 1
  | _ => 0
termination_by structural schema => schema

/-- How many promises stand within each other at most in one of several schemas. -/
def promiseDepths : List Schema → Nat
  | [] => 0
  | schema :: schemas => max schema.promiseDepth (promiseDepths schemas)
termination_by structural schemas => schemas

end

end Schema

end CallContracts
