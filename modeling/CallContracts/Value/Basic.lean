import CallContracts.Members

/-!
# Values

The dynamically typed values that pass through a contract. Functions and promises are identities;
what stands behind an identity is kept in a `Store`. An object is a stack of layers: its own members
shadow those of the object it is layered over, and nothing that is done to a layer reaches the
object below.
-/

namespace CallContracts

/-- The identity of a function. Two handles with one identity are the same function. -/
structure CallableId where
  index : Nat
  deriving DecidableEq

/-- The identity of a promise. Every holder of a promise sees the same settlement. -/
structure PromiseId where
  index : Nat
  deriving DecidableEq

mutual

/-- A dynamically typed value. -/
inductive Value where
  | undefined
  | null
  | bool (value : Bool)
  | number (value : Float)
  | string (value : String)
  | array (items : List Value)
  | object (object : Object)
  | function (callable : CallableId)
  | promise (promise : PromiseId)

/-- Named members, looked up in the top layer first. -/
inductive Object where
  /-- An object with these members and nothing below. -/
  | root (own : List (String × Value))
  /-- A layer with these members over another object. -/
  | layer (own : List (String × Value)) (delegate : Object)

end

instance : Inhabited Value := ⟨.undefined⟩

/-- The coarse kind of a value, as it is named in reports. -/
inductive ValueKind where
  | undefined
  | null
  | boolean
  | number
  | string
  | array
  | object
  | function
  | promise
  deriving DecidableEq

def ValueKind.word : ValueKind → String
  | .undefined => "undefined"
  | .null => "null"
  | .boolean => "boolean"
  | .number => "number"
  | .string => "string"
  | .array => "array"
  | .object => "object"
  | .function => "function"
  | .promise => "promise"

namespace Value

def kind : Value → ValueKind
  | .undefined => .undefined
  | .null => .null
  | .bool _ => .boolean
  | .number _ => .number
  | .string _ => .string
  | .array _ => .array
  | .object _ => .object
  | .function _ => .function
  | .promise _ => .promise

/-- The function, if the value is one. -/
def callable? : Value → Option CallableId
  | .function callable => some callable
  | _ => none

end Value

namespace Object

/-- The object without members. -/
def empty : Object :=
  .root []

/-- An empty layer over `base`. -/
def layeredOver (base : Object) : Object :=
  .layer [] base

def own : Object → Members Value
  | .root own => own
  | .layer own _ => own

def delegate? : Object → Option Object
  | .root _ => none
  | .layer _ delegate => some delegate

/-- The object with `value` under `key` in its top layer. -/
def insert (key : String) (value : Value) : Object → Object
  | .root own => .root (Members.insert key value own)
  | .layer own delegate => .layer (Members.insert key value own) delegate

/-- The object with several members inserted one after another. -/
def insertAll (members : List (String × Value)) (object : Object) : Object :=
  members.foldl (fun object (key, value) => object.insert key value) object

/-- The visible member under `key`: that of the topmost layer that has one. -/
def get? (key : String) : Object → Option Value
  | .root own => Members.find? key own
  | .layer own delegate =>
    match Members.find? key own with
    | some value => some value
    | none => delegate.get? key

/-- Whether a member is visible under `key`. -/
def contains (object : Object) (key : String) : Bool :=
  (object.get? key).isSome

/-- The visible member under `key`, if it is a function. -/
def method? (object : Object) (key : String) : Option CallableId :=
  (object.get? key).bind Value.callable?

/-- Whether the top layer itself has a member under `key`. -/
def isOverridden (object : Object) (key : String) : Bool :=
  (Members.find? key object.own).isSome

/-- `keys` with `key` at its place in ascending order, unless it is there already. -/
def insertKey (key : String) : List String → List String
  | [] => [key]
  | other :: keys =>
    if key < other then key :: other :: keys
    else if key = other then other :: keys
    else other :: insertKey key keys

/-- Every visible key once, in ascending order. -/
def keys : Object → List String
  | .root own => (Members.keys own).foldr insertKey []
  | .layer own delegate => (Members.keys own).foldr insertKey delegate.keys

/-- The visible members in ascending order of their keys. -/
def entries (object : Object) : Members Value :=
  object.keys.filterMap fun key => (object.get? key).map fun value => (key, value)

def isEmpty (object : Object) : Bool :=
  object.keys.isEmpty

/-- The members of each layer, from the top down. -/
def layers : Object → List (Members Value)
  | .root own => [own]
  | .layer own delegate => own :: delegate.layers

end Object

end CallContracts
