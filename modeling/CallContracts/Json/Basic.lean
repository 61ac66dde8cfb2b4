/-!
# JSON data

Whole numbers of 64 bits are kept exactly; every other number is a floating-point number. The
members of an object are kept in the order in which they are written.
-/

namespace CallContracts

/-- A JSON number. -/
inductive JsonNumber where
  /-- A whole number of at most 64 bits, with or without sign. -/
  | whole (value : Int)
  | float (value : Float)

def JsonNumber.toFloat : JsonNumber → Float
  | .whole value =>
    if value < 0 then -(value.natAbs.toUInt64.toFloat) else value.natAbs.toUInt64.toFloat
  | .float value => value

/-- JSON data. -/
inductive Json where
  | null
  | bool (value : Bool)
  | number (value : JsonNumber)
  | string (value : String)
  | array (items : List Json)
  | object (members : List (String × Json))

namespace Json

def ofNat (value : Nat) : Json :=
  .number (.whole value)

end Json

end CallContracts
