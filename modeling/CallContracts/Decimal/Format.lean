import CallContracts.Decimal.Shortest

/-!
# Layout of numbers

`NumberFormat.write` lays out the shortest decimal of a floating-point number. The decisions that
differ between formats are the fields of a `NumberFormat`.
-/

namespace CallContracts

/-- The decisions of a number format. -/
structure NumberFormat where
  /-- Whether a number is written without an exponent, given how many digits stand in front of its
  decimal point; negative counts are zeros behind the point. -/
  isPositional : (point : Int) → Bool
  /-- What follows a whole number. -/
  wholeSuffix : String

namespace NumberFormat

/-- `count` zeros. -/
def zeros (count : Nat) : String :=
  String.ofList (List.replicate count '0')

/-- The digits `digits`, of which the decimal point follows `point`. -/
def positional (format : NumberFormat) (digits : List Char) (point : Int) : String :=
  if point ≤ 0 then
    "0." ++ zeros (-point).toNat ++ String.ofList digits
  else
    let whole := point.toNat
    if digits.length ≤ whole then
      String.ofList digits ++ zeros (whole - digits.length) ++ format.wholeSuffix
    else
      String.ofList (digits.take whole) ++ "." ++ String.ofList (digits.drop whole)

/-- One digit, the others behind the decimal point, and the power of ten. -/
def exponential (digits : List Char) (point : Int) : String :=
  let fraction := digits.drop 1
  String.ofList (digits.take 1) ++
    (if fraction.isEmpty then "" else "." ++ String.ofList fraction) ++
    "e" ++ toString (point - 1)

def write (format : NumberFormat) (number : Float) : String :=
  if number.isNaN then "NaN"
  else
    let sign := if number.toBits >>> 63 = 0 then "" else "-"
    if number.isInf then sign ++ "inf"
    else if number == 0 then sign ++ "0" ++ format.wholeSuffix
    else
      let decimal := Decimal.shortest (Binary.ofBits number.toBits)
      let digits := Nat.toDigits 10 decimal.digits
      let point := decimal.exponent + digits.length
      sign ++
        if format.isPositional point then format.positional digits point
        else exponential digits point

end NumberFormat

end CallContracts
