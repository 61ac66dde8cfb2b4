import CallContracts.Text.CharReader

/-!
# Numbers in TOML

Whole numbers are decimal with an optional sign, or hexadecimal, octal or binary without one.
Floating-point numbers have a fraction, an exponent or both, or are infinite or not a number.
Decimal numbers have no superfluous zeros in front, and single underscores may stand between digits.
Whole numbers take at most 128 bits and finite ones must not exceed the range of 64-bit
floating-point numbers.
-/

namespace CallContracts.TomlText

/-- Digits without the underscores between them; every underscore must stand between two digits. -/
def ungroup (isDigit : Char → Bool) : List Char → Option (List Char)
  | [] => none
  | [digit] => if isDigit digit then some [digit] else none
  | digit :: '_' :: rest => if isDigit digit then (ungroup isDigit rest).map (digit :: ·) else none
  | digit :: rest => if isDigit digit then (ungroup isDigit rest).map (digit :: ·) else none

/-- Decimal digits without superfluous zeros in front. -/
def decimalDigits (text : List Char) : Option (List Char) := do
  let digits ← ungroup Char.isDigit text
  if digits.head? = some '0' && digits.length > 1 then none else some digits

/-- Whether a minus sign stands in front, and the text behind the sign. -/
def sign : List Char → Bool × List Char
  | '+' :: rest => (false, rest)
  | '-' :: rest => (true, rest)
  | text => (false, text)

/-- The natural number that digits of a base other than ten spell. -/
def basedNatural (base : Nat) (text : List Char) : Option Nat := do
  let digits ← ungroup (fun digit => (Digit.hexadecimal? digit).any (· < base)) text
  return Digit.numeral base (digits.filterMap Digit.hexadecimal?)

def integer? (text : List Char) : Option Int := do
  let value : Int ←
    match text with
    | '0' :: 'x' :: rest => Int.ofNat <$> basedNatural 16 rest
    | '0' :: 'o' :: rest => Int.ofNat <$> basedNatural 8 rest
    | '0' :: 'b' :: rest => Int.ofNat <$> basedNatural 2 rest
    | text => do
      let (isNegative, text) := sign text
      let magnitude := Int.ofNat (Digit.natural (← decimalDigits text))
      pure (if isNegative then -magnitude else magnitude)
  let least := -Int.ofNat (Nat.pow 2 127)
  let bound := Int.ofNat (Nat.pow 2 128)
  if least ≤ value && value < bound then some value else none

/-- Whether `digits * 10 ^ exponent` exceeds the range of 64-bit floating-point numbers: whether it
is at least half a unit in the last place above the largest of them. -/
def exceedsRange (digits : List Char) (exponent : Int) : Bool :=
  let significant := digits.dropWhile (· = '0')
  let places := significant.length + exponent
  if significant.isEmpty || places < 300 then false
  else if places > 310 then true
  else
    let threshold := Nat.pow 2 1024 - Nat.pow 2 970
    let value := Digit.natural significant
    if exponent < 0 then threshold * Nat.pow 10 exponent.natAbs ≤ value
    else threshold ≤ value * Nat.pow 10 exponent.natAbs

def exponent? (text : List Char) : Option Int := do
  let (isNegative, text) := sign text
  let magnitude := Int.ofNat (Digit.natural (← ungroup Char.isDigit text))
  return if isNegative then -magnitude else magnitude

/-- Whether a text spells a finite floating-point number without sign. -/
def isFiniteReal (text : List Char) : Bool :=
  let isMark : Char → Bool := fun character => character = 'e' || character = 'E'
  let mantissa := text.takeWhile fun character => !isMark character
  let behind := text.dropWhile fun character => !isMark character
  let whole := mantissa.takeWhile (· ≠ '.')
  let point := mantissa.dropWhile (· ≠ '.')
  let fraction := if point.isEmpty then some [] else ungroup Char.isDigit (point.drop 1)
  let exponent := if behind.isEmpty then some 0 else exponent? (behind.drop 1)
  match decimalDigits whole, fraction, exponent with
  | some whole, some fraction, some exponent =>
    !(point.isEmpty && behind.isEmpty) &&
      !exceedsRange (whole ++ fraction) (exponent - fraction.length)
  | _, _, _ => false

def isReal (text : List Char) : Bool :=
  let (_, text) := sign text
  text = "inf".toList || text = "nan".toList || isFiniteReal text

end CallContracts.TomlText
