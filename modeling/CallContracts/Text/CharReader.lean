/-!
# Reading characters

What the readers of written data share: the shape of a reader, digits and what they stand for.
-/

namespace CallContracts

/-- A reader returns a value and the characters behind it, or nothing if they do not start with what
it reads. -/
abbrev CharReader (α : Type) : Type :=
  List Char → Option (α × List Char)

namespace Digit

def decimal (digit : Char) : Nat :=
  digit.toNat - '0'.toNat

def hexadecimal? (digit : Char) : Option Nat :=
  if digit.isDigit then some (decimal digit)
  else if 'a' ≤ digit && digit ≤ 'f' then some (digit.toNat - 'a'.toNat + 10)
  else if 'A' ≤ digit && digit ≤ 'F' then some (digit.toNat - 'A'.toNat + 10)
  else none

/-- The number that digits of the given values stand for in `base`. -/
def numeral (base : Nat) (values : List Nat) : Nat :=
  values.foldl (fun number value => number * base + value) 0

def natural (digits : List Char) : Nat :=
  numeral 10 (digits.map decimal)

/-- The number that `count` hexadecimal digits stand for. -/
def hexadecimalNumeral (count : Nat) : CharReader Nat := fun text => do
  if text.length < count then none
  else
    let values ← (text.take count).mapM hexadecimal?
    return (numeral 16 values, text.drop count)

end Digit

end CallContracts
