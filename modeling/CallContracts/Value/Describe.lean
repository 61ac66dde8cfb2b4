import CallContracts.Decimal.Format
import CallContracts.Text.Quoted
import CallContracts.Value.Basic

/-!
# Short descriptions of values

What a report says of a value that was received: data of one part is shown in full, an array by its
length, everything else by its kind.
-/

namespace CallContracts.Value

/-- Numbers are written with the fewest digits that read back, never with an exponent, and a whole
number without a decimal point. -/
def numberFormat : NumberFormat where
  isPositional _ := true
  wholeSuffix := ""

def describe : Value → String
  | .bool value => if value then "true" else "false"
  | .number value => numberFormat.write value
  | .string value => Quoted.quote value
  | .array items => "array of " ++ toString items.length
  | value => value.kind.word

end CallContracts.Value
