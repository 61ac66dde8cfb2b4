import CallContracts.Decimal.Format
import CallContracts.Json.Basic
import CallContracts.Members

/-!
# Written JSON

Two layouts: compact, without any blank, and indented by two blanks a level with one item a line.
Members stand in the order they have in the data; `Json.sorted` puts them into key order first.
-/

namespace CallContracts.Json

/-- Numbers are written with the fewest digits that read back, positionally if the decimal point
stands at most four zeros in front of the digits or at most sixteen digits behind them; a whole
floating-point number shows its kind by `.0`. -/
def numberFormat : NumberFormat where
  isPositional point := -5 < point && point ≤ 16
  wholeSuffix := ".0"

/-- A number that is not finite has no written form and stands as `null`. -/
def numberText : JsonNumber → String
  | .whole value => toString value
  | .float value => if value.isFinite then numberFormat.write value else "null"

def unitEscape (unit : Nat) : String :=
  let digits := Nat.toDigits 16 unit
  "\\u" ++ String.ofList (List.replicate (4 - digits.length) '0' ++ digits)

def escape (character : Char) : String :=
  if character = '"' then "\\\""
  else if character = '\\' then "\\\\"
  else if character = '\x08' then "\\b"
  else if character = '\x0c' then "\\f"
  else if character = '\n' then "\\n"
  else if character = '\r' then "\\r"
  else if character = '\t' then "\\t"
  else if character.toNat < 0x20 then unitEscape character.toNat
  else character.toString

def quote (text : String) : String :=
  "\"" ++ String.join (text.toList.map escape) ++ "\""

mutual

/-- The data without any blank. -/
def compact : Json → String
  | .null => "null"
  | .bool value => if value then "true" else "false"
  | .number value => numberText value
  | .string value => quote value
  | .array items => "[" ++ ",".intercalate (compactItems items) ++ "]"
  | .object members => "\x7b" ++ ",".intercalate (compactMembers members) ++ "\x7d"
termination_by structural json => json

/-- Each item without any blank. -/
def compactItems : List Json → List String
  | [] => []
  | item :: items => item.compact :: compactItems items
termination_by structural items => items

/-- Each member without any blank. -/
def compactMembers : List (String × Json) → List String
  | [] => []
  | (key, value) :: members => (quote key ++ ":" ++ value.compact) :: compactMembers members
termination_by structural members => members

end

/-- `lines` between two brackets, one a line and indented by two blanks more than `margin`. -/
def bracketed (opening closing margin : String) (lines : List String) : String :=
  match lines with
  | [] => opening ++ closing
  | lines =>
    let separator := "\n" ++ margin ++ "  "
    opening ++ separator ++ ("," ++ separator).intercalate lines ++ "\n" ++ margin ++ closing

mutual

/-- The data with one item a line, behind lines that start with `margin`. -/
def indented (margin : String) : Json → String
  | .null => "null"
  | .bool value => if value then "true" else "false"
  | .number value => numberText value
  | .string value => quote value
  | .array items => bracketed "[" "]" margin (indentedItems (margin ++ "  ") items)
  | .object members => bracketed "\x7b" "\x7d" margin (indentedMembers (margin ++ "  ") members)
termination_by structural json => json

def indentedItems (margin : String) : List Json → List String
  | [] => []
  | item :: items => item.indented margin :: indentedItems margin items
termination_by structural items => items

def indentedMembers (margin : String) : List (String × Json) → List String
  | [] => []
  | (key, value) :: members =>
    (quote key ++ ": " ++ value.indented margin) :: indentedMembers margin members
termination_by structural members => members

end

def pretty (json : Json) : String :=
  json.indented ""

mutual

/-- The data with the members of every object in key order, the last of equal keys kept. -/
def sorted : Json → Json
  | .array items => .array (sortedItems items)
  | .object members => .object (Members.ofList (sortedMembers members))
  | json => json
termination_by structural json => json

def sortedItems : List Json → List Json
  | [] => []
  | item :: items => item.sorted :: sortedItems items
termination_by structural items => items

def sortedMembers : List (String × Json) → List (String × Json)
  | [] => []
  | (key, value) :: members => (key, value.sorted) :: sortedMembers members
termination_by structural members => members

end

end CallContracts.Json
