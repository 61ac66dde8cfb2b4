import CallContracts.Json.Basic
import CallContracts.Value.Basic

/-!
# Values of JSON data

JSON data converts to values of the same structure. Of members with the same key the last one
counts.
-/

namespace CallContracts

mutual

def Value.ofJson : Json → Value
  | .null => .null
  | .bool value => .bool value
  | .number value => .number value.toFloat
  | .string value => .string value
  | .array items => .array (Value.ofJsonList items)
  | .object members => .object (Object.insertAll (Value.ofJsonMembers members) .empty)
termination_by structural json => json

def Value.ofJsonList : List Json → List Value
  | [] => []
  | item :: items => Value.ofJson item :: Value.ofJsonList items
termination_by structural items => items

/-- The members that the members of a JSON object stand for. -/
def Value.ofJsonMembers : List (String × Json) → List (String × Value)
  | [] => []
  | (key, value) :: members => (key, Value.ofJson value) :: Value.ofJsonMembers members
termination_by structural members => members

end

end CallContracts
