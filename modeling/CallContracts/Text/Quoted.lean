import CallContracts.Text.Invisible

/-!
# Quoted text

A text in double quotes on one line, in which the quote, the backslash and the characters without a
form of their own are written as escapes.
-/

namespace CallContracts.Quoted

/-- The lowercase hexadecimal digits of a number, without leading zeros. -/
def hexadecimal (number : Nat) : String :=
  String.ofList (Nat.toDigits 16 number)

def escape (character : Char) : String :=
  if character = '\x00' then "\\0"
  else if character = '\t' then "\\t"
  else if character = '\r' then "\\r"
  else if character = '\n' then "\\n"
  else if character = '"' then "\\\""
  else if character = '\\' then "\\\\"
  else if Invisible.contains character then "\\u\x7b" ++ hexadecimal character.toNat ++ "\x7d"
  else character.toString

def quote (text : String) : String :=
  "\"" ++ String.join (text.toList.map escape) ++ "\""

end CallContracts.Quoted
