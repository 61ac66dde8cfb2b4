import CallContracts.Json.Basic
import CallContracts.Text.CharReader

/-!
# Reading JSON

The grammar of JSON in full, and nothing beyond it. Escapes of surrogates must come in pairs,
numbers must not exceed the floating-point range, and arrays and objects nest at most 127 levels
deep.

A number with a fraction or an exponent, or one that does not fit into 64 bits, is read as the
digits in front that fit, scaled by a power of ten in floating-point arithmetic.
-/

namespace CallContracts

namespace JsonText

/-- The text behind leading blanks, tabs and line ends. -/
def skipBlanks (text : List Char) : List Char :=
  text.dropWhile fun character =>
    character = ' ' || character = '\t' || character = '\n' || character = '\r'

/-! ## Numbers -/

def largestWhole : Nat := Nat.pow 2 64 - 1

/-- Appends digits to `significand` as long as the result fits into 64 bits; returns it with the
digits that did not fit. -/
def appendDigits (significand : Nat) : List Char → Nat × List Char
  | [] => (significand, [])
  | digit :: digits =>
    let longer := significand * 10 + Digit.decimal digit
    if longer ≤ largestWhole then appendDigits longer digits else (significand, digit :: digits)

/-- `10 ^ exponent` as a floating-point number. -/
def powerOfTen (exponent : Nat) : Float :=
  Float.ofScientific 1 false exponent

/-- `number / 10 ^ exponent`, dividing by at most `10 ^ 308` at a time. -/
def scaleDown (number : Float) (exponent : Nat) : Float :=
  if exponent ≤ 308 then number / powerOfTen exponent
  else if number == 0 then number
  else scaleDown (number / powerOfTen 308) (exponent - 308)
termination_by exponent

/-- `significand * 10 ^ exponent`, unless that exceeds the floating-point range. -/
def scaled? (significand : Nat) (exponent : Int) : Option Float :=
  let number := significand.toUInt64.toFloat
  if exponent < 0 then some (scaleDown number exponent.natAbs)
  else if exponent ≤ 308 then
    let product := number * powerOfTen exponent.natAbs
    if product.isInf then none else some product
  else if significand = 0 then some number
  else none

/-- The parts of a written number. -/
structure NumberParts where
  isNegative : Bool
  whole : List Char
  /-- The digits behind the decimal point; `none` without a point. -/
  fraction : Option (List Char)
  /-- The power of ten; `none` without an exponent. -/
  exponent : Option Int

/-- The digits in front of a text, of which there must be one. -/
def digits : CharReader (List Char) := fun text =>
  let found := text.takeWhile Char.isDigit
  if found.isEmpty then none else some (found, text.dropWhile Char.isDigit)

/-- The digits of a whole number: a zero stands alone. -/
def wholeDigits : CharReader (List Char) := fun text => do
  let (found, rest) ← digits text
  if found.head? = some '0' && found.length > 1 then none else some (found, rest)

/-- The digits behind a decimal point, if one comes next. -/
def fraction : CharReader (Option (List Char))
  | '.' :: rest => (digits rest).map fun (found, rest) => (some found, rest)
  | text => some (none, text)

/-- The exponent, if one comes next. -/
def exponent : CharReader (Option Int)
  | marker :: rest =>
    if marker = 'e' || marker = 'E' then
      let (isNegative, rest) : Bool × List Char :=
        match rest with
        | '+' :: rest => (false, rest)
        | '-' :: rest => (true, rest)
        | rest => (false, rest)
      (digits rest).map fun (found, rest) =>
        let value : Int := Digit.natural found
        (some (if isNegative then -value else value), rest)
    else some (none, marker :: rest)
  | [] => some (none, [])

def numberParts : CharReader NumberParts := fun text => do
  let (isNegative, text) : Bool × List Char :=
    match text with
    | '-' :: rest => (true, rest)
    | text => (false, text)
  let (whole, text) ← wholeDigits text
  let (fraction, text) ← fraction text
  let (exponent, text) ← exponent text
  return (⟨isNegative, whole, fraction, exponent⟩, text)

/-- The number that written parts stand for, unless it exceeds the floating-point range. -/
def NumberParts.value? (parts : NumberParts) : Option JsonNumber :=
  let (significand, surplus) := appendDigits 0 parts.whole
  if surplus.isEmpty && parts.fraction.isNone && parts.exponent.isNone &&
      (!parts.isNegative || (0 < significand && significand ≤ Nat.pow 2 63)) then
    some (.whole (if parts.isNegative then -significand else significand))
  else do
    let fraction := parts.fraction.getD []
    let (significand, unused) := appendDigits significand fraction
    let places : Int := surplus.length - (fraction.length - unused.length : Nat)
    let magnitude ← scaled? significand (places + parts.exponent.getD 0)
    return .float (if parts.isNegative then -magnitude else magnitude)

def number : CharReader JsonNumber := fun text => do
  let (parts, rest) ← numberParts text
  let value ← parts.value?
  return (value, rest)

/-! ## Texts -/

/-- The character behind `\u`: four hexadecimal digits, or a pair of surrogates. -/
def unicodeEscape : CharReader Char := fun text => do
  let (unit, rest) ← Digit.hexadecimalNumeral 4 text
  if 0xDC00 ≤ unit && unit < 0xE000 then none
  else if 0xD800 ≤ unit && unit < 0xDC00 then
    match rest with
    | '\\' :: 'u' :: rest => do
      let (low, rest) ← Digit.hexadecimalNumeral 4 rest
      if 0xDC00 ≤ low && low < 0xE000 then
        some (Char.ofNat (0x10000 + (unit - 0xD800) * 0x400 + (low - 0xDC00)), rest)
      else none
    | _ => none
  else some (Char.ofNat unit, rest)

/-- The character that a single letter behind a backslash stands for. -/
def simpleEscape? (letter : Char) : Option Char :=
  if letter = '"' || letter = '\\' || letter = '/' then some letter
  else if letter = 'b' then some '\x08'
  else if letter = 'f' then some '\x0c'
  else if letter = 'n' then some '\n'
  else if letter = 'r' then some '\r'
  else if letter = 't' then some '\t'
  else none

/-- One character of a text, which is no quote. -/
def textChar : CharReader Char
  | '\\' :: 'u' :: rest => unicodeEscape rest
  | '\\' :: letter :: rest => (simpleEscape? letter).map fun character => (character, rest)
  | '\\' :: [] => none
  | character :: rest => if character.toNat < 0x20 then none else some (character, rest)
  | [] => none

/-- The characters up to the closing quote, of which there are fewer than `bound`. -/
def textRest : (bound : Nat) → CharReader (List Char)
  | 0, _ => none
  | _ + 1, '"' :: rest => some ([], rest)
  | bound + 1, text => do
    let (character, rest) ← textChar text
    let (characters, rest) ← textRest bound rest
    return (character :: characters, rest)

def text : CharReader String
  | '"' :: rest => (textRest rest.length rest).map fun (characters, rest) =>
    (String.ofList characters, rest)
  | _ => none

/-! ## Values -/

/-- Items behind a first one, each after a comma, up to `closing`. -/
def moreItems {α : Type} (item : CharReader α) (closing : Char) :
    (bound : Nat) → CharReader (List α)
  | 0, _ => none
  | bound + 1, text =>
    match skipBlanks text with
    | [] => none
    | mark :: rest =>
      if mark = closing then some ([], rest)
      else if mark = ',' then do
        let (value, rest) ← item (skipBlanks rest)
        let (values, rest) ← moreItems item closing bound rest
        return (value :: values, rest)
      else none

/-- Items with commas between them, up to `closing`. -/
def itemsUntil {α : Type} (item : CharReader α) (closing : Char) : CharReader (List α) :=
  fun text =>
  let text := skipBlanks text
  if text.head? = some closing then some ([], text.drop 1)
  else do
    let (value, rest) ← item text
    let (values, rest) ← moreItems item closing (rest.length + 1) rest
    return (value :: values, rest)

def member (value : CharReader Json) : CharReader (String × Json) := fun input => do
  let (key, rest) ← text input
  match skipBlanks rest with
  | ':' :: rest =>
    let (value, rest) ← value (skipBlanks rest)
    return ((key, value), rest)
  | _ => none

/-- Data in which arrays and objects nest at most `depth` levels deep. -/
def value : (depth : Nat) → CharReader Json
  | _, 'n' :: 'u' :: 'l' :: 'l' :: rest => some (.null, rest)
  | _, 't' :: 'r' :: 'u' :: 'e' :: rest => some (.bool true, rest)
  | _, 'f' :: 'a' :: 'l' :: 's' :: 'e' :: rest => some (.bool false, rest)
  | _, '"' :: rest => (text ('"' :: rest)).map fun (content, rest) => (.string content, rest)
  | depth + 1, '[' :: rest =>
    (itemsUntil (value depth) ']' rest).map fun (items, rest) => (.array items, rest)
  | depth + 1, '\x7b' :: rest =>
    (itemsUntil (member (value depth)) '\x7d' rest).map fun (members, rest) =>
      (.object members, rest)
  | _, text => (number text).map fun (content, rest) => (.number content, rest)

end JsonText

namespace Json

/-- The data that a whole text stands for, nesting at most `depth` levels deep. -/
def readWithin (depth : Nat) (text : String) : Option Json := do
  let (json, rest) ← JsonText.value depth (JsonText.skipBlanks text.toList)
  if (JsonText.skipBlanks rest).isEmpty then some json else none

def read (text : String) : Option Json :=
  readWithin 127 text

end Json

end CallContracts
