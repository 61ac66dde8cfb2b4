import CallContracts.Text.CharReader

/-!
# Dates and times in TOML

A date, a time, or both with a `T` or a blank between them and an optional offset behind. Seconds
may be left out. Dates must exist in the calendar.
-/

namespace CallContracts.TomlText

/-- The number that `count` decimal digits stand for. -/
def fixedDigits (count : Nat) : CharReader Nat := fun text =>
  let digits := text.take count
  if digits.length = count && digits.all Char.isDigit then
    some (Digit.natural digits, text.drop count)
  else none

/-- The text behind the character `expected`. -/
def mark (expected : Char) : List Char → Option (List Char)
  | [] => none
  | character :: rest => if character = expected then some rest else none

def daysOfMonth (year month : Nat) : Nat :=
  if month = 2 then
    if year % 4 = 0 && (year % 100 ≠ 0 || year % 400 = 0) then 29 else 28
  else if month = 4 || month = 6 || month = 9 || month = 11 then 30
  else 31

def skipDate (text : List Char) : Option (List Char) := do
  let (year, text) ← fixedDigits 4 text
  let (month, text) ← fixedDigits 2 (← mark '-' text)
  let (day, text) ← fixedDigits 2 (← mark '-' text)
  if 1 ≤ month && month ≤ 12 && 1 ≤ day && day ≤ daysOfMonth year month then some text else none

/-- The text behind the fraction of a second, if one comes next. -/
def skipSecondFraction : List Char → Option (List Char)
  | '.' :: text =>
    if (text.takeWhile Char.isDigit).isEmpty then none else some (text.dropWhile Char.isDigit)
  | text => some text

def skipHoursMinutes (text : List Char) : Option (List Char) := do
  let (hour, text) ← fixedDigits 2 text
  let (minute, text) ← fixedDigits 2 (← mark ':' text)
  if hour ≤ 23 && minute ≤ 59 then some text else none

/-- The text behind a time. The last minute of a day may have a leap second. -/
def skipTime (text : List Char) : Option (List Char) := do
  match ← skipHoursMinutes text with
  | ':' :: text =>
    let (second, text) ← fixedDigits 2 text
    if second ≤ 60 then skipSecondFraction text else none
  | text => some text

/-- The text behind an offset from universal time, if one comes next. -/
def skipOffset : List Char → Option (List Char)
  | 'Z' :: text | 'z' :: text => some text
  | '+' :: text | '-' :: text => skipHoursMinutes text
  | text => some text

/-- The text behind a date, a time or both. -/
def skipMoment (text : List Char) : Option (List Char) :=
  match skipDate text with
  | none => skipTime text
  | some ('T' :: text) | some ('t' :: text) => skipTime text >>= skipOffset
  | some (' ' :: digit :: text) =>
    if digit.isDigit then skipTime (digit :: text) >>= skipOffset else some (' ' :: digit :: text)
  | some text => some text

/-- A date, a time or both, as they are written. -/
def moment : CharReader String := fun text => do
  let rest ← skipMoment text
  return (String.ofList (text.take (text.length - rest.length)), rest)

end CallContracts.TomlText
