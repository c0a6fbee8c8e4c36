import FileRoutes.Toml.Value

namespace FileRoutes.Toml

/-!
# TOML — dates and times

* `Date`, `Time`, `Offset` — the parts of a date-time, each read from exactly its text;
* `dateTime?` — a date, a time, or a date with a time and perhaps an offset, in its usual form:
  a `T` before the time, no zeros at the end of a fraction, and `Z` for no offset.
-/

/-- The number that a text of exactly `count` digits writes. -/
def fixedDigits? (count : Nat) (text : List Char) : Option Nat :=
  if text.length = count ∧ text.all Char.isDigit then
    some (text.foldl (fun n c => 10 * n + (c.toNat - 0x30)) 0)
  else none

/-- A number with zeros in front, in at least `width` digits. -/
def padded (width n : Nat) : String :=
  let digits := Nat.toDigits 10 n
  String.ofList (List.replicate (width - digits.length) '0' ++ digits)

/-- The days of a month. -/
def daysInMonth (year month : Nat) : Nat :=
  if month = 2 then
    if year % 4 = 0 ∧ (year % 100 ≠ 0 ∨ year % 400 = 0) then 29 else 28
  else if month = 4 ∨ month = 6 ∨ month = 9 ∨ month = 11 then 30
  else 31

/-- The date that a text writes, in its usual form. -/
def date? (text : List Char) : Option String := do
  let [year, month, day] := text.splitOn '-' | none
  let year ← fixedDigits? 4 year
  let month ← fixedDigits? 2 month
  let day ← fixedDigits? 2 day
  guard (1 ≤ month ∧ month ≤ 12 ∧ 1 ≤ day ∧ day ≤ daysInMonth year month)
  return padded 4 year ++ "-" ++ padded 2 month ++ "-" ++ padded 2 day

/-- The fraction of a second in its usual form: nine places at most, and no zeros at the
    end. -/
def fraction? (text : List Char) : Option String := do
  guard (!text.isEmpty && text.all Char.isDigit)
  let places := ((text.take 9).reverse.dropWhile (· == '0')).reverse
  return if places.isEmpty then "" else "." ++ String.ofList places

/-- The hours and minutes that a text writes, in their usual form. -/
def hourMinute? (hour minute : List Char) : Option String := do
  let hour ← fixedDigits? 2 hour
  let minute ← fixedDigits? 2 minute
  guard (hour ≤ 23 ∧ minute ≤ 59)
  return padded 2 hour ++ ":" ++ padded 2 minute

/-- The time that a text writes, in its usual form. A minute may have a leap second. -/
def time? (text : List Char) : Option String := do
  let [hour, minute, second] := text.splitOn ':' | none
  let start ← hourMinute? hour minute
  let whole ← fixedDigits? 2 (second.take 2)
  guard (whole ≤ 60)
  let fraction ←
    match second.drop 2 with
    | [] => some ""
    | '.' :: places => fraction? places
    | _ => none
  return start ++ ":" ++ padded 2 whole ++ fraction

/-- The offset that a text writes, in its usual form; no offset is never negative. -/
def offset? (text : List Char) : Option String :=
  match text with
  | ['Z'] | ['z'] => some "Z"
  | sign :: rest =>
    match rest.splitOn ':' with
    | [hour, minute] => do
      guard (sign = '+' ∨ sign = '-')
      let offset ← hourMinute? hour minute
      return (if sign = '-' ∧ offset ≠ "00:00" then "-" else "+") ++ offset
    | _ => none
  | [] => none

/-- The time with an offset, if there is one, that a text writes, in its usual form. -/
def offsetTime? (text : List Char) : Option String := do
  let isOffsetSign (c : Char) : Bool := c == 'Z' || c == 'z' || c == '+' || c == '-'
  let time ← time? (text.takeWhile (!isOffsetSign ·))
  match text.dropWhile (!isOffsetSign ·) with
  | [] => return time
  | offset => return time ++ (← offset? offset)

/-- The date, the time, or the date with a time that a text writes, in its usual form. -/
def dateTime? (text : List Char) : Option String :=
  -- A date takes ten characters, and a shorter text can be a time.
  match text.drop 10 with
  | [] => (date? text).or (time? text)
  | separator :: rest =>
    if separator = 'T' ∨ separator = 't' ∨ separator = ' ' then do
      return (← date? (text.take 10)) ++ "T" ++ (← offsetTime? rest)
    else time? text

end FileRoutes.Toml
