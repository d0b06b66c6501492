import ShaderLowering.Toml.Digits

/-!
# Dates and times

A date, a time of day, or both, and then perhaps how far the clock is from
universal time.  A fraction of a second counts nine digits; further ones are cut
off.

## Main definitions

* `Datetime`, `Datetime.text` — a point in time and its one spelling.
* `datetime` — reading it in any of its spellings.
-/

namespace ShaderLowering.Toml

/-- A day of the calendar. -/
structure Date where
  year : Nat
  month : Nat
  day : Nat
deriving DecidableEq

/-- A time of day.  The fraction of the second has at most nine digits and does
not end in a zero. -/
structure Time where
  hour : Nat
  minute : Nat
  second : Nat
  fraction : List Char
deriving DecidableEq

/-- How far a clock is from universal time. -/
inductive Offset where
  /-- Universal time itself. -/
  | zulu
  /-- Ahead of universal time by some minutes, behind it if negative. -/
  | ahead (minutes : Int)
deriving DecidableEq

/-- A point in time, as far as it is given. -/
inductive Datetime where
  | date (d : Date)
  | time (t : Time)
  | dateTime (d : Date) (t : Time) (offset : Option Offset)
deriving DecidableEq

/-! ## Spelling -/

/-- A day as year, month and day. -/
def Date.text (d : Date) : String :=
  zeroPadded 4 d.year ++ "-" ++ zeroPadded 2 d.month ++ "-" ++ zeroPadded 2 d.day

/-- A time of day, with the fraction of the second unless it is zero. -/
def Time.text (t : Time) : String :=
  zeroPadded 2 t.hour ++ ":" ++ zeroPadded 2 t.minute ++ ":" ++ zeroPadded 2 t.second
    ++ String.ofList (if t.fraction.isEmpty then [] else '.' :: t.fraction)

/-- An offset in hours and minutes with its sign, or `Z`. -/
def Offset.text : Offset → String
  | zulu => "Z"
  | ahead minutes =>
    (if minutes < 0 then "-" else "+") ++ zeroPadded 2 (minutes.natAbs / 60) ++ ":"
      ++ zeroPadded 2 (minutes.natAbs % 60)

/-- A point in time in its one spelling. -/
def Datetime.text : Datetime → String
  | date d => d.text
  | time t => t.text
  | dateTime d t offset => d.text ++ "T" ++ t.text ++ (offset.map Offset.text).getD ""

/-! ## Reading -/

/-- The number of days of a month. -/
def daysIn (year month : Nat) : Nat :=
  if month = 2 then
    if year % 4 = 0 ∧ (year % 100 ≠ 0 ∨ year % 400 = 0) then 29 else 28
  else if month = 4 ∨ month = 6 ∨ month = 9 ∨ month = 11 then 30
  else 31

/-- A day that the calendar has. -/
def date : Reader Date := do
  let year ← fixed 4 0 9999
  char '-'
  let month ← fixed 2 1 12
  char '-'
  let day ← fixed 2 1 (daysIn year month)
  return ⟨year, month, day⟩

/-- A fraction of a second without what cannot be kept. -/
def fraction : Reader (List Char) := do
  char '.'
  let digits ← span₁ Char.isDigit
  return ((digits.take 9).reverse.dropWhile (· == '0')).reverse

/-- A time of day.  A minute may have a leap second. -/
def time : Reader Time := do
  let hour ← fixed 2 0 23
  char ':'
  let minute ← fixed 2 0 59
  char ':'
  let second ← fixed 2 0 60
  return ⟨hour, minute, second, (← optional fraction).getD []⟩

/-- An offset. -/
def offset : Reader Offset := do
  match ← oneOf fun _ => true with
  | 'Z' | 'z' => return .zulu
  | '+' => return .ahead (← minutes)
  | '-' => return .ahead (-(← minutes))
  | _ => failure
where
  /-- Hours and minutes, in minutes. -/
  minutes : Reader Int := do
    let hour ← fixed 2 0 23
    char ':'
    let minute ← fixed 2 0 59
    return hour * 60 + minute

/-- The time and the offset that may follow a date. -/
def timeOfDate : Reader (Time × Option Offset) := do
  discard (oneOf fun c => c == 'T' || c == 't' || c == ' ')
  let t ← time
  return (t, ← optional offset)

/-- A point in time. -/
def datetime : Reader Datetime :=
  (do
    let d ← date
    match ← optional timeOfDate with
    | some (t, offset) => return .dateTime d t offset
    | none => return .date d)
  <|> return .time (← time)

end ShaderLowering.Toml
