import ParticipantRegistry.Text.Basic

/-!
# Dates

A day of the Gregorian calendar between the years 1 and 9999, extended backwards. A day is also
numbered from 0001-01-01 (day 1), so moments counted in seconds and weeks counted from Mondays can
be turned into dates.
-/

namespace ParticipantRegistry

namespace Calendar

def isLeap (year : Nat) : Bool := year % 4 == 0 && (year % 100 != 0 || year % 400 == 0)

def daysInMonth (year month : Nat) : Nat :=
  match month with
  | 2 => if isLeap year then 29 else 28
  | 4 | 6 | 9 | 11 => 30
  | _ => 31

/-- The number of days before a year; negative for year 0. -/
def daysBeforeYear (year : Nat) : Int :=
  let y : Int := (year : Int) - 1
  365 * y + y.fdiv 4 - y.fdiv 100 + y.fdiv 400

def daysBeforeMonth (year month : Nat) : Nat :=
  (List.range' 1 (month - 1)).foldl (fun days earlier => days + daysInMonth year earlier) 0

/-- The number of a day, with 1 for 0001-01-01. -/
def dayNumber (year month day : Nat) : Int :=
  daysBeforeYear year + daysBeforeMonth year month + day

def yearOf (number : Int) : Nat :=
  let guess := ((number + 365) * 400 / 146097).toNat
  if number ≤ daysBeforeYear guess then guess - 1
  else if daysBeforeYear (guess + 1) < number then guess + 1
  else guess

/-- Month and day of the `n`-th day of a year, counted from 1, looking from `month` on. -/
def monthAndDay (year : Nat) : Nat → Nat → Nat → Nat × Nat
  | 0, month, n => (month, n)
  | left + 1, month, n =>
    if n ≤ daysInMonth year month then (month, n)
    else monthAndDay year left (month + 1) (n - daysInMonth year month)

def civil (number : Int) : Nat × Nat × Nat :=
  let year := yearOf number
  (year, monthAndDay year 11 1 (number - daysBeforeYear year).toNat)

end Calendar

open Calendar in
structure Date where
  year : Nat
  month : Nat
  day : Nat
  valid : 1 ≤ year ∧ year ≤ 9999 ∧ 1 ≤ month ∧ month ≤ 12 ∧ 1 ≤ day ∧ day ≤ daysInMonth year month
  deriving DecidableEq

namespace Date

open Calendar

def ofCivil? (year month day : Nat) : Option Date :=
  if h : 1 ≤ year ∧ year ≤ 9999 ∧ 1 ≤ month ∧ month ≤ 12 ∧ 1 ≤ day ∧ day ≤ daysInMonth year month then
    some ⟨year, month, day, h⟩
  else none

theorem ofCivil?_self (d : Date) : ofCivil? d.year d.month d.day = some d := by
  simp [ofCivil?, d.valid]

def toText (d : Date) : Text :=
  Text.padDecimal 4 d.year ++ "-" ++ Text.padDecimal 2 d.month ++ "-" ++ Text.padDecimal 2 d.day

end Date

namespace Calendar

def readDigits (width : Nat) (t : Text) : Option (Nat × Text) :=
  let digits : Text := t.take width
  if digits.length = width ∧ digits.isDigits then some (Text.toNat digits, t.drop width) else none

def skip? (c : CodePoint) : Text → Option Text
  | d :: t => if d = c then some t else none
  | [] => none

end Calendar

end ParticipantRegistry
