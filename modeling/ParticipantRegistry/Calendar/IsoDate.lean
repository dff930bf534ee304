import ParticipantRegistry.Calendar.Date
import ParticipantRegistry.Text.Quoted
import ParticipantRegistry.Text.Utf8

/-!
# Dates in stored records

A stored date is a calendar date `YYYY-MM-DD` or `YYYYMMDD`, or a week date `YYYY-Www`,
`YYYY-Www-D`, `YYYYWww` or `YYYYWwwD` whose day is Monday where it is left out. The text has a form
of seven, eight or ten octets; what follows a complete date within it is not looked at.
-/

namespace ParticipantRegistry

inductive IsoDateError where
  | format (text : Text)
  | year (year : Nat)
  | month
  | day
  deriving DecidableEq

def IsoDateError.message : IsoDateError → Text
  | .format t => "Invalid isoformat string: " ++ t.quoted
  | .year n => "year " ++ Text.ofNat n ++ " is out of range"
  | .month => "month must be in 1..12"
  | .day => "day is out of range for month"

namespace IsoDate

open Calendar

inductive Written where
  | calendar (year month day : Nat)
  | week (year week day : Nat)

def separator? (separated : Bool) (t : Text) : Option Text :=
  if separated then skip? '-' t else some t

def read? (t : Text) : Option Written := do
  if !t.isUnicode || !([7, 8, 10].contains (Utf8.encode t).length) then none
  else
    let (year, rest) ← readDigits 4 t
    let separated := rest.head? = some ('-' : CodePoint)
    let rest := if separated then rest.drop 1 else rest
    if rest.head? = some ('W' : CodePoint) then
      let (week, rest) ← readDigits 2 (rest.drop 1)
      if rest = [] then some (.week year week 1)
      else
        let (day, _) ← readDigits 1 (← separator? separated rest)
        some (.week year week day)
    else
      let (month, rest) ← readDigits 2 rest
      let (day, _) ← readDigits 2 (← separator? separated rest)
      some (.calendar year month day)

def weekday (number : Int) : Nat := ((number + 6) % 7).toNat

/-- Whether a year has 53 weeks: it begins on a Thursday, or on a Wednesday and is a leap year. -/
def isLong (year : Nat) : Bool :=
  let first := weekday (dayNumber year 1 1)
  first == 3 || (first == 2 && isLeap year)

/-- The Monday that the first week of a year begins with. -/
def firstMonday (year : Nat) : Int :=
  let first := dayNumber year 1 1
  let offset := weekday first
  if 3 < offset then first - offset + 7 else first - offset

def ofCalendar (year month day : Nat) : Except IsoDateError Date :=
  match Date.ofCivil? year month day with
  | some date => .ok date
  | none =>
    .error
      (if year < 1 ∨ 9999 < year then .year year
      else if month < 1 ∨ 12 < month then .month
      else .day)

def ofWeek (text : Text) (year week day : Nat) : Except IsoDateError Date :=
  if week = 0 ∨ 53 < week ∨ (week = 53 ∧ !isLong year) ∨ day = 0 ∨ 7 < day then .error (.format text)
  else
    let number := firstMonday year + 7 * ((week : Int) - 1) + (day - 1)
    if number < 1 then .error .month
    else
      let (year, month, day) := civil number
      ofCalendar year month day

def read (t : Text) : Except IsoDateError Date :=
  match read? t with
  | none => .error (.format t)
  | some (.calendar year month day) => ofCalendar year month day
  | some (.week year week day) => ofWeek t year week day

end IsoDate

end ParticipantRegistry
