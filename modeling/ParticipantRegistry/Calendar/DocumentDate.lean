import ParticipantRegistry.Calendar.Date
import ParticipantRegistry.Json.Basic
import ParticipantRegistry.Text.Utf8

/-!
# Dates in documents

A document gives a date as `YYYY-MM-DD`, as a date-time text or as a number of seconds since
1970-01-01. Anything but a plain date has to name a midnight; an offset from universal time is read
and ignored. A number above `2 * 10 ^ 10` in absolute value counts milliseconds.
-/

namespace ParticipantRegistry

namespace DocumentDate

open Calendar

inductive Problem where
  | notADate
  | unreadable
  | notMidnight
  | outOfRange
  | notUnicode
  deriving DecidableEq

structure Moment where
  day : Int
  second : Nat
  microsecond : Nat

def epoch : Int := 719163

/-- The largest absolute value that counts seconds. -/
def millisecondsAbove : Nat := 20000000000

/-- Whole seconds and microseconds of a count that may be in milliseconds. -/
def secondsOf (count : Int) : Int × Nat :=
  if count.natAbs ≤ millisecondsAbove then (count, 0)
  else (count.fdiv 1000, (count.fmod 1000).toNat * 1000)

/-- The moment of a number of seconds, between the years 0 and 9999. -/
def Moment.ofSeconds? (seconds : Int) (microseconds : Nat) : Option Moment :=
  let seconds := seconds + microseconds / 1000000
  if -62167219200 ≤ seconds ∧ seconds ≤ 253402300799 then
    some ⟨epoch + seconds.fdiv 86400, (seconds.fmod 86400).toNat, microseconds % 1000000⟩
  else none

def Moment.ofCount? (count : Int) (microseconds : Nat) : Option Moment :=
  Moment.ofSeconds? (secondsOf count).1 (microseconds + (secondsOf count).2)

def ofDay (number : Int) : Except Problem Date :=
  let (year, month, day) := civil number
  match Date.ofCivil? year month day with
  | some date => .ok date
  | none => .error .outOfRange

def Moment.toDate (m : Moment) : Except Problem Date :=
  if m.second = 0 ∧ m.microsecond = 0 then ofDay m.day else .error .notMidnight

def readDay? (t : Text) : Option (Int × Text) := do
  let (year, t) ← readDigits 4 t
  let (month, t) ← readDigits 2 (← skip? '-' t)
  let (day, t) ← readDigits 2 (← skip? '-' t)
  if 1 ≤ month ∧ month ≤ 12 ∧ 1 ≤ day ∧ day ≤ daysInMonth year month then
    some (dayNumber year month day, t)
  else none

def readFraction? (t : Text) : Option (Nat × Text) :=
  let digits : Text := t.takeWhile CodePoint.isDigit
  if digits = [] then none
  else
    let kept := (digits ++ List.replicate 6 ('0' : CodePoint)).take 6
    some (Text.toNat kept, t.dropWhile CodePoint.isDigit)

def readTime? (t : Text) : Option ((Nat × Nat) × Text) := do
  let (hour, t) ← readDigits 2 t
  let (minute, t) ← readDigits 2 (← skip? ':' t)
  if 24 ≤ hour ∨ 60 ≤ minute then none
  else
    let start := 3600 * hour + 60 * minute
    match skip? ':' t with
    | none => some ((start, 0), t)
    | some t =>
      let (second, t) ← readDigits 2 t
      if 60 ≤ second then none
      else
        match t with
        | c :: rest =>
          if c = '.' ∨ c = ',' then
            let (micros, rest) ← readFraction? rest
            some ((start + second, micros), rest)
          else some ((start + second, 0), t)
        | [] => some ((start + second, 0), [])

/-- Whether the rest of a date-time text is an offset from universal time, or nothing. -/
def isOffset (t : Text) : Bool :=
  match t with
  | [] => true
  | c :: rest =>
    if c = 'Z' ∨ c = 'z' then rest == []
    else if c = '+' ∨ c = '-' ∨ c.val = 0x2212 then
      match readDigits 2 rest with
      | none => false
      | some (hour, rest) =>
        match readDigits 2 ((skip? ':' rest).getD rest) with
        | none => false
        | some (minute, rest) => hour < 24 && minute < 60 && rest == []
    else false

def readMoment? (t : Text) : Option Moment := do
  let (day, t) ← readDay? t
  match t with
  | c :: t =>
    if c = 'T' ∨ c = 't' ∨ c = ' ' ∨ c = '_' then
      let ((second, micros), t) ← readTime? t
      if isOffset t then some ⟨day, second, micros⟩ else none
    else none
  | [] => none

def readSigned? (t : Text) : Option (Bool × Text) :=
  match t with
  | c :: rest =>
    if c = '-' then some (true, rest) else if c = '+' then some (false, rest) else some (false, t)
  | [] => none

def inWord (i : Int) : Bool := -9223372036854775808 ≤ i && i ≤ 9223372036854775807

def readInteger? (t : Text) : Option Int := do
  let (negative, digits) ← readSigned? t
  if digits = [] ∨ !digits.isDigits then none
  else
    let n : Int := Text.toNat digits
    let i := if negative then -n else n
    if inWord i then some i else none

/-- Numerator and denominator of the finite value `m * 2 ^ e`. -/
def ratioOf (negative : Bool) (m : Nat) (e : Int) : Int × Nat :=
  let num : Int := (m <<< e.toNat : Nat)
  (if negative then -num else num, 1 <<< (-e).toNat)

/-- The natural number nearest to a value, a half going up. -/
def nearest : Binary64 → Nat
  | .finite _ m e _ =>
    let den : Nat := 1 <<< (-e).toNat
    (2 * (m <<< e.toNat) + den) / (2 * den)
  | _ => 0

def timesMillion : Binary64 → Binary64
  | .finite negative m e _ => .ofRatio negative ((m <<< e.toNat) * 1000000) (1 <<< (-e).toNat)
  | x => x

/-- The whole seconds below `num / den`, and the microseconds that its distance from them has as a
value; a distance that rounds to a whole second gives a million. -/
def splitSeconds (num : Int) (den : Nat) : Int × Nat :=
  (num.fdiv den, nearest (timesMillion (.ofRatio false (num.fmod den).toNat den)))

def clampToWord (i : Int) : Int :=
  if i < -9223372036854775808 then -9223372036854775808
  else if 9223372036854775807 < i then 9223372036854775807
  else i

def ofMoment : Option Moment → Except Problem Date
  | none => .error .unreadable
  | some moment => moment.toDate

def ofFloat : Binary64 → Except Problem Date
  | .finite negative m e _ =>
    let (seconds, microseconds) := (splitSeconds (ratioOf negative m e).1 (ratioOf negative m e).2)
    ofMoment (Moment.ofCount? (clampToWord seconds) microseconds)
  | _ => .error .unreadable

/-- A value in seconds, where a large one is in milliseconds: those are divided before they are
split, so their microseconds are of the rounded quotient. -/
def inSeconds : Binary64 → Binary64
  | .finite negative m e h =>
    let (num, den) := ratioOf negative m e
    if millisecondsAbove * den < num.natAbs then .ofRatio negative num.natAbs (1000 * den)
    else .finite negative m e h
  | x => x

def ofWritten (x : Binary64) : Except Problem Date :=
  match inSeconds x with
  | .finite negative m e _ =>
    let (seconds, microseconds) := (splitSeconds (ratioOf negative m e).1 (ratioOf negative m e).2)
    ofMoment (Moment.ofSeconds? (clampToWord seconds) microseconds)
  | _ => .error .unreadable

def ofInteger (i : Int) : Except Problem Date :=
  if inWord i then ofMoment (Moment.ofCount? i 0)
  else
    match Binary64.ofInt i with
    | .infinite _ => .error .notADate
    | x => ofFloat x

def readDecimal? (t : Text) : Option Binary64 := do
  let (negative, rest) ← readSigned? t
  let whole : Text := rest.takeWhile CodePoint.isDigit
  let fraction ← skip? '.' (rest.dropWhile CodePoint.isDigit)
  if whole ++ fraction = [] ∨ !fraction.isDigits then none
  else some (.ofDecimal negative ⟨Text.toNat (whole ++ fraction), -fraction.length⟩)

def ofPlainDay? (t : Text) : Option Int :=
  match readDay? t with
  | some (day, []) => some day
  | _ => none

def ofText (t : Text) : Except Problem Date :=
  if !t.isUnicode then .error .notUnicode
  else
    match ofPlainDay? t with
    | some day => ofDay day
    | none =>
      match readInteger? t with
      | some count => ofMoment (Moment.ofCount? count 0)
      | none =>
        match readMoment? t with
        | some moment => moment.toDate
        | none =>
          match readDecimal? t with
          | some x => ofWritten x
          | none => .error .unreadable

end DocumentDate

def DocumentDate.read : Json → Except DocumentDate.Problem Date
  | .string t => ofText t
  | .int i => ofInteger i
  | .float x => ofFloat x
  | _ => .error .notADate

end ParticipantRegistry
