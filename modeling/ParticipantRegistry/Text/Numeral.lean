import ParticipantRegistry.Text.Blank
import ParticipantRegistry.Text.LowerCase
import ParticipantRegistry.Text.Quoted
import ParticipantRegistry.Text.WordCharacter

/-!
# Written numbers and switches

Settings write numbers with the digits of any script, with blanks around them and single low lines
between digits, and switches by a few words.
-/

namespace ParticipantRegistry

inductive NumeralError where
  | integer (text : Text)
  | tooManyDigits (count : Nat)
  | decimal (text : Text)
  | switch (word : Text)
  deriving DecidableEq

def NumeralError.message : NumeralError → Text
  | .integer t => "invalid literal for int() with base 10: " ++ t.quoted.take 200
  | .tooManyDigits count =>
    "Exceeds the limit (4300 digits) for integer string conversion: value has " ++
      Text.ofNat count ++ " digits; use sys.set_int_max_str_digits() to increase the limit"
  | .decimal t => "could not convert string to float: " ++ t.quoted
  | .switch word => "String is not true/false: " ++ word.quoted

namespace Numeral

/-- Without blanks around it, and every decimal digit as one of ASCII. -/
def plain (t : Text) : Text :=
  t.strip.map fun c =>
    match c.decimalValue? with
    | some d => .ofDigit d
    | none => c

/-- The digits at the front of a text, where single low lines may stand between two, and the rest. -/
def digitsAfter (afterDigit : Bool) : Text → Text × Text
  | [] => ([], [])
  | c :: t =>
    if c.isDigit then
      let (digits, rest) := digitsAfter true t
      (c :: digits, rest)
    else if afterDigit && c = '_' && t.head?.any CodePoint.isDigit then digitsAfter false t
    else ([], c :: t)

def digitRun (t : Text) : Text × Text := digitsAfter false t

def dropSign : Text → Text
  | c :: t => if c = '+' ∨ c = '-' then t else c :: t
  | [] => []

def readInteger (t : Text) : Except NumeralError Int :=
  let number := plain t
  let (digits, rest) := digitRun (dropSign number)
  if digits = [] ∨ rest ≠ [] then .error (.integer t)
  else if 4300 < digits.length then .error (.tooManyDigits digits.length)
  else
    let size : Int := Text.toNat digits
    .ok (if number.head? = some ('-' : CodePoint) then -size else size)

def isExponent : Text → Bool
  | [] => true
  | c :: t =>
    let (digits, rest) := digitRun (dropSign t)
    (c = 'e' || c = 'E') && digits ≠ [] && rest == []

def isDecimal (t : Text) : Bool :=
  let t := dropSign (plain t)
  let (whole, rest) := digitRun t
  let (fraction, rest) :=
    match rest with
    | c :: rest => if c = '.' then digitRun rest else ([], c :: rest)
    | [] => ([], [])
  ([("inf" : Text), "infinity", "nan"].contains t.asciiLower) ||
    (whole ++ fraction ≠ [] && isExponent rest)

def checkDecimal (t : Text) : Except NumeralError Unit :=
  if isDecimal t then .ok () else .error (.decimal t)

def onWords : List Text := ["true", "yes", "on", "y", "t", "1"]

def offWords : List Text := ["false", "no", "off", "n", "f", "0"]

def readSwitch (t : Text) : Except NumeralError Bool :=
  let word := t.strip.lower
  if onWords.contains word then .ok true
  else if offWords.contains word then .ok false
  else .error (.switch word)

end Numeral

end ParticipantRegistry
