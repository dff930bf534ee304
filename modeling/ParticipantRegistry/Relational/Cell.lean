import ParticipantRegistry.Json.Members
import ParticipantRegistry.Registry.Basic

/-!
# Cells

All columns of the database hold text. A statement carries a value as the text that its column makes
of it: numbers are written out, truth values count as 1 or 0, and `null` leaves the cell empty. Texts
need an encoded form, integers have sixty-four bits, and arrays and objects cannot be carried.

A record can also be looked up by an array of its key alone, or by an object with the key under its
name.
-/

namespace ParticipantRegistry

namespace Cell

def rounded (d : Binary64.Decimal) : Binary64.Decimal :=
  let surplus := (Text.ofNat d.digits).length - 15
  if surplus = 0 then d
  else
    let unit := Nat.pow 10 surplus
    ⟨(d.digits + unit / 2) / unit, d.exponent + surplus⟩

/-- A decimal with a point, and with an exponent unless it lies between `1e-4` and `1e15`. -/
def decimalText (d : Binary64.Decimal) : Text :=
  let d := rounded d
  let all := Text.ofNat d.digits
  let digits := Binary64.trimZeros all
  let exponent : Int := all.length + d.exponent - 1
  if -5 < exponent ∧ exponent < 15 then Binary64.positional digits (exponent + 1)
  else
    Binary64.scientific (if digits.length = 1 then digits ++ "0" else digits) exponent

/-- The text of a floating-point number; one that is no number leaves the cell empty. -/
def floatText? : Binary64 → Option Text
  | .nan => none
  | .infinite negative => some (if negative then "-Inf" else "Inf")
  | .finite negative m e _ =>
    if m = 0 then some "0.0"
    else
      let size := decimalText (Binary64.exactDecimal m e)
      some (if negative then "-" ++ size else size)

/-- One more than the greatest integer that a statement carries. -/
def integerBound : Int := 0x8000000000000000

def ofJson : Json → Except Fault (Option Text)
  | .string t => if t.isUnicode then .ok (some t) else .error .notUnicode
  | .null => .ok none
  | .bool b => .ok (some (if b then "1" else "0"))
  | .int i =>
    if -integerBound ≤ i ∧ i < integerBound then .ok (some (Text.ofInt i)) else .error .tooLarge
  | .float x => .ok (floatText? x)
  | .array _ | .object _ => .error (.database .unbindable)

def keyOf (name : Text) (value : Json) : Except Fault Json :=
  let single : Json → Except Fault Json
    | .array _ | .object _ => .error .unsuitable
    | value => .ok value
  match value with
  | .array [value] => single value
  | .object [(other, value)] => if other = name then single value else .error (.database .wrongKey)
  | .array _ | .object _ => .error (.database .wrongKey)
  | value => .ok value

theorem ofJson_string {t : Text} (h : t.isUnicode = true) : ofJson (.string t) = .ok (some t) := by
  simp [ofJson, h]

end Cell

end ParticipantRegistry
