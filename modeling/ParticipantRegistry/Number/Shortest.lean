import ParticipantRegistry.Number.Binary64
import ParticipantRegistry.Text.Basic

/-!
# Shortest decimal text

A finite value is written with the fewest decimal digits that read back to it, and among those of
the same length with the digits closest to it. Values from `1e-4` up to, but not including, `1e16`
are written positionally with at least one digit after the point; all others with an exponent of at
least two digits.
-/

namespace ParticipantRegistry.Binary64

def exactDecimal (m : Nat) (e : Int) : Decimal :=
  if 0 ≤ e then ⟨m <<< e.toNat, 0⟩ else ⟨m * Nat.pow 5 (-e).toNat, e⟩

/-- The number of digits of `num / den` before the decimal point; negative for leading zeros after
it. Four hundred places are enough for every value. -/
def pointPosition (num den : Nat) : Int :=
  ((Text.ofNat (num * Nat.pow 10 400 / den)).length : Int) - 400

/-- The digits `lower` or their successor on the grid `10 ^ exponent`, whichever reads back to the
value and is closer to `num / den`. -/
def nearestOnGrid? (x : Binary64) (num den : Nat) (exponent : Int) : Option Decimal :=
  let gridNum := num * Nat.pow 10 (-exponent).toNat
  let gridDen := den * Nat.pow 10 exponent.toNat
  let lower : Decimal := ⟨gridNum / gridDen, exponent⟩
  let upper : Decimal := ⟨gridNum / gridDen + 1, exponent⟩
  let twice := 2 * gridNum
  let middle := (2 * lower.digits + 1) * gridDen
  let lowerFirst := twice < middle || (twice == middle && lower.digits % 2 == 0)
  let order := if lowerFirst then [lower, upper] else [upper, lower]
  order.find? fun d => ofDecimal false d = x

def shortest (x : Binary64) (m : Nat) (e : Int) : Decimal :=
  let num := m <<< e.toNat
  let den : Nat := 1 <<< (-e).toNat
  let point := pointPosition num den
  ((List.range' 1 17).findSome? fun n : Nat => nearestOnGrid? x num den (point - n)).getD
    (exactDecimal m e)

def trimZeros (digits : Text) : Text :=
  (digits.reverse.dropWhile (· = ('0' : CodePoint))).reverse

def positional (digits : Text) (point : Int) : Text :=
  if point ≤ 0 then "0." ++ List.replicate (-point).toNat ('0' : CodePoint) ++ digits
  else if digits.length ≤ point.toNat then
    digits ++ List.replicate (point.toNat - digits.length) ('0' : CodePoint) ++ ".0"
  else digits.take point.toNat ++ "." ++ digits.drop point.toNat

def scientific (digits : Text) (exponent : Int) : Text :=
  let fraction : Text := if digits.length ≤ 1 then [] else "." ++ digits.drop 1
  let sign : Text := if exponent < 0 then "-" else "+"
  digits.take 1 ++ fraction ++ "e" ++ sign ++ Text.padDecimal 2 exponent.natAbs

def Decimal.toText (d : Decimal) : Text :=
  let all := Text.ofNat d.digits
  let digits := trimZeros all
  let point : Int := all.length + d.exponent
  if -4 < point ∧ point ≤ 16 then positional digits point else scientific digits (point - 1)

def magnitudeText (m : Nat) (e : Int) (x : Binary64) : Text :=
  if m = 0 then "0.0" else (shortest x m e).toText

/-- The text of a number; `nan`, `inf` and `-inf` stand for those that are not finite. -/
def toText : Binary64 → Text
  | .nan => "nan"
  | .infinite negative => if negative then "-inf" else "inf"
  | .finite negative m e canonical =>
    let sign : Text := if negative then "-" else ""
    sign ++ magnitudeText m e (.finite false m e canonical)

end ParticipantRegistry.Binary64
