/-!
# Binary floating point

A `Binary64` is a number of the 64-bit interchange format: a finite value `m * 2 ^ e` with a
significand below `2 ^ 53`, an infinity, or no number. Finite values are held in the one form in
which the exponent is least, so equality is equality of values (zero has a sign).

`Binary64.ofRatio` rounds a quotient to the nearest value, a tie to the even significand;
`Binary64.ofDecimal` reads a decimal that way.
-/

namespace ParticipantRegistry

inductive Binary64 where
  | nan
  | infinite (negative : Bool)
  | finite (negative : Bool) (significand : Nat) (exponent : Int)
    (canonical :
      (significand < 0x10000000000000 ∧ exponent = -1074) ∨
        (0x10000000000000 ≤ significand ∧ significand < 0x20000000000000 ∧
          -1074 ≤ exponent ∧ exponent ≤ 971))
  deriving DecidableEq

namespace Binary64

/-- The quotient rounded to the nearest natural number, a tie to the even one. -/
def roundQuotient (num den : Nat) : Nat :=
  let q := num / den
  let r := num % den
  if 2 * r < den then q
  else if den < 2 * r then q + 1
  else if q % 2 = 0 then q
  else q + 1

def zero (negative : Bool) : Binary64 := .finite negative 0 (-1074) (by omega)

/-- The exponent at which the integral part of `num / den` has 53 bits, but at least -1074. -/
def exponentOf (num den : Nat) : Int :=
  let e : Int := (num.log2 : Int) - (den.log2 : Int) - 52
  let low := num <<< (-e).toNat < den <<< (e.toNat + 52)
  max (if low then e - 1 else e) (-1074)

/-- The value `m * 2 ^ e` for a significand of at most 53 bits; too large a value is infinite. -/
def ofScaled (negative : Bool) (m : Nat) (e : Int) : Binary64 :=
  if h : m < 0x10000000000000 ∧ e = -1074 then .finite negative m e (Or.inl h)
  else if h : 0x10000000000000 ≤ m ∧ m < 0x20000000000000 ∧ -1074 ≤ e ∧ e ≤ 971 then
    .finite negative m e (Or.inr h)
  else if h : m = 0x20000000000000 ∧ -1074 ≤ e + 1 ∧ e + 1 ≤ 971 then
    .finite negative 0x10000000000000 (e + 1) (by omega)
  else .infinite negative

def ofRatio (negative : Bool) (num den : Nat) : Binary64 :=
  if num = 0 then zero negative
  else
    let e := exponentOf num den
    ofScaled negative (roundQuotient (num <<< (-e).toNat) (den <<< e.toNat)) e

structure Decimal where
  digits : Nat
  exponent : Int
  deriving DecidableEq

namespace Decimal

def magnitude (d : Decimal) : Int := (Nat.toDigits 10 d.digits).length + d.exponent

def numerator (d : Decimal) : Nat := d.digits * Nat.pow 10 d.exponent.toNat

def denominator (d : Decimal) : Nat := Nat.pow 10 (-d.exponent).toNat

end Decimal

/-- The nearest value to a decimal. Decimals far outside the range are settled by their magnitude. -/
def ofDecimal (negative : Bool) (d : Decimal) : Binary64 :=
  if d.digits = 0 then zero negative
  else if 400 < d.magnitude then .infinite negative
  else if d.magnitude < -400 then zero negative
  else ofRatio negative d.numerator d.denominator

def ofInt (i : Int) : Binary64 := ofRatio (decide (i < 0)) i.natAbs 1

def isZero : Binary64 → Bool
  | .finite _ m _ _ => m == 0
  | _ => false

end Binary64

end ParticipantRegistry
