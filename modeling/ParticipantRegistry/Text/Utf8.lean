import ParticipantRegistry.Text.Basic

/-!
# UTF-8

`Utf8.decode` accepts exactly the shortest forms of code points that are no surrogates. It runs over
the octets once and remembers how many continuation octets are due, the number read so far and the
least number that the length of the form allows.
-/

namespace ParticipantRegistry

abbrev Octets := List UInt8

def Octets.ofHex : Text → Octets
  | high :: low :: rest =>
    (16 * high.hexValue?.getD 0 + low.hexValue?.getD 0).toUInt8 :: ofHex rest
  | _ => []

namespace Utf8

def isContinuation (b : UInt8) : Bool := 0x80 ≤ b.toNat && b.toNat ≤ 0xBF

/-- Decodes with `due` continuation octets to come for the number `value`. -/
def decodeFrom : Nat → Nat → Nat → Octets → Option Text
  | 0, _, _, [] => some []
  | _ + 1, _, _, [] => none
  | 0, _, _, b :: rest =>
    let n := b.toNat
    if n < 0x80 then (decodeFrom 0 0 0 rest).map (CodePoint.ofNat n :: ·)
    else if 0xC0 ≤ n ∧ n < 0xE0 then decodeFrom 1 (n - 0xC0) 0x80 rest
    else if 0xE0 ≤ n ∧ n < 0xF0 then decodeFrom 2 (n - 0xE0) 0x800 rest
    else if 0xF0 ≤ n ∧ n < 0xF8 then decodeFrom 3 (n - 0xF0) 0x10000 rest
    else none
  | due + 1, value, least, b :: rest =>
    if isContinuation b then
      let value := 64 * value + (b.toNat - 0x80)
      if due = 0 then
        if least ≤ value ∧ value < 0x110000 ∧ !(CodePoint.ofNat value).isSurrogate then
          (decodeFrom 0 0 0 rest).map (CodePoint.ofNat value :: ·)
        else none
      else decodeFrom due value least rest
    else none

def decode (octets : Octets) : Option Text := decodeFrom 0 0 0 octets

def encodePoint (c : CodePoint) : Octets :=
  let n := c.val
  if n < 0x80 then [n.toUInt8]
  else if n < 0x800 then [(0xC0 + n / 64).toUInt8, (0x80 + n % 64).toUInt8]
  else if n < 0x10000 then
    [(0xE0 + n / 4096).toUInt8, (0x80 + n / 64 % 64).toUInt8, (0x80 + n % 64).toUInt8]
  else
    [(0xF0 + n / 262144).toUInt8, (0x80 + n / 4096 % 64).toUInt8, (0x80 + n / 64 % 64).toUInt8,
      (0x80 + n % 64).toUInt8]

def encode (t : Text) : Octets := t.flatMap encodePoint

/-- The least and the greatest second octet of a form that begins with the given one, and the number of
octets that follow. -/
def leading? (n : Nat) : Option (Nat × Nat × Nat) :=
  if 0xC2 ≤ n ∧ n ≤ 0xDF then some (0x80, 0xBF, 1)
  else if n = 0xE0 then some (0xA0, 0xBF, 2)
  else if n = 0xED then some (0x80, 0x9F, 2)
  else if 0xE1 ≤ n ∧ n ≤ 0xEF then some (0x80, 0xBF, 2)
  else if n = 0xF0 then some (0x90, 0xBF, 3)
  else if 0xF1 ≤ n ∧ n ≤ 0xF3 then some (0x80, 0xBF, 3)
  else if n = 0xF4 then some (0x80, 0x8F, 3)
  else none

def replacement : CodePoint := .ofNat 0xFFFD

/-- Decodes within a form: `due` octets are to come, the next of them between `low` and `high`, for the
number `value`. A form that breaks off is replaced, and the octet that broke it is read afresh. -/
def decodeReplacing : Nat → Nat → Nat → Nat → Octets → Text
  | due, _, _, _, [] => if due = 0 then [] else [replacement]
  | due, low, high, value, b :: rest =>
    let n := b.toNat
    if due ≠ 0 ∧ low ≤ n ∧ n ≤ high then
      let value := 64 * value + (n - 0x80)
      if due = 1 then CodePoint.ofNat value :: decodeReplacing 0 0 0 0 rest
      else decodeReplacing (due - 1) 0x80 0xBF value rest
    else
      let afresh :=
        if n < 0x80 then CodePoint.ofNat n :: decodeReplacing 0 0 0 0 rest
        else
          match leading? n with
          | some (low, high, due) =>
            let bits := if due = 1 then n - 0xC0 else if due = 2 then n - 0xE0 else n - 0xF0
            decodeReplacing due low high bits rest
          | none => replacement :: decodeReplacing 0 0 0 0 rest
      if due = 0 then afresh else replacement :: afresh

end Utf8

end ParticipantRegistry
