import Mathlib.Data.List.Induction
import Mathlib.Tactic.Ring
import Mathlib.Tactic.SplitIfs
import ParticipantRegistry.Text.Basic

/-!
# Digits

The number that digits stand for, and the digits of a number: zeros in front change nothing, zeros at the
end multiply, and a number has as many digits as it needs.
-/

namespace ParticipantRegistry

namespace Text

theorem toNat_append (s t : Text) : toNat (s ++ t) = toNat s * 10 ^ t.length + toNat t := by
  induction t using List.reverseRecOn with
  | nil => simp [toNat]
  | append_singleton t c ih =>
    rw [← List.append_assoc, toNat_append_digit, toNat_append_digit, ih, List.length_append,
      List.length_singleton, Nat.pow_succ]
    ring

theorem toNat_zeros (k : Nat) : toNat (List.replicate k ('0' : CodePoint)) = 0 := by
  induction k with
  | zero => rfl
  | succ k ih =>
    rw [List.replicate_succ', toNat_append_digit, ih]
    rfl

theorem toNat_zeros_append (k : Nat) (s : Text) :
    toNat (List.replicate k ('0' : CodePoint) ++ s) = toNat s := by
  rw [toNat_append, toNat_zeros, Nat.zero_mul, Nat.zero_add]

theorem toNat_append_zeros (s : Text) (k : Nat) :
    toNat (s ++ List.replicate k ('0' : CodePoint)) = toNat s * 10 ^ k := by
  rw [toNat_append, toNat_zeros, List.length_replicate, Nat.add_zero]

theorem toNat_lt {digits : Text} (h : ∀ c ∈ digits, c.isDigit = true) :
    toNat digits < 10 ^ digits.length := by
  induction digits using List.reverseRecOn with
  | nil => exact Nat.one_pos
  | append_singleton digits c ih =>
    obtain ⟨hdigits, hc⟩ := List.forall_mem_append.mp h
    have hlt := ih hdigits
    have hdigit := hc c List.mem_cons_self
    rw [CodePoint.isDigit, Bool.and_eq_true, decide_eq_true_eq, decide_eq_true_eq] at hdigit
    rw [toNat_append_digit, CodePoint.digitValue, List.length_append, List.length_singleton,
      Nat.pow_succ]
    omega

theorem length_ofNat_le {k n : Nat} (h : n < 10 ^ (k + 1)) : (ofNat n).length ≤ k + 1 := by
  induction k generalizing n with
  | zero =>
    rw [ofNat, if_pos (by omega)]
    exact Nat.le_refl 1
  | succ k ih =>
    rw [ofNat]
    split_ifs with hn
    · simp
    · have hless := ih (n := n / 10) (by rw [Nat.pow_succ] at h; omega)
      rw [List.length_append, List.length_singleton]
      omega

theorem exists_ofNat_cons {n : Nat} (hn : n ≠ 0) :
    ∃ c digits, ofNat n = c :: digits ∧ c ≠ ('0' : CodePoint) := by
  fun_induction ofNat n with
  | case1 n hlt =>
    refine ⟨_, [], rfl, fun h => hn ?_⟩
    have hvalue := congrArg CodePoint.digitValue h
    rwa [CodePoint.digitValue_ofDigit hlt] at hvalue
  | case2 n hlt ih =>
    obtain ⟨c, digits, hdigits, hc⟩ := ih (by omega)
    exact ⟨c, digits ++ [CodePoint.ofDigit (n % 10)], by rw [hdigits]; rfl, hc⟩

end Text

end ParticipantRegistry
