import Mathlib.Algebra.Order.Field.Power
import Mathlib.Data.Int.Log
import Mathlib.Data.Rat.Floor
import Mathlib.Tactic.Positivity
import ParticipantRegistry.Number.Shortest

/-!
# Rounding decimals

The nearest value to a decimal only depends on the number that the decimal stands for: zeros at its end
make no difference. A value is the nearest one to itself, so the decimal that is chosen for a finite
value reads back to it.
-/

namespace ParticipantRegistry.Binary64

theorem roundQuotient_mul_left {k : Nat} (hk : 0 < k) (num den : Nat) :
    roundQuotient (k * num) (k * den) = roundQuotient num den := by
  have hdouble : 2 * (k * (num % den)) = k * (2 * (num % den)) := Nat.mul_left_comm 2 k _
  simp only [roundQuotient, Nat.mul_div_mul_left num den hk, Nat.mul_mod_mul_left, hdouble,
    Nat.mul_lt_mul_left hk]

theorem roundQuotient_congr {num den num' den' : Nat} (hd : 0 < den) (hd' : 0 < den')
    (h : num * den' = num' * den) : roundQuotient num den = roundQuotient num' den' := by
  rw [← roundQuotient_mul_left hd' num den, ← roundQuotient_mul_left hd num' den', Nat.mul_comm den' num,
    h, Nat.mul_comm num' den, Nat.mul_comm den' den]

theorem roundQuotient_mul_self {den : Nat} (hd : 0 < den) (m : Nat) :
    roundQuotient (m * den) den = m := by
  have hrest : 2 * (m * den % den) < den := by
    rw [Nat.mul_mod_left]
    exact hd
  rw [roundQuotient, if_pos hrest, Nat.mul_div_cancel m hd]

theorem two_zpow (e : Int) : (2 : ℚ) ^ e = 2 ^ e.toNat / 2 ^ (-e).toNat := by
  rw [eq_div_iff (by positivity), ← zpow_natCast, ← zpow_natCast, ← zpow_add₀ two_ne_zero]
  congr 1
  omega

theorem scaled_lt_iff {num den : Nat} (hd : 0 < den) (e : Int) (k : Nat) :
    num <<< (-e).toNat < den <<< (e.toNat + k) ↔ (num : ℚ) / den < 2 ^ (e + k) := by
  have hden : (0 : ℚ) < den := Nat.cast_pos.mpr hd
  rw [zpow_add₀ two_ne_zero, two_zpow, zpow_natCast, div_lt_iff₀ hden, div_mul_eq_mul_div,
    div_mul_eq_mul_div, lt_div_iff₀ (by positivity), Nat.shiftLeft_eq, Nat.shiftLeft_eq,
    Nat.pow_add, ← Nat.cast_lt (α := ℚ), mul_comm (2 ^ e.toNat * 2 ^ k : ℚ) den]
  push_cast
  rfl

theorem log_eq {q : ℚ} (hq : 0 < q) {z : Int} (hle : 2 ^ z ≤ q) (hlt : q < 2 ^ (z + 1)) :
    Int.log 2 q = z := by
  have hlow := (Int.zpow_le_iff_le_log one_lt_two hq).mp hle
  have hhigh := (Int.lt_zpow_iff_log_lt one_lt_two hq).mp hlt
  omega

/-- The exponent is that of the greatest power of two up to the quotient, less the 52 bits below it. -/
theorem exponentOf_eq {num den : Nat} (hn : num ≠ 0) (hd : den ≠ 0) :
    exponentOf num den = max (Int.log 2 ((num : ℚ) / den) - 52) (-1074) := by
  have hnum : (0 : ℚ) < num := Nat.cast_pos.mpr (Nat.pos_of_ne_zero hn)
  have hden : (0 : ℚ) < den := Nat.cast_pos.mpr (Nat.pos_of_ne_zero hd)
  have hq : (0 : ℚ) < num / den := div_pos hnum hden
  have hlow (n : Nat) (h : n ≠ 0) : (2 : ℚ) ^ (n.log2 : Int) ≤ n := by
    exact_mod_cast (Nat.le_log2 h).mp le_rfl
  have hhigh (n : Nat) (h : n ≠ 0) : (n : ℚ) < 2 ^ ((n.log2 : Int) + 1) := by
    exact_mod_cast (Nat.log2_lt h).mp (Nat.lt_succ_self n.log2)
  let e : Int := (num.log2 : Int) - (den.log2 : Int) - 52
  -- the quotient lies between the powers below and above the difference of the logarithms
  have hmore : (2 : ℚ) ^ (e + 51) ≤ num / den := by
    rw [le_div_iff₀ hden]
    calc (2 : ℚ) ^ (e + 51) * den ≤ 2 ^ (e + 51) * 2 ^ ((den.log2 : Int) + 1) := by
          exact mul_le_mul_of_nonneg_left (hhigh den hd).le (by positivity)
      _ = 2 ^ (num.log2 : Int) := by
          rw [← zpow_add₀ two_ne_zero]
          congr 1
          omega
      _ ≤ num := hlow num hn
  have hless : (num : ℚ) / den < 2 ^ (e + 53) := by
    rw [div_lt_iff₀ hden]
    calc (num : ℚ) < 2 ^ ((num.log2 : Int) + 1) := hhigh num hn
      _ = 2 ^ (e + 53) * 2 ^ (den.log2 : Int) := by
          rw [← zpow_add₀ two_ne_zero]
          congr 1
          omega
      _ ≤ 2 ^ (e + 53) * den := mul_le_mul_of_nonneg_left (hlow den hd) (by positivity)
  have hscaled : num <<< (-e).toNat < den <<< (e.toNat + 52) ↔ (num : ℚ) / den < 2 ^ (e + 52) :=
    scaled_lt_iff (Nat.pos_of_ne_zero hd) e 52
  change max (if num <<< (-e).toNat < den <<< (e.toNat + 52) then e - 1 else e) (-1074) = _
  by_cases hsmall : num <<< (-e).toNat < den <<< (e.toNat + 52)
  · have hlog : Int.log 2 ((num : ℚ) / den) = e + 51 :=
      log_eq hq hmore (by simpa [add_assoc] using hscaled.mp hsmall)
    rw [if_pos hsmall, hlog]
    omega
  · have hlog : Int.log 2 ((num : ℚ) / den) = e + 52 := by
      refine log_eq hq ?_ (by simpa [add_assoc] using hless)
      simpa using (not_congr hscaled).mp hsmall
    rw [if_neg hsmall, hlog]
    omega

theorem ofRatio_congr (negative : Bool) {num den num' den' : Nat} (hd : 0 < den) (hd' : 0 < den')
    (h : num * den' = num' * den) : ofRatio negative num den = ofRatio negative num' den' := by
  by_cases hn : num = 0
  · have hn' : num' = 0 := by
      rw [hn, Nat.zero_mul] at h
      exact (Nat.mul_eq_zero.mp h.symm).resolve_right (Nat.ne_of_gt hd)
    rw [ofRatio, ofRatio, if_pos hn, if_pos hn']
  · have hn' : num' ≠ 0 := by
      rintro rfl
      rw [Nat.zero_mul] at h
      exact hn ((Nat.mul_eq_zero.mp h).resolve_right (Nat.ne_of_gt hd'))
    have hquotient : (num : ℚ) / den = num' / den' := by
      rw [div_eq_div_iff (Nat.cast_ne_zero.mpr (Nat.ne_of_gt hd))
        (Nat.cast_ne_zero.mpr (Nat.ne_of_gt hd'))]
      exact_mod_cast h
    have hexponent : exponentOf num den = exponentOf num' den' := by
      rw [exponentOf_eq hn (Nat.ne_of_gt hd), exponentOf_eq hn' (Nat.ne_of_gt hd'), hquotient]
    rw [ofRatio, ofRatio, if_neg hn, if_neg hn', hexponent]
    simp only
    congr 1
    simp only [Nat.shiftLeft_eq]
    refine roundQuotient_congr (by positivity) (by positivity) ?_
    rw [Nat.mul_mul_mul_comm, h, Nat.mul_mul_mul_comm]

theorem ofRatio_self {m : Nat} {e : Int} (hm : m ≠ 0)
    (canonical : (m < 0x10000000000000 ∧ e = -1074) ∨
      (0x10000000000000 ≤ m ∧ m < 0x20000000000000 ∧ -1074 ≤ e ∧ e ≤ 971)) :
    ofRatio false (m <<< e.toNat) (1 <<< (-e).toNat) = .finite false m e canonical := by
  have hnum : m <<< e.toNat ≠ 0 := by
    rw [Nat.shiftLeft_eq]
    exact Nat.mul_ne_zero hm (by positivity)
  have hden : 1 <<< (-e).toNat ≠ 0 := by
    rw [Nat.shiftLeft_eq]
    exact Nat.mul_ne_zero one_ne_zero (by positivity)
  have hquotient : ((m <<< e.toNat : Nat) : ℚ) / (1 <<< (-e).toNat : Nat) = m * 2 ^ e := by
    rw [Nat.shiftLeft_eq, Nat.shiftLeft_eq, two_zpow]
    push_cast
    rw [one_mul, mul_div_assoc]
  have hlog : Int.log 2 ((m : ℚ) * 2 ^ e) = m.log2 + e := by
    refine log_eq (mul_pos (Nat.cast_pos.mpr (Nat.pos_of_ne_zero hm)) (by positivity)) ?_ ?_
    · rw [zpow_add₀ two_ne_zero]
      refine mul_le_mul_of_nonneg_right ?_ (by positivity)
      exact_mod_cast (Nat.le_log2 hm).mp le_rfl
    · rw [add_right_comm, zpow_add₀ two_ne_zero]
      refine mul_lt_mul_of_pos_right ?_ (by positivity)
      exact_mod_cast (Nat.log2_lt hm).mp (Nat.lt_succ_self m.log2)
  have hexponent : exponentOf (m <<< e.toNat) (1 <<< (-e).toNat) = e := by
    rw [exponentOf_eq hnum hden, hquotient, hlog]
    rcases canonical with ⟨hsmall, rfl⟩ | ⟨hlow, hhigh, he, -⟩
    · have : m.log2 < 52 := (Nat.log2_lt hm).mpr hsmall
      omega
    · have : 52 ≤ m.log2 := (Nat.le_log2 hm).mpr hlow
      have : m.log2 < 53 := (Nat.log2_lt hm).mpr hhigh
      omega
  have hround : roundQuotient (m <<< e.toNat <<< (-e).toNat) (1 <<< (-e).toNat <<< e.toNat) = m := by
    simp only [Nat.shiftLeft_eq, Nat.one_mul]
    rw [Nat.mul_assoc, Nat.mul_comm (2 ^ e.toNat)]
    exact roundQuotient_mul_self (by positivity) m
  rw [ofRatio, if_neg hnum]
  simp only [hexponent, hround]
  rcases canonical with hsmall | hlarge
  · rw [ofScaled, dif_pos hsmall]
  · have hnot : ¬(m < 0x10000000000000 ∧ e = -1074) := by omega
    rw [ofScaled, dif_neg hnot, dif_pos hlarge]

def withSign (negative : Bool) : Binary64 → Binary64
  | .nan => .nan
  | .infinite _ => .infinite negative
  | .finite _ m e canonical => .finite negative m e canonical

theorem ofScaled_eq (negative : Bool) (m : Nat) (e : Int) :
    ofScaled negative m e = (ofScaled false m e).withSign negative := by
  simp only [ofScaled]
  split_ifs <;> rfl

theorem ofDecimal_eq (negative : Bool) (d : Decimal) :
    ofDecimal negative d = (ofDecimal false d).withSign negative := by
  simp only [ofDecimal, ofRatio, ofScaled_eq negative]
  split_ifs <;> rfl

theorem length_toDigits_mul_pow {n : Nat} (hn : n ≠ 0) (k : Nat) :
    (Nat.toDigits 10 (n * 10 ^ k)).length = (Nat.toDigits 10 n).length + k := by
  have hten : 1 < 10 := by decide
  have hpos : 0 < (Nat.toDigits 10 n).length := Nat.length_toDigits_pos
  have hlt : n < 10 ^ (Nat.toDigits 10 n).length :=
    (Nat.length_toDigits_le_iff hten hpos).mp le_rfl
  apply le_antisymm
  · rw [Nat.length_toDigits_le_iff hten (by omega), Nat.pow_add]
    exact Nat.mul_lt_mul_of_pos_right hlt (by positivity)
  · by_contra hless
    obtain ⟨j, hj⟩ : ∃ j, (Nat.toDigits 10 n).length = j + 1 := Nat.exists_eq_add_one.mpr hpos
    have hfewer : (Nat.toDigits 10 (n * 10 ^ k)).length ≤ j + k := by omega
    have hjk : 0 < j + k := Nat.lt_of_lt_of_le Nat.length_toDigits_pos hfewer
    have hsmall : n < 10 ^ j := by
      rw [Nat.length_toDigits_le_iff hten hjk, Nat.pow_add] at hfewer
      exact Nat.lt_of_mul_lt_mul_right hfewer
    rcases Nat.eq_zero_or_pos j with rfl | hj0
    · exact hn (Nat.lt_one_iff.mp hsmall)
    · have := (Nat.length_toDigits_le_iff hten hj0).mpr hsmall
      omega

theorem ofDecimal_mul_pow (negative : Bool) (n k : Nat) (e : Int) :
    ofDecimal negative ⟨n * 10 ^ k, e - k⟩ = ofDecimal negative ⟨n, e⟩ := by
  by_cases hn : n = 0
  · simp [ofDecimal, hn]
  have hne : n * 10 ^ k ≠ 0 := Nat.mul_ne_zero hn (by positivity)
  have hmagnitude : Decimal.magnitude ⟨n * 10 ^ k, e - k⟩ = Decimal.magnitude ⟨n, e⟩ := by
    rw [Decimal.magnitude, Decimal.magnitude, length_toDigits_mul_pow hn k]
    push_cast
    omega
  have hratio : Decimal.numerator ⟨n * 10 ^ k, e - k⟩ * Decimal.denominator ⟨n, e⟩ =
      Decimal.numerator ⟨n, e⟩ * Decimal.denominator ⟨n * 10 ^ k, e - k⟩ := by
    have hpow : k + (e - k).toNat + (-e).toNat = e.toNat + (-(e - k)).toNat := by omega
    simp only [Decimal.numerator, Decimal.denominator, Nat.pow_eq, Nat.mul_assoc, ← Nat.pow_add, hpow]
  have hden (d : Decimal) : 0 < d.denominator := Nat.pow_pos (by decide)
  rw [ofDecimal, ofDecimal, if_neg hne, if_neg hn, hmagnitude,
    ofRatio_congr negative (hden _) (hden _) hratio]

theorem two_pow_lt {k n : Nat} (hn : 0 < n) (h : k ≤ 3 * n) : 2 ^ k < 10 ^ n :=
  calc 2 ^ k ≤ 2 ^ (3 * n) := Nat.pow_le_pow_right (by decide) h
    _ = (2 ^ 3) ^ n := Nat.pow_mul 2 3 n
    _ < 10 ^ n := Nat.pow_lt_pow_left (by decide) (Nat.ne_of_gt hn)

theorem length_toDigits_bounds {n : Nat} (hn : n ≠ 0) {low high : Nat} (hlow : 10 ^ low ≤ n)
    (hhigh : n < 10 ^ high) :
    low < (Nat.toDigits 10 n).length ∧ (Nat.toDigits 10 n).length ≤ high := by
  have hten : 1 < 10 := by decide
  constructor
  · by_contra hle
    have hpos : 0 < low := Nat.lt_of_lt_of_le Nat.length_toDigits_pos (Nat.not_lt.mp hle)
    have := (Nat.length_toDigits_le_iff hten hpos).mp (Nat.not_lt.mp hle)
    omega
  · rcases Nat.eq_zero_or_pos high with rfl | hpos
    · exact absurd (Nat.lt_one_iff.mp hhigh) hn
    · exact (Nat.length_toDigits_le_iff hten hpos).mpr hhigh

section Finite

variable {m : Nat} {e : Int} (hm : m ≠ 0)
  (canonical : (m < 0x10000000000000 ∧ e = -1074) ∨
    (0x10000000000000 ≤ m ∧ m < 0x20000000000000 ∧ -1074 ≤ e ∧ e ≤ 971))

include hm canonical

/-- The range of the decimals that are rounded covers all values of the format. -/
theorem magnitude_exactDecimal :
    -400 ≤ (exactDecimal m e).magnitude ∧ (exactDecimal m e).magnitude ≤ 400 := by
  have hpos : 1 ≤ m := Nat.pos_of_ne_zero hm
  have hlt : m < 2 ^ 53 := by omega
  obtain ⟨places, hplaces⟩ : ∃ n : Nat, n = 400 := ⟨400, rfl⟩
  rw [exactDecimal]
  split
  · next he =>
    have hne : m * 2 ^ e.toNat ≠ 0 := Nat.mul_ne_zero hm (by positivity)
    have hhigh : m * 2 ^ e.toNat < 10 ^ places := by
      calc m * 2 ^ e.toNat < 2 ^ 53 * 2 ^ e.toNat := Nat.mul_lt_mul_of_pos_right hlt (by positivity)
        _ = 2 ^ (53 + e.toNat) := (Nat.pow_add 2 53 e.toNat).symm
        _ < 10 ^ places := two_pow_lt (by omega) (by omega)
    have hlow : 10 ^ 0 ≤ m * 2 ^ e.toNat := Nat.pos_of_ne_zero hne
    have hdigits := length_toDigits_bounds hne hlow hhigh
    simp only [Decimal.magnitude, Nat.shiftLeft_eq]
    omega
  · next he =>
    obtain ⟨k, hk, hle⟩ : ∃ k : Nat, e = -(k : Int) ∧ k ≤ 1074 := ⟨(-e).toNat, by omega, by omega⟩
    have hne : m * 5 ^ k ≠ 0 := Nat.mul_ne_zero hm (by positivity)
    have hsplit : 10 ^ k = 5 ^ k * 2 ^ k := by rw [← Nat.mul_pow]
    have hhigh : m * 5 ^ k < 10 ^ (16 + k) := by
      rw [Nat.pow_add, hsplit]
      refine Nat.mul_lt_mul_of_lt_of_le' (hlt.trans (by decide)) ?_ (by positivity)
      exact Nat.le_mul_of_pos_right _ (by positivity)
    have hlow : 10 ^ (k - places) ≤ m * 5 ^ k := by
      rcases Nat.le_total k places with hfew | hmany
      · rw [Nat.sub_eq_zero_of_le hfew]
        exact Nat.pos_of_ne_zero hne
      · have hbig : 10 ^ places * 10 ^ (k - places) < 10 ^ places * (m * 5 ^ k) := by
          rw [← Nat.pow_add, Nat.add_sub_cancel' hmany, hsplit, Nat.mul_comm (5 ^ k), ← Nat.mul_assoc]
          refine Nat.mul_lt_mul_of_pos_right ?_ (by positivity)
          calc 2 ^ k < 10 ^ places := two_pow_lt (by omega) (by omega)
            _ ≤ 10 ^ places * m := Nat.le_mul_of_pos_right _ hpos
        exact (Nat.lt_of_mul_lt_mul_left hbig).le
    have hdigits := length_toDigits_bounds hne hlow hhigh
    have hexponent : (-e).toNat = k := by omega
    simp only [Decimal.magnitude, hexponent, Nat.pow_eq]
    omega

theorem ofDecimal_exactDecimal :
    ofDecimal false (exactDecimal m e) = .finite false m e canonical := by
  obtain ⟨hlow, hhigh⟩ := magnitude_exactDecimal hm canonical
  have hdigits : (exactDecimal m e).digits ≠ 0 := by
    rw [exactDecimal]
    split
    · rw [Nat.shiftLeft_eq]
      exact Nat.mul_ne_zero hm (by positivity)
    · exact Nat.mul_ne_zero hm (Nat.pow_pos (by decide)).ne'
  rw [ofDecimal, if_neg hdigits, if_neg (by omega), if_neg (by omega), ← ofRatio_self hm canonical]
  refine ofRatio_congr false (Nat.pow_pos (by decide)) (by rw [Nat.shiftLeft_eq]; positivity) ?_
  simp only [exactDecimal, Decimal.numerator, Decimal.denominator, Nat.shiftLeft_eq, Nat.pow_eq]
  split
  · next he =>
    have : (-e).toNat = 0 := by omega
    simp [this]
  · next he =>
    have : e.toNat = 0 := by omega
    simp only [this, Nat.pow_zero, Nat.mul_one, Nat.one_mul, Nat.mul_assoc, ← Nat.mul_pow]

/-- The shortest decimal of a value reads back to it. -/
theorem ofDecimal_shortest :
    ofDecimal false (shortest (.finite false m e canonical) m e) = .finite false m e canonical := by
  simp only [shortest]
  cases hfound : (List.range' 1 17).findSome? fun n : Nat =>
      nearestOnGrid? (.finite false m e canonical) (m <<< e.toNat) (1 <<< (-e).toNat)
        (pointPosition (m <<< e.toNat) (1 <<< (-e).toNat) - n) with
  | none => exact ofDecimal_exactDecimal hm canonical
  | some d =>
    obtain ⟨n, -, hn⟩ := List.exists_of_findSome?_eq_some hfound
    rw [nearestOnGrid?] at hn
    have hreads := List.find?_some hn
    exact of_decide_eq_true hreads

end Finite

end ParticipantRegistry.Binary64
