import Mathlib.Tactic.SplitIfs
import ParticipantRegistry.Text.Blank
import ParticipantRegistry.Text.UpperCase
import ParticipantRegistry.Text.Utf8

/-!
# Texts in files

A text without surrogates is decoded from its encoded form, and reading it from a file leaves it alone if
no carriage return stands in it. Trimming it and writing it in capitals brings no surrogates in.
-/

namespace ParticipantRegistry

namespace Utf8

theorem toNat_toUInt8 {n : Nat} (h : n < 0x100) : n.toUInt8.toNat = n :=
  Nat.mod_eq_of_lt h

theorem decodeFrom_continue (due value least : Nat) {n : Nat} (hn : n < 0x40) (rest : Octets) :
    decodeFrom (due + 2) value least ((0x80 + n).toUInt8 :: rest) =
      decodeFrom (due + 1) (64 * value + n) least rest := by
  have hoctet : (0x80 + n).toUInt8.toNat = 0x80 + n := toNat_toUInt8 (by omega)
  have hc : isContinuation (0x80 + n).toUInt8 = true := by
    rw [isContinuation, hoctet, Bool.and_eq_true, decide_eq_true_eq, decide_eq_true_eq]
    omega
  rw [decodeFrom, if_pos hc, hoctet]
  simp only [Nat.add_sub_cancel_left]
  exact if_neg (by omega)

theorem decodeFrom_end {c : CodePoint} (hc : c.isSurrogate = false) {value least n : Nat}
    (hn : n < 0x40) (hvalue : 64 * value + n = c.val) (hleast : least ≤ c.val) (rest : Octets) :
    decodeFrom 1 value least ((0x80 + n).toUInt8 :: rest) =
      (decodeFrom 0 0 0 rest).map (c :: ·) := by
  have hoctet : (0x80 + n).toUInt8.toNat = 0x80 + n := toNat_toUInt8 (by omega)
  have hcont : isContinuation (0x80 + n).toUInt8 = true := by
    rw [isContinuation, hoctet, Bool.and_eq_true, decide_eq_true_eq, decide_eq_true_eq]
    omega
  have hself : CodePoint.ofNat c.val = c := Fin.ext (CodePoint.val_ofNat c.isLt)
  rw [decodeFrom, if_pos hcont, hoctet]
  simp only [Nat.add_sub_cancel_left, hvalue, if_true, hself, hc, hleast, c.isLt]
  rfl

theorem decodeFrom_encodePoint {c : CodePoint} (hc : c.isSurrogate = false) (rest : Octets) :
    decodeFrom 0 0 0 (encodePoint c ++ rest) = (decodeFrom 0 0 0 rest).map (c :: ·) := by
  have hlt := c.isLt
  have hself : CodePoint.ofNat c.val = c := Fin.ext (CodePoint.val_ofNat c.isLt)
  rw [encodePoint]
  split_ifs with h₁ h₂ h₃
  · have hoctet : c.val.toUInt8.toNat = c.val := toNat_toUInt8 (by omega)
    simp only [List.cons_append, List.nil_append]
    rw [decodeFrom, hoctet]
    simp only [h₁, if_true, hself]
  · have hoctet : (0xC0 + c.val / 64).toUInt8.toNat = 0xC0 + c.val / 64 := toNat_toUInt8 (by omega)
    simp only [List.cons_append, List.nil_append]
    rw [decodeFrom, hoctet, if_neg (by omega), if_pos (by omega), Nat.add_sub_cancel_left]
    exact decodeFrom_end hc (by omega) (by omega) (by omega) rest
  · have hoctet : (0xE0 + c.val / 4096).toUInt8.toNat = 0xE0 + c.val / 4096 :=
      toNat_toUInt8 (by omega)
    simp only [List.cons_append, List.nil_append]
    rw [decodeFrom, hoctet, if_neg (by omega), if_neg (by omega), if_pos (by omega),
      Nat.add_sub_cancel_left, decodeFrom_continue 0 _ _ (by omega)]
    exact decodeFrom_end hc (by omega) (by omega) (by omega) rest
  · have hoctet : (0xF0 + c.val / 262144).toUInt8.toNat = 0xF0 + c.val / 262144 :=
      toNat_toUInt8 (by omega)
    simp only [List.cons_append, List.nil_append]
    rw [decodeFrom, hoctet, if_neg (by omega), if_neg (by omega), if_neg (by omega),
      if_pos (by omega), Nat.add_sub_cancel_left, decodeFrom_continue 1 _ _ (by omega),
      decodeFrom_continue 0 _ _ (by omega)]
    exact decodeFrom_end hc (by omega) (by omega) (by omega) rest

theorem decode_encode {t : Text} (h : t.isUnicode = true) : decode (encode t) = some t := by
  rw [decode]
  induction t with
  | nil => rfl
  | cons c t ih =>
    rw [Text.isUnicode, List.all_cons, Bool.and_eq_true, Bool.not_eq_true'] at h
    rw [encode, List.flatMap_cons, decodeFrom_encodePoint h.1, ← encode, ih h.2]
    rfl

theorem length_encode_of_ascii {t : Text} (h : ∀ c ∈ t, c.val < 0x80) :
    (encode t).length = t.length := by
  induction t with
  | nil => rfl
  | cons c t ih =>
    obtain ⟨hc, ht⟩ := List.forall_mem_cons.mp h
    rw [encode, List.flatMap_cons, List.length_append, ← encode, ih ht, encodePoint]
    simp [hc, Nat.add_comm]

end Utf8

namespace Text

theorem isUnicode_of_ascii {t : Text} (h : ∀ c ∈ t, c.val < 0x80) : t.isUnicode = true := by
  rw [isUnicode, List.all_eq_true]
  intro c hc
  have hascii := h c hc
  rw [Bool.not_eq_true', CodePoint.isSurrogate, Bool.and_eq_false_iff]
  exact .inl (decide_eq_false (by omega))

theorem unifyLines_of_no_return {t : Text} (h : ∀ c ∈ t, c ≠ '\r') : t.unifyLines = t := by
  fun_induction unifyLines t with
  | case1 => rfl
  | case2 => exact absurd rfl (h _ (by simp))
  | case3 c hc => rfl
  | case4 => exact absurd rfl (h _ (by simp))
  | case5 => exact absurd rfl (h _ (by simp))
  | case6 c d t hc ih => rw [ih fun e he => h e (List.mem_cons_of_mem c he)]

theorem isUnicode_trimBy (p : CodePoint → Bool) {t : Text} (h : t.isUnicode = true) :
    (t.trimBy p).isUnicode = true := by
  rw [isUnicode, List.all_eq_true] at h ⊢
  intro c hc
  have hback := (List.dropWhile_sublist p).mem (List.mem_reverse.mp hc)
  exact h c ((List.dropWhile_sublist p).mem (List.mem_reverse.mp hback))

end Text

theorem CaseRun.mapped?_eq_some {run : CaseRun} {n m : Nat} (h : run.mapped? n = some m) :
    run.first ≤ n ∧ n ≤ run.last ∧ m = run.target + (n - run.first) := by
  rw [mapped?] at h
  split at h
  · next hwithin =>
    cases h
    exact ⟨hwithin.1, hwithin.2.1, rfl⟩
  · cases h

namespace CodePoint

/-- A case mapping whose runs pass the surrogates by and whose sequences hold none. -/
structure Proper (runs : List (Nat × Nat × Nat × Nat)) (sequences : List (Nat × List Nat)) : Prop where
  runs : ∀ entry ∈ runs,
    entry.2.2.2 + (entry.2.1 - entry.1) < 0xD800 ∨ 0xDFFF < entry.2.2.2
  sequences : ∀ entry ∈ sequences, ∀ code ∈ entry.2, (ofNat code).isSurrogate = false

variable {runs : List (Nat × Nat × Nat × Nat)} {sequences : List (Nat × List Nat)}

theorem isSurrogate_ofNat {n : Nat} (h : n < 0xD800 ∨ 0xDFFF < n) : (ofNat n).isSurrogate = false := by
  by_cases hn : n < 0x110000
  · rw [isSurrogate, val_ofNat hn, Bool.and_eq_false_iff, decide_eq_false_iff_not,
      decide_eq_false_iff_not]
    omega
  · rw [ofNat, dif_neg hn]
    rfl

theorem Proper.isUnicode_mapCase (h : Proper runs sequences) {c : CodePoint}
    (hc : c.isSurrogate = false) : (mapCase runs sequences c).isUnicode = true := by
  rw [mapCase]
  cases hsequence : sequences.lookup c.val with
  | some codes =>
    rw [Text.isUnicode, List.all_map, List.all_eq_true]
    intro code hcode
    have hmem : (c.val, codes) ∈ sequences := by
      obtain ⟨before, after, hsplit, -⟩ := List.lookup_eq_some_iff.mp hsequence
      simp [hsplit]
    simpa using h.sequences _ hmem code hcode
  | none =>
    dsimp only
    split
    · next n hrun =>
      obtain ⟨entry, hentry, hmapped⟩ := List.exists_of_findSome?_eq_some hrun
      have hpassed := h.runs entry hentry
      obtain ⟨hfirst, hlast, rfl⟩ := CaseRun.mapped?_eq_some hmapped
      simp only [CaseRun.of] at hfirst hlast ⊢
      rw [Text.isUnicode, List.all_cons, isSurrogate_ofNat (by omega)]
      rfl
    · rw [Text.isUnicode, List.all_cons, hc]
      rfl

theorem proper_capitals : Proper capitalRuns capitalSequences := ⟨by decide +kernel, by decide +kernel⟩

end CodePoint

theorem Text.isUnicode_upper {t : Text} (h : t.isUnicode = true) : t.upper.isUnicode = true := by
  rw [isUnicode, List.all_eq_true] at h
  rw [upper, isUnicode, List.all_flatMap, List.all_eq_true]
  intro c hc
  exact CodePoint.proper_capitals.isUnicode_mapCase (by simpa using h c hc)

end ParticipantRegistry
