import ParticipantRegistry.Proofs.Text.Encoding

/-!
# Octets that are UTF-8

Whatever octets are decoded are the encoded form of the text: of a code point no other form is accepted
than the one it is encoded in. So the octets that are not decoded are those that no text has as its
encoded form.
-/

namespace ParticipantRegistry.Utf8

variable {octets : Octets} {t : Text}

theorem toUInt8_of_toNat {b : UInt8} {n : Nat} (h : b.toNat = n) : b = n.toUInt8 := by
  rw [← h]
  exact UInt8.toNat_inj.mp (toNat_toUInt8 b.toNat_lt).symm

theorem exists_of_isContinuation {b : UInt8} (h : isContinuation b = true) :
    ∃ n < 0x40, b = (0x80 + n).toUInt8 ∧ b.toNat - 0x80 = n := by
  rw [isContinuation, Bool.and_eq_true, decide_eq_true_eq, decide_eq_true_eq] at h
  exact ⟨b.toNat - 0x80, by omega, toUInt8_of_toNat (by omega), rfl⟩

theorem exists_of_decodeFrom_continue {due value least : Nat}
    (h : decodeFrom (due + 2) value least octets = some t) :
    ∃ n rest, n < 0x40 ∧ octets = (0x80 + n).toUInt8 :: rest ∧
      decodeFrom (due + 1) (64 * value + n) least rest = some t := by
  cases octets with
  | nil => cases h
  | cons b rest =>
    rw [decodeFrom] at h
    split at h
    · next hb =>
      obtain ⟨n, hn, hoctet, hvalue⟩ := exists_of_isContinuation hb
      simp only [hvalue, Nat.succ_ne_zero, if_false] at h
      exact ⟨n, rest, hn, by rw [hoctet], h⟩
    · cases h

theorem exists_of_decodeFrom_end {value least : Nat}
    (h : decodeFrom 1 value least octets = some t) :
    ∃ n rest c t', n < 0x40 ∧ octets = (0x80 + n).toUInt8 :: rest ∧ c.val = 64 * value + n ∧
      least ≤ c.val ∧ c.isSurrogate = false ∧ decodeFrom 0 0 0 rest = some t' ∧ t = c :: t' := by
  cases octets with
  | nil => cases h
  | cons b rest =>
    rw [decodeFrom] at h
    split at h
    · next hb =>
      obtain ⟨n, hn, hoctet, hvalue⟩ := exists_of_isContinuation hb
      simp only [hvalue, if_true] at h
      split at h
      · next hform =>
        obtain ⟨hleast, hlt, hsurrogate⟩ := hform
        rw [Bool.not_eq_true'] at hsurrogate
        have hval : (CodePoint.ofNat (64 * value + n)).val = 64 * value + n := CodePoint.val_ofNat hlt
        obtain ⟨t', ht', rfl⟩ := Option.map_eq_some_iff.mp h
        exact ⟨n, rest, _, t', hn, by rw [hoctet], hval, by omega, hsurrogate, ht', rfl⟩
      · cases h
    · cases h

/-- Octets that are decoded begin with the encoded form of the first code point. -/
theorem exists_point_of_decodeFrom {b : UInt8} {rest : Octets}
    (h : decodeFrom 0 0 0 (b :: rest) = some t) :
    ∃ c t' rest', c.isSurrogate = false ∧ b :: rest = encodePoint c ++ rest' ∧
      decodeFrom 0 0 0 rest' = some t' ∧ t = c :: t' := by
  rw [decodeFrom] at h
  split_ifs at h with h₁ h₂ h₃ h₄
  · obtain ⟨t', ht', rfl⟩ := Option.map_eq_some_iff.mp h
    have hval : (CodePoint.ofNat b.toNat).val = b.toNat := CodePoint.val_ofNat (by omega)
    refine ⟨_, t', rest, ?_, ?_, ht', rfl⟩
    · rw [CodePoint.isSurrogate, hval, Bool.and_eq_false_iff]
      exact .inl (decide_eq_false (by omega))
    · rw [encodePoint, hval, if_pos h₁, List.singleton_append, ← toUInt8_of_toNat rfl]
  · obtain ⟨n, rest', c, t', hn, rfl, hval, hleast, hc, ht', rfl⟩ := exists_of_decodeFrom_end h
    refine ⟨c, t', rest', hc, ?_, ht', rfl⟩
    rw [encodePoint, if_neg (by omega), if_pos (by omega)]
    simp only [List.cons_append, List.nil_append]
    rw [toUInt8_of_toNat (b := b) (n := 0xC0 + c.val / 64) (by omega),
      show c.val % 64 = n by omega]
  · obtain ⟨n₁, rest₁, hn₁, rfl, hmore⟩ := exists_of_decodeFrom_continue h
    obtain ⟨n₂, rest', c, t', hn₂, rfl, hval, hleast, hc, ht', rfl⟩ := exists_of_decodeFrom_end hmore
    refine ⟨c, t', rest', hc, ?_, ht', rfl⟩
    rw [encodePoint, if_neg (by omega), if_neg (by omega), if_pos (by omega)]
    simp only [List.cons_append, List.nil_append]
    rw [toUInt8_of_toNat (b := b) (n := 0xE0 + c.val / 4096) (by omega),
      show c.val / 64 % 64 = n₁ by omega, show c.val % 64 = n₂ by omega]
  · obtain ⟨n₁, rest₁, hn₁, rfl, hmore⟩ := exists_of_decodeFrom_continue h
    obtain ⟨n₂, rest₂, hn₂, rfl, hlast⟩ := exists_of_decodeFrom_continue hmore
    obtain ⟨n₃, rest', c, t', hn₃, rfl, hval, hleast, hc, ht', rfl⟩ := exists_of_decodeFrom_end hlast
    refine ⟨c, t', rest', hc, ?_, ht', rfl⟩
    rw [encodePoint, if_neg (by omega), if_neg (by omega), if_neg (by omega)]
    simp only [List.cons_append, List.nil_append]
    rw [toUInt8_of_toNat (b := b) (n := 0xF0 + c.val / 262144) (by omega),
      show c.val / 4096 % 64 = n₁ by omega, show c.val / 64 % 64 = n₂ by omega,
      show c.val % 64 = n₃ by omega]

theorem encode_of_decode (h : decode octets = some t) : t.isUnicode = true ∧ encode t = octets := by
  rw [decode] at h
  induction t generalizing octets with
  | nil =>
    cases octets with
    | nil => exact ⟨rfl, rfl⟩
    | cons b rest =>
      obtain ⟨c, t', rest', -, -, -, heq⟩ := exists_point_of_decodeFrom h
      cases heq
  | cons c t ih =>
    cases octets with
    | nil => cases h
    | cons b rest =>
      obtain ⟨_, _, rest', hc, hoctets, hrest, heq⟩ := exists_point_of_decodeFrom h
      cases heq
      obtain ⟨hunicode, hencode⟩ := ih hrest
      refine ⟨?_, ?_⟩
      · rw [Text.isUnicode, List.all_cons, hc]
        exact hunicode
      · rw [encode, List.flatMap_cons, ← encode, hencode, hoctets]

theorem decode_eq_some_iff :
    decode octets = some t ↔ t.isUnicode = true ∧ encode t = octets := by
  refine ⟨encode_of_decode, ?_⟩
  rintro ⟨hunicode, rfl⟩
  exact decode_encode hunicode

theorem encode_ne_of_decode (h : decode octets = none) (hunicode : t.isUnicode = true) :
    encode t ≠ octets := by
  intro hencode
  cases h.symm.trans (decode_eq_some_iff.mpr ⟨hunicode, hencode⟩)

end ParticipantRegistry.Utf8
