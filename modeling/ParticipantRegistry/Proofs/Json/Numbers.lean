import Mathlib.Data.List.TakeWhile
import ParticipantRegistry.Json.Reader
import ParticipantRegistry.Json.Writer
import ParticipantRegistry.Proofs.Number.Rounding
import ParticipantRegistry.Proofs.Text.Digits

/-!
# Numbers read back

An integer of few enough digits and every floating-point number are read back from what is written for
them, as long as nothing follows that a number could go on with. The text of a float has other zeros
than the decimal that was chosen for it, but it stands for the same number.
-/

namespace ParticipantRegistry

namespace Json

/-- Nothing follows that a number could go on with. -/
def Ends (rest : Text) : Prop :=
  ∀ c ∈ rest.head?, c.isDigit = false ∧ c ≠ '.' ∧ c ≠ 'e' ∧ c ≠ 'E'

def IsWhole (whole : Text) : Prop :=
  whole = [('0' : CodePoint)] ∨
    ∃ c digits, whole = c :: digits ∧ c ≠ '0' ∧ c.isDigit = true ∧ ∀ d ∈ digits, d.isDigit = true

theorem takeDigits_append {digits rest : Text} (hd : ∀ c ∈ digits, c.isDigit = true)
    (hr : ∀ c ∈ rest.head?, c.isDigit = false) : takeDigits (digits ++ rest) = digits := by
  rw [takeDigits, List.takeWhile_append_of_pos hd]
  cases rest with
  | nil => simp
  | cons c rest => rw [List.takeWhile_cons_of_neg (by simp [hr c rfl]), List.append_nil]

theorem dropDigits_append {digits rest : Text} (hd : ∀ c ∈ digits, c.isDigit = true)
    (hr : ∀ c ∈ rest.head?, c.isDigit = false) : dropDigits (digits ++ rest) = rest := by
  rw [dropDigits, List.dropWhile_append_of_pos hd]
  cases rest with
  | nil => rfl
  | cons c rest => exact List.dropWhile_cons_of_neg (by simp [hr c rfl])

theorem IsWhole.splitWhole {whole rest : Text} (h : IsWhole whole)
    (hr : ∀ c ∈ rest.head?, c.isDigit = false) : splitWhole (whole ++ rest) = some (whole, rest) := by
  rcases h with rfl | ⟨c, digits, rfl, hc, hdigit, hdigits⟩
  · rfl
  · rw [List.cons_append, Json.splitWhole, if_neg hc, if_pos hdigit, takeDigits_append hdigits hr,
      dropDigits_append hdigits hr]

def writtenFraction (fraction : Text) : Text :=
  if fraction = [] then [] else ('.' : CodePoint) :: fraction

theorem splitFraction_written {fraction rest : Text} (hd : ∀ c ∈ fraction, c.isDigit = true)
    (hr : ∀ c ∈ rest.head?, c.isDigit = false ∧ c ≠ '.') :
    splitFraction (writtenFraction fraction ++ rest) = (fraction, rest) := by
  have hdigit : ∀ c ∈ rest.head?, c.isDigit = false := fun c hc => (hr c hc).1
  rw [writtenFraction]
  split
  · next hnil =>
    subst hnil
    cases rest with
    | nil => rfl
    | cons c rest => simp [splitFraction, (hr c rfl).2]
  · next hne =>
    simp only [List.cons_append, splitFraction, takeDigits_append hd hdigit,
      dropDigits_append hd hdigit, hne, ne_eq, not_false_eq_true, and_true, if_true]

theorem splitExponent_none {rest : Text} (hr : Ends rest) : splitExponent rest = (none, rest) := by
  cases rest with
  | nil => rfl
  | cons c rest =>
    obtain ⟨-, -, he, hE⟩ := hr c rfl
    simp [splitExponent, he, hE]

def exponentSign (negative : Bool) : CodePoint := if negative then '-' else '+'

theorem splitExponent_written (negative : Bool) {digits rest : Text} (hne : digits ≠ [])
    (hd : ∀ c ∈ digits, c.isDigit = true) (hr : ∀ c ∈ rest.head?, c.isDigit = false) :
    splitExponent (('e' : CodePoint) :: exponentSign negative :: (digits ++ rest)) =
      (some (if negative then -(Text.toNat digits : Int) else Text.toNat digits), rest) := by
  have hplus : ¬('+' : CodePoint) = '-' := by decide
  cases negative <;>
    simp [splitExponent, exponentSign, takeDigits_append hd hr, dropDigits_append hd hr, hne, hplus]

variable {negative : Bool} {whole fraction rest start : Text}

theorem Ends.not_digit (h : Ends rest) : ∀ c ∈ rest.head?, c.isDigit = false := fun c hc => (h c hc).1

theorem readUnsigned_whole (hw : IsWhole whole) (hlength : whole.length ≤ digitLimit)
    (hr : Ends rest) :
    readUnsigned negative start (whole ++ rest) =
      .ok (.int (if negative then -(Text.toNat whole : Int) else Text.toNat whole), rest) := by
  have hfraction : splitFraction rest = ([], rest) :=
    splitFraction_written (List.forall_mem_nil _) fun c hc => ⟨(hr c hc).1, (hr c hc).2.1⟩
  simp only [readUnsigned, hw.splitWhole hr.not_digit, hfraction, splitExponent_none hr, if_true,
    Nat.not_lt.mpr hlength, if_false]

theorem readUnsigned_point (hw : IsWhole whole) (hd : ∀ c ∈ fraction, c.isDigit = true)
    (hne : fraction ≠ []) (hr : Ends rest) :
    readUnsigned negative start (whole ++ (('.' : CodePoint) :: fraction ++ rest)) =
      .ok (.float (.ofDecimal negative ⟨Text.toNat (whole ++ fraction), -fraction.length⟩), rest) := by
  have hfraction := splitFraction_written hd fun c hc => ⟨(hr c hc).1, (hr c hc).2.1⟩
  rw [writtenFraction, if_neg hne] at hfraction
  have hpoint : ∀ c ∈ (('.' : CodePoint) :: fraction ++ rest).head?, c.isDigit = false := by
    simp only [List.cons_append, List.head?_cons, Option.mem_def, Option.some.injEq, forall_eq']
    decide
  simp only [readUnsigned, hw.splitWhole hpoint, hfraction, splitExponent_none hr, hne, if_false]

theorem readUnsigned_exponent (hw : IsWhole whole) (hd : ∀ c ∈ fraction, c.isDigit = true)
    (below : Bool) {digits : Text} (hne : digits ≠ []) (hdigits : ∀ c ∈ digits, c.isDigit = true)
    (hr : Ends rest) :
    readUnsigned negative start (whole ++ (writtenFraction fraction ++
        ('e' : CodePoint) :: exponentSign below :: (digits ++ rest))) =
      .ok (.float (.ofDecimal negative ⟨Text.toNat (whole ++ fraction),
        (if below then -(Text.toNat digits : Int) else Text.toNat digits) - fraction.length⟩), rest) := by
  have hafter : ∀ c ∈ (('e' : CodePoint) :: exponentSign below :: (digits ++ rest)).head?,
      c.isDigit = false ∧ c ≠ '.' := by
    simp only [List.head?_cons, Option.mem_def, Option.some.injEq, forall_eq']
    decide
  have hfirst : ∀ c ∈ (writtenFraction fraction ++
      ('e' : CodePoint) :: exponentSign below :: (digits ++ rest)).head?, c.isDigit = false := by
    rw [writtenFraction]
    split
    · exact fun c hc => (hafter c hc).1
    · simp only [List.cons_append, List.head?_cons, Option.mem_def, Option.some.injEq, forall_eq']
      decide
  simp only [readUnsigned, hw.splitWhole hfirst, splitFraction_written hd hafter,
    splitExponent_written below hne hdigits hr.not_digit]

theorem isDigit_of_mem_zeros {k : Nat} :
    ∀ c ∈ List.replicate k ('0' : CodePoint), c.isDigit = true := by
  intro c hc
  rw [(List.mem_replicate.mp hc).2]
  decide

/-- The digits of a decimal without the zeros at their end. -/
structure Trims (n : Nat) (c : CodePoint) (digits : Text) (zeros : Nat) : Prop where
  split : Text.ofNat n = c :: digits ++ List.replicate zeros ('0' : CodePoint)
  first : c ≠ '0'
  isDigit : ∀ d ∈ c :: digits, d.isDigit = true
  trimmed : Binary64.trimZeros (Text.ofNat n) = c :: digits

theorem exists_trims {n : Nat} (hn : n ≠ 0) : ∃ c digits zeros, Trims n c digits zeros := by
  obtain ⟨c, all, hall, hc⟩ := Text.exists_ofNat_cons hn
  let zeros := (Text.ofNat n).reverse.takeWhile (· = ('0' : CodePoint))
  have hzero : ∀ d ∈ zeros, d = ('0' : CodePoint) := by
    intro d hd
    have hd := List.mem_takeWhile_imp (p := (· = ('0' : CodePoint))) hd
    exact of_decide_eq_true hd
  have hzeros : zeros = List.replicate zeros.length ('0' : CodePoint) :=
    List.eq_replicate_iff.mpr ⟨rfl, hzero⟩
  have hsplit : Text.ofNat n = Binary64.trimZeros (Text.ofNat n) ++ zeros.reverse := by
    rw [Binary64.trimZeros, ← List.reverse_append, List.takeWhile_append_dropWhile,
      List.reverse_reverse]
  rw [hzeros, List.reverse_replicate] at hsplit
  -- the first digit is no zero, so it is not among those at the end
  cases htrimmed : Binary64.trimZeros (Text.ofNat n) with
  | nil =>
    rw [htrimmed, List.nil_append] at hsplit
    have hmem : c ∈ List.replicate zeros.length ('0' : CodePoint) := by
      rw [← hsplit, hall]
      exact List.mem_cons_self
    exact absurd (List.mem_replicate.mp hmem).2 hc
  | cons d digits =>
    rw [htrimmed] at hsplit
    have hdc : d = c := by
      rw [hall] at hsplit
      exact (List.cons.inj hsplit).1.symm
    subst hdc
    refine ⟨d, digits, zeros.length, hsplit, hc, fun e he => ?_, htrimmed⟩
    exact Text.isDigit_of_mem_ofNat n e (by rw [hsplit]; exact List.mem_append_left _ he)

theorem Trims.toNat_mul {n : Nat} {c : CodePoint} {digits : Text} {zeros : Nat}
    (h : Trims n c digits zeros) : Text.toNat (c :: digits) * 10 ^ zeros = n := by
  rw [← Text.toNat_append_zeros, ← h.split, Text.toNat_ofNat]

/-- Decimals with the same digits stand for the same number if their last digits have the same place. -/
theorem ofDecimal_same (negative : Bool) (n : Nat) {k k' : Nat} {e e' : Int}
    (h : e + k = e' + k') :
    Binary64.ofDecimal negative ⟨n * 10 ^ k, e⟩ = Binary64.ofDecimal negative ⟨n * 10 ^ k', e'⟩ := by
  have hleft := Binary64.ofDecimal_mul_pow negative n k (e + k)
  have hright := Binary64.ofDecimal_mul_pow negative n k' (e' + k')
  rw [add_sub_cancel_right] at hleft hright
  rw [hleft, hright, h]

theorem IsWhole.of_cons {c : CodePoint} {digits : Text} (hc : c ≠ '0')
    (h : ∀ d ∈ c :: digits, d.isDigit = true) : IsWhole (c :: digits) :=
  .inr ⟨c, digits, rfl, hc, h c List.mem_cons_self, fun d hd => h d (List.mem_cons_of_mem c hd)⟩

section Decimal

variable {n : Nat} {e : Int} {c : CodePoint} {digits : Text} {zeros : Nat}

theorem Trims.length_eq (ht : Trims n c digits zeros) :
    (Text.ofNat n).length = digits.length + 1 + zeros := by
  rw [ht.split, List.length_append, List.length_cons, List.length_replicate]

theorem Trims.read_point (ht : Trims n c digits zeros) (hw : IsWhole whole)
    (hd : ∀ d ∈ fraction, d.isDigit = true) (hne : fraction ≠ []) (hr : Ends rest) {k : Nat}
    (hnumber : Text.toNat (whole ++ fraction) = Text.toNat (c :: digits) * 10 ^ k)
    (hplace : -(fraction.length : Int) + k = e + zeros) :
    readUnsigned negative start (whole ++ (('.' : CodePoint) :: fraction ++ rest)) =
      .ok (.float (.ofDecimal negative ⟨n, e⟩), rest) := by
  rw [readUnsigned_point hw hd hne hr, hnumber, ofDecimal_same negative _ hplace, ht.toNat_mul]

theorem Trims.read_below (ht : Trims n c digits zeros) (hr : Ends rest) {k : Nat}
    (hk : -(k : Int) = (Text.ofNat n).length + e) :
    readUnsigned negative start
        ("0." ++ List.replicate k ('0' : CodePoint) ++ c :: digits ++ rest) =
      .ok (.float (.ofDecimal negative ⟨n, e⟩), rest) := by
  let fraction : Text := List.replicate k ('0' : CodePoint) ++ c :: digits
  have hdigits : ∀ d ∈ fraction, d.isDigit = true :=
    List.forall_mem_append.mpr ⟨isDigit_of_mem_zeros, ht.isDigit⟩
  have htext : ("0." : Text) ++ List.replicate k ('0' : CodePoint) ++ c :: digits ++ rest =
      [('0' : CodePoint)] ++ (('.' : CodePoint) :: fraction ++ rest) := by
    rw [show ("0." : Text) = [('0' : CodePoint), ('.' : CodePoint)] from rfl]
    simp [fraction]
  have hnumber : Text.toNat ([('0' : CodePoint)] ++ fraction) =
      Text.toNat (c :: digits) * 10 ^ 0 := by
    rw [Nat.pow_zero, Nat.mul_one]
    exact (Text.toNat_zeros_append 1 fraction).trans (Text.toNat_zeros_append _ _)
  have hplace : -(fraction.length : Int) + (0 : Nat) = e + zeros := by
    have hlength := ht.length_eq
    simp only [fraction, List.length_append, List.length_replicate, List.length_cons]
    omega
  rw [htext]
  exact ht.read_point (.inl rfl) hdigits (by simp [fraction]) hr hnumber hplace

theorem Trims.read_above (ht : Trims n c digits zeros) (hr : Ends rest) {k : Nat}
    (hk : (digits.length : Int) + 1 + k = (Text.ofNat n).length + e) :
    readUnsigned negative start
        (c :: digits ++ List.replicate k ('0' : CodePoint) ++ ".0" ++ rest) =
      .ok (.float (.ofDecimal negative ⟨n, e⟩), rest) := by
  let whole : Text := c :: digits ++ List.replicate k ('0' : CodePoint)
  have hwhole : IsWhole whole :=
    .of_cons ht.first (List.forall_mem_append.mpr ⟨ht.isDigit, isDigit_of_mem_zeros⟩)
  have hzero : ∀ d ∈ [('0' : CodePoint)], d.isDigit = true :=
    List.forall_mem_singleton.mpr (by decide)
  have htext : whole ++ (".0" : Text) ++ rest =
      whole ++ (('.' : CodePoint) :: [('0' : CodePoint)] ++ rest) := by
    rw [List.append_assoc]
    rfl
  have hnumber : Text.toNat (whole ++ [('0' : CodePoint)]) =
      Text.toNat (c :: digits) * 10 ^ (k + 1) := by
    rw [List.append_assoc, ← List.replicate_succ', Text.toNat_append_zeros]
  have hplace : -([('0' : CodePoint)].length : Int) + (k + 1 : Nat) = e + zeros := by
    have hlength := ht.length_eq
    rw [List.length_singleton]
    omega
  exact htext ▸ ht.read_point hwhole hzero (List.cons_ne_nil _ _) hr hnumber hplace

theorem Trims.read_within (ht : Trims n c digits zeros) (hr : Ends rest) {k : Nat}
    (hk : (k : Int) + 1 = (Text.ofNat n).length + e) (hshort : k < digits.length) :
    readUnsigned negative start
        ((c :: digits).take (k + 1) ++ "." ++ (c :: digits).drop (k + 1) ++ rest) =
      .ok (.float (.ofDecimal negative ⟨n, e⟩), rest) := by
  have hwhole : IsWhole ((c :: digits).take (k + 1)) := by
    rw [List.take_succ_cons]
    refine .of_cons ht.first fun d hd => ?_
    exact ht.isDigit d (List.mem_of_mem_take (i := k + 1) (by rwa [List.take_succ_cons]))
  have hdigits : ∀ d ∈ (c :: digits).drop (k + 1), d.isDigit = true := fun d hd =>
    ht.isDigit d (List.mem_of_mem_drop hd)
  have hne : (c :: digits).drop (k + 1) ≠ [] := by
    rw [List.drop_succ_cons, ne_eq, List.drop_eq_nil_iff, Nat.not_le]
    exact hshort
  have htext : (c :: digits).take (k + 1) ++ ("." : Text) ++ (c :: digits).drop (k + 1) ++ rest =
      (c :: digits).take (k + 1) ++ (('.' : CodePoint) :: (c :: digits).drop (k + 1) ++ rest) := by
    simp only [List.append_assoc]
    rfl
  have hnumber : Text.toNat ((c :: digits).take (k + 1) ++ (c :: digits).drop (k + 1)) =
      Text.toNat (c :: digits) * 10 ^ 0 := by
    rw [List.take_append_drop, Nat.pow_zero, Nat.mul_one]
  have hplace : -(((c :: digits).drop (k + 1)).length : Int) + (0 : Nat) = e + zeros := by
    have hlength := ht.length_eq
    rw [List.length_drop, List.length_cons]
    omega
  rw [htext]
  exact ht.read_point hwhole hdigits hne hr hnumber hplace

/-- A decimal is read back from its digits with the point before, after or among them. -/
theorem Trims.read_positional (ht : Trims n c digits zeros) (hr : Ends rest) :
    readUnsigned negative start
        (Binary64.positional (c :: digits) ((Text.ofNat n).length + e) ++ rest) =
      .ok (.float (.ofDecimal negative ⟨n, e⟩), rest) := by
  rw [Binary64.positional]
  split
  · next hpoint => exact ht.read_below hr (by omega)
  · next hpoint =>
    split
    · next hlong =>
      rw [List.length_cons] at hlong
      exact ht.read_above hr (by rw [List.length_cons]; omega)
    · next hshort =>
      rw [List.length_cons] at hshort
      obtain ⟨k, hk⟩ : ∃ k, ((Text.ofNat n).length + e).toNat = k + 1 :=
        Nat.exists_eq_add_one.mpr (by omega)
      rw [hk]
      exact ht.read_within hr (by omega) (by omega)

theorem Trims.read_scientific (ht : Trims n c digits zeros) (hr : Ends rest) :
    readUnsigned negative start
        (Binary64.scientific (c :: digits) ((Text.ofNat n).length + e - 1) ++ rest) =
      .ok (.float (.ofDecimal negative ⟨n, e⟩), rest) := by
  have hlength := ht.length_eq
  let x : Int := (Text.ofNat n).length + e - 1
  let exponent : Text := Text.padDecimal 2 x.natAbs
  have hexponent : ∀ d ∈ exponent, d.isDigit = true :=
    List.forall_mem_append.mpr ⟨isDigit_of_mem_zeros, Text.isDigit_of_mem_ofNat x.natAbs⟩
  have hne : exponent ≠ [] := List.append_ne_nil_of_right_ne_nil _ (Text.ofNat_ne_nil x.natAbs)
  have habs : Text.toNat exponent = x.natAbs :=
    (Text.toNat_zeros_append _ _).trans (Text.toNat_ofNat x.natAbs)
  have hfraction : ∀ d ∈ digits, d.isDigit = true := fun d hd =>
    ht.isDigit d (List.mem_cons_of_mem c hd)
  have htext : Binary64.scientific (c :: digits) x ++ rest =
      [c] ++ (writtenFraction digits ++
        ('e' : CodePoint) :: exponentSign (decide (x < 0)) :: (exponent ++ rest)) := by
    have hpoint : ("." : Text) = [('.' : CodePoint)] := rfl
    have he : ("e" : Text) = [('e' : CodePoint)] := rfl
    have hminus : ("-" : Text) = [('-' : CodePoint)] := rfl
    have hplus : ("+" : Text) = [('+' : CodePoint)] := rfl
    cases digits <;> by_cases hx : x < 0 <;>
      simp [Binary64.scientific, writtenFraction, exponentSign, exponent, hx, hpoint, he, hminus, hplus]
  have hplace : (if decide (x < 0) = true then -(Text.toNat exponent : Int) else Text.toNat exponent) -
      digits.length + (0 : Nat) = e + zeros := by
    rw [habs]
    split
    · next hx =>
      have := of_decide_eq_true hx
      omega
    · next hx =>
      have : ¬x < 0 := fun hneg => hx (decide_eq_true hneg)
      omega
  have hwhole : IsWhole [c] :=
    .of_cons ht.first (List.forall_mem_singleton.mpr (ht.isDigit c List.mem_cons_self))
  have hnumber : Text.toNat ([c] ++ digits) = Text.toNat (c :: digits) * 10 ^ 0 :=
    (Nat.mul_one _).symm
  rw [htext, readUnsigned_exponent hwhole hfraction _ hne hexponent hr, hnumber,
    ofDecimal_same negative _ hplace, ht.toNat_mul]

theorem readUnsigned_decimal {d : Binary64.Decimal} (hd : d.digits ≠ 0) (hr : Ends rest) :
    readUnsigned negative start (d.toText ++ rest) = .ok (.float (.ofDecimal negative d), rest) := by
  obtain ⟨n, e⟩ := d
  obtain ⟨c, digits, zeros, ht⟩ := exists_trims hd
  simp only [Binary64.Decimal.toText, ht.trimmed]
  split
  · exact ht.read_positional hr
  · exact ht.read_scientific hr

end Decimal

theorem exists_digit_of_readUnsigned {s : Text} {found : Json × Text}
    (h : readUnsigned negative start s = .ok found) : ∃ c t, s = c :: t ∧ c.isDigit = true := by
  cases s with
  | nil => cases h
  | cons c t =>
    refine ⟨c, t, rfl, ?_⟩
    by_contra hc
    have hzero : c ≠ '0' := by
      rintro rfl
      exact hc (by decide)
    have hsplit : Json.splitWhole (c :: t) = none := by rw [Json.splitWhole, if_neg hzero, if_neg hc]
    simp only [readUnsigned, hsplit, reduceCtorEq] at h

theorem readLiteral?_eq_none {s : Text} (h : ∀ l ∈ literals, Text.dropPrefix? l.1 s = none) :
    readLiteral? s = none := by
  refine List.findSome?_eq_none_iff.mpr fun ⟨name, value⟩ hl => ?_
  simp only [h _ hl, Option.map_none]

theorem readLiteral?_number {c : CodePoint} (hc : c.isDigit = true) (s : Text) :
    readLiteral? (c :: s) = none ∧ readLiteral? (('-' : CodePoint) :: c :: s) = none := by
  have hdigit (a : CodePoint) (ha : a.isDigit = false) : a ≠ c := by
    rintro rfl
    exact absurd hc (by simp [ha])
  have hnone (a : CodePoint) (ha : a.isDigit = false) (name t : Text) :
      Text.dropPrefix? (a :: name) (c :: t) = none := if_neg (hdigit a ha)
  have hfirst : ∀ l ∈ literals, Text.dropPrefix? l.1 (c :: s) = none := by
    simp only [literals, List.forall_mem_cons]
    exact ⟨hnone 'n' rfl _ s, hnone 't' rfl _ s, hnone 'f' rfl _ s, hnone 'N' rfl _ s,
      hnone 'I' rfl _ s, hnone '-' rfl _ s, nofun⟩
  have hsecond : ∀ l ∈ literals, Text.dropPrefix? l.1 (('-' : CodePoint) :: c :: s) = none := by
    simp only [literals, List.forall_mem_cons]
    exact ⟨rfl, rfl, rfl, rfl, rfl, hnone 'I' rfl _ s, nofun⟩
  exact ⟨readLiteral?_eq_none hfirst, readLiteral?_eq_none hsecond⟩

def signed (negative : Bool) (t : Text) : Text := if negative then ('-' : CodePoint) :: t else t

theorem readValue_signed (room fuel : Nat) {t : Text} {found : Json × Text}
    (h : ∀ start, readUnsigned negative start (t ++ rest) = .ok found) :
    readValue room (fuel + 1) (signed negative t ++ rest) = .ok found := by
  obtain ⟨c, s, hs, hc⟩ := exists_digit_of_readUnsigned (h [])
  have hne (a : CodePoint) (ha : a.isDigit = false) : c ≠ a := by
    rintro rfl
    exact absurd hc (by simp [ha])
  obtain ⟨hliteral, hnegative⟩ := readLiteral?_number hc s
  cases negative with
  | false =>
    rw [show signed false t = t from rfl]
    have hread := h (t ++ rest)
    rw [hs] at hread ⊢
    rw [readValue, if_neg (hne '"' rfl), if_neg (hne '[' rfl), if_neg (hne '{' rfl), hliteral]
    simp only [readNumber, if_neg (hne '-' rfl), hread]
  | true =>
    rw [show signed true t ++ rest = ('-' : CodePoint) :: (t ++ rest) from rfl]
    have hread := h (('-' : CodePoint) :: (t ++ rest))
    rw [hs] at hread ⊢
    rw [readValue, if_neg (by decide), if_neg (by decide), if_neg (by decide), hnegative]
    simp only [readNumber, if_true, hread]

theorem isWhole_ofNat (n : Nat) : IsWhole (Text.ofNat n) := by
  by_cases hn : n = 0
  · rw [hn, Text.ofNat, if_pos (by decide)]
    exact .inl rfl
  · obtain ⟨c, digits, hdigits, hc⟩ := Text.exists_ofNat_cons hn
    rw [hdigits]
    exact .of_cons hc (hdigits ▸ Text.isDigit_of_mem_ofNat n)

theorem readUnsigned_ofNat {n : Nat} (hn : (Text.ofNat n).length ≤ digitLimit) (hr : Ends rest) :
    readUnsigned negative start (Text.ofNat n ++ rest) =
      .ok (.int (if negative then -(n : Int) else n), rest) := by
  rw [readUnsigned_whole (isWhole_ofNat n) hn hr, Text.toNat_ofNat]

theorem ofInt_eq (i : Int) : Text.ofInt i = signed (decide (i < 0)) (Text.ofNat i.natAbs) := by
  by_cases hi : i < 0 <;> simp [Text.ofInt, signed, hi]

theorem readValue_ofInt (room fuel : Nat) {i : Int}
    (hi : (Text.ofNat i.natAbs).length ≤ digitLimit) (hr : Ends rest) :
    readValue room (fuel + 1) (Text.ofInt i ++ rest) = .ok (.int i, rest) := by
  have hvalue : (if decide (i < 0) = true then -(i.natAbs : Int) else i.natAbs) = i := by
    by_cases hneg : i < 0
    · rw [if_pos (decide_eq_true hneg)]
      omega
    · rw [if_neg (by simpa using hneg)]
      omega
  rw [ofInt_eq]
  refine readValue_signed room fuel fun start => ?_
  rw [readUnsigned_ofNat hi hr, hvalue]

section Finite

variable {m : Nat} {e : Int}
  (canonical : (m < 0x10000000000000 ∧ e = -1074) ∨
    (0x10000000000000 ≤ m ∧ m < 0x20000000000000 ∧ -1074 ≤ e ∧ e ≤ 971))

theorem writeFloat_finite (negative : Bool) :
    writeFloat (.finite negative m e canonical) =
      signed negative (Binary64.magnitudeText m e (.finite false m e canonical)) := by
  cases negative <;> rfl

theorem readUnsigned_magnitude (hr : Ends rest) :
    readUnsigned negative start
        (Binary64.magnitudeText m e (.finite false m e canonical) ++ rest) =
      .ok (.float (.finite negative m e canonical), rest) := by
  rw [Binary64.magnitudeText]
  split
  · next hm =>
    subst hm
    obtain rfl : e = -1074 := by omega
    have hzero : ∀ d ∈ [('0' : CodePoint)], d.isDigit = true :=
      List.forall_mem_singleton.mpr (by decide)
    exact readUnsigned_point (.inl rfl) hzero (List.cons_ne_nil _ _) hr
  · next hm =>
    let d := Binary64.shortest (.finite false m e canonical) m e
    have hd : Binary64.ofDecimal false d = .finite false m e canonical :=
      Binary64.ofDecimal_shortest hm canonical
    have hdigits : d.digits ≠ 0 := by
      intro hzero
      rw [Binary64.ofDecimal, if_pos hzero, Binary64.zero, Binary64.finite.injEq] at hd
      exact hm hd.2.1.symm
    rw [readUnsigned_decimal hdigits hr, Binary64.ofDecimal_eq, hd]
    rfl

end Finite

/-- Every float is read back. -/
theorem readValue_writeFloat (room fuel : Nat) (x : Binary64) (hr : Ends rest) :
    readValue room (fuel + 1) (writeFloat x ++ rest) = .ok (.float x, rest) := by
  cases x with
  | nan => rfl
  | infinite negative => cases negative <;> rfl
  | finite negative m e canonical =>
    rw [writeFloat_finite]
    exact readValue_signed room fuel fun _ => readUnsigned_magnitude canonical hr

def isNumeric (c : CodePoint) : Bool := c.isDigit || ("-+.e" : Text).contains c

theorem ascii_of_isNumeric {c : CodePoint} (h : isNumeric c = true) : c.val < 0x80 ∧ c ≠ '\r' := by
  rw [isNumeric, Bool.or_eq_true, CodePoint.isDigit, Bool.and_eq_true, decide_eq_true_eq,
    decide_eq_true_eq, List.contains_iff_mem] at h
  rcases h with h | h
  · refine ⟨by omega, ?_⟩
    rintro rfl
    exact absurd h (by decide)
  · have hsigns : ∀ d ∈ ("-+.e" : Text), d.val < 0x80 ∧ d ≠ '\r' := by
      change ∀ d ∈ [('-' : CodePoint), '+', '.', 'e'], d.val < 0x80 ∧ d ≠ '\r'
      simp only [List.forall_mem_cons]
      exact ⟨by decide, by decide, by decide, by decide, List.forall_mem_nil _⟩
    exact hsigns c h

theorem forall_mem_signed {t : Text} (h : ∀ c ∈ t, isNumeric c = true) :
    ∀ c ∈ signed negative t, isNumeric c = true := by
  cases negative with
  | false => exact h
  | true => exact List.forall_mem_cons.mpr ⟨by decide, h⟩

theorem isNumeric_of_isDigit {t : Text} (h : ∀ c ∈ t, c.isDigit = true) :
    ∀ c ∈ t, isNumeric c = true := fun c hc => by rw [isNumeric, h c hc, Bool.true_or]

theorem isNumeric_toText (d : Binary64.Decimal) : ∀ c ∈ d.toText, isNumeric c = true := by
  have hall (t : Text) (ht : t.all isNumeric = true) : ∀ c ∈ t, isNumeric c = true :=
    List.all_eq_true.mp ht
  have hzeros (k : Nat) := isNumeric_of_isDigit (isDigit_of_mem_zeros (k := k))
  have hdigits : ∀ c ∈ Binary64.trimZeros (Text.ofNat d.digits), isNumeric c = true := by
    refine isNumeric_of_isDigit fun c hc => Text.isDigit_of_mem_ofNat d.digits c ?_
    rw [Binary64.trimZeros, List.mem_reverse] at hc
    exact List.mem_reverse.mp ((List.dropWhile_sublist _).subset hc)
  have hexponent (n : Nat) : ∀ c ∈ Text.padDecimal 2 n, isNumeric c = true :=
    List.forall_mem_append.mpr
      ⟨hzeros _, isNumeric_of_isDigit (Text.isDigit_of_mem_ofNat n)⟩
  have htake (k : Nat) : ∀ c ∈ (Binary64.trimZeros (Text.ofNat d.digits)).take k,
      isNumeric c = true := fun c hc => hdigits c (List.mem_of_mem_take hc)
  have hdrop (k : Nat) : ∀ c ∈ (Binary64.trimZeros (Text.ofNat d.digits)).drop k,
      isNumeric c = true := fun c hc => hdigits c (List.mem_of_mem_drop hc)
  rw [Binary64.Decimal.toText]
  split
  · rw [Binary64.positional]
    split
    · simp only [List.forall_mem_append]
      exact ⟨⟨hall _ (by decide), hzeros _⟩, hdigits⟩
    · split <;> simp only [List.forall_mem_append]
      · exact ⟨⟨hdigits, hzeros _⟩, hall _ (by decide)⟩
      · exact ⟨⟨htake _, hall _ (by decide)⟩, hdrop _⟩
  · simp only [Binary64.scientific, List.forall_mem_append]
    refine ⟨⟨⟨⟨htake 1, ?_⟩, hall _ (by decide)⟩, ?_⟩, hexponent _⟩
    · split
      · nofun
      · exact List.forall_mem_append.mpr ⟨hall _ (by decide), hdrop 1⟩
    · split <;> exact hall _ (by decide)

theorem isNumeric_magnitudeText (m : Nat) (e : Int) (x : Binary64) :
    ∀ c ∈ Binary64.magnitudeText m e x, isNumeric c = true := by
  rw [Binary64.magnitudeText]
  split
  · exact List.all_eq_true.mp (by decide)
  · exact isNumeric_toText _

end Json

end ParticipantRegistry
