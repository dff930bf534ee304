import ParticipantRegistry.Proofs.Text.Encoding
import ParticipantRegistry.Proofs.Text.Trimming

/-!
# Texts in capitals

A text in capitals stays as it is when it is written in capitals again: no capital is a letter that has
one. Capitals are never blank, so a trimmed text stays trimmed in capitals, and it becomes no shorter.
-/

namespace ParticipantRegistry

def bitsOf (ns : List Nat) : Nat := ns.foldr (fun n bits => 1 <<< n ||| bits) 0

theorem testBit_bitsOf {n : Nat} {ns : List Nat} (h : n ∈ ns) : (bitsOf ns).testBit n = true := by
  induction ns with
  | nil => simp at h
  | cons m ns ih =>
    rw [bitsOf, List.foldr_cons, ← bitsOf, Nat.testBit_or, Nat.one_shiftLeft]
    rcases List.mem_cons.mp h with rfl | h
    · simp
    · simp [ih h]

theorem not_mem_of_bitsOf {ms ns : List Nat} (h : bitsOf ms &&& bitsOf ns = 0) {n : Nat}
    (hn : n ∈ ms) : n ∉ ns := by
  intro hn'
  have hbit := Nat.testBit_and (bitsOf ms) (bitsOf ns) n
  rw [h, testBit_bitsOf hn, testBit_bitsOf hn'] at hbit
  simp at hbit

namespace CaseRun

def offsets (run : CaseRun) : List Nat :=
  (List.range (run.last - run.first + 1)).filter (· % run.step = 0)

def letters (run : CaseRun) : List Nat := run.offsets.map (run.first + ·)

def images (run : CaseRun) : List Nat := run.offsets.map (run.target + ·)

theorem mapped?_eq_none {run : CaseRun} {n : Nat} (h : n ∉ run.letters) : run.mapped? n = none := by
  rw [mapped?, if_neg]
  rintro ⟨hfirst, hlast, hstep⟩
  apply h
  simp only [letters, offsets, List.mem_map, List.mem_filter, List.mem_range, decide_eq_true_eq]
  exact ⟨n - run.first, ⟨by omega, hstep⟩, by omega⟩

theorem mem_images {run : CaseRun} {n m : Nat} (h : run.mapped? n = some m) : m ∈ run.images := by
  rw [mapped?] at h
  split at h
  · next hn =>
    cases h
    simp only [images, offsets, List.mem_map, List.mem_filter, List.mem_range, decide_eq_true_eq]
    exact ⟨n - run.first, ⟨by omega, hn.2.2⟩, rfl⟩
  · simp at h

end CaseRun

namespace CodePoint

variable {runs : List (Nat × Nat × Nat × Nat)} {sequences : List (Nat × List Nat)} {c d : CodePoint}

/-- The letters that a case mapping changes. -/
def lettersOf (runs : List (Nat × Nat × Nat × Nat)) (sequences : List (Nat × List Nat)) : List Nat :=
  runs.flatMap (fun entry => (CaseRun.of entry).letters) ++ sequences.map (·.1)

def imagesOf (runs : List (Nat × Nat × Nat × Nat)) (sequences : List (Nat × List Nat)) : List Nat :=
  runs.flatMap (fun entry => (CaseRun.of entry).images) ++ sequences.flatMap (·.2)

theorem mapCase_of_not_letter (h : c.val ∉ lettersOf runs sequences) :
    mapCase runs sequences c = [c] := by
  simp only [lettersOf, List.mem_append, not_or, List.mem_flatMap, List.mem_map, not_exists,
    not_and] at h
  have hsequence : sequences.lookup c.val = none := by
    rw [List.lookup_eq_none_iff]
    intro entry hentry
    rw [bne_iff_ne]
    exact fun he => h.2 entry hentry he.symm
  have hrun : runs.findSome? (fun entry => (CaseRun.of entry).mapped? c.val) = none := by
    rw [List.findSome?_eq_none_iff]
    exact fun entry hentry => CaseRun.mapped?_eq_none (h.1 entry hentry)
  rw [mapCase, hsequence, hrun]

/-- A code point either stays or becomes the images of a letter. -/
theorem mapCase_cases (runs : List (Nat × Nat × Nat × Nat)) (sequences : List (Nat × List Nat))
    (c : CodePoint) : mapCase runs sequences c = [c] ∨
      ∃ codes : List Nat, mapCase runs sequences c = codes.map ofNat ∧
        codes ⊆ imagesOf runs sequences ∧ (codes.length = 1 ∨ codes ∈ sequences.map (·.2)) := by
  rw [mapCase]
  cases hsequence : sequences.lookup c.val with
  | some codes =>
    obtain ⟨before, after, hsplit, -⟩ := List.lookup_eq_some_iff.mp hsequence
    have hentry : (c.val, codes) ∈ sequences := by simp [hsplit]
    refine .inr ⟨codes, rfl, ?_, .inr (List.mem_map_of_mem (f := Prod.snd) hentry)⟩
    intro code hcode
    exact List.mem_append_right _ (List.mem_flatMap.mpr ⟨_, hentry, hcode⟩)
  | none =>
    dsimp only
    split
    · next n hrun =>
      obtain ⟨entry, hentry, hmapped⟩ := List.exists_of_findSome?_eq_some hrun
      have himage : n ∈ imagesOf runs sequences :=
        List.mem_append_left _ (List.mem_flatMap.mpr ⟨entry, hentry, CaseRun.mem_images hmapped⟩)
      exact .inr ⟨[n], rfl, by simpa using himage, .inl rfl⟩
    · exact .inl rfl

def whiteSpace : List Nat :=
  [0x09, 0x0A, 0x0B, 0x0C, 0x0D, 0x20, 0x85, 0xA0, 0x1680, 0x2000, 0x2001, 0x2002, 0x2003, 0x2004,
    0x2005, 0x2006, 0x2007, 0x2008, 0x2009, 0x200A, 0x2028, 0x2029, 0x202F, 0x205F, 0x3000]

theorem mem_whiteSpace (h : c.isWhiteSpace = true) : c.val ∈ whiteSpace := by
  simp only [isWhiteSpace, Bool.or_eq_true, Bool.and_eq_true, decide_eq_true_eq, beq_iff_eq] at h
  simp only [whiteSpace, List.mem_cons, List.not_mem_nil, or_false]
  omega

/-- No capital is a letter that has a capital, and none is white space. The bits keep the comparison of
the two tables short. -/
theorem capitals_apart : bitsOf (imagesOf capitalRuns capitalSequences) &&&
    bitsOf (lettersOf capitalRuns capitalSequences ++ whiteSpace) = 0 := by
  decide +kernel

theorem capitals_bounded : bitsOf (imagesOf capitalRuns capitalSequences) >>> 0x110000 = 0 := by
  decide +kernel

theorem lt_of_mem_images {code : Nat} (h : code ∈ imagesOf capitalRuns capitalSequences) :
    code < 0x110000 := by
  by_contra hge
  obtain ⟨k, rfl⟩ := Nat.exists_eq_add_of_le (Nat.le_of_not_lt hge)
  have hbit := testBit_bitsOf h
  rw [← Nat.testBit_shiftRight, capitals_bounded] at hbit
  simp at hbit

theorem capitalSequences_length : ∀ entry ∈ capitalSequences, 2 ≤ entry.2.length := by
  decide +kernel

theorem upper_ne_nil (c : CodePoint) : c.upper ≠ [] := by
  rcases mapCase_cases capitalRuns capitalSequences c with h | ⟨codes, h, -, hlength⟩
  · simp [upper, h]
  · have hpos : 1 ≤ codes.length := by
      rcases hlength with hone | hsequence
      · omega
      · obtain ⟨entry, hentry, rfl⟩ := List.mem_map.mp hsequence
        have hlong := capitalSequences_length entry hentry
        omega
    intro hnil
    rw [upper, h, List.map_eq_nil_iff] at hnil
    simp [hnil] at hpos

theorem mem_upper (h : d ∈ c.upper) :
    d = c ∧ c.upper = [c] ∨ d.upper = [d] ∧ d.isWhiteSpace = false := by
  rcases mapCase_cases capitalRuns capitalSequences c with hself | ⟨codes, hcodes, himages, -⟩
  · refine .inl ⟨?_, hself⟩
    rw [upper, hself] at h
    exact List.mem_singleton.mp h
  · rw [upper, hcodes] at h
    obtain ⟨code, hcode, rfl⟩ := List.mem_map.mp h
    have himage := himages hcode
    have hval : (ofNat code).val = code := val_ofNat (lt_of_mem_images himage)
    have hapart := not_mem_of_bitsOf capitals_apart himage
    rw [List.mem_append, not_or] at hapart
    refine .inr ⟨mapCase_of_not_letter (by rw [hval]; exact hapart.1), ?_⟩
    by_contra hwhite
    rw [Bool.not_eq_false] at hwhite
    have hmem := mem_whiteSpace hwhite
    rw [hval] at hmem
    exact hapart.2 hmem

theorem upper_of_mem_upper (h : d ∈ c.upper) : d.upper = [d] := by
  rcases mem_upper h with ⟨rfl, hself⟩ | ⟨hself, -⟩
  · exact hself
  · exact hself

theorem not_isWhiteSpace_of_mem_upper (h : d ∈ c.upper) (hc : c.isWhiteSpace = false) :
    d.isWhiteSpace = false := by
  rcases mem_upper h with ⟨rfl, -⟩ | ⟨-, hd⟩
  · exact hc
  · exact hd

end CodePoint

namespace Text

theorem upper_cons (c : CodePoint) (t : Text) : upper (c :: t) = c.upper ++ upper t := List.flatMap_cons

theorem upper_append (s t : Text) : upper (s ++ t) = upper s ++ upper t := List.flatMap_append

theorem upper_of_forall {t : Text} (h : ∀ c ∈ t, c.upper = [c]) : upper t = t := by
  induction t with
  | nil => rfl
  | cons c t ih =>
    obtain ⟨hc, ht⟩ := List.forall_mem_cons.mp h
    rw [upper_cons, hc, ih ht]
    rfl

theorem upper_upper (t : Text) : upper (upper t) = upper t := by
  apply upper_of_forall
  intro d hd
  obtain ⟨c, -, hdc⟩ := List.mem_flatMap.mp hd
  exact CodePoint.upper_of_mem_upper hdc

theorem length_le_length_upper (t : Text) : t.length ≤ (upper t).length := by
  induction t with
  | nil => simp
  | cons c t ih =>
    have hpos := List.length_pos_iff.mpr c.upper_ne_nil
    rw [upper_cons, List.length_append, List.length_cons]
    omega

theorem trim_upper {t : Text} (h : t.trim = t) : (upper t).trim = upper t := by
  have hbare := trimBy_eq_self_iff.mp h
  have hends : Bare CodePoint.isWhiteSpace (upper t) := by
    constructor
    · intro d hd
      cases t with
      | nil => simp [upper] at hd
      | cons c t =>
        rw [upper_cons, List.head?_append_of_ne_nil _ c.upper_ne_nil] at hd
        exact CodePoint.not_isWhiteSpace_of_mem_upper (List.mem_of_mem_head? hd)
          (hbare.first c rfl)
    · intro d hd
      rcases t.eq_nil_or_concat with rfl | ⟨s, c, rfl⟩
      · simp [upper] at hd
      · have hlast : upper [c] = c.upper := List.flatMap_singleton _ _
        rw [List.concat_eq_append, upper_append, hlast,
          List.getLast?_append_of_ne_nil _ c.upper_ne_nil] at hd
        exact CodePoint.not_isWhiteSpace_of_mem_upper (List.mem_of_getLast? hd)
          (hbare.last c (by simp))
  exact hends.trimBy_eq

end Text

end ParticipantRegistry
