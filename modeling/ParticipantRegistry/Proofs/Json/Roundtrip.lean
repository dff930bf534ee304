import Mathlib.Data.List.Nodup
import Mathlib.Tactic.SplitIfs
import ParticipantRegistry.Proofs.Json.Numbers

/-!
# Reading what was written

A value in which no object repeats a name and no integer is too long is read back as it was written, on
one line or on several, as long as it is not nested too deep. A string is written so that its closing quote is the
first one that is not escaped, and a control character is never taken for half of a surrogate pair.
-/

namespace ParticipantRegistry.Json

def pieceOf (c : CodePoint) : Piece :=
  if escapeLetter? c = none ∧ c.val < 0x20 then .numbered c else .plain c

private theorem backslash_ne_quote : ¬(('\\' : CodePoint) = '"') := by decide

private theorem backslash_not_control : ¬('\\' : CodePoint).val < 0x20 := by decide

theorem readPieces_plain (opening : Text) {c : CodePoint} (hq : c ≠ '"') (hc : ¬c.val < 0x20)
    (hb : c ≠ '\\') (s : Text) :
    readPieces opening (c :: s) =
      (readPieces opening s).map fun (ps, rest) => (.plain c :: ps, rest) := by
  rw [readPieces.eq_def]
  simp only [if_neg hq, if_neg hc, if_pos hb]

theorem readPieces_letter (opening : Text) {e d : CodePoint} (hu : e ≠ 'u')
    (hd : unescape? e = some d) (s : Text) :
    readPieces opening (('\\' : CodePoint) :: e :: s) =
      (readPieces opening s).map fun (ps, rest) => (.plain d :: ps, rest) := by
  rw [readPieces.eq_def]
  simp only [if_neg backslash_ne_quote, if_neg backslash_not_control, ne_eq, not_true_eq_false,
    if_false, hu, not_false_eq_true, if_true, hd]

theorem ofHex?_hexDigits {n : Nat} (h : n < 0x10000) :
    ∃ h₁ h₂ h₃ h₄, Text.hexDigits 4 n = [h₁, h₂, h₃, h₄] ∧
      ofHex? h₁ h₂ h₃ h₄ = some (.ofNat n) := by
  refine ⟨_, _, _, _, rfl, ?_⟩
  have hdigit (m : Nat) := CodePoint.hexValue?_ofHexDigit (m % 16) (Nat.mod_lt m (by decide))
  simp only [ofHex?, hdigit]
  congr 2
  omega

theorem readPieces_number (opening : Text) {c : CodePoint} (h : c.val < 0x10000) (n : CodePoint)
    (s : Text) :
    readPieces opening (escapeNumber c.val ++ n :: s) =
      (readPieces opening (n :: s)).map fun (ps, rest) => (.numbered c :: ps, rest) := by
  obtain ⟨h₁, h₂, h₃, h₄, hdigits, hvalue⟩ := ofHex?_hexDigits h
  have hc : CodePoint.ofNat c.val = c := Fin.ext (CodePoint.val_ofNat c.isLt)
  rw [hc] at hvalue
  have hescape : escapeNumber c.val ++ n :: s =
      ('\\' : CodePoint) :: ('u' : CodePoint) :: h₁ :: h₂ :: h₃ :: h₄ :: n :: s := by
    rw [escapeNumber, hdigits]
    rfl
  rw [hescape, readPieces.eq_def]
  simp only [if_neg backslash_ne_quote, if_neg backslash_not_control, ne_eq, not_true_eq_false,
    if_false, hvalue]

theorem unescape?_of_escapeLetter? {c e : CodePoint} (h : escapeLetter? c = some e) :
    e ≠ 'u' ∧ unescape? e = some c := by
  rw [escapeLetter?] at h
  split_ifs at h with h₁ h₂ h₃ h₄ h₅ h₆ h₇
  all_goals
    obtain rfl := Option.some.inj h
    refine ⟨by decide, ?_⟩
  · rw [h₁]; decide
  · rw [h₂]; decide
  · rw [h₃]; decide
  · rw [h₄]; decide
  · rw [h₅]; decide
  · rw [show c = .ofNat 8 from Fin.ext h₆]; decide
  · rw [show c = .ofNat 12 from Fin.ext h₇]; decide

theorem readPieces_writePoint (opening : Text) (c n : CodePoint) (s : Text) :
    readPieces opening (writePoint false c ++ n :: s) =
      (readPieces opening (n :: s)).map fun (ps, rest) => (pieceOf c :: ps, rest) := by
  cases hletter : escapeLetter? c with
  | some e =>
    obtain ⟨hu, hd⟩ := unescape?_of_escapeLetter? hletter
    have hpiece : pieceOf c = .plain c := if_neg fun h => by simp [hletter] at h
    rw [writePoint, hletter, hpiece]
    exact readPieces_letter opening hu hd (n :: s)
  | none =>
    rw [writePoint, hletter]
    by_cases hc : c.val < 0x20
    · simp only [pieceOf, hletter, hc, and_self, if_true]
      exact readPieces_number opening (by omega) n s
    · have hq : c ≠ '"' := by
        rintro rfl
        exact absurd hletter (by decide)
      have hb : c ≠ '\\' := by
        rintro rfl
        exact absurd hletter (by decide)
      simp only [pieceOf, hletter, hc, and_false, if_false]
      exact readPieces_plain opening hq hc hb (n :: s)

theorem readPieces_write (opening t rest : Text) :
    readPieces opening (t.flatMap (writePoint false) ++ ('"' : CodePoint) :: rest) =
      .ok (t.map pieceOf, rest) := by
  induction t with
  | nil =>
    rw [List.flatMap_nil, List.nil_append, readPieces.eq_def]
    rfl
  | cons c t ih =>
    rw [List.flatMap_cons, List.append_assoc]
    -- what follows a code point is not empty, for the closing quote is still to come
    obtain ⟨n, s, hs⟩ : ∃ n s, t.flatMap (writePoint false) ++ ('"' : CodePoint) :: rest = n :: s :=
      List.exists_cons_of_ne_nil (by simp)
    rw [hs, readPieces_writePoint, ← hs, ih]
    rfl

theorem joinPieces_pieceOf (t : Text) : joinPieces (t.map pieceOf) = t := by
  induction t with
  | nil => rfl
  | cons c t ih =>
    rw [List.map_cons, pieceOf]
    split
    · next h =>
      have hc : c.isHighSurrogate = false := by
        rw [CodePoint.isHighSurrogate, Bool.and_eq_false_iff]
        exact .inl (decide_eq_false (by omega))
      cases hps : t.map pieceOf with
      | nil => rw [hps] at ih; rw [← ih]; rfl
      | cons p ps =>
        rw [hps] at ih
        cases p with
        | plain d => rw [joinPieces.eq_def]; simp only [ih]
        | numbered d => rw [joinPieces.eq_def]; simp [hc, ih]
    · rw [joinPieces, ih]

theorem readString_write (t rest : Text) :
    readString (t.flatMap (writePoint false) ++ ('"' : CodePoint) :: rest) = .ok (t, rest) := by
  rw [readString, readPieces_write]
  exact congrArg (fun t => (.ok (t, rest) : Reading Text)) (joinPieces_pieceOf t)

theorem skipBlanks_of_blanks {blanks : Text} (h : ∀ c ∈ blanks, isBlank c = true) (s : Text) :
    skipBlanks (blanks ++ s) = skipBlanks s := List.dropWhile_append_of_pos h

theorem skipBlanks_visible {c : CodePoint} (h : isBlank c = false) (s : Text) :
    skipBlanks (c :: s) = c :: s := List.dropWhile_cons_of_neg (by simp [h])

theorem skipBlanks_lineBreak (layout : Layout) (level : Nat) (s : Text) :
    skipBlanks (lineBreak layout level ++ s) = skipBlanks s := by
  apply skipBlanks_of_blanks
  rw [lineBreak]
  cases layout.indent with
  | none => nofun
  | some width =>
    intro c hc
    rcases List.mem_cons.mp hc with rfl | hc
    · decide
    · rw [(List.mem_replicate.mp hc).2]
      decide

theorem separator_eq (layout : Layout) (level : Nat) :
    ∃ gap : Text, separator layout level = (',' : CodePoint) :: gap ∧
      ∀ s, skipBlanks (gap ++ s) = skipBlanks s := by
  rw [separator]
  cases hi : layout.indent with
  | none =>
    refine ⟨[(' ' : CodePoint)], rfl, fun s => skipBlanks_of_blanks (fun c hc => ?_) s⟩
    rw [List.mem_singleton.mp hc]
    decide
  | some width => exact ⟨lineBreak layout level, rfl, skipBlanks_lineBreak layout level⟩

/-- A value that holds at most `room` arrays and objects inside one another, in which no object repeats a
name, no integer is too long to be read and all texts have a property. -/
inductive Plain (ok : Text → Prop) : Nat → Json → Prop
  | null (room : Nat) : Plain ok room .null
  | bool (room : Nat) (b : Bool) : Plain ok room (.bool b)
  | int (room : Nat) {i : Int} (short : (Text.ofNat i.natAbs).length ≤ digitLimit) :
      Plain ok room (.int i)
  | float (room : Nat) (x : Binary64) : Plain ok room (.float x)
  | string (room : Nat) {t : Text} (text : ok t) : Plain ok room (.string t)
  | array {room : Nat} {items : List Json} (parts : ∀ item ∈ items, Plain ok room item) :
      Plain ok (room + 1) (.array items)
  | object {room : Nat} {ms : Members} (distinct : (names ms).Nodup) (texts : ∀ m ∈ ms, ok m.1)
      (parts : ∀ m ∈ ms, Plain ok room m.2) : Plain ok (room + 1) (.object ms)

variable {layout : Layout} {ok : Text → Prop} {room : Nat} {v : Json}

theorem visible_signed {negative : Bool} {t : Text} {found : Json × Text}
    (h : ∀ start, readUnsigned negative start (t ++ []) = .ok found) :
    ∃ (c : CodePoint) (s : Text), signed negative t = c :: s ∧ isBlank c = false ∧ c ≠ ']' ∧
      c.val < 0x80 := by
  obtain ⟨c, s, hs, hc⟩ := exists_digit_of_readUnsigned (h [])
  rw [List.append_nil] at hs
  have hvisible : ∀ d : CodePoint, d.isDigit = true → isBlank d = false ∧ d ≠ ']' ∧ d.val < 0x80 := by
    intro d hd
    rw [CodePoint.isDigit, Bool.and_eq_true, decide_eq_true_eq, decide_eq_true_eq] at hd
    refine ⟨?_, ?_, by omega⟩
    · by_contra hblank
      have hblank : isBlank d = true := by simpa using hblank
      simp only [isBlank, Bool.or_eq_true, decide_eq_true_eq] at hblank
      rcases hblank with ((rfl | rfl) | rfl) | rfl <;> exact absurd hd (by decide)
    · rintro rfl
      exact absurd hd (by decide)
  cases negative with
  | false => exact ⟨c, s, hs, hvisible c hc⟩
  | true => exact ⟨'-', t, rfl, by decide⟩

theorem writeString_eq (t : Text) :
    writeString false t = ('"' : CodePoint) :: (t.flatMap (writePoint false) ++ [('"' : CodePoint)]) :=
  rfl

/-- What is written for a value begins with a visible sign of ASCII, but not with a bracket that closes. -/
theorem Plain.visible (h : Plain ok room v) (layout : Layout) (level : Nat) :
    ∃ (c : CodePoint) (s : Text), writeAt layout level v = c :: s ∧ isBlank c = false ∧ c ≠ ']' ∧
      c.val < 0x80 := by
  cases h with
  | null => exact ⟨'n', "ull", rfl, by decide⟩
  | bool room b =>
    cases b with
    | true => exact ⟨'t', "rue", rfl, by decide⟩
    | false => exact ⟨'f', "alse", rfl, by decide⟩
  | int room short =>
    rw [writeAt, ofInt_eq]
    exact visible_signed fun start => readUnsigned_ofNat short nofun
  | float room x =>
    cases x with
    | nan => exact ⟨'N', "aN", rfl, by decide⟩
    | infinite negative =>
      cases negative with
      | true => exact ⟨'-', "Infinity", rfl, by decide⟩
      | false => exact ⟨'I', "nfinity", rfl, by decide⟩
    | finite negative m e canonical =>
      rw [writeAt, writeFloat_finite]
      exact visible_signed fun start => readUnsigned_magnitude canonical nofun
  | string => exact ⟨'"', _, rfl, by decide⟩
  | @array _ items =>
    cases items with
    | nil => exact ⟨'[', _, rfl, by decide⟩
    | cons item items => exact ⟨'[', _, rfl, by decide⟩
  | @object _ ms =>
    cases ms with
    | nil => exact ⟨'{', _, rfl, by decide⟩
    | cons m ms => exact ⟨'{', _, rfl, by decide⟩

theorem Plain.skipBlanks_write (h : Plain ok room v) (layout : Layout) (level : Nat) (s : Text) :
    skipBlanks (writeAt layout level v ++ s) = writeAt layout level v ++ s := by
  obtain ⟨c, t, ht, hc, -⟩ := h.visible layout level
  rw [ht]
  exact skipBlanks_visible hc (t ++ s)

theorem Plain.exists_fuel (h : Plain ok room v) {level fuel : Nat}
    (hf : 2 * (writeAt layout level v).length ≤ fuel) : ∃ n, fuel = n + 1 := by
  obtain ⟨c, s, hs, -⟩ := h.visible layout level
  rw [hs, List.length_cons] at hf
  exact Nat.exists_eq_add_one.mpr (by omega)

/-- With fuel of twice its length, the value is read back from what is written for it, if nothing follows
that a number could go on with. -/
def ReadsBack (layout : Layout) (room : Nat) (v : Json) : Prop :=
  ∀ (level fuel : Nat) (rest : Text), Ends rest → 2 * (writeAt layout level v).length ≤ fuel →
    readValue room fuel (writeAt layout level v ++ rest) = .ok (v, rest)

theorem ends_cons {c : CodePoint} (h : c.isDigit = false ∧ c ≠ '.' ∧ c ≠ 'e' ∧ c ≠ 'E') (s : Text) :
    Ends (c :: s) := fun d hd => by
  obtain rfl : c = d := Option.some.inj hd
  exact h

theorem ends_lineBreak (layout : Layout) (level : Nat) {rest : Text} (h : Ends rest) :
    Ends (lineBreak layout level ++ rest) := by
  rw [lineBreak]
  cases layout.indent with
  | none => exact h
  | some width => exact ends_cons (by decide) _

theorem ends_writeItems (layout : Layout) (level : Nat) (items : List Json) {rest : Text}
    (h : Ends rest) : Ends (writeItems layout level items ++ rest) := by
  cases items with
  | nil => exact h
  | cons item items =>
    obtain ⟨gap, hgap, -⟩ := separator_eq layout level
    rw [writeItems, hgap]
    exact ends_cons (by decide) _

theorem ends_writeMembers (layout : Layout) (level : Nat) (ms : Members) {rest : Text}
    (h : Ends rest) : Ends (writeMembers layout level ms ++ rest) := by
  cases ms with
  | nil => exact h
  | cons m ms =>
    obtain ⟨gap, hgap, -⟩ := separator_eq layout level
    rw [writeMembers.eq_def, hgap]
    exact ends_cons (by decide) _

theorem readValue_quote (room fuel : Nat) (s : Text) :
    readValue room (fuel + 1) (('"' : CodePoint) :: s) =
      (readString s).map fun (t, rest) => (.string t, rest) := by
  rw [readValue.eq_def]
  rfl

theorem readValue_bracket (room fuel : Nat) {s t : Text} {d : CodePoint}
    (h : skipBlanks s = d :: t) (hd : d ≠ ']') :
    readValue (room + 1) (fuel + 1) (('[' : CodePoint) :: s) =
      (readItems room fuel (d :: t)).map fun (items, rest) => (.array items, rest) := by
  rw [readValue, if_neg (by decide), if_pos rfl, if_neg (Nat.succ_ne_zero room), h]
  exact if_neg hd

theorem readValue_brace (room fuel : Nat) {s t : Text}
    (h : skipBlanks s = ('"' : CodePoint) :: t) :
    readValue (room + 1) (fuel + 1) (('{' : CodePoint) :: s) =
      (readMembers room fuel (('"' : CodePoint) :: t)).map fun (ms, rest) => (ofMembers ms, rest) := by
  rw [readValue, if_neg (by decide), if_neg (by decide), if_pos rfl,
    if_neg (Nat.succ_ne_zero room), h]
  rfl

theorem readItems_write {items : List Json} {item : Json}
    (hplain : ∀ i ∈ item :: items, Plain ok room i)
    (hread : ∀ i ∈ item :: items, ReadsBack layout room i) (level level' fuel : Nat) (rest : Text)
    (hf : 2 * ((writeAt layout level item).length + (writeItems layout level items).length + 1) ≤ fuel) :
    readItems room fuel (writeAt layout level item ++ (writeItems layout level items ++
      (lineBreak layout level' ++ (']' : CodePoint) :: rest))) = .ok (item :: items, rest) := by
  have hends (items : List Json) : Ends (writeItems layout level items ++
      (lineBreak layout level' ++ (']' : CodePoint) :: rest)) :=
    ends_writeItems layout level items (ends_lineBreak layout level' (ends_cons (by decide) rest))
  induction items generalizing item fuel with
  | nil =>
    obtain ⟨fuel, rfl⟩ : ∃ n, fuel = n + 1 := Nat.exists_eq_add_one.mpr (by omega)
    rw [readItems, hread item (by simp) level fuel _ (hends []) (by omega)]
    simp only [writeItems, List.nil_append, skipBlanks_lineBreak]
    rfl
  | cons next items ih =>
    obtain ⟨fuel, rfl⟩ : ∃ n, fuel = n + 1 := Nat.exists_eq_add_one.mpr (by omega)
    obtain ⟨gap, hgap, hskip⟩ := separator_eq layout level
    have hnext := @ih next (fun i hi => hplain i (List.mem_cons_of_mem _ hi))
      (fun i hi => hread i (List.mem_cons_of_mem _ hi)) fuel (by
        simp only [writeItems, hgap, List.length_append, List.length_cons] at hf
        omega)
    rw [readItems, hread item (by simp) level fuel _ (hends _) (by omega)]
    have hcomma : skipBlanks (writeItems layout level (next :: items) ++
        (lineBreak layout level' ++ (']' : CodePoint) :: rest)) = (',' : CodePoint) ::
        (gap ++ (writeAt layout level next ++ (writeItems layout level items ++
          (lineBreak layout level' ++ (']' : CodePoint) :: rest)))) := by
      rw [writeItems, hgap]
      simp only [List.cons_append, List.append_assoc]
      exact skipBlanks_visible (by decide) _
    simp only [hcomma, hskip, (hplain next (by simp)).skipBlanks_write, hnext]
    rfl

def writeMember (layout : Layout) (level : Nat) (m : Text × Json) : Text :=
  writeString layout.asciiOnly m.1 ++ ": " ++ writeAt layout level m.2

theorem readMembers_member (hl : layout.asciiOnly = false) {m : Text × Json}
    (hplain : Plain ok room m.2) (hread : ReadsBack layout room m.2) (level : Nat) {fuel : Nat}
    {s : Text} (hs : Ends s) (hf : 2 * (writeMember layout level m).length ≤ fuel) :
    readMembers room (fuel + 1) (writeMember layout level m ++ s) =
      match skipBlanks s with
      | [] => .error (.fault .comma [])
      | d :: u =>
        if d = '}' then .ok ([m], u)
        else if d = ',' then
          (readMembers room fuel (skipBlanks u)).map fun (ms, rest) => (m :: ms, rest)
        else .error (.fault .comma (d :: u)) := by
  have hlength : (writeAt layout level m.2).length ≤ (writeMember layout level m).length := by
    rw [writeMember, List.length_append]
    omega
  have hopen : writeMember layout level m ++ s = ('"' : CodePoint) ::
      (m.1.flatMap (writePoint false) ++ ('"' : CodePoint) :: (':' : CodePoint) ::
        (' ' : CodePoint) :: (writeAt layout level m.2 ++ s)) := by
    rw [writeMember, hl, writeString_eq]
    simp only [List.append_assoc, List.cons_append, List.nil_append]
    rfl
  have hcolon (t : Text) : skipBlanks ((':' : CodePoint) :: t) = (':' : CodePoint) :: t :=
    skipBlanks_visible (by decide) t
  have hblank : skipBlanks ((' ' : CodePoint) :: (writeAt layout level m.2 ++ s)) =
      writeAt layout level m.2 ++ s := hplain.skipBlanks_write layout level s
  rw [hopen, readMembers]
  rcases hrest : skipBlanks s with _ | ⟨d, u⟩ <;>
    simp only [ne_eq, not_true_eq_false, if_false, readString_write, hcolon, hblank,
      hread level fuel s hs (by omega), hrest]

theorem readMembers_write (hl : layout.asciiOnly = false) {ms : Members} {m : Text × Json}
    (hplain : ∀ n ∈ m :: ms, Plain ok room n.2)
    (hread : ∀ n ∈ m :: ms, ReadsBack layout room n.2) (level level' fuel : Nat) (rest : Text)
    (hf : 2 * ((writeMember layout level m).length + (writeMembers layout level ms).length + 1) ≤ fuel) :
    readMembers room fuel (writeMember layout level m ++ (writeMembers layout level ms ++
      (lineBreak layout level' ++ ('}' : CodePoint) :: rest))) = .ok (m :: ms, rest) := by
  have hends (ms : Members) : Ends (writeMembers layout level ms ++
      (lineBreak layout level' ++ ('}' : CodePoint) :: rest)) :=
    ends_writeMembers layout level ms (ends_lineBreak layout level' (ends_cons (by decide) rest))
  induction ms generalizing m fuel with
  | nil =>
    obtain ⟨fuel, rfl⟩ : ∃ n, fuel = n + 1 := Nat.exists_eq_add_one.mpr (by omega)
    rw [readMembers_member hl (hplain m (by simp)) (hread m (by simp)) level (hends []) (by omega)]
    simp only [writeMembers, List.nil_append, skipBlanks_lineBreak]
    rfl
  | cons next ms ih =>
    obtain ⟨fuel, rfl⟩ : ∃ n, fuel = n + 1 := Nat.exists_eq_add_one.mpr (by omega)
    obtain ⟨gap, hgap, hskip⟩ := separator_eq layout level
    have hwrite : writeMembers layout level (next :: ms) =
        (',' : CodePoint) :: (gap ++ (writeMember layout level next ++ writeMembers layout level ms)) := by
      rw [writeMembers.eq_def, writeMember]
      simp only [hgap, List.cons_append, List.append_assoc]
    have hnext := @ih next (fun n hn => hplain n (List.mem_cons_of_mem _ hn))
      (fun n hn => hread n (List.mem_cons_of_mem _ hn)) fuel (by
        simp only [hwrite, List.length_append, List.length_cons] at hf
        omega)
    have hcomma (t : Text) : skipBlanks ((',' : CodePoint) :: t) = (',' : CodePoint) :: t :=
      skipBlanks_visible (by decide) t
    have hopen (t : Text) : skipBlanks (writeMember layout level next ++ t) =
        writeMember layout level next ++ t := by
      rw [writeMember, hl, writeString_eq]
      exact skipBlanks_visible (by decide) _
    rw [readMembers_member hl (hplain m (by simp)) (hread m (by simp)) level (hends _) (by omega),
      hwrite]
    simp only [List.cons_append, List.append_assoc, hcomma, hskip, hopen, hnext]
    rfl

theorem setMember_of_not_mem {name : Text} {value : Json} {ms : Members} (h : name ∉ names ms) :
    setMember name value ms = ms ++ [(name, value)] := by
  induction ms with
  | nil => rfl
  | cons m ms ih =>
    rw [names, List.map_cons, List.mem_cons, not_or] at h
    rw [setMember, if_neg (Ne.symm h.1), ih h.2]
    rfl

theorem foldl_setMember_of_distinct {done ms : Members} (h : (names (done ++ ms)).Nodup) :
    ms.foldl (fun done m => setMember m.1 m.2 done) done = done ++ ms := by
  induction ms generalizing done with
  | nil => rw [List.foldl_nil, List.append_nil]
  | cons m ms ih =>
    have hnew : m.1 ∉ names done := by
      rw [names, List.map_append, List.map_cons] at h
      exact fun hm => List.disjoint_of_nodup_append h hm List.mem_cons_self
    have hsplit : done ++ m :: ms = done ++ [m] ++ ms := by simp
    rw [List.foldl_cons, setMember_of_not_mem hnew, hsplit]
    exact ih (hsplit ▸ h)

theorem ofMembers_of_distinct {ms : Members} (h : (names ms).Nodup) : ofMembers ms = .object ms := by
  have hnone : (names ([] ++ ms)).Nodup := h
  exact congrArg Json.object (foldl_setMember_of_distinct hnone)

theorem readsBack_array {items : List Json} (parts : ∀ item ∈ items, Plain ok room item)
    (hitems : ∀ item ∈ items, ReadsBack layout room item) :
    ReadsBack layout (room + 1) (.array items) := by
  intro level fuel rest hr hf
  obtain ⟨fuel, rfl⟩ := (Plain.array parts).exists_fuel hf
  cases items with
  | nil => rfl
  | cons item items =>
    obtain ⟨c, s, hs, -, hc, -⟩ := (parts item (by simp)).visible layout (level + 1)
    have hread := readItems_write parts hitems (level + 1) level fuel rest (by
      have hopen : (("[" : String) : Text).length = 1 := rfl
      have hclose : (("]" : String) : Text).length = 1 := rfl
      simp only [writeAt, List.length_append] at hf
      omega)
    have hskip := (parts item (by simp)).skipBlanks_write layout (level + 1)
      (writeItems layout (level + 1) items ++ (lineBreak layout level ++ (']' : CodePoint) :: rest))
    rw [hs, List.cons_append] at hread hskip
    have hopen : writeAt layout level (.array (item :: items)) ++ rest = ('[' : CodePoint) ::
        (lineBreak layout (level + 1) ++ (c :: (s ++ (writeItems layout (level + 1) items ++
          (lineBreak layout level ++ (']' : CodePoint) :: rest))))) := by
      rw [writeAt, hs]
      simp only [List.append_assoc, List.cons_append]
      rfl
    rw [hopen, readValue_bracket room fuel ((skipBlanks_lineBreak _ _ _).trans hskip) hc, hread]
    rfl

theorem readsBack_object (hl : layout.asciiOnly = false) {ms : Members}
    (distinct : (names ms).Nodup) (texts : ∀ m ∈ ms, ok m.1) (parts : ∀ m ∈ ms, Plain ok room m.2)
    (hvalues : ∀ m ∈ ms, ReadsBack layout room m.2) : ReadsBack layout (room + 1) (.object ms) := by
  intro level fuel rest hr hf
  obtain ⟨fuel, rfl⟩ := (Plain.object distinct texts parts).exists_fuel hf
  cases ms with
  | nil => rfl
  | cons m ms =>
    obtain ⟨name, value⟩ := m
    have hread := readMembers_write hl parts hvalues (level + 1) level fuel rest (by
      have hopen : (("\x7b" : String) : Text).length = 1 := rfl
      have hclose : (("\x7d" : String) : Text).length = 1 := rfl
      simp only [writeAt, List.length_append] at hf
      simp only [writeMember, List.length_append]
      omega)
    obtain ⟨s, hs⟩ : ∃ s, writeMember layout (level + 1) (name, value) ++
        (writeMembers layout (level + 1) ms ++ (lineBreak layout level ++ ('}' : CodePoint) :: rest)) =
          ('"' : CodePoint) :: s := by
      rw [writeMember, hl]
      exact ⟨_, rfl⟩
    have hskip : skipBlanks (lineBreak layout (level + 1) ++ ('"' : CodePoint) :: s) =
        ('"' : CodePoint) :: s :=
      (skipBlanks_lineBreak _ _ _).trans (skipBlanks_visible (by decide) s)
    rw [hs] at hread
    have hopen : writeAt layout level (.object ((name, value) :: ms)) ++ rest =
        ('{' : CodePoint) :: (lineBreak layout (level + 1) ++ ('"' : CodePoint) :: s) := by
      rw [← hs, writeAt, writeMember]
      simp only [List.append_assoc]
      rfl
    rw [hopen, readValue_brace room fuel hskip, hread]
    exact congrArg (fun v => (.ok (v, rest) : Reading Json)) (ofMembers_of_distinct distinct)

theorem Plain.readsBack (hl : layout.asciiOnly = false) (h : Plain ok room v) :
    ReadsBack layout room v := by
  induction h with
  | null room =>
    intro level fuel rest hr hf
    obtain ⟨fuel, rfl⟩ := (Plain.null room : Plain ok room .null).exists_fuel hf
    rfl
  | bool room b =>
    intro level fuel rest hr hf
    obtain ⟨fuel, rfl⟩ := (Plain.bool room b : Plain ok room (.bool b)).exists_fuel hf
    cases b <;> rfl
  | int room short =>
    intro level fuel rest hr hf
    obtain ⟨fuel, rfl⟩ := (Plain.int room short : Plain ok room _).exists_fuel hf
    exact readValue_ofInt room fuel short hr
  | float room x =>
    intro level fuel rest hr hf
    obtain ⟨fuel, rfl⟩ := (Plain.float room x : Plain ok room (.float x)).exists_fuel hf
    exact readValue_writeFloat room fuel x hr
  | string room text =>
    intro level fuel rest hr hf
    obtain ⟨fuel, rfl⟩ := (Plain.string room text).exists_fuel hf
    rw [writeAt, hl, writeString_eq, List.cons_append, List.append_assoc, readValue_quote]
    exact congrArg (Except.map _) (readString_write _ rest)
  | array parts ih => exact readsBack_array parts ih
  | object distinct texts parts ih => exact readsBack_object hl distinct texts parts ih

theorem Plain.mono {ok' : Text → Prop} {room' : Nat} (h : Plain ok room v) (hr : room ≤ room')
    (hok : ∀ t, ok t → ok' t) : Plain ok' room' v := by
  induction h generalizing room' with
  | null => exact .null room'
  | bool _ b => exact .bool room' b
  | int _ short => exact .int room' short
  | float _ x => exact .float room' x
  | string _ text => exact .string room' (hok _ text)
  | array parts ih =>
    obtain ⟨room', rfl⟩ : ∃ n, room' = n + 1 := Nat.exists_eq_add_one.mpr (by omega)
    exact .array fun item hi => ih item hi (by omega)
  | object distinct texts parts ih =>
    obtain ⟨room', rfl⟩ : ∃ n, room' = n + 1 := Nat.exists_eq_add_one.mpr (by omega)
    exact .object distinct (fun m hm => hok _ (texts m hm)) fun m hm => ih m hm (by omega)

theorem ends_of_blanks {blanks : Text} (h : ∀ c ∈ blanks, isBlank c = true) : Ends blanks := by
  cases blanks with
  | nil => nofun
  | cons c blanks =>
    have hc := h c List.mem_cons_self
    simp only [isBlank, Bool.or_eq_true, decide_eq_true_eq] at hc
    rcases hc with ((rfl | rfl) | rfl) | rfl <;> exact ends_cons (by decide) blanks

/-- A plain value that is not nested too deep is read back from a text with blanks at its end. -/
theorem Plain.read_write (hl : layout.asciiOnly = false) (h : Plain ok room v)
    (hr : room ≤ nestingLimit) {blanks : Text} (hb : ∀ c ∈ blanks, isBlank c = true) :
    read (write layout v ++ blanks) = .ok v := by
  obtain ⟨c, s, hs, -, -, hc⟩ := h.visible layout 0
  have hmark : (write layout v ++ blanks).head? ≠ some (.ofNat 0xFEFF) := by
    rw [write, hs, List.cons_append, List.head?_cons]
    intro he
    rw [Option.some.inj he] at hc
    exact absurd hc (by decide)
  have hread : readValue nestingLimit (2 * (write layout v ++ blanks).length + 1)
      (skipBlanks (write layout v ++ blanks)) = .ok (v, blanks) := by
    rw [write, h.skipBlanks_write]
    apply (h.mono hr fun _ hok => hok).readsBack hl
    · exact ends_of_blanks hb
    · rw [List.length_append]
      omega
  have hend : skipBlanks blanks = [] := by
    rw [← List.append_nil blanks, skipBlanks_of_blanks hb]
    rfl
  rw [read, readText, if_neg hmark, hread]
  simp only [hend]
  rfl

/-- An object may leave members out. -/
theorem Plain.filter {ms : Members} (h : Plain ok room (.object ms)) (p : Text × Json → Bool) :
    Plain ok room (.object (ms.filter p)) := by
  cases h with
  | object distinct texts parts =>
    exact .object ((List.filter_sublist.map _).nodup distinct)
      (fun m hm => texts m (List.mem_of_mem_filter hm)) fun m hm => parts m (List.mem_of_mem_filter hm)

theorem Plain.ofText? {t? : Option Text} (h : ∀ t ∈ t?, ok t) : Plain ok room (ofText? t?) := by
  cases t? with
  | none => exact .null room
  | some t => exact .string room (h t rfl)

theorem Plain.strings {ts : List Text} (h : ∀ t ∈ ts, ok t) :
    Plain ok (room + 1) (.array (ts.map .string)) := by
  refine .array fun item hitem => ?_
  obtain ⟨t, ht, rfl⟩ := List.mem_map.mp hitem
  exact .string room (h t ht)

theorem mapM_eq_ok {ε α β γ : Type} {make : α → β} {readItem : β → Except ε γ} {f : α → γ}
    {as : List α} (h : ∀ a ∈ as, readItem (make a) = .ok (f a)) :
    (as.map make).mapM readItem = .ok (as.map f) := by
  induction as with
  | nil => rfl
  | cons a as ih =>
    obtain ⟨ha, has⟩ := List.forall_mem_cons.mp h
    rw [List.map_cons, List.mapM_cons, ha, ih has]
    rfl

/-- Items that fail all fail alike, so it does not matter which of them is first. -/
theorem mapM_eq_ite {ε α β γ : Type} {make : α → β} {readItem : β → Except ε γ} {f : α → γ}
    {good : α → Prop} [DecidablePred good] {e : ε} {as : List α}
    (h : ∀ a ∈ as, readItem (make a) = if good a then .ok (f a) else .error e) :
    (as.map make).mapM readItem = if ∀ a ∈ as, good a then .ok (as.map f) else .error e := by
  induction as with
  | nil => simp [pure, Except.pure]
  | cons a as ih =>
    obtain ⟨ha, has⟩ := List.forall_mem_cons.mp h
    rw [List.map_cons, List.mapM_cons, ha, ih has]
    simp only [List.forall_mem_cons]
    by_cases hgood : good a
    · by_cases hrest : ∀ b ∈ as, good b
      · rw [if_pos hgood, if_pos hrest, if_pos ⟨hgood, hrest⟩]
        rfl
      · rw [if_pos hgood, if_neg hrest, if_neg fun hall => hrest hall.2]
        rfl
    · have hall : ¬(good a ∧ ∀ b ∈ as, good b) := fun hall => hgood hall.1
      rw [if_neg hgood, if_neg hall]
      rfl

theorem escapeLetter?_ascii {c e : CodePoint} (h : escapeLetter? c = some e) :
    e.val < 0x80 ∧ e ≠ '\r' := by
  rw [escapeLetter?] at h
  split_ifs at h
  all_goals
    obtain rfl := Option.some.inj h
    decide

theorem hexDigits_ascii (width n : Nat) :
    ∀ c ∈ Text.hexDigits width n, c.val < 0x80 ∧ c ≠ '\r' := by
  have hdigit : ∀ d < 16, (CodePoint.ofHexDigit d).val < 0x80 ∧ CodePoint.ofHexDigit d ≠ '\r' := by
    decide
  induction width generalizing n with
  | zero => nofun
  | succ width ih =>
    intro c hc
    rcases List.mem_append.mp hc with hc | hc
    · exact ih (n / 16) c hc
    · rw [List.mem_singleton.mp hc]
      exact hdigit (n % 16) (Nat.mod_lt n (by decide))

theorem mem_writePoint {c d : CodePoint} (h : d ∈ writePoint false c) :
    d = c ∧ 0x20 ≤ c.val ∨ d.val < 0x80 ∧ d ≠ '\r' := by
  rw [writePoint] at h
  cases hletter : escapeLetter? c with
  | some e =>
    simp only [hletter, List.mem_cons, List.not_mem_nil, or_false] at h
    rcases h with rfl | rfl
    · exact .inr (by decide)
    · exact .inr (escapeLetter?_ascii hletter)
  | none =>
    simp only [hletter, Bool.not_false, Bool.true_or, if_true] at h
    split_ifs at h with hc
    · rcases List.mem_append.mp h with h | h
      · refine .inr ?_
        rcases List.mem_cons.mp h with rfl | h
        · decide
        · rw [List.mem_singleton.mp h]
          decide
      · exact .inr (hexDigits_ascii 4 c.val d h)
    · exact .inl ⟨List.mem_singleton.mp h, by omega⟩

section Signs

variable {P : CodePoint → Prop} (hascii : ∀ c : CodePoint, c.val < 0x80 → c ≠ '\r' → P c)

include hascii

theorem forall_mem_lineBreak (layout : Layout) (level : Nat) : ∀ c ∈ lineBreak layout level, P c := by
  intro c hc
  rw [lineBreak] at hc
  cases hi : layout.indent with
  | none => simp [hi] at hc
  | some width =>
    rw [hi] at hc
    rcases List.mem_cons.mp hc with rfl | hc
    · exact hascii _ (by decide) (by decide)
    · rw [(List.mem_replicate.mp hc).2]
      exact hascii _ (by decide) (by decide)

theorem forall_mem_separator (layout : Layout) (level : Nat) :
    ∀ c ∈ separator layout level, P c := by
  have hcomma : P ',' := hascii _ (by decide) (by decide)
  have hblank : P ' ' := hascii _ (by decide) (by decide)
  rw [separator]
  cases layout.indent with
  | none => exact List.forall_mem_cons.mpr ⟨hcomma, List.forall_mem_singleton.mpr hblank⟩
  | some width => exact List.forall_mem_cons.mpr ⟨hcomma, forall_mem_lineBreak hascii layout level⟩

theorem forall_mem_writeString {t : Text} (ht : ∀ c ∈ t, 0x20 ≤ c.val → P c) :
    ∀ c ∈ writeString false t, P c := by
  have hquote : P '"' := hascii _ (by decide) (by decide)
  rw [writeString_eq, List.forall_mem_cons, List.forall_mem_append, List.forall_mem_singleton]
  refine ⟨hquote, fun d hd => ?_, hquote⟩
  obtain ⟨c, hc, hd⟩ := List.mem_flatMap.mp hd
  rcases mem_writePoint hd with ⟨rfl, hv⟩ | ⟨hv, hr⟩
  · exact ht d hc hv
  · exact hascii d hv hr

theorem forall_mem_writeItems {items : List Json} (level : Nat)
    (h : ∀ item ∈ items, ∀ c ∈ writeAt layout level item, P c) :
    ∀ c ∈ writeItems layout level items, P c := by
  induction items with
  | nil => nofun
  | cons item items ih =>
    obtain ⟨hitem, hitems⟩ := List.forall_mem_cons.mp h
    rw [writeItems, List.forall_mem_append, List.forall_mem_append]
    exact ⟨⟨forall_mem_separator hascii layout level, hitem⟩, ih hitems⟩

theorem forall_mem_writeMembers {ms : Members} (level : Nat)
    (h : ∀ m ∈ ms, ∀ c ∈ writeMember layout level m, P c) :
    ∀ c ∈ writeMembers layout level ms, P c := by
  induction ms with
  | nil => nofun
  | cons m ms ih =>
    obtain ⟨name, value⟩ := m
    obtain ⟨hm, hms⟩ := List.forall_mem_cons.mp h
    have hseparator := forall_mem_separator hascii layout level
    rw [writeMember, List.forall_mem_append, List.forall_mem_append] at hm
    simp only [writeMembers, List.forall_mem_append]
    exact ⟨⟨⟨⟨hseparator, hm.1.1⟩, hm.1.2⟩, hm.2⟩, ih hms⟩

/-- What holds of the signs of ASCII but the carriage return, and of the code points of all texts but
control characters, holds of all that is written for a value. -/
theorem Plain.forall_mem_write (hl : layout.asciiOnly = false)
    (hok : ∀ t, ok t → ∀ c ∈ t, 0x20 ≤ c.val → P c) (h : Plain ok room v) (level : Nat) :
    ∀ c ∈ writeAt layout level v, P c := by
  have hsigns (t : Text) (ht : (t.all fun c => c.val < 0x80 && c ≠ '\r') = true) : ∀ c ∈ t, P c := by
    intro c hc
    have hsign := List.all_eq_true.mp ht c hc
    rw [Bool.and_eq_true, decide_eq_true_eq, decide_eq_true_eq] at hsign
    exact hascii c hsign.1 hsign.2
  have hbreak (level : Nat) := forall_mem_lineBreak hascii layout level
  have hnumber {t : Text} (ht : ∀ c ∈ t, isNumeric c = true) : ∀ c ∈ t, P c := fun c hc =>
    hascii c (ascii_of_isNumeric (ht c hc)).1 (ascii_of_isNumeric (ht c hc)).2
  induction h generalizing level with
  | null => exact hsigns "null" (by decide)
  | bool room b =>
    cases b with
    | true => exact hsigns "true" (by decide)
    | false => exact hsigns "false" (by decide)
  | int room short =>
    rw [writeAt, ofInt_eq]
    exact hnumber (forall_mem_signed (isNumeric_of_isDigit (Text.isDigit_of_mem_ofNat _)))
  | float room x =>
    cases x with
    | nan => exact hsigns "NaN" (by decide)
    | infinite negative =>
      cases negative with
      | true => exact hsigns "-Infinity" (by decide)
      | false => exact hsigns "Infinity" (by decide)
    | finite negative m e canonical =>
      rw [writeAt, writeFloat_finite]
      exact hnumber (forall_mem_signed (isNumeric_magnitudeText _ _ _))
  | string room text =>
    rw [writeAt, hl]
    exact forall_mem_writeString hascii (hok _ text)
  | @array room items parts ih =>
    cases items with
    | nil => exact hsigns "[]" (by decide)
    | cons item items =>
      obtain ⟨hitem, hitems⟩ := List.forall_mem_cons.mp ih
      simp only [writeAt, List.forall_mem_append]
      exact ⟨⟨⟨⟨⟨hsigns "[" (by decide), hbreak _⟩, hitem _⟩,
        forall_mem_writeItems hascii _ fun i hi => hitems i hi _⟩, hbreak _⟩,
        hsigns "]" (by decide)⟩
  | @object room ms distinct texts parts ih =>
    cases ms with
    | nil => exact hsigns "\x7b\x7d" (by decide)
    | cons m ms =>
      obtain ⟨name, value⟩ := m
      have hmember (m : Text × Json) (hm : m ∈ (name, value) :: ms) :
          ∀ c ∈ writeMember layout (level + 1) m, P c := by
        rw [writeMember, hl, List.forall_mem_append, List.forall_mem_append]
        exact ⟨⟨forall_mem_writeString hascii (hok _ (texts m hm)), hsigns ": " (by decide)⟩,
          ih m hm _⟩
      obtain ⟨hm, hms⟩ := List.forall_mem_cons.mp hmember
      rw [writeMember, List.forall_mem_append, List.forall_mem_append] at hm
      simp only [writeAt, List.forall_mem_append]
      exact ⟨⟨⟨⟨⟨⟨⟨hsigns "\x7b" (by decide), hbreak _⟩, hm.1.1⟩, hm.1.2⟩, hm.2⟩,
        forall_mem_writeMembers hascii _ hms⟩, hbreak _⟩, hsigns "\x7d" (by decide)⟩

end Signs

theorem Plain.isUnicode_write (hl : layout.asciiOnly = false)
    (h : Plain (fun t => t.isUnicode = true) room v) : (write layout v).isUnicode = true := by
  rw [Text.isUnicode, List.all_eq_true]
  refine h.forall_mem_write (P := fun c => (!c.isSurrogate) = true) (fun c hc _ => ?_)
    hl (fun t ht c hc _ => List.all_eq_true.mp ht c hc) 0
  rw [Bool.not_eq_true', CodePoint.isSurrogate, Bool.and_eq_false_iff]
  exact .inl (decide_eq_false (by omega))

theorem Plain.no_return_write (hl : layout.asciiOnly = false) (h : Plain ok room v) :
    ∀ c ∈ write layout v, c ≠ '\r' := by
  refine h.forall_mem_write (P := fun c => c ≠ '\r') (fun c _ hc => hc) hl (fun t _ c _ hc => ?_) 0
  rintro rfl
  exact absurd hc (by decide)

end ParticipantRegistry.Json
