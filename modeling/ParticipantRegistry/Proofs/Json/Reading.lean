import ParticipantRegistry.Proofs.Json.Roundtrip

/-!
# What reading gives

Whatever text is read as a value, the value is plain: it is nested no deeper than values may be, no
object in it repeats a name, and every integer is short enough to be read again. So a value that was
read is the same after it is written and read once more.
-/

namespace ParticipantRegistry.Json

theorem mem_setMember {name : Text} {value : Json} {ms : Members} {m : Text × Json}
    (h : m ∈ setMember name value ms) : m = (name, value) ∨ m ∈ ms := by
  induction ms with
  | nil => exact .inl (List.mem_singleton.mp h)
  | cons first ms ih =>
    rw [setMember] at h
    split at h
    · exact (List.mem_cons.mp h).imp_right (List.mem_cons_of_mem first)
    · rcases List.mem_cons.mp h with rfl | h
      · exact .inr List.mem_cons_self
      · exact (ih h).imp_right (List.mem_cons_of_mem first)

theorem distinct_setMember {name : Text} {value : Json} {ms : Members} (h : (names ms).Nodup) :
    (names (setMember name value ms)).Nodup := by
  induction ms with
  | nil => exact List.nodup_singleton name
  | cons first ms ih =>
    obtain ⟨hfirst, hms⟩ := List.nodup_cons.mp h
    rw [setMember]
    split
    · next heq => exact heq ▸ h
    · next hne =>
      refine List.nodup_cons.mpr ⟨fun hmem => ?_, ih hms⟩
      obtain ⟨m, hm, hname⟩ := List.mem_map.mp hmem
      rcases mem_setMember hm with rfl | hm
      · exact hne hname.symm
      · exact hfirst (hname ▸ List.mem_map_of_mem hm)

/-- An object made of members that come in any order, also with repeated names, is plain if their values
are. -/
theorem plain_ofMembers {room : Nat} {ms : Members}
    (h : ∀ m ∈ ms, Plain (fun _ => True) room m.2) : Plain (fun _ => True) (room + 1) (ofMembers ms) := by
  suffices hdone : ∀ done : Members, (names done).Nodup →
      (∀ m ∈ done, Plain (fun _ => True) room m.2) →
      Plain (fun _ => True) (room + 1)
        (.object (ms.foldl (fun done m => setMember m.1 m.2 done) done)) from
    hdone [] List.nodup_nil (List.forall_mem_nil _)
  intro done hdistinct hparts
  induction ms generalizing done with
  | nil => exact .object hdistinct (fun _ _ => trivial) hparts
  | cons m ms ih =>
    obtain ⟨hm, hms⟩ := List.forall_mem_cons.mp h
    refine ih hms _ (distinct_setMember hdistinct) fun n hn => ?_
    rcases mem_setMember hn with rfl | hn
    · exact hm
    · exact hparts n hn

theorem isDigit_of_mem_takeDigits {s : Text} : ∀ c ∈ takeDigits s, c.isDigit = true :=
  fun _ hc => List.mem_takeWhile_imp hc

theorem isDigit_of_splitWhole {s whole rest : Text} (h : splitWhole s = some (whole, rest)) :
    whole ≠ [] ∧ ∀ c ∈ whole, c.isDigit = true := by
  cases s with
  | nil => cases h
  | cons c s =>
    rw [splitWhole] at h
    split_ifs at h with hzero hdigit
    · obtain ⟨rfl, -⟩ := Prod.mk.inj (Option.some.inj h)
      exact ⟨List.cons_ne_nil _ _, List.forall_mem_singleton.mpr (hzero ▸ rfl)⟩
    · obtain ⟨rfl, -⟩ := Prod.mk.inj (Option.some.inj h)
      exact ⟨List.cons_ne_nil _ _, List.forall_mem_cons.mpr ⟨hdigit, isDigit_of_mem_takeDigits⟩⟩

theorem length_ofNat_toNat {digits : Text} (hne : digits ≠ [])
    (h : ∀ c ∈ digits, c.isDigit = true) :
    (Text.ofNat (Text.toNat digits)).length ≤ digits.length := by
  obtain ⟨k, hk⟩ := Nat.exists_eq_add_one.mpr (List.length_pos_iff.mpr hne)
  have hlt := Text.toNat_lt h
  rw [hk] at hlt ⊢
  exact Text.length_ofNat_le hlt

variable {room : Nat} {s rest : Text} {v : Json}

theorem plain_of_readUnsigned {negative : Bool} {start : Text}
    (h : readUnsigned negative start s = .ok (v, rest)) : Plain (fun _ => True) room v := by
  rw [readUnsigned] at h
  cases hw : splitWhole s with
  | none =>
    rw [hw] at h
    cases h
  | some found =>
    obtain ⟨whole, s'⟩ := found
    obtain ⟨hne, hdigits⟩ := isDigit_of_splitWhole hw
    simp only [hw] at h
    split at h
    · by_cases hfraction : (splitFraction s').1 = []
      · rw [if_pos hfraction] at h
        split at h
        · cases h
        · next hlimit =>
          obtain ⟨rfl, -⟩ := Prod.mk.inj (Except.ok.inj h)
          refine .int room ?_
          have hshort := (length_ofNat_toNat hne hdigits).trans (Nat.not_lt.mp hlimit)
          cases negative <;> simpa using hshort
      · rw [if_neg hfraction] at h
        obtain ⟨rfl, -⟩ := Prod.mk.inj (Except.ok.inj h)
        exact .float room _
    · obtain ⟨rfl, -⟩ := Prod.mk.inj (Except.ok.inj h)
      exact .float room _

theorem plain_of_readNumber (h : readNumber s = .ok (v, rest)) : Plain (fun _ => True) room v := by
  cases s with
  | nil => cases h
  | cons c t =>
    rw [readNumber] at h
    split at h
    · exact plain_of_readUnsigned h
    · exact plain_of_readUnsigned h

theorem plain_of_readLiteral? (h : readLiteral? s = some (v, rest)) :
    Plain (fun _ => True) room v := by
  obtain ⟨l, hl, hv⟩ := List.exists_of_findSome?_eq_some h
  obtain ⟨t, -, hfound⟩ := Option.map_eq_some_iff.mp hv
  obtain rfl : l.2 = v := (Prod.mk.inj hfound).1
  have hall : ∀ l ∈ literals, Plain (fun _ => True) room l.2 := by
    simp only [literals, List.forall_mem_cons]
    exact ⟨.null room, .bool room true, .bool room false, .float room _, .float room _,
      .float room _, List.forall_mem_nil _⟩
  exact hall l hl

/-- With some fuel all values, items and members that are read are plain. -/
structure ReadsPlain (fuel : Nat) : Prop where
  value : ∀ {room : Nat} {s rest : Text} {v : Json},
    readValue room fuel s = .ok (v, rest) → Plain (fun _ => True) room v
  items : ∀ {room : Nat} {s rest : Text} {items : List Json},
    readItems room fuel s = .ok (items, rest) → ∀ i ∈ items, Plain (fun _ => True) room i
  members : ∀ {room : Nat} {s rest : Text} {ms : Members},
    readMembers room fuel s = .ok (ms, rest) → ∀ m ∈ ms, Plain (fun _ => True) room m.2

variable {fuel : Nat}

theorem map_eq_ok {ε α β : Type} {x : Except ε α} {f : α → β} {b : β} (h : x.map f = .ok b) :
    ∃ a, x = .ok a ∧ f a = b := by
  cases x with
  | error e => cases h
  | ok a => exact ⟨a, rfl, Except.ok.inj h⟩

/-- One more unit of fuel reads a literal or a number, or opens one array or object. -/
theorem ReadsPlain.value_succ (ih : ReadsPlain fuel)
    (h : readValue room (fuel + 1) s = .ok (v, rest)) : Plain (fun _ => True) room v := by
  cases s with
  | nil => cases h
  | cons c s =>
    rw [readValue] at h
    split_ifs at h with hquote hbracket hroom hbrace hroom
    · obtain ⟨⟨t, _⟩, -, hv⟩ := map_eq_ok h
      obtain ⟨rfl, -⟩ := Prod.mk.inj hv
      exact .string room trivial
    · obtain ⟨room, rfl⟩ := Nat.exists_eq_succ_of_ne_zero hroom
      cases hs : skipBlanks s with
      | nil =>
        simp only [hs] at h
        cases h
      | cons d t =>
        simp only [hs] at h
        split at h
        · obtain ⟨rfl, -⟩ := Prod.mk.inj (Except.ok.inj h)
          exact .array (List.forall_mem_nil _)
        · obtain ⟨⟨items, _⟩, hitems, hv⟩ := map_eq_ok h
          obtain ⟨rfl, -⟩ := Prod.mk.inj hv
          exact .array (ih.items hitems)
    · obtain ⟨room, rfl⟩ := Nat.exists_eq_succ_of_ne_zero hroom
      cases hs : skipBlanks s with
      | nil =>
        simp only [hs] at h
        cases h
      | cons d t =>
        simp only [hs] at h
        split at h
        · obtain ⟨rfl, -⟩ := Prod.mk.inj (Except.ok.inj h)
          exact .object List.nodup_nil (List.forall_mem_nil _) (List.forall_mem_nil _)
        · obtain ⟨⟨ms, _⟩, hms, hv⟩ := map_eq_ok h
          obtain ⟨rfl, -⟩ := Prod.mk.inj hv
          exact plain_ofMembers (ih.members hms)
    · cases hl : readLiteral? (c :: s) with
      | some found =>
        simp only [hl] at h
        obtain rfl := Except.ok.inj h
        exact plain_of_readLiteral? hl
      | none =>
        simp only [hl] at h
        exact plain_of_readNumber h

theorem ReadsPlain.items_succ (ih : ReadsPlain fuel) {items : List Json}
    (h : readItems room (fuel + 1) s = .ok (items, rest)) :
    ∀ i ∈ items, Plain (fun _ => True) room i := by
  rw [readItems] at h
  cases hv : readValue room fuel s with
  | error stop =>
    simp only [hv] at h
    cases h
  | ok found =>
    obtain ⟨item, rest'⟩ := found
    have hitem := ih.value hv
    cases hs : skipBlanks rest' with
    | nil =>
      simp only [hv, hs] at h
      cases h
    | cons c t =>
      simp only [hv, hs] at h
      split_ifs at h with hclose hcomma
      · obtain ⟨rfl, -⟩ := Prod.mk.inj (Except.ok.inj h)
        exact List.forall_mem_singleton.mpr hitem
      · obtain ⟨⟨more, _⟩, hmore, heq⟩ := map_eq_ok h
        obtain ⟨rfl, -⟩ := Prod.mk.inj heq
        exact List.forall_mem_cons.mpr ⟨hitem, ih.items hmore⟩

theorem ReadsPlain.members_succ (ih : ReadsPlain fuel) {ms : Members}
    (h : readMembers room (fuel + 1) s = .ok (ms, rest)) :
    ∀ m ∈ ms, Plain (fun _ => True) room m.2 := by
  cases s with
  | nil => cases h
  | cons q s =>
    rw [readMembers] at h
    split at h
    · cases h
    · split at h
      · cases h
      · split at h
        · cases h
        · split at h
          · cases h
          · split at h
            · cases h
            · next hvalue =>
              have hm := ih.value hvalue
              split at h
              · cases h
              · split_ifs at h with hclose hcomma
                · obtain ⟨rfl, -⟩ := Prod.mk.inj (Except.ok.inj h)
                  exact List.forall_mem_singleton.mpr hm
                · obtain ⟨⟨more, _⟩, hmore, heq⟩ := map_eq_ok h
                  obtain ⟨rfl, -⟩ := Prod.mk.inj heq
                  exact List.forall_mem_cons.mpr ⟨hm, ih.members hmore⟩

theorem readsPlain (fuel : Nat) : ReadsPlain fuel := by
  induction fuel with
  | zero => exact ⟨nofun, nofun, nofun⟩
  | succ fuel ih => exact ⟨ih.value_succ, ih.items_succ, ih.members_succ⟩

theorem plain_of_read (h : read s = .ok v) : Plain (fun _ => True) nestingLimit v := by
  rw [read, readText] at h
  split at h
  · cases h
  · cases hv : readValue nestingLimit (2 * s.length + 1) (skipBlanks s) with
    | error stop =>
      simp only [hv] at h
      cases h
    | ok found =>
      obtain ⟨value, rest⟩ := found
      cases hs : skipBlanks rest with
      | nil =>
        simp only [hv, hs] at h
        obtain rfl := Except.ok.inj h
        exact (readsPlain _).value hv
      | cons c t =>
        simp only [hv, hs] at h
        cases h

end ParticipantRegistry.Json
