import ParticipantRegistry.Proofs.Json.Reading
import ParticipantRegistry.Proofs.Registry.StoredCards

/-!
# Entities that were read

A stored text is read leniently: values in place of texts become texts, members of objects become parts
of identifiers, and dates come in several forms. The free fields are taken as they are. Whatever they
hold, they were read from a text, so they are plain and the entities survive being stored again.
-/

namespace ParticipantRegistry

open Json (Plain)

theorem Json.mem_of_lookup {name : Text} {value : Json} {ms : Json.Members}
    (h : ms.lookup name = some value) : (name, value) ∈ ms := by
  obtain ⟨before, after, rfl, -⟩ := List.lookup_eq_some_iff.mp h
  exact List.mem_append_right before List.mem_cons_self

namespace StoredEntities

variable {ok : Text → Prop} {room : Nat}

theorem plain_memberOr {name : Text} {default : Json} {ms : Json.Members}
    (h : Plain ok (room + 1) (.object ms)) (hd : Plain ok room default) :
    Plain ok room (memberOr name default ms) := by
  rw [memberOr]
  cases hm : ms.lookup name with
  | none => exact hd
  | some value =>
    cases h with
    | object _ _ parts => exact parts _ (Json.mem_of_lookup hm)

theorem mem_objects {items : List Json} {ms : Json.Members} (h : ms ∈ objects items) :
    .object ms ∈ items := by
  induction items with
  | nil => cases h
  | cons item items ih =>
    have hrest (h : ms ∈ objects items) : .object ms ∈ item :: items :=
      List.mem_cons_of_mem item (ih h)
    cases item with
    | object first =>
      rcases List.mem_cons.mp h with rfl | h
      · exact List.mem_cons_self
      · exact hrest h
    | null | bool | int | float | string | array => exact hrest h

theorem free_of_decodeEntity {ms : Json.Members} {e : BusinessEntity} (h : decodeEntity ms = .ok e) :
    e.geographicalInformation = memberOr "geographical_information" .null ms ∧
      e.additionalInformation = memberOr "additional_information" .null ms := by
  simp only [decodeEntity, bind, Except.bind] at h
  repeat' split at h
  all_goals cases h
  exact ⟨rfl, rfl⟩

theorem exists_of_mapM {ε α β : Type} {readItem : α → Except ε β} {as : List α} {bs : List β}
    (h : as.mapM readItem = .ok bs) {b : β} (hb : b ∈ bs) : ∃ a ∈ as, readItem a = .ok b := by
  induction as generalizing bs with
  | nil =>
    cases h
    cases hb
  | cons a as ih =>
    rw [List.mapM_cons] at h
    cases ha : readItem a with
    | error e =>
      rw [ha] at h
      cases h
    | ok b' =>
      cases has : as.mapM readItem with
      | error e =>
        rw [ha, has] at h
        cases h
      | ok bs' =>
        rw [ha, has] at h
        obtain rfl : b' :: bs' = bs := Except.ok.inj h
        rcases List.mem_cons.mp hb with rfl | hb
        · exact ⟨a, List.mem_cons_self, ha⟩
        · obtain ⟨a', ha', hread⟩ := ih has hb
          exact ⟨a', List.mem_cons_of_mem a ha', hread⟩

theorem plainFree_of_decode {stored : Text} {entities : List BusinessEntity}
    (h : decode stored = .ok entities) :
    ∀ e ∈ entities, e.PlainFree (fun _ => True) freeRoom := by
  intro e he
  rw [decode] at h
  split at h
  · cases h
  · next items hread =>
    obtain ⟨ms, hms, hdecode⟩ := exists_of_mapM h he
    have hobject : Plain (fun _ => True) (freeRoom + 1) (.object ms) := by
      cases Json.plain_of_read hread with
      | array parts => exact parts _ (mem_objects hms)
    obtain ⟨hgeo, hadd⟩ := free_of_decodeEntity hdecode
    refine ⟨?_, ?_⟩
    · rw [hgeo]
      exact plain_memberOr hobject (.null freeRoom)
    · rw [hadd]
      exact plain_memberOr hobject (.null freeRoom)
  · cases h
    cases he

/-- Entities survive being stored: lists of them that hold texts in their free fields, and all lists
that were themselves read from what was stored. -/
theorem stored_entities_survive :
    (∀ entities, (∀ e ∈ entities, e.isTextual = true) →
      decode? (some (encode entities)) = .ok entities) ∧
    ∀ stored entities, decode? stored = .ok entities →
      decode? (some (encode entities)) = .ok entities := by
  refine ⟨fun entities h => decode_encode h, fun stored entities h => ?_⟩
  cases stored with
  | none =>
    obtain rfl := Except.ok.inj h
    exact decode_encode (List.forall_mem_nil _)
  | some stored => exact decode_encode_of_plain (plainFree_of_decode h)

theorem stored_entities_survive_converted :
    let loose : Text := "[3, \x7b\"name\": 5, \"country_code\": \"AT\", " ++
      "\"geographical_information\": [NaN, \x7b\"a\": 1.50, \"a\": -0.5\x7d], " ++
      "\"identifiers\": [\"ab\", \x7b\"x\": 1, \"y\": 2\x7d, [null, true]], " ++
      "\"websites\": \"ab\", \"registration_date\": \"2024W011\"\x7d]"
    let converted : BusinessEntity :=
      ⟨"5", "AT", .array [.float .nan, .object [("a", .float (.ofDecimal true ⟨5, -1⟩))]],
        [⟨"a", "b"⟩, ⟨"x", "y"⟩, ⟨"None", "True"⟩], ["a", "b"], .null,
        some ⟨2024, 1, 1, by decide⟩⟩
    let plain : BusinessEntity :=
      ⟨"A \"B\"\n", "DE", .string [.ofNat 0xD800], [], [""], .null, some ⟨1, 1, 1, by decide⟩⟩
    decode? (some loose) = .ok [converted] ∧
      decode? (some (encode [converted])) = .ok [converted] ∧
      decode? (some (encode [plain])) = .ok [plain] := by
  intro loose converted plain
  have hloose : decode? (some loose) = .ok [converted] := by decide +kernel
  exact ⟨hloose, stored_entities_survive.2 (some loose) [converted] hloose,
    stored_entities_survive.1 [plain] (List.forall_mem_singleton.mpr rfl)⟩

end StoredEntities

end ParticipantRegistry
