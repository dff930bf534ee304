import ParticipantRegistry.Proofs.Calendar.Days
import ParticipantRegistry.Proofs.Json.Roundtrip
import ParticipantRegistry.Registry.StoredEntities

/-!
# Entities that were stored

Entities are read back from the text that is stored for them if their free fields are plain. The free
fields of a card hold texts or nothing, as far as cards come from documents: such fields are plain, and
two such cards are alike only if they are equal.
-/

namespace ParticipantRegistry

open Json (Plain ofText? ofTexts)

def Json.isTextual : Json → Bool
  | .null | .string _ => true
  | _ => false

theorem Json.eq_ofText?_of_isTextual {v : Json} (h : v.isTextual = true) : v = ofText? v.text? := by
  cases v <;> first | rfl | cases h

namespace BusinessEntity

def isTextual (e : BusinessEntity) : Bool :=
  e.geographicalInformation.isTextual && e.additionalInformation.isTextual

def texts (e : BusinessEntity) : List Text :=
  [e.name, e.countryCode] ++ e.geographicalInformation.text?.toList ++
    (e.identifiers.flatMap fun i => [i.scheme, i.value]) ++ e.websites ++
    e.additionalInformation.text?.toList

variable {ok : Text → Prop} {e : BusinessEntity}

/-- Both free fields of an entity are plain. -/
structure PlainFree (ok : Text → Prop) (room : Nat) (e : BusinessEntity) : Prop where
  geographicalInformation : Plain ok room e.geographicalInformation
  additionalInformation : Plain ok room e.additionalInformation

theorem PlainFree.of_isTextual (he : e.isTextual = true) (ht : ∀ t ∈ e.texts, ok t) (room : Nat) :
    e.PlainFree ok room := by
  rw [isTextual, Bool.and_eq_true] at he
  have hfree {v : Json} (hv : v.isTextual = true) (hmem : ∀ t ∈ v.text?, t ∈ e.texts) :
      Plain ok room v := by
    rw [Json.eq_ofText?_of_isTextual hv]
    exact .ofText? fun t h => ht t (hmem t h)
  exact ⟨hfree he.1 (by simp +contextual [texts]), hfree he.2 (by simp +contextual [texts])⟩

theorem plain_fields (hascii : ∀ t : Text, (∀ c ∈ t, c.val < 0x80) → ok t) {room : Nat}
    (he : e.PlainFree ok (room + 1)) (ht : ∀ t ∈ e.texts, ok t) {identifiers : List Json}
    (hi : ∀ i ∈ identifiers, Plain ok room i) :
    Plain ok (room + 2) (.object (e.fields identifiers)) := by
  have hdistinct : (Json.names (e.fields identifiers)).Nodup := by
    change List.Nodup (["name", "country_code", "geographical_information", "identifiers",
      "websites", "additional_information", "registration_date"] : List Text)
    decide
  have hnames : (Json.names (e.fields identifiers)).all (fun n => n.all (·.val < 0x80)) = true := rfl
  simp only [List.all_eq_true, decide_eq_true_eq] at hnames
  refine .object hdistinct (fun m hm => hascii m.1 (hnames m.1 (List.mem_map_of_mem hm))) ?_
  simp only [fields, List.forall_mem_cons]
  refine ⟨.string _ (ht _ (by simp [texts])), .string _ (ht _ (by simp [texts])),
    he.geographicalInformation, .array hi, .strings fun t h => ht t (by simp [texts, h]),
    he.additionalInformation, .ofText? ?_, by simp⟩
  intro t h
  obtain ⟨d, -, rfl⟩ := Option.map_eq_some_iff.mp h
  exact hascii _ d.toText_ascii

end BusinessEntity

namespace BusinessCard

def isTextual (card : BusinessCard) : Bool := card.entities.all BusinessEntity.isTextual

def texts (card : BusinessCard) : List Text :=
  card.participantId :: card.entities.flatMap BusinessEntity.texts

end BusinessCard

namespace StoredEntities

theorem decodeIdentifier_pair (i : BusinessIdentifier) : decodeIdentifier i.pair = .ok i := rfl

theorem decodeDate_toText (date : Option Date) :
    decodeDate (ofText? (date.map Date.toText)) = .ok date := by
  cases date with
  | none => rfl
  | some d =>
    have hgiven : (Json.string d.toText).isGiven = true := by
      have hlength := d.length_toText
      rw [Json.isGiven, bne_iff_ne]
      rintro hnil
      rw [hnil] at hlength
      cases hlength
    change decodeDate (.string d.toText) = _
    rw [decodeDate, hgiven]
    simp only [Bool.not_true, Bool.false_eq_true, if_false, IsoDate.read_toText]
    rfl

theorem decodeEntity_draft (e : BusinessEntity) : decodeEntity e.draft = .ok e := by
  have hidentifiers : (e.identifiers.map BusinessIdentifier.pair).mapM decodeIdentifier =
      .ok e.identifiers := by
    rw [Json.mapM_eq_ok (f := id) fun i _ => decodeIdentifier_pair i, List.map_id]
  have hwebsites : (e.websites.map Json.string).map Json.display = e.websites := by
    rw [List.map_map]
    exact List.map_id e.websites
  have hparts : parts (memberOr "identifiers" (.array []) e.draft) =
      .ok (e.identifiers.map BusinessIdentifier.pair) := rfl
  have hsites : parts (memberOr "websites" (.array []) e.draft) =
      .ok (e.websites.map Json.string) := rfl
  have hdate : decodeDate (memberOr "registration_date" .null e.draft) = .ok e.registrationDate :=
    decodeDate_toText e.registrationDate
  have hname : memberText "name" e.draft = .ok e.name := rfl
  have hcountry : memberText "country_code" e.draft = .ok e.countryCode := rfl
  rw [decodeEntity, hname, hcountry, hparts, hsites, hdate]
  change (do
    let identifiers ← (e.identifiers.map BusinessIdentifier.pair).mapM decodeIdentifier
    .ok { e with identifiers, websites := (e.websites.map Json.string).map Json.display }) = _
  rw [hidentifiers, hwebsites]
  rfl

theorem objects_map (drafts : List Json.Members) : objects (drafts.map .object) = drafts := by
  induction drafts with
  | nil => rfl
  | cons ms drafts ih => rw [List.map_cons, objects, ih]

theorem plain_drafts {ok : Text → Prop} (hascii : ∀ t : Text, (∀ c ∈ t, c.val < 0x80) → ok t)
    {room : Nat} {entities : List BusinessEntity}
    (hentities : ∀ e ∈ entities, e.PlainFree ok (room + 2))
    (htexts : ∀ e ∈ entities, ∀ t ∈ e.texts, ok t) :
    Plain ok (room + 4) (.array ((entities.map BusinessEntity.draft).map .object)) := by
  refine .array fun item hitem => ?_
  rw [List.map_map] at hitem
  obtain ⟨e, he, rfl⟩ := List.mem_map.mp hitem
  refine BusinessEntity.plain_fields hascii (hentities e he) (htexts e he) fun i hi => ?_
  obtain ⟨identifier, hidentifier, rfl⟩ := List.mem_map.mp hi
  have hparts : ∀ t ∈ [identifier.scheme, identifier.value], ok t := fun t ht =>
    htexts e he t (by
      simp only [BusinessEntity.texts, List.mem_append, List.mem_flatMap]
      exact .inl (.inl (.inr ⟨identifier, hidentifier, ht⟩)))
  exact .strings hparts

/-- The most arrays and objects that may be open inside a free field: the field stands in the object of its
entity, which stands in the array of all of them. -/
def freeRoom : Nat := Json.nestingLimit - 2

/-- Entities with plain free fields are read back from the text that is stored for them. -/
theorem decode_encode_of_plain {entities : List BusinessEntity}
    (h : ∀ e ∈ entities, e.PlainFree (fun _ => True) freeRoom) :
    decode (encode entities) = .ok entities := by
  have hplain : Plain (fun _ => True) Json.nestingLimit
      (.array ((entities.map BusinessEntity.draft).map .object)) :=
    plain_drafts (fun _ _ => trivial) h fun _ _ _ _ => trivial
  have hread : Json.read (Json.write .line _ ++ []) = _ :=
    hplain.read_write rfl (Nat.le_refl _) (by simp)
  rw [List.append_nil] at hread
  rw [decode, encode, encodeDrafts, hread]
  simp only [objects_map]
  rw [Json.mapM_eq_ok (f := id) fun e _ => decodeEntity_draft e, List.map_id]

theorem decode_encode {entities : List BusinessEntity}
    (h : ∀ e ∈ entities, e.isTextual = true) : decode (encode entities) = .ok entities :=
  decode_encode_of_plain fun e he => .of_isTextual (h e he) (fun _ _ => trivial) freeRoom

theorem isUnicode_encode {entities : List BusinessEntity}
    (h : ∀ e ∈ entities, e.isTextual = true)
    (ht : ∀ e ∈ entities, ∀ t ∈ e.texts, t.isUnicode = true) :
    (encode entities).isUnicode = true :=
  (plain_drafts (fun _ => Text.isUnicode_of_ascii)
    (fun e he => .of_isTextual (h e he) (ht e he) 2) ht).isUnicode_write rfl

end StoredEntities

theorem Json.eq_of_alike {a b : Json} (ha : a.isTextual = true) (hb : b.isTextual = true)
    (h : a.alike b = true) : a = b := by
  cases a <;> cases hb' : b <;> subst hb' <;>
    simp_all [isTextual, alike, alikePlain, whole?, same]

theorem BusinessEntity.eq_of_alike {a b : BusinessEntity} (ha : a.isTextual = true)
    (hb : b.isTextual = true) (h : a.alike b = true) : a = b := by
  rw [isTextual, Bool.and_eq_true] at ha hb
  rw [alike, Bool.and_eq_true, Bool.and_eq_true, decide_eq_true_eq] at h
  obtain ⟨⟨hgeo, hadd⟩, hrest⟩ := h
  rw [← hrest, ← Json.eq_of_alike ha.1 hb.1 hgeo, ← Json.eq_of_alike ha.2 hb.2 hadd]

theorem BusinessCard.eq_of_holdsAlike {card : BusinessCard} {entities : List BusinessEntity}
    (hc : card.isTextual = true) (he : ∀ e ∈ entities, e.isTextual = true)
    (h : card.holdsAlike entities = true) : card.entities = entities := by
  obtain ⟨participantId, stored⟩ := card
  rw [holdsAlike, Bool.and_eq_true, beq_iff_eq] at h
  rw [isTextual, List.all_eq_true] at hc
  obtain ⟨hlength, hall⟩ := h
  simp only at hlength hall hc ⊢
  induction stored generalizing entities with
  | nil => exact (List.eq_nil_of_length_eq_zero hlength.symm).symm
  | cons a stored ih =>
    cases entities with
    | nil => cases hlength
    | cons b entities =>
      obtain ⟨ha, hstored⟩ := List.forall_mem_cons.mp hc
      obtain ⟨hb, hentities⟩ := List.forall_mem_cons.mp he
      rw [List.zip_cons_cons, List.all_cons, Bool.and_eq_true] at hall
      rw [BusinessEntity.eq_of_alike ha hb hall.1,
        ih hentities hstored (Nat.succ.inj hlength) hall.2]

end ParticipantRegistry
