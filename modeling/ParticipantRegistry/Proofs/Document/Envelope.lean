import ParticipantRegistry.Document.File
import ParticipantRegistry.Proofs.Document.Acceptance
import ParticipantRegistry.Proofs.Text.Decoding

/-!
# The frame of a document

A value is a document if it is an object with the version of the format whose groups and cards, as far as
they are there, are arrays. Its elements are the items of these arrays, whatever they are. The content of
a file is opened as a document if it is UTF-8 and reads as such a value; the ways in which it may not be
are told apart.
-/

namespace ParticipantRegistry.Document

open Checked

/-- The items of a member: those of an array, or none if the member is not there. -/
def HoldsItems (ms : Json.Members) (name : Text) (items : List Json) : Prop :=
  ms.lookup name = some (.array items) ∨ ms.lookup name = none ∧ items = []

/-- A value is a document with these elements. -/
structure IsDocument (value : Json) (batch : ParsedBatch) : Prop where
  object : value = .object value.members
  names : ∀ name ∈ Json.names value.members, name ∉ envelopeNames → name.isUnicode = true
  version : value.members.lookup ("version" : Text) = some (.string "1.0")
  serviceGroups : HoldsItems value.members "service_groups" batch.serviceGroups
  businessCards : HoldsItems value.members "business_cards" batch.businessCards

theorem accepts_version (v : Json) : (checkVersion v).Accepts fun t => v = .string "1.0" ∧ "1.0" = t := by
  cases v with
  | string t =>
    rw [checkVersion]
    split_ifs with ht hunicode
    · exact (accepts_valid t).congr fun t' => by rw [show t = "1.0" from ht]; simp
    · exact (accepts_flawed .otherVersion).congr fun t' => ⟨nofun, fun h => ht (Json.string.inj h.1)⟩
    · exact (accepts_flawed .notUnicode).congr fun t' => ⟨nofun, fun h => ht (Json.string.inj h.1)⟩
  | _ => exact (accepts_flawed .otherVersion).congr fun _ => ⟨nofun, fun h => nomatch h.1⟩

theorem accepts_elements (ms : Json.Members) (name : Text) :
    (optional name [] (array anything) ms).Accepts (HoldsItems ms name) := by
  have harray (v : Json) (_ : ms.lookup name = some v) :
      (array anything v).Accepts fun items => v = .array items := by
    refine (accepts_array fun _ _ item _ => accepts_valid item).congr fun items => ?_
    simp only [List.forall₂_eq_eq_eq]
    exact ⟨fun ⟨values, hv, heq⟩ => heq ▸ hv, fun hv => ⟨items, hv, rfl⟩⟩
  refine (accepts_optional harray).congr fun items => ?_
  rw [HoldsItems, or_comm]
  refine or_congr_left ⟨?_, fun h => ⟨_, h, rfl⟩⟩
  rintro ⟨v, hv, rfl⟩
  exact hv

theorem accepts_envelope (value : Json) : (checkEnvelope value).Accepts (IsDocument value) := by
  have hmembers (ms : Json.Members) :
      Accepts ((fun _ groups cards => ParsedBatch.mk groups cards) <$>
          required "version" checkVersion ms
        <*> optional "service_groups" [] (array anything) ms
        <*> optional "business_cards" [] (array anything) ms)
        fun batch => ms.lookup ("version" : Text) = some (.string "1.0") ∧
          HoldsItems ms "service_groups" batch.serviceGroups ∧
          HoldsItems ms "business_cards" batch.businessCards := by
    have hversion := accepts_required fun v (_ : ms.lookup ("version" : Text) = some v) => accepts_version v
    refine (((hversion.map _).seq (accepts_elements ms _)).seq (accepts_elements ms _)).congr
      fun batch => ⟨?_, ?_⟩
    · rintro ⟨_, ⟨_, ⟨_, ⟨_, hv, rfl, -⟩, rfl⟩, groups, hgroups, rfl⟩, cards, hcards, rfl⟩
      exact ⟨hv, hgroups, hcards⟩
    · rintro ⟨hv, hgroups, hcards⟩
      exact ⟨_, ⟨_, ⟨_, ⟨_, hv, rfl, rfl⟩, rfl⟩, _, hgroups, rfl⟩, _, hcards, rfl⟩
  refine (accepts_object fun ms _ => hmembers ms).congr fun batch => ⟨?_, fun h => ?_⟩
  · rintro ⟨ms, rfl, hnames, hv, hgroups, hcards⟩
    exact ⟨rfl, hnames, hv, hgroups, hcards⟩
  · exact ⟨_, h.object, h.names, h.version, h.serviceGroups, h.businessCards⟩

/-- The content of a file is the encoded form of a text, and this is what comes of reading the text, with
its line ends unified, as one value. -/
def ReadsAs (content : Octets) (result : Except Json.ReadError Json) : Prop :=
  ∃ text : Text, text.isUnicode = true ∧ Utf8.encode text = content ∧
    Json.read text.unifyLines = result

theorem readsAs_iff {content : Octets} {text : Text} (h : Utf8.decode content = some text)
    (result : Except Json.ReadError Json) :
    ReadsAs content result ↔ Json.read text.unifyLines = result := by
  refine ⟨?_, fun hread => ?_⟩
  · rintro ⟨text', hunicode, hencode, hread⟩
    have h' := Utf8.decode_eq_some_iff.mpr ⟨hunicode, hencode⟩
    exact Option.some.inj (h'.symm.trans h) ▸ hread
  · obtain ⟨hunicode, hencode⟩ := Utf8.decode_eq_some_iff.mp h
    exact ⟨text, hunicode, hencode, hread⟩

theorem not_readsAs {content : Octets} (h : Utf8.decode content = none)
    (result : Except Json.ReadError Json) : ¬ReadsAs content result := by
  rintro ⟨text, hunicode, hencode, -⟩
  exact Utf8.encode_ne_of_decode h hunicode hencode

/-- What comes of opening the content of a file: one of these answers, each in exactly these cases. -/
structure LoadsAs (path : Text) (content : Octets) (answer : Except LoadError ParsedBatch) : Prop where
  batch : ∀ batch, answer = .ok batch ↔ ∃ value, ReadsAs content (.ok value) ∧ IsDocument value batch
  unsupported : (∃ problems, answer = .error (.document (.unsupported problems))) ↔
    ∃ value, ReadsAs content (.ok value) ∧ ∀ batch, ¬IsDocument value batch
  malformed : ∀ error, answer = .error (.document (.json path error)) ↔
    ReadsAs content (.error error) ∧ ∃ what line column offset,
      error = .malformed what line column offset
  notUtf8 : answer = .error .notUtf8 ↔ ∀ text : Text, text.isUnicode = true → Utf8.encode text ≠ content
  tooManyDigits : ∀ count, answer = .error (.tooManyDigits count) ↔
    ReadsAs content (.error (.tooManyDigits count))
  tooDeep : answer = .error .tooDeep ↔ ReadsAs content (.error .tooDeep)

/-- The content of a file is opened as exactly what it is. -/
theorem load_eq (path : Text) (content : Octets) : LoadsAs path content (load path content).2 := by
  rw [load]
  cases hdecode : Utf8.decode content with
  | none =>
    have hnot := not_readsAs hdecode
    have hutf8 (text : Text) (hunicode : text.isUnicode = true) : ¬Utf8.encode text = content :=
      Utf8.encode_ne_of_decode hdecode hunicode
    constructor <;> simp +contextual [hnot, hutf8]
  | some text =>
    have hreads := readsAs_iff hdecode
    obtain ⟨hunicode, hencode⟩ := Utf8.decode_eq_some_iff.mp hdecode
    have hutf8 : ¬∀ text : Text, text.isUnicode = true → Utf8.encode text ≠ content :=
      fun h => h text hunicode hencode
    cases hread : Json.read text.unifyLines with
    | error error =>
      cases error <;> constructor <;> simp [hreads, hread, hutf8]
    | ok value =>
      have haccepts := accepts_envelope value
      simp only [hread]
      cases hchecked : (checkEnvelope value).result with
      | ok batch =>
        have hanswer : (parse value).2.mapError LoadError.document = .ok batch := by
          rw [parse, hchecked]
          rfl
        have hunique (batch' : ParsedBatch) : batch = batch' ↔ IsDocument value batch' := by
          rw [← haccepts batch', hchecked, Except.ok.injEq]
        have hdocument : ∃ batch', IsDocument value batch' := ⟨batch, (hunique batch).mp rfl⟩
        rw [hanswer]
        constructor <;> simp [hreads, hread, hutf8, hunique, hdocument]
      | error problems =>
        have hanswer : (parse value).2.mapError LoadError.document =
            .error (.document (.unsupported problems)) := by
          rw [parse, hchecked]
          rfl
        have hnone (batch : ParsedBatch) : ¬IsDocument value batch := by
          rw [← haccepts batch, hchecked]
          exact nofun
        rw [hanswer]
        constructor <;> simp [hreads, hread, hutf8, hnone]

end ParticipantRegistry.Document
