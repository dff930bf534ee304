import ParticipantRegistry.Proofs.Document.Acceptance

/-!
# The format of a group element

What a group element has to look like, told by its members alone: which of them have to be there, which
may be left out or `null`, and which are arrays of objects. On values without surrogates the check of the
schema accepts exactly this format, and members that the format does not name change nothing.
-/

namespace ParticipantRegistry

namespace Json

mutual

def isUnicode : Json → Bool
  | .string t => t.isUnicode
  | .array items => itemsUnicode items
  | .object ms => membersUnicode ms
  | _ => true

def itemsUnicode : List Json → Bool
  | [] => true
  | v :: vs => v.isUnicode && itemsUnicode vs

def membersUnicode : Members → Bool
  | [] => true
  | m :: ms => m.1.isUnicode && m.2.isUnicode && membersUnicode ms

end

theorem isUnicode_of_mem_items {items : List Json} (h : itemsUnicode items = true) :
    ∀ v ∈ items, v.isUnicode = true := by
  induction items with
  | nil => exact List.forall_mem_nil _
  | cons v items ih =>
    rw [itemsUnicode, Bool.and_eq_true] at h
    exact List.forall_mem_cons.mpr ⟨h.1, ih h.2⟩

theorem isUnicode_of_mem_members {ms : Members} (h : membersUnicode ms = true) :
    ∀ m ∈ ms, m.1.isUnicode = true ∧ m.2.isUnicode = true := by
  induction ms with
  | nil => exact List.forall_mem_nil _
  | cons m ms ih =>
    rw [membersUnicode, Bool.and_eq_true, Bool.and_eq_true] at h
    exact List.forall_mem_cons.mpr ⟨h.1, ih h.2⟩

theorem isUnicode_of_mem_names {ms : Members} (h : membersUnicode ms = true) :
    ∀ name ∈ names ms, name.isUnicode = true := by
  intro name hname
  obtain ⟨m, hm, rfl⟩ := List.mem_map.mp hname
  exact (isUnicode_of_mem_members h m hm).1

theorem isUnicode_of_lookup_eq {ms : Members} {name : Text} {v : Json}
    (h : membersUnicode ms = true) (hv : ms.lookup name = some v) : v.isUnicode = true := by
  obtain ⟨before, after, rfl, -⟩ := List.lookup_eq_some_iff.mp hv
  exact (isUnicode_of_mem_members h (name, v) (by simp)).2

end Json

namespace Document

open Checked
open Json (ofText?)

section Members

variable {α : Type} {ms : Json.Members} {name : Text}

/-- A required text: a string that is not empty once it is trimmed. The trimmed text is taken. -/
def HasText (ms : Json.Members) (name t : Text) : Prop :=
  ∃ s : Text, ms.lookup name = some (.string s) ∧ s.trim = t ∧ t ≠ []

/-- An optional text: left out, `null`, or a string that is taken as it is. -/
def HasOptionalText (ms : Json.Members) (name : Text) (t? : Option Text) : Prop :=
  ms.lookup name = none ∧ t? = none ∨ ms.lookup name = some (ofText? t?)

/-- Children: left out, or an array of objects each of which gives one of them, in order. -/
def HasChildren (ms : Json.Members) (name : Text) (R : Json.Members → α → Prop) (as : List α) :
    Prop :=
  ms.lookup name = none ∧ as = [] ∨ ∃ objects : List Json.Members,
    ms.lookup name = some (.array (objects.map .object)) ∧ List.Forall₂ R objects as

theorem accepts_trimmedText {v : Json} (hv : v.isUnicode = true) :
    (trimmedText v).Accepts fun t => ∃ s : Text, v = .string s ∧ s.trim = t ∧ t ≠ [] := by
  cases v with
  | string s =>
    have hs : s.isUnicode = true := hv
    rw [trimmedText, hs]
    simp only [Bool.not_true, Bool.false_eq_true, if_false]
    split_ifs with hnil
    · refine (accepts_flawed .tooShort).congr fun t => ⟨nofun, ?_⟩
      rintro ⟨s', heq, rfl, hne⟩
      cases heq
      exact hne hnil
    · refine (accepts_valid s.trim).congr fun t => ⟨?_, ?_⟩
      · rintro rfl
        exact ⟨s, rfl, rfl, hnil⟩
      · rintro ⟨s', heq, rfl, -⟩
        cases heq
        rfl
  | _ => exact (accepts_flawed .notText).congr fun _ => ⟨nofun, fun ⟨_, heq, _⟩ => nomatch heq⟩

theorem accepts_optionalText (v : Json) :
    (optionalText v).Accepts fun t? => v = ofText? t? := by
  cases v with
  | null =>
    refine (accepts_valid none).congr fun t? => ?_
    cases t? <;> simp [ofText?]
  | string s =>
    refine ((accepts_valid s).map some).congr fun t? => ?_
    cases t? <;> simp [ofText?]
  | _ =>
    refine ((accepts_flawed .notText).map some).congr fun t? => ⟨nofun, fun heq => ?_⟩
    cases t? <;> cases heq

theorem accepts_requiredText (h : Json.membersUnicode ms = true) (name : Text) :
    (required name trimmedText ms).Accepts (HasText ms name) := by
  have htext (v : Json) (hv : ms.lookup name = some v) :=
    accepts_trimmedText (Json.isUnicode_of_lookup_eq h hv)
  refine (accepts_required htext).congr fun t => ⟨?_, ?_⟩
  · rintro ⟨_, hv, s, rfl, hs⟩
    exact ⟨s, hv, hs⟩
  · rintro ⟨s, hv, hs⟩
    exact ⟨_, hv, s, rfl, hs⟩

theorem accepts_optionalMember (ms : Json.Members) (name : Text) :
    (optional name none optionalText ms).Accepts (HasOptionalText ms name) := by
  refine (accepts_optional fun v _ => accepts_optionalText v).congr fun t? => or_congr_right ⟨?_, ?_⟩
  · rintro ⟨_, hv, rfl⟩
    exact hv
  · exact fun hv => ⟨_, hv, rfl⟩

theorem forall₂_objects {R : Json.Members → α → Prop} {values : List Json} {as : List α} :
    List.Forall₂ (fun v a => ∃ ms, v = .object ms ∧ R ms a) values as ↔
      ∃ objects : List Json.Members, values = objects.map .object ∧ List.Forall₂ R objects as := by
  refine ⟨fun h => ?_, ?_⟩
  · induction h with
    | nil => exact ⟨[], rfl, .nil⟩
    | cons hv _ ih =>
      obtain ⟨ms, rfl, hms⟩ := hv
      obtain ⟨objects, rfl, hobjects⟩ := ih
      exact ⟨ms :: objects, rfl, .cons hms hobjects⟩
  · rintro ⟨objects, rfl, hobjects⟩
    exact List.forall₂_map_left_iff.mpr (hobjects.imp fun ms a hms => ⟨ms, rfl, hms⟩)

theorem accepts_children {check : Json → Checked α} {R : Json.Members → α → Prop}
    (h : Json.membersUnicode ms = true)
    (hcheck : ∀ v : Json, v.isUnicode = true →
      (check v).Accepts fun a => ∃ ms, v = .object ms ∧ R ms a) (name : Text) :
    (optional name [] (array check) ms).Accepts (HasChildren ms name R) := by
  have harray (v : Json) (hv : ms.lookup name = some v) :=
    accepts_array fun values (heq : v = .array values) item hitem => by
      have hvalues : Json.itemsUnicode values = true :=
        Json.isUnicode_of_lookup_eq h (hv.trans (congrArg some heq))
      exact hcheck item (Json.isUnicode_of_mem_items hvalues item hitem)
  refine (accepts_optional harray).congr fun as => or_congr_right ⟨?_, ?_⟩
  · rintro ⟨_, hv, values, rfl, hvalues⟩
    obtain ⟨objects, rfl, hobjects⟩ := forall₂_objects.mp hvalues
    exact ⟨objects, hv, hobjects⟩
  · rintro ⟨objects, hv, hobjects⟩
    exact ⟨_, hv, _, rfl, forall₂_objects.mpr ⟨objects, rfl, hobjects⟩⟩

theorem accepts_objectMembers {kind : ElementKind} {known : List Text}
    {check : Json.Members → Checked α} {R : Json.Members → α → Prop} {v : Json}
    (hv : v.isUnicode = true)
    (h : ∀ ms, Json.membersUnicode ms = true → (check ms).Accepts (R ms)) :
    (object kind known check v).Accepts fun a => ∃ ms, v = .object ms ∧ R ms a := by
  have hmembers (ms : Json.Members) (heq : v = .object ms) : (check ms).Accepts (R ms) :=
    h ms (by rwa [heq] at hv)
  refine (accepts_object hmembers).congr fun a => ⟨?_, ?_⟩
  · rintro ⟨ms, heq, -, ha⟩
    exact ⟨ms, heq, ha⟩
  · rintro ⟨ms, rfl, ha⟩
    exact ⟨ms, rfl, fun name hname _ => Json.isUnicode_of_mem_names hv name hname, ha⟩

end Members

structure EndpointFormat (ms : Json.Members) (e : EndpointElement) : Prop where
  documentType : HasText ms "document_type" e.documentType
  process : HasText ms "process" e.process
  transportProfile : HasText ms "transport_profile" e.transportProfile
  endpointUrl : HasText ms "endpoint_url" e.endpointUrl
  certificate : HasOptionalText ms "certificate" e.certificate
  serviceDescription : HasOptionalText ms "service_description" e.serviceDescription
  technicalContactUrl : HasOptionalText ms "technical_contact_url" e.technicalContactUrl
  extension : HasOptionalText ms "extension" e.extension

structure RedirectFormat (ms : Json.Members) (r : RedirectElement) : Prop where
  documentType : HasText ms "document_type" r.documentType
  targetHref : HasText ms "target_href" r.targetHref
  subjectUniqueIdentifier :
    HasOptionalText ms "subject_unique_identifier" r.subjectUniqueIdentifier
  certificate : HasOptionalText ms "certificate" r.certificate
  extension : HasOptionalText ms "extension" r.extension

structure GroupFormat (ms : Json.Members) (g : GroupElement) : Prop where
  participantId : HasText ms "participant_id" g.participantId
  ownerId : HasText ms "owner_id" g.ownerId
  extension : HasOptionalText ms "extension" g.extension
  endpoints : HasChildren ms "endpoints" EndpointFormat g.endpoints
  redirects : HasChildren ms "redirects" RedirectFormat g.redirects

theorem accepts_endpoint {v : Json} (hv : v.isUnicode = true) :
    (checkEndpoint v).Accepts fun e => ∃ ms, v = .object ms ∧ EndpointFormat ms e := by
  refine accepts_objectMembers hv fun ms hms => ?_
  have htext := accepts_requiredText hms
  have hoptional := accepts_optionalMember ms
  refine ((((((((htext _).map _).seq (htext _)).seq (htext _)).seq (htext _)).seq (hoptional _)).seq
    (hoptional _)).seq (hoptional _)).seq (hoptional _) |>.congr fun e => ⟨?_, fun h => ?_⟩
  · rintro ⟨_, ⟨_, ⟨_, ⟨_, ⟨_, ⟨_, ⟨_, ⟨_, h₁, rfl⟩, _, h₂, rfl⟩, _, h₃, rfl⟩, _, h₄, rfl⟩, _, h₅,
      rfl⟩, _, h₆, rfl⟩, _, h₇, rfl⟩, _, h₈, rfl⟩
    exact ⟨h₁, h₂, h₃, h₄, h₅, h₆, h₇, h₈⟩
  · exact ⟨_, ⟨_, ⟨_, ⟨_, ⟨_, ⟨_, ⟨_, ⟨_, h.documentType, rfl⟩, _, h.process, rfl⟩, _,
      h.transportProfile, rfl⟩, _, h.endpointUrl, rfl⟩, _, h.certificate, rfl⟩, _,
      h.serviceDescription, rfl⟩, _, h.technicalContactUrl, rfl⟩, _, h.extension, rfl⟩

theorem accepts_redirect {v : Json} (hv : v.isUnicode = true) :
    (checkRedirect v).Accepts fun r => ∃ ms, v = .object ms ∧ RedirectFormat ms r := by
  refine accepts_objectMembers hv fun ms hms => ?_
  have htext := accepts_requiredText hms
  have hoptional := accepts_optionalMember ms
  refine (((((htext _).map _).seq (htext _)).seq (hoptional _)).seq (hoptional _)).seq (hoptional _)
    |>.congr fun r => ⟨?_, fun h => ?_⟩
  · rintro ⟨_, ⟨_, ⟨_, ⟨_, ⟨_, h₁, rfl⟩, _, h₂, rfl⟩, _, h₃, rfl⟩, _, h₄, rfl⟩, _, h₅, rfl⟩
    exact ⟨h₁, h₂, h₃, h₄, h₅⟩
  · exact ⟨_, ⟨_, ⟨_, ⟨_, ⟨_, h.documentType, rfl⟩, _, h.targetHref, rfl⟩, _,
      h.subjectUniqueIdentifier, rfl⟩, _, h.certificate, rfl⟩, _, h.extension, rfl⟩

/-- The check of the schema accepts exactly the format. -/
theorem accepts_group {v : Json} (hv : v.isUnicode = true) :
    (checkGroup v).Accepts fun g => ∃ ms, v = .object ms ∧ GroupFormat ms g := by
  refine accepts_objectMembers hv fun ms hms => ?_
  have htext := accepts_requiredText hms
  have hendpoints := accepts_children hms (fun _ => accepts_endpoint) "endpoints"
  have hredirects := accepts_children hms (fun _ => accepts_redirect) "redirects"
  refine (((((htext _).map _).seq (htext _)).seq (accepts_optionalMember ms _)).seq hendpoints).seq
    hredirects |>.congr fun g => ⟨?_, fun h => ?_⟩
  · rintro ⟨_, ⟨_, ⟨_, ⟨_, ⟨_, h₁, rfl⟩, _, h₂, rfl⟩, _, h₃, rfl⟩, _, h₄, rfl⟩, _, h₅, rfl⟩
    exact ⟨h₁, h₂, h₃, h₄, h₅⟩
  · exact ⟨_, ⟨_, ⟨_, ⟨_, ⟨_, h.participantId, rfl⟩, _, h.ownerId, rfl⟩, _, h.extension, rfl⟩, _,
      h.endpoints, rfl⟩, _, h.redirects, rfl⟩

end Document

end ParticipantRegistry
