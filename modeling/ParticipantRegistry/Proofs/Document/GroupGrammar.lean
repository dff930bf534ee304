import ParticipantRegistry.Proofs.Document.GroupFormat
import ParticipantRegistry.Proofs.Document.NormalForm
import ParticipantRegistry.Proofs.Text.Trimming

/-!
# The grammar of group records

A group element is read as a record if it has the format of one and no required text of the record is
blank: the format trims white space, and a record refuses texts in which nothing is left once the
information separators are stripped as well. The user that owns the group is asked for once, as soon as
the element has the format. Members that the format does not name change nothing.
-/

namespace ParticipantRegistry

theorem Endpoint.check_eq_ok_iff (e : Endpoint) :
    e.check = .ok () ↔ e.participantId.strip ≠ [] ∧
      ∀ t ∈ [e.documentType, e.process, e.transportProfile, e.endpointUrl], t.strip ≠ [] := by
  rw [Endpoint.check, requireTexts_eq_ok_iff]
  simp only [List.forall_mem_cons, Text.isBlank_eq_false_iff, List.not_mem_nil, false_implies,
    implies_true]

theorem Redirect.check_eq_ok_iff (r : Redirect) :
    r.check = .ok () ↔ r.participantId.strip ≠ [] ∧
      ∀ t ∈ [r.documentType, r.targetHref], t.strip ≠ [] := by
  rw [Redirect.check, requireTexts_eq_ok_iff]
  simp only [List.forall_mem_cons, Text.isBlank_eq_false_iff, List.not_mem_nil, false_implies,
    implies_true]

theorem ServiceGroup.check_eq_ok_iff (g : ServiceGroup) :
    g.check = .ok () ↔ ∀ t ∈ [g.participantId, g.ownerId], t.strip ≠ [] := by
  rw [ServiceGroup.check, requireTexts_eq_ok_iff]
  simp only [List.forall_mem_cons, Text.isBlank_eq_false_iff, List.not_mem_nil, false_implies,
    implies_true]

namespace Document

open Checked

section Named

variable {α β : Type}

/-- The members of an object that are known by name, each with the part of its value that counts. -/
def named (known : List Text) (part : Text → Json → Json) : Json → Json
  | .object ms => .object (ms.filterMap fun m => if known.contains m.1 then some (m.1, part m.1 m.2) else none)
  | v => v

def mapItems (part : Json → Json) : Json → Json
  | .array items => .array (items.map part)
  | v => v

def namedGroup : Json → Json :=
  named groupNames fun name v =>
    if name = "endpoints" then mapItems (named endpointNames fun _ v => v) v
    else if name = "redirects" then mapItems (named redirectNames fun _ v => v) v
    else v

theorem lookup_named {known : List Text} {part : Text → Json → Json} {name : Text} (h : name ∈ known)
    (ms : Json.Members) :
    (ms.filterMap fun m => if known.contains m.1 then some (m.1, part m.1 m.2) else none).lookup name =
      (ms.lookup name).map (part name) := by
  induction ms with
  | nil => rfl
  | cons m ms ih =>
    rw [List.filterMap_cons, List.lookup_cons]
    by_cases hname : name = m.1
    · subst hname
      simp [h]
    · rw [beq_false_of_ne hname]
      split
      · exact ih
      · next b hb =>
        split at hb
        · obtain rfl := Option.some.inj hb
          rw [List.lookup_cons, beq_false_of_ne hname]
          exact ih
        · cases hb

theorem names_named {known : List Text} {part : Text → Json → Json} {ms : Json.Members} {name : Text}
    (h : name ∈ Json.names
      (ms.filterMap fun m => if known.contains m.1 then some (m.1, part m.1 m.2) else none)) :
    name ∈ known := by
  obtain ⟨m, hm, rfl⟩ := List.mem_map.mp h
  obtain ⟨m', -, hm'⟩ := List.mem_filterMap.mp hm
  split at hm'
  · next hknown =>
    obtain rfl := Option.some.inj hm'
    exact List.contains_iff_mem.mp hknown
  · cases hm'

theorem result_named {kind : ElementKind} {known : List Text} {part : Text → Json → Json}
    {check : Json.Members → Checked α} {v : Json} (hv : v.isUnicode = true)
    (h : ∀ ms ms' : Json.Members, Json.membersUnicode ms = true →
      (∀ name ∈ known, ms'.lookup name = (ms.lookup name).map (part name)) →
      (check ms').result = (check ms).result) :
    (object kind known check (named known part v)).result = (object kind known check v).result := by
  cases v with
  | object ms =>
    rw [named, object_result fun name hname hunknown => absurd (names_named hname) hunknown,
      object_result fun name hname _ => Json.isUnicode_of_mem_names hv name hname]
    exact h ms _ hv fun name hname => lookup_named hname ms
  | _ => rfl

theorem seq_result {f f' : Checked (α → β)} {c c' : Checked α} (hf : f'.result = f.result)
    (hc : c'.result = c.result) : (f' <*> c').result = (f <*> c).result := by
  change (f'.seq c').result = (f.seq c).result
  rw [seq, seq, hf, hc]

theorem under_result {c c' : Checked α} (h : c'.result = c.result) (step : Step) :
    (c'.under step).result = (c.under step).result := by
  rw [under, under, h]

theorem items_result {check : Json → Checked α} {part : Json → Json} {values : List Json}
    (h : ∀ v ∈ values, (check (part v)).result = (check v).result) (index : Nat) :
    (items check index (values.map part)).result = (items check index values).result := by
  induction values generalizing index with
  | nil => rfl
  | cons v values ih =>
    obtain ⟨hv, hvalues⟩ := List.forall_mem_cons.mp h
    refine seq_result ?_ (ih hvalues (index + 1))
    change ((check (part v)).under _).result.map _ = ((check v).under _).result.map _
    rw [under_result hv]

theorem children_result {check : Json → Checked α} {part : Json → Json} {ms ms' : Json.Members}
    {name : Text} (hms : Json.membersUnicode ms = true)
    (hlookup : ms'.lookup name = (ms.lookup name).map (mapItems part))
    (h : ∀ v : Json, v.isUnicode = true → (check (part v)).result = (check v).result) :
    (optional name [] (array check) ms').result = (optional name [] (array check) ms).result := by
  rw [Checked.optional, Checked.optional, hlookup]
  cases hv : ms.lookup name with
  | none => rfl
  | some v =>
    have hunicode := Json.isUnicode_of_lookup_eq hms hv
    refine under_result ?_ _
    cases v with
    | array values =>
      exact items_result (fun v hv => h v (Json.isUnicode_of_mem_items hunicode v hv)) 0
    | _ => rfl

theorem endpoint_result {v : Json} (hv : v.isUnicode = true) :
    (checkEndpoint (named endpointNames (fun _ v => v) v)).result = (checkEndpoint v).result := by
  refine result_named hv fun ms ms' _ hlookup => ?_
  have h (name : Text) (hname : name ∈ endpointNames) : ms'.lookup name = ms.lookup name := by
    rw [hlookup name hname, Option.map_id']
  simp only [checkEndpointMembers, required, Checked.optional]
  rw [h "document_type" (by decide), h "process" (by decide), h "transport_profile" (by decide),
    h "endpoint_url" (by decide), h "certificate" (by decide), h "service_description" (by decide),
    h "technical_contact_url" (by decide), h "extension" (by decide)]

theorem redirect_result {v : Json} (hv : v.isUnicode = true) :
    (checkRedirect (named redirectNames (fun _ v => v) v)).result = (checkRedirect v).result := by
  refine result_named hv fun ms ms' _ hlookup => ?_
  have h (name : Text) (hname : name ∈ redirectNames) : ms'.lookup name = ms.lookup name := by
    rw [hlookup name hname, Option.map_id']
  simp only [checkRedirectMembers, required, Checked.optional]
  rw [h "document_type" (by decide), h "target_href" (by decide),
    h "subject_unique_identifier" (by decide), h "certificate" (by decide), h "extension" (by decide)]

/-- Of a group element only the part that its format names counts. -/
theorem group_result {v : Json} (hv : v.isUnicode = true) :
    (checkGroup (namedGroup v)).result = (checkGroup v).result := by
  refine result_named hv fun ms ms' hms hlookup => ?_
  have hown (name : Text) (hname : name ∈ (["participant_id", "owner_id", "extension"] : List Text)) :
      ms'.lookup name = ms.lookup name := by
    simp only [List.mem_cons, List.not_mem_nil, or_false] at hname
    rcases hname with rfl | rfl | rfl <;> exact (hlookup _ (by decide)).trans Option.map_id'
  refine seq_result (seq_result ?_ ?_) ?_
  · simp only [required, Checked.optional]
    rw [hown "participant_id" (by decide), hown "owner_id" (by decide), hown "extension" (by decide)]
  · exact children_result hms (hlookup "endpoints" (by decide)) fun _ => endpoint_result
  · exact children_result hms (hlookup "redirects" (by decide)) fun _ => redirect_result

end Named

/-- An endpoint that a group gets from an object of the right format, if none of its required texts is
blank. -/
structure EndpointOf (participantId : Text) (ms : Json.Members) (e : Endpoint) : Prop where
  participantId : e.participantId = participantId
  format : EndpointFormat ms e.element
  filled : ∀ t ∈ [e.documentType, e.process, e.transportProfile, e.endpointUrl], t.strip ≠ []

structure RedirectOf (participantId : Text) (ms : Json.Members) (r : Redirect) : Prop where
  participantId : r.participantId = participantId
  format : RedirectFormat ms r.element
  filled : ∀ t ∈ [r.documentType, r.targetHref], t.strip ≠ []

/-- The record of a group that an object gives, with the owner that is found for its owner id. -/
structure GroupOf (users : Text → User) (ms : Json.Members) (record : GroupRecord) : Prop where
  participantId : HasText ms "participant_id" record.group.participantId
  ownerId : ∃ ownerId, HasText ms "owner_id" ownerId ∧ record.group.ownerId = (users ownerId).id
  extension : HasOptionalText ms "extension" record.group.extension
  filled : ∀ t ∈ [record.group.participantId, record.group.ownerId], t.strip ≠ []
  endpoints : HasChildren ms "endpoints" (EndpointOf record.group.participantId) record.endpoints
  redirects : HasChildren ms "redirects" (RedirectOf record.group.participantId) record.redirects

section Children

variable {α β : Type} {ms : Json.Members} {name : Text} {R : Json.Members → α → Prop} {as : List α}

theorem HasChildren.map {S : Json.Members → β → Prop} {f : α → β} (h : HasChildren ms name R as)
    (hf : ∀ a ∈ as, ∀ object, R object a → S object (f a)) : HasChildren ms name S (as.map f) := by
  rcases h with ⟨hnone, rfl⟩ | ⟨objects, hobjects, has⟩
  · exact .inl ⟨hnone, rfl⟩
  · refine .inr ⟨objects, hobjects, ?_⟩
    clear hobjects
    induction has with
    | nil => exact .nil
    | cons ha _ ih =>
      obtain ⟨hfirst, hrest⟩ := List.forall_mem_cons.mp hf
      exact .cons (hfirst _ ha) (ih hrest)

theorem HasChildren.exists_object (h : HasChildren ms name R as) : ∀ a ∈ as, ∃ object, R object a := by
  rcases h with ⟨-, rfl⟩ | ⟨objects, -, has⟩
  · exact List.forall_mem_nil _
  · induction has with
    | nil => exact List.forall_mem_nil _
    | cons ha _ ih => exact List.forall_mem_cons.mpr ⟨⟨_, ha⟩, ih⟩

end Children

theorem run_readServiceGroup (e : Json) (users : Text → User) :
    (readServiceGroup e).2.run users =
      match (checkGroup e).result with
      | .error problems => ([], .error (.invalid .serviceGroup problems))
      | .ok parsed =>
        ([parsed.ownerId],
          ((parsed.toRecord (users parsed.ownerId)).check.mapError .blank).map fun _ =>
            parsed.toRecord (users parsed.ownerId)) := by
  rw [readServiceGroup]
  cases (checkGroup e).result with
  | error problems => rfl
  | ok parsed =>
    simp only [Inquiry.run]
    cases (parsed.toRecord (users parsed.ownerId)).check <;> rfl

theorem groupOf_iff {users : Text → User} {ms : Json.Members} {record : GroupRecord} :
    GroupOf users ms record ↔ ∃ parsed, GroupFormat ms parsed ∧
      record = parsed.toRecord (users parsed.ownerId) ∧ record.check = .ok () := by
  refine ⟨fun h => ?_, ?_⟩
  · obtain ⟨ownerId, howner, hid⟩ := h.ownerId
    have hparticipant : record.group.participantId.strip ≠ [] := (List.forall_mem_cons.mp h.filled).1
    have hendpoint (e : Endpoint) (he : e ∈ record.endpoints) :
        e.participantId = record.group.participantId ∧ e.check = .ok () := by
      obtain ⟨_, hobject⟩ := h.endpoints.exists_object e he
      rw [Endpoint.check_eq_ok_iff, hobject.participantId]
      exact ⟨rfl, hparticipant, hobject.filled⟩
    have hredirect (r : Redirect) (hr : r ∈ record.redirects) :
        r.participantId = record.group.participantId ∧ r.check = .ok () := by
      obtain ⟨_, hobject⟩ := h.redirects.exists_object r hr
      rw [Redirect.check_eq_ok_iff, hobject.participantId]
      exact ⟨rfl, hparticipant, hobject.filled⟩
    refine ⟨⟨record.group.participantId, ownerId, record.group.extension,
      record.endpoints.map Endpoint.element, record.redirects.map Redirect.element⟩, ?_, ?_, ?_⟩
    · exact ⟨h.participantId, howner, h.extension, h.endpoints.map fun _ _ _ he => he.format,
        h.redirects.map fun _ _ _ hr => hr.format⟩
    · rw [GroupElement.toRecord, Endpoint.map_toEndpoint_element fun e he => (hendpoint e he).1,
        Redirect.map_toRedirect_element fun r hr => (hredirect r hr).1, ← hid]
    · rw [GroupRecord.check_eq_ok_iff, ServiceGroup.check_eq_ok_iff]
      exact ⟨h.filled, fun e he => (hendpoint e he).2, fun r hr => (hredirect r hr).2⟩
  · rintro ⟨parsed, hformat, rfl, hcheck⟩
    obtain ⟨hgroup, hendpoints, hredirects⟩ := (GroupRecord.check_eq_ok_iff _).mp hcheck
    refine ⟨hformat.participantId, ⟨parsed.ownerId, hformat.ownerId, rfl⟩, hformat.extension,
      (ServiceGroup.check_eq_ok_iff _).mp hgroup, ?_, ?_⟩
    · refine hformat.endpoints.map fun e he _ hobject => ⟨rfl, hobject, ?_⟩
      exact ((Endpoint.check_eq_ok_iff _).mp (hendpoints _ (List.mem_map_of_mem he))).2
    · refine hformat.redirects.map fun r hr _ hobject => ⟨rfl, hobject, ?_⟩
      exact ((Redirect.check_eq_ok_iff _).mp (hredirects _ (List.mem_map_of_mem hr))).2

section Grammar

variable {e : Json} (he : e.isUnicode = true) (users : Text → User)

include he

theorem readServiceGroup_eq_ok_iff (record : GroupRecord) :
    ((readServiceGroup e).2.run users).2 = .ok record ↔
      ∃ ms, e = .object ms ∧ GroupOf users ms record := by
  have hrecord : ((readServiceGroup e).2.run users).2 = .ok record ↔
      ∃ parsed, (checkGroup e).result = .ok parsed ∧
        record = parsed.toRecord (users parsed.ownerId) ∧ record.check = .ok () := by
    rw [run_readServiceGroup]
    cases (checkGroup e).result with
    | error problems => exact ⟨nofun, fun ⟨_, h, _⟩ => nomatch h⟩
    | ok parsed =>
      dsimp only
      refine ⟨fun h => ⟨parsed, rfl, ?_⟩, ?_⟩
      · cases hcheck : (parsed.toRecord (users parsed.ownerId)).check with
        | error field =>
          rw [hcheck] at h
          cases h
        | ok =>
          rw [hcheck] at h
          obtain rfl := Except.ok.inj h
          exact ⟨rfl, hcheck⟩
      · rintro ⟨_, hparsed, rfl, hcheck⟩
        cases hparsed
        rw [hcheck]
        rfl
  rw [hrecord]
  simp only [(accepts_group he) _, groupOf_iff]
  refine ⟨?_, ?_⟩
  · rintro ⟨parsed, ⟨ms, heq, hformat⟩, hparsed⟩
    exact ⟨ms, heq, parsed, hformat, hparsed⟩
  · rintro ⟨ms, heq, parsed, hformat, hparsed⟩
    exact ⟨parsed, ⟨ms, heq, hformat⟩, hparsed⟩

theorem asked_cases :
    (∃ ms parsed, e = .object ms ∧ GroupFormat ms parsed ∧
      (∀ ms' parsed', e = .object ms' → GroupFormat ms' parsed' → parsed' = parsed) ∧
      ((readServiceGroup e).2.run users).1 = [parsed.ownerId]) ∨
    (∀ ms parsed, e = .object ms → ¬GroupFormat ms parsed) ∧
      ((readServiceGroup e).2.run users).1 = [] := by
  have haccepts := accepts_group he
  rw [run_readServiceGroup]
  cases hresult : (checkGroup e).result with
  | error problems =>
    refine .inr ⟨fun ms parsed heq hformat => ?_, rfl⟩
    cases hresult.symm.trans ((haccepts parsed).mpr ⟨ms, heq, hformat⟩)
  | ok parsed =>
    obtain ⟨ms, heq, hformat⟩ := (haccepts parsed).mp hresult
    refine .inl ⟨ms, parsed, heq, hformat, fun ms' parsed' heq' hformat' => ?_, rfl⟩
    exact Except.ok.inj (((haccepts parsed').mpr ⟨ms', heq', hformat'⟩).symm.trans hresult)

/-- An element without surrogates is read exactly as its grammar says: as the record that its members
give, or not at all if they give none. The owner is asked for once, under the trimmed owner id, if the
element has the format of one, and otherwise not at all; and all of this only depends on the members that
the format names. -/
theorem service_group_grammar :
    (∀ record, ((readServiceGroup e).2.run users).2 = .ok record ↔
      ∃ ms, e = .object ms ∧ GroupOf users ms record) ∧
    ((∃ error, ((readServiceGroup e).2.run users).2 = .error error) ↔
      ¬∃ ms record, e = .object ms ∧ GroupOf users ms record) ∧
    (∀ ownerId, ((readServiceGroup e).2.run users).1 = [ownerId] ↔
      ∃ ms parsed, e = .object ms ∧ GroupFormat ms parsed ∧ parsed.ownerId = ownerId) ∧
    (((readServiceGroup e).2.run users).1 = [] ↔
      ¬∃ ms parsed, e = .object ms ∧ GroupFormat ms parsed) ∧
    (readServiceGroup (namedGroup e)).2.run users = (readServiceGroup e).2.run users := by
  have hok := readServiceGroup_eq_ok_iff he users
  refine ⟨hok, ?_, ?_, ?_, ?_⟩
  · cases hresult : ((readServiceGroup e).2.run users).2 with
    | error error =>
      refine ⟨fun _ => ?_, fun _ => ⟨error, rfl⟩⟩
      rintro ⟨ms, record, hrecord⟩
      cases hresult.symm.trans ((hok record).mpr ⟨ms, hrecord⟩)
    | ok record =>
      obtain ⟨ms, hrecord⟩ := (hok record).mp hresult
      exact ⟨nofun, fun hnone => absurd ⟨ms, record, hrecord⟩ hnone⟩
  · intro ownerId
    rcases asked_cases he users with ⟨ms, parsed, heq, hformat, hunique, hasked⟩ | ⟨hnone, hasked⟩
    · rw [hasked]
      refine ⟨fun h => ⟨ms, parsed, heq, hformat, (List.cons.inj h).1⟩, ?_⟩
      rintro ⟨ms', parsed', heq', hformat', rfl⟩
      rw [hunique ms' parsed' heq' hformat']
    · rw [hasked]
      exact ⟨nofun, fun ⟨ms, parsed, heq, hformat, _⟩ => absurd hformat (hnone ms parsed heq)⟩
  · rcases asked_cases he users with ⟨ms, parsed, heq, hformat, -, hasked⟩ | ⟨hnone, hasked⟩
    · rw [hasked]
      exact ⟨nofun, fun h => absurd ⟨ms, parsed, heq, hformat⟩ h⟩
    · rw [hasked]
      exact ⟨fun _ ⟨ms, parsed, heq, hformat⟩ => hnone ms parsed heq hformat, fun _ => rfl⟩
  · rw [run_readServiceGroup, run_readServiceGroup, group_result he]

end Grammar

theorem service_group_grammar_trimmed :
    let endpoint : Json.Members := [("process", .string "billing"), ("document_type", .string "invoice"),
      ("transport_profile", .string "as4"), ("endpoint_url", .string " url\n"), ("certificate", .null)]
    let ms : Json.Members := [("note", .int 1), ("participant_id", .string " a"),
      ("owner_id", .string "u\t"), ("endpoints", .array [.object endpoint])]
    let record : GroupRecord :=
      ⟨⟨"a", "u", none⟩, [⟨"a", "invoice", "billing", "as4", "url", none, none, none, none⟩], []⟩
    let users (id : Text) : User := ⟨id, "U"⟩
    (Json.object ms).isUnicode = true ∧
      (readServiceGroup (.object ms)).2.run users = ([("u" : Text)], .ok record) := by
  intro endpoint ms record users
  have hunicode : (Json.object ms).isUnicode = true := by decide
  have hendpoint : EndpointOf "a" endpoint
      ⟨"a", "invoice", "billing", "as4", "url", none, none, none, none⟩ :=
    { participantId := rfl
      format :=
        { documentType := ⟨_, rfl, by decide, by decide⟩
          process := ⟨_, rfl, by decide, by decide⟩
          transportProfile := ⟨_, rfl, by decide, by decide⟩
          endpointUrl := ⟨_, rfl, by decide, by decide⟩
          certificate := .inr rfl
          serviceDescription := .inl ⟨rfl, rfl⟩
          technicalContactUrl := .inl ⟨rfl, rfl⟩
          extension := .inl ⟨rfl, rfl⟩ }
      filled := by decide }
  have hgroup : GroupOf users ms record :=
    { participantId := ⟨_, rfl, by decide, by decide⟩
      ownerId := ⟨"u", ⟨_, rfl, by decide, by decide⟩, rfl⟩
      extension := .inl ⟨rfl, rfl⟩
      filled := by decide
      endpoints := .inr ⟨[endpoint], rfl, .cons hendpoint .nil⟩
      redirects := .inl ⟨rfl, rfl⟩ }
  obtain ⟨hok, -, hasked, -⟩ := service_group_grammar hunicode users
  obtain ⟨parsed, hformat, -, -⟩ := groupOf_iff.mp hgroup
  have howner : parsed.ownerId = "u" := by
    obtain ⟨_, hs, htrim, -⟩ := hformat.ownerId
    cases hs
    exact htrim.symm
  exact ⟨hunicode, Prod.ext ((hasked "u").mpr ⟨ms, parsed, rfl, hformat, howner⟩)
    ((hok record).mpr ⟨ms, rfl, hgroup⟩)⟩

end Document

end ParticipantRegistry
