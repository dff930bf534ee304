import ParticipantRegistry.Application.Exchange
import ParticipantRegistry.Proofs.Exchange.Reimport
import ParticipantRegistry.Proofs.Relational.StoreMirror

/-!
# Exchanges over a session

A session that mirrors a store is exported as the document of the store. It takes in the document of a
store in normal form as a store does that it mirrors: without errors, and so that it mirrors the same
records afterwards.
-/

namespace ParticipantRegistry

namespace Task

variable {σ α β : Type}

theorem bind_of_ok {task : Task σ α} {next : α → Task σ β} {d d' : Desk σ} {a : α}
    (h : task d = (.ok a, d')) : (task >>= next) d = next a d' := by
  change ExceptT.bindCont next (task d).1 (task d).2 = _
  rw [h]
  rfl

theorem bind_of_error {task : Task σ α} {next : α → Task σ β} {d d' : Desk σ} {failure : Failure}
    (h : task d = (.error failure, d')) : (task >>= next) d = (.error failure, d') := by
  change ExceptT.bindCont next (task d).1 (task d).2 = _
  rw [h]
  rfl

theorem call_of_ok {c : Call σ α} {s s' : σ} {a : α} (h : c s = (.ok a, s'))
    (journal : List Occurrence) : Task.call c ⟨s, journal⟩ = (.ok a, ⟨s', journal⟩) := by
  rw [Task.call]
  simp only [h, Run.answerEvents, List.map_nil, List.append_nil]

theorem exchange_of_ok {log : ActionLog} {run : Run σ α} {s : σ} {a : α} {p : Progress σ}
    (h : run { registry := s, log } = (.ok a, p)) (journal : List Occurrence) :
    Task.exchange log run ⟨s, journal⟩ =
      (.ok (a, p.log), ⟨p.registry, journal ++ p.events.map .exchange⟩) := by
  rw [Task.exchange]
  simp only [h]

end Task

theorem ServiceGroup.Normal.isUnicode {g : ServiceGroup} (h : g.Normal) :
    ([g.participantId, g.ownerId] ++ g.extension.toList).all Text.isUnicode = true := by
  simpa [h.participantId.isUnicode, h.ownerId.isUnicode] using h.extension

theorem Endpoint.Normal.isUnicode {e : Endpoint} (h : e.Normal)
    (hid : e.participantId.isUnicode = true) :
    (Session.endpointTexts e).all Text.isUnicode = true := by
  have hdocumentType := h.element.documentType.isUnicode
  have hprocess := h.element.process.isUnicode
  have htransportProfile := h.element.transportProfile.isUnicode
  have hendpointUrl := h.element.endpointUrl.isUnicode
  have hoptional := And.intro h.element.certificate (And.intro h.element.serviceDescription
    (And.intro h.element.technicalContactUrl h.element.extension))
  simp only [Endpoint.element] at hdocumentType hprocess htransportProfile hendpointUrl hoptional
  simp only [Session.endpointTexts, key, EndpointKey.parts, List.all_append, List.all_cons,
    List.all_nil, hid, hdocumentType, hprocess, htransportProfile, hendpointUrl, Bool.and_true,
    Bool.true_and, Bool.and_eq_true, List.all_eq_true, Option.mem_toList]
  exact ⟨⟨⟨hoptional.1, hoptional.2.1⟩, hoptional.2.2.1⟩, hoptional.2.2.2⟩

theorem Redirect.Normal.isUnicode {r : Redirect} (h : r.Normal)
    (hid : r.participantId.isUnicode = true) :
    (Session.redirectTexts r).all Text.isUnicode = true := by
  have hdocumentType := h.element.documentType.isUnicode
  have htargetHref := h.element.targetHref.isUnicode
  have hoptional := And.intro h.element.subjectUniqueIdentifier (And.intro h.element.certificate
    h.element.extension)
  simp only [Redirect.element] at hdocumentType htargetHref hoptional
  simp only [Session.redirectTexts, key, RedirectKey.parts, List.all_append, List.all_cons,
    List.all_nil, hid, hdocumentType, htargetHref, Bool.and_true, Bool.true_and, Bool.and_eq_true,
    List.all_eq_true, Option.mem_toList]
  exact ⟨⟨hoptional.1, hoptional.2.1⟩, hoptional.2.2⟩

theorem Run.asks_readServiceGroup {P : Text → Prop} {element : Json}
    (h : ∀ parsed, (Document.checkGroup element).result = .ok parsed → P parsed.ownerId) :
    Run.Asks P (Document.readServiceGroup element).2 := by
  rw [Document.readServiceGroup]
  cases hp : (Document.checkGroup element).result with
  | error problems => exact .done _
  | ok parsed =>
    refine .askUser (h parsed hp) fun owner => ?_
    dsimp only
    split <;> exact .done _

namespace Store

variable {content : Store}

theorem Normal.isUnicode_of_hasGroup (h : content.Normal) {participantId : Text}
    (hg : content.hasGroup participantId = true) : participantId.isUnicode = true := by
  rw [hasGroup, Table.hasKey_iff] at hg
  obtain ⟨group, hgroup, rfl⟩ := List.mem_map.mp hg
  exact (h.groups group hgroup).participantId.isUnicode

theorem Normal.storable (h : content.Normal) {mutation : Mutation} (hm : mutation.Concerns content) :
    mutation.Storable content.users := by
  cases mutation with
  | deleteGroup participantId deprovision =>
    obtain ⟨group, hgroup, rfl⟩ := hm
    exact (h.groups group hgroup).participantId.isUnicode
  | createGroup group register =>
    refine ⟨(h.groups group hm).isUnicode, ?_⟩
    rw [← Table.hasKey_eq_isSome]
    exact h.owners group hm
  | mergeEndpoint e =>
    exact (h.endpoints e hm).isUnicode (h.isUnicode_of_hasGroup (h.owned.endpoints e hm))
  | upsertRedirect r =>
    exact (h.redirects r hm).isUnicode (h.isUnicode_of_hasGroup (h.owned.redirects r hm))
  | deleteBusinessCard card => exact (h.businessCards card hm).participantId.isUnicode
  | upsertBusinessCard card =>
    exact ⟨(h.businessCards card hm).taken.isUnicode, (h.businessCards card hm).taken.isTextual⟩

theorem Normal.asks (h : content.Normal) : ∀ e ∈ content.document.elements.serviceGroups,
    Run.Asks (fun id => id.isUnicode = true) (Document.elementReader.serviceGroup e).2 := by
  intro e he
  obtain ⟨g, hg, rfl⟩ := List.mem_map.mp he
  have hnormal := (h.document.serviceGroups g hg).element
  refine Run.asks_readServiceGroup fun parsed hparsed => ?_
  rw [hnormal.check] at hparsed
  cases hparsed
  exact hnormal.ownerId.isUnicode

end Store

namespace Session

variable {users : List User} {s : Session} {t : Store}

theorem consistent (users : List User) :
    Run.Consistent (Mirrors users) fun id => id.isUnicode = true where
  lookup id hid s t h := by
    have hs : (Registry.lookupUser id : Call Session (Option User)) s = _ := h.lookupUser hid
    have ht : (Registry.lookupUser id : Call Store (Option User)) t =
        (.ok (Table.find? id t.users), t) := rfl
    rw [hs, ht]
    exact .answered rfl h.begun
  directoryIntegration _ _ h := h.directoryIntegration

theorem Answers.listEndpoints (h : s.Answers users t) {participantId : Text}
    (hid : participantId.isUnicode = true) : listEndpoints participantId s =
      (.ok (t.endpoints.filter (·.participantId = participantId)), s.begun) :=
  Call.bind_of_ok (h.select .endpoints h.shows.endpoints (by simp [hid]))

theorem Answers.listRedirects (h : s.Answers users t) {participantId : Text}
    (hid : participantId.isUnicode = true) : listRedirects participantId s =
      (.ok (t.redirects.filter (·.participantId = participantId)), s.begun) :=
  Call.bind_of_ok (h.select .redirects h.shows.redirects (by simp [hid]))

theorem listed {participantId : Text} (hid : participantId.isUnicode = true) :
    Run.Listed (Mirrors users) participantId where
  endpoints s t h := by
    have hs : (Registry.endpoints participantId : Call Session (List Endpoint)) s = _ :=
      h.listEndpoints hid
    rw [hs, Store.endpoints_eq h.failing]
    exact .answered rfl h.begun
  redirects s t h := by
    have hs : (Registry.redirects participantId : Call Session (List Redirect)) s = _ :=
      h.listRedirects hid
    rw [hs, Store.redirects_eq h.failing]
    exact .answered rfl h.begun
  businessCard s t h := by
    have hs : (Registry.businessCard? participantId : Call Session (Option BusinessCard)) s = _ :=
      h.findCard hid
    rw [hs, Store.businessCard?_eq h.failing]
    exact .answered rfl h.begun

theorem Answers.listGroups (h : s.Answers users t) : listGroups s =
    (.ok (t.groups.mergeSort ServiceGroup.le), s.begun) :=
  Call.bind_of_ok (h.select .groups h.shows.groups rfl)

theorem Answers.serviceGroupKeys (h : s.Answers users t) :
    (Registry.serviceGroupKeys : Call Session (List Text)) s = (.ok (Table.keys t.groups), s.begun) :=
  Call.bind_of_ok (h.select .groups h.shows.groups rfl)

theorem Answers.businessCardKeys (h : s.Answers users t) :
    (Registry.businessCardKeys : Call Session (List Text)) s =
      (.ok (Table.keys t.businessCards), s.begun) := by
  obtain ⟨rows, hrows, hstand⟩ := h.shows.businessCards
  rw [← hstand.keys]
  exact Call.bind_of_ok (h.select .businessCards hrows rfl)

theorem Answers.userBy (h : s.Answers users t) {id : Text} (hid : id.isUnicode = true) :
    userBy (.string id) s = (.ok (Table.find? id t.users), s.begun) := by
  have hkey : ofExcept (Cell.keyOf "id" (.string id)) s = (.ok (.string id), s) := rfl
  have hcell : ofExcept (Cell.ofJson (.string id)) s.begun = (.ok (some id), s.begun) := by
    rw [Cell.ofJson_string hid]
    rfl
  have hselect : Session.select Place.users [] s = _ := h.select .users h.shows.users rfl
  exact (Call.bind_of_ok hkey).trans ((Call.bind_of_ok hselect).trans (Call.bind_of_ok hcell))

end Session

namespace Session.Mirrors

variable {users : List User} {s : Session} {t content : Store}

theorem exportRegistry (h : s.Mirrors users t) (hn : content.Normal) (hsame : t.SameRecords content)
    (hd : t.directoryIntegration = true) (journal : List Occurrence) :
    ∃ (s' : Session) (journal' : List Occurrence),
      Host.exportRegistry true ⟨s, journal⟩ = (.ok content.document, ⟨s', journal'⟩) ∧
        s'.Mirrors users t := by
  have hgroups : (Registry.serviceGroups : Call Session (List ServiceGroup)) s = _ := h.listGroups
  have hsorted : (t.groups.mergeSort ServiceGroup.le).mergeSort ServiceGroup.le =
      t.groups.mergeSort ServiceGroup.le :=
    List.mergeSort_of_pairwise (List.pairwise_mergeSort
      (fun a b c => Text.le_trans a.participantId b.participantId c.participantId)
      (fun a b => Text.le_total a.participantId b.participantId) t.groups)
  have hruns := Run.mirrors_exportGroups true hsorted
    (fun group hgroup =>
      listed (hn.groups group (hsame.groups.mem_iff.mp hgroup)).participantId.isUnicode)
    { registry := s.begun, log := ⟨.null, []⟩ } { registry := t, log := ⟨.null, []⟩ }
    ⟨h.begun, rfl⟩
  obtain ⟨events, hstore⟩ := Run.yields_exportGroups h.failing
    { registry := t, log := ⟨.null, []⟩ } rfl
  rw [hstore, hsame.document_eq hn.distinct] at hruns
  cases hrun : Run.exportGroups (t.groups.mergeSort ServiceGroup.le) true
      { registry := s.begun, log := ⟨.null, []⟩ } with
  | mk answer p =>
    rw [hrun] at hruns
    cases hruns with
    | answered value content =>
      subst value
      have htakes : Registry.directoryIntegration s = true := h.directoryIntegration.trans hd
      have hcontent : (Task.content : Task Session Session) ⟨s, journal⟩ = (.ok s, ⟨s, journal⟩) := rfl
      refine ⟨p.registry, journal ++ p.events.map .exchange, ?_, content.registry⟩
      rw [Host.exportRegistry, Task.bind_of_ok hcontent]
      simp only [htakes, Bool.not_true, Bool.and_false, Bool.false_eq_true, if_false, Bool.and_self]
      exact (Task.bind_of_ok (Task.call_of_ok hgroups journal)).trans
        (Task.bind_of_ok (Task.exchange_of_ok hrun journal))

/-- What is staged over a store is asked of a session that mirrors it as of the store, if it can be
stored. -/
theorem shared_requests {request : ImportRequest} {batch : ParsedBatch}
    (hstorable : ∀ r ∈ (t.stage request batch).1.requests, r.mutation.Storable users)
    {log : ActionLog} (staged : StagedBatch) (q : Progress Store)
    (hprepare : Run.prepare Document.elementReader request batch { registry := t, log } =
      (.ok (staged, .proceed), q)) :
    ∀ r ∈ staged.requests, Run.Shared (Mirrors users) r.mutation := by
  intro r hrequest
  obtain ⟨r', -, hprepare', -⟩ := Store.shows.import_ends request batch { registry := t, log }
  rw [hprepare'] at hprepare
  obtain ⟨hstaged, -⟩ := Prod.mk.inj (Except.ok.inj (Prod.mk.inj hprepare).1)
  have hstaged : (t.stage request batch).1 = staged := hstaged
  subst hstaged
  exact shared_of_storable ((t.stage_wellFormed request batch).requests r hrequest).2
    (hstorable r hrequest)

/-- An import into a session comes to its end as one into the store that the session mirrors, if only
ids with an encoded form are asked for and what is staged can be stored. -/
theorem import_ends (h : s.Mirrors users t) {request : ImportRequest} {batch : ParsedBatch}
    (hasks : ∀ e ∈ batch.serviceGroups,
      Run.Asks (fun id => id.isUnicode = true) (Document.elementReader.serviceGroup e).2)
    (hstorable : ∀ r ∈ (t.stage request batch).1.requests, r.mutation.Storable users)
    {log : ActionLog} {q : Progress Store}
    (himport : Run.importBatch Document.elementReader request batch { registry := t, log } =
      (.ok (), q)) :
    ∃ p : Progress Session,
      Run.importBatch Document.elementReader request batch { registry := s, log } = (.ok (), p) ∧
      p.Mirrors (Mirrors users) q := by
  have hruns := Run.matches_importBatch (consistent users) hasks
    (p := { registry := s, log }) (q := { registry := t, log }) ⟨h, rfl⟩ (shared_requests hstorable)
  rw [himport] at hruns
  cases hrun : Run.importBatch Document.elementReader request batch { registry := s, log } with
  | mk answer p =>
    rw [hrun] at hruns
    cases hruns with
    | answered value content => exact ⟨p, rfl, content⟩

theorem importBatch (h : s.Mirrors users t) (hn : content.Normal) {overwriteExisting : Bool}
    (hr : t.Receives content overwriteExisting) {ownerId : Text} (hid : ownerId.isUnicode = true)
    (howner : Table.hasKey ownerId users = true) (journal : List Occurrence) :
    ∃ (log : ActionLog) (s' : Session) (t' : Store) (journal' : List Occurrence),
      Host.importBatch content.document.elements (.string ownerId) overwriteExisting ⟨s, journal⟩ =
        (.ok log, ⟨s', journal'⟩) ∧
      log.hasError = false ∧ s'.Mirrors users t' ∧ t'.SameRecords content := by
  rw [Table.hasKey_eq_isSome, Option.isSome_iff_exists] at howner
  obtain ⟨defaultOwner, howner⟩ := howner
  have hbegun := h.toAnswers.begun.begun_eq
  have huser := h.userBy hid
  have hgroupKeys := h.begun.serviceGroupKeys
  have hcardKeys := h.begun.businessCardKeys
  rw [h.users, howner] at huser
  rw [hbegun] at hgroupKeys hcardKeys
  let request : ImportRequest :=
    { defaultOwner, overwriteExisting
      existingGroupKeys := Table.keys t.groups
      existingBusinessCardKeys := Table.keys t.businessCards }
  have hr : t.Receives content request.overwriteExisting := hr
  have hends : ∃ q : Progress Store,
      Run.importBatch Document.elementReader request content.document.elements
        { registry := t, log := .named .null } = (.ok (), q) ∧
      q.log.hasError = false ∧ q.registry.bare = t.bare ∧ q.registry.SameRecords content :=
    Store.Receives.import_document hn hr ⟨rfl, rfl⟩ rfl
  obtain ⟨q, himport, hq, -, hsame⟩ := hends
  have hstorable : ∀ r ∈ (t.stage request content.document.elements).1.requests,
      r.mutation.Storable users := by
    intro r hrequest
    rw [← h.users, hr.users]
    exact hn.storable (hr.requests_concern hn r hrequest)
  obtain ⟨p, hrun, hmirrors⟩ := h.begun.import_ends hn.asks hstorable himport
  refine ⟨p.log, p.registry, q.registry, journal ++ p.events.map .exchange, ?_, ?_,
    hmirrors.registry, hsame⟩
  · exact (Task.bind_of_ok (Task.call_of_ok huser journal)).trans
      ((Task.bind_of_ok (Task.call_of_ok hgroupKeys journal)).trans
        ((Task.bind_of_ok (Task.call_of_ok hcardKeys journal)).trans
          (Task.bind_of_ok (Task.exchange_of_ok hrun journal))))
  · exact (ActionLog.hasError_of_outlines hmirrors.outlines).trans hq

end Session.Mirrors

end ParticipantRegistry
