import ParticipantRegistry.Proofs.Application.SessionCalls
import ParticipantRegistry.Proofs.Document.Encodable
import ParticipantRegistry.Proofs.Relational.AddedUsers

/-!
# The two registries agree

A session on a new database and a store with the same users answer all calls in turn alike, and they hold
the same after each of them. So an import comes to the same over both: it records the same and leaves the
same content.
-/

namespace ParticipantRegistry

open Document (GroupElement)

structure ParsedBatch.Encodable (batch : ParsedBatch) : Prop where
  serviceGroups : ∀ e ∈ batch.serviceGroups, e.isEncodable = true
  businessCards : ∀ e ∈ batch.businessCards, e.isEncodable = true

namespace Document

variable {g : GroupElement}

theorem EndpointElement.isUnicode_toEndpoint {e : EndpointElement} {participantId : Text}
    (hid : participantId.isUnicode = true) (h : ∀ t ∈ e.texts, t.isUnicode = true) :
    (Session.endpointTexts (e.toEndpoint participantId)).all Text.isUnicode = true := by
  have hall : ∀ t ∈ participantId :: e.texts, t.isUnicode = true := List.forall_mem_cons.mpr ⟨hid, h⟩
  exact List.all_eq_true.mpr hall

theorem RedirectElement.isUnicode_toRedirect {r : RedirectElement} {participantId : Text}
    (hid : participantId.isUnicode = true) (h : ∀ t ∈ r.texts, t.isUnicode = true) :
    (Session.redirectTexts (r.toRedirect participantId)).all Text.isUnicode = true := by
  have hall : ∀ t ∈ participantId :: r.texts, t.isUnicode = true := List.forall_mem_cons.mpr ⟨hid, h⟩
  exact List.all_eq_true.mpr hall

theorem GroupElement.Encodable.storable (h : g.Encodable) {users : List User} {owner : User}
    (hid : owner.id.isUnicode = true) (hknown : (Table.find? owner.id users).isSome = true) :
    (g.toRecord owner).Involves (Mutation.Storable users) := by
  have hown := h.own
  rw [GroupElement.ownTexts, List.cons_append, List.forall_mem_cons, List.cons_append,
    List.forall_mem_cons] at hown
  obtain ⟨hparticipant, -, hextension⟩ := hown
  have hgroup : ([g.participantId, owner.id] ++ g.extension.toList).all Text.isUnicode = true :=
    List.all_eq_true.mpr
      (List.forall_mem_cons.mpr ⟨hparticipant, List.forall_mem_cons.mpr ⟨hid, hextension⟩⟩)
  refine ⟨hparticipant, fun _ => ⟨hgroup, hknown⟩, fun e he => ?_, fun r hr => ?_⟩
  · obtain ⟨endpoint, hmem, rfl⟩ := List.mem_map.mp he
    exact endpoint.isUnicode_toEndpoint hparticipant (h.endpoints endpoint hmem)
  · obtain ⟨redirect, hmem, rfl⟩ := List.mem_map.mp hr
    exact redirect.isUnicode_toRedirect hparticipant (h.redirects redirect hmem)

end Document

namespace ParsedBatch.Encodable

variable {batch : ParsedBatch}

theorem asks (h : batch.Encodable) : ∀ e ∈ batch.serviceGroups,
    Run.Asks (fun id => id.isUnicode = true) (Document.elementReader.serviceGroup e).2 :=
  fun e he => Run.asks_readServiceGroup fun parsed hparsed =>
    (Document.ensures_checkGroup (h.serviceGroups e he) parsed hparsed).ownerId.isUnicode

theorem storable (h : batch.Encodable) {request : ImportRequest} {t : Store}
    (hid : request.defaultOwner.id.isUnicode = true)
    (hknown : Table.hasKey request.defaultOwner.id t.users = true) :
    ∀ r ∈ (t.stage request batch).1.requests, r.mutation.Storable t.users := by
  refine stageAll_requests request _ (fun record hr => ?_) fun card hc => ?_
  · obtain ⟨e, he, hread⟩ := Store.mem_readings hr
    obtain ⟨parsed, hparsed, rfl, -⟩ := Document.readServiceGroup_ok hread
    have hnormal := Document.ensures_checkGroup (h.serviceGroups e he) parsed hparsed
    have hencodable := hnormal.encodable
    have howner : parsed.ownerId.isUnicode = true := hnormal.ownerId.isUnicode
    cases hfind : Table.find? parsed.ownerId t.users with
    | some user =>
      have hkey : user.id = parsed.ownerId := Table.key_of_find? hfind
      exact hencodable.storable (by rw [Option.getD_some, hkey, howner])
        (by rw [Option.getD_some, hkey, hfind]; rfl)
    | none =>
      exact hencodable.storable hid ((Table.hasKey_eq_isSome _ _).symm.trans hknown)
  · obtain ⟨e, he, hread⟩ := Store.mem_results hc
    obtain ⟨hchecked, -⟩ := Document.readBusinessCard_ok hread
    have hcard := Document.ensures_checkCard (h.businessCards e he) card hchecked
    exact ⟨hcard.participantId.isUnicode, hcard.isUnicode, hcard.isTextual⟩

end ParsedBatch.Encodable

namespace Session

/-- A session on a new database that holds users and nothing else. -/
def founded (users : List User) (directoryIntegration : Bool) (registrar : Option Registrar) :
    Session where
  storage := .holding { Database.fresh with users := some users }
  directoryIntegration
  registrar

variable {users : List User} {directoryIntegration : Bool} {registrar : Option Registrar}

theorem mirrors_founded (h : ∀ r, registrar = some r → r.rejected = []) :
    (founded users directoryIntegration registrar).MirrorsNamed users
      { users, directoryIntegration } where
  pending := rfl
  usable := rfl
  refusal := rfl
  barrier := rfl
  registrar := h
  directoryIntegration := rfl
  users := rfl
  failing := rfl
  unchanging := rfl
  shows := ⟨rfl, rfl, rfl, rfl, ⟨[], rfl, .nil⟩, List.forall_mem_nil _⟩
  storage := rfl
  named := List.forall_mem_nil _

end Session

/-- What the records tell in turn: how severe each is, about whom, and its message. -/
def ActionLog.told (log : ActionLog) : List (Severity × Json × Text) :=
  log.records.map fun r => (r.severity, r.key, r.message)

theorem ActionLog.told_of_outlines {log log' : ActionLog} (h : log.outlines = log'.outlines) :
    log.told = log'.told := by
  have houtline (log : ActionLog) :
      log.told = log.outlines.map fun r => (r.2.severity, r.1, r.2.message) := by
    rw [outlines, List.map_map]
    rfl
  rw [houtline, houtline, h]

namespace Session

variable {users : List User} {s : Session} {t : Store}

theorem Mirrors.import_agrees (h : s.Mirrors users t) {request : ImportRequest} {batch : ParsedBatch}
    (hbatch : batch.Encodable) (hid : request.defaultOwner.id.isUnicode = true)
    (hknown : request.defaultOwner ∈ users) (log : ActionLog) :
    ∃ (p : Progress Session) (q : Progress Store),
      Run.importBatch Document.elementReader request batch { registry := s, log } = (.ok (), p) ∧
      Run.importBatch Document.elementReader request batch { registry := t, log } = (.ok (), q) ∧
      p.log.told = q.log.told ∧ p.registry.Mirrors users q.registry := by
  have howner : Table.hasKey request.defaultOwner.id t.users = true := by
    rw [h.users, Table.hasKey_iff]
    exact List.mem_map_of_mem hknown
  have hstorable := hbatch.storable hid howner
  rw [h.users] at hstorable
  obtain ⟨-, q, -, -, himport, -⟩ := Store.shows.import_ends request batch { registry := t, log }
  obtain ⟨p, hrun, hmirrors⟩ := h.import_ends hbatch.asks hstorable himport
  exact ⟨p, q, hrun, himport, ActionLog.told_of_outlines hmirrors.outlines, hmirrors.registry⟩

/-- The database shows the store, and nothing is left to commit. -/
structure HoldsSame (s : Session) (t : Store) : Prop where
  committed : s.storage.current = s.storage.committed
  shows : s.storage.current.Shows t

theorem Mirrors.holdsSame (h : s.Mirrors users t) : s.HoldsSame t := ⟨h.storage, h.shows⟩

open Invocation (runAll) in
/-- A session on a new database and a store with the same users agree. All calls in turn are answered
alike, and both hold the same after each of them. An import that follows comes to its end over both; it
records the same severities, keys and messages, and leaves the same. -/
theorem backends_agree (users : List User) (directoryIntegration : Bool)
    (registrar : Option Registrar) (hregistrar : ∀ r, registrar = some r → r.rejected = [])
    (calls : List Invocation) (hcalls : ∀ i ∈ calls, i.Storable users) :
    let s := founded users directoryIntegration registrar
    let t : Store := { users, directoryIntegration }
    Invocation.Agree HoldsSame calls s t ∧
    ∀ (batch : ParsedBatch) (request : ImportRequest) (correlationId : Json), batch.Encodable →
      request.defaultOwner ∈ users → request.defaultOwner.id.isUnicode = true →
      ∃ (p : Progress Session) (q : Progress Store),
        (⟨batch, request, Document.elementReader,
          { registry := runAll calls s, log := .named correlationId }⟩ : ImportTask Session).run =
          (.ok (), p) ∧
        (⟨batch, request, Document.elementReader,
          { registry := runAll calls t, log := .named correlationId }⟩ : ImportTask Store).run =
          (.ok (), q) ∧
        p.log.told = q.log.told ∧ p.registry.HoldsSame q.registry := by
  intro s t
  obtain ⟨hagree, hend⟩ := Invocation.agree_of_step (R := MirrorsNamed users)
    (P := (·.Storable users)) (fun i hi s t h => h.matches_ask hi) hcalls
    (@mirrors_founded users directoryIntegration registrar hregistrar)
  refine ⟨hagree.mono fun s t h => h.holdsSame, ?_⟩
  intro batch request correlationId hbatch hknown hid
  obtain ⟨p, q, hp, hq, htold, hmirrors⟩ :=
    hend.toMirrors.import_agrees hbatch hid hknown (.named correlationId)
  exact ⟨p, q, hp, hq, htold, hmirrors.holdsSame⟩

/-- A group is created, and an import replaces it and adds a card to it. -/
theorem backends_agree_on_replacement :
    let users : List User := [⟨"u", "U"⟩]
    let calls : List Invocation :=
      [.mutate (.createGroup ⟨"a", "u", some "x"⟩ true), .groupExists "a"]
    let batch : ParsedBatch :=
      ⟨[.object [("participant_id", .string "a"), ("owner_id", .string "u")]],
        [.object [("participant_id", .string "a"), ("entities", .array [])]]⟩
    let request : ImportRequest :=
      { defaultOwner := ⟨"u", "U"⟩, overwriteExisting := true, existingGroupKeys := ["a"] }
    (∀ i ∈ calls, i.Storable users) ∧ batch.Encodable ∧
      ∃ (p : Progress Session) (q : Progress Store),
        (⟨batch, request, Document.elementReader,
          { registry := Invocation.runAll calls (founded users true (some {})),
            log := .named .null }⟩ : ImportTask Session).run = (.ok (), p) ∧
        p.log.told = q.log.told ∧ p.registry.HoldsSame q.registry ∧
        q.registry.groups = [⟨"a", "u", none⟩] ∧ q.registry.businessCards = [⟨"a", []⟩] := by
  intro users calls batch request
  have hid : Text.isUnicode "a" = true := by decide
  have hcalls : ∀ i ∈ calls, i.Storable users :=
    List.forall_mem_cons.mpr ⟨⟨by decide, by decide⟩, List.forall_mem_singleton.mpr hid⟩
  have hbatch : batch.Encodable :=
    ⟨List.forall_mem_singleton.mpr (by decide), List.forall_mem_singleton.mpr (by decide)⟩
  obtain ⟨-, himport⟩ := backends_agree users true (some {}) (fun r hr => by cases hr; rfl) calls hcalls
  obtain ⟨p, q, hp, hq, htold, hsame⟩ :=
    himport batch request .null hbatch List.mem_cons_self (by decide)
  have hq : q = _ := (Prod.mk.inj hq).2.symm
  refine ⟨hcalls, hbatch, p, q, hp, htold, hsame, ?_, ?_⟩
  · rw [hq]
    decide +kernel
  · rw [hq]
    decide +kernel

end Session

end ParticipantRegistry
