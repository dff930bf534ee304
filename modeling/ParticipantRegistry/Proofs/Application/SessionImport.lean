import ParticipantRegistry.Proofs.Application.SessionExchange
import ParticipantRegistry.Proofs.Exchange.EndedRuns
import ParticipantRegistry.Proofs.Relational.StoredRoutes

/-!
# What an import into a session has done

An import into a session asks for the default owner and for the keys that are stored, and runs. If the
log that it returns has no error, every group element of the batch is in the database as the document has
it, unless its key was stored and nothing is overwritten. If it recorded an error before it proceeded,
and also if there is no such owner, the database is the one that it was.
-/

namespace ParticipantRegistry

open Document (GroupRecord)

/-- Whether an error is recorded before the import proceeds. -/
def ActionLog.failsEarly (log : ActionLog) : Bool :=
  (log.records.takeWhile (·.note ≠ .proceeding)).any ActionRecord.isError

/-- What an import makes of the rows of the participant of a group element: those of the element, if
its key is new or stored groups are overwritten. A default owner stands for one that is not known. -/
def Database.Imports (db db' : Database) (defaultOwner : User) (overwriting : Bool) (element : Json) :
    Prop :=
  ∃ parsed, (Document.checkGroup element).result = .ok parsed ∧
    db'.routing parsed.participantId =
      if !db.hasGroup parsed.participantId || overwriting then
        (parsed.toRecord (db.ownerOf defaultOwner parsed.ownerId)).routing
      else db.routing parsed.participantId

theorem mem_of_mem_takeWhile {α : Type} {p : α → Bool} {xs rest : List α} {y x : α}
    (hy : p y = false) (hx : x ∈ (xs ++ y :: rest).takeWhile p) : x ∈ xs := by
  induction xs with
  | nil => simp [hy] at hx
  | cons z xs ih =>
    rw [List.cons_append, List.takeWhile_cons] at hx
    split at hx
    · rcases List.mem_cons.mp hx with rfl | hx
      · exact List.mem_cons_self
      · exact List.mem_cons_of_mem _ (ih hx)
    · cases hx

theorem ActionLog.not_failsEarly {log : ActionLog} {read rest : List ActionRecord}
    {line : ActionRecord} (hlog : log.records = read ++ line :: rest)
    (hline : line.note = .proceeding) (hread : read.any ActionRecord.isError = false) :
    log.failsEarly = false := by
  rw [failsEarly, List.any_eq_false] at *
  intro r hr
  rw [hlog] at hr
  exact hread r (mem_of_mem_takeWhile (by simp [hline]) hr)

section

variable {σ α β : Type} {s : σ} {journal : List Occurrence} {result : Except Failure β × Desk σ}

theorem Task.call_bind_eq {c : Call σ α} {next : α → Task σ β}
    (h : (Task.call c >>= next) ⟨s, journal⟩ = result) :
    (∃ e, result.1 = .error (.call e)) ∨
      ∃ a s', c s = (.ok a, s') ∧ next a ⟨s', journal⟩ = result := by
  cases hc : c s with
  | mk answer s' =>
    cases answer with
    | ok a => exact .inr ⟨a, s', rfl, (Task.bind_of_ok (Task.call_of_ok hc journal)).symm.trans h⟩
    | error e =>
      have hcall : Task.call c ⟨s, journal⟩ = (.error (.call e),
          ⟨s', journal ++ (Run.answerEvents (.error e : Except CallError α)).map .exchange⟩) := by
        rw [Task.call]
        simp only [hc]
      exact .inl ⟨e, by rw [← h, Task.bind_of_error hcall]⟩

theorem Task.exchange_bind_eq {log : ActionLog} {run : Run σ α} {next : α × ActionLog → Task σ β}
    (h : (Task.exchange log run >>= next) ⟨s, journal⟩ = result) :
    (∃ e, result.1 = .error (.call e)) ∨
      ∃ a q, run { registry := s, log } = (.ok a, q) ∧
        next (a, q.log) ⟨q.registry, journal ++ q.events.map .exchange⟩ = result := by
  cases hrun : run { registry := s, log } with
  | mk answer q =>
    cases answer with
    | ok a =>
      exact .inr ⟨a, q, rfl, (Task.bind_of_ok (Task.exchange_of_ok hrun journal)).symm.trans h⟩
    | error e =>
      have hexchange : Task.exchange log run ⟨s, journal⟩ =
          (.error (.call e), ⟨q.registry, journal ++ q.events.map .exchange⟩) := by
        rw [Task.exchange]
        simp only [hrun]
      exact .inl ⟨e, by rw [← h, Task.bind_of_error hexchange]⟩

end

theorem Host.importBatch_cases (batch : ParsedBatch) (ownerId : Json) (overwriteExisting : Bool)
    (s : Session) (journal : List Occurrence) :
    let result := Host.importBatch batch ownerId overwriteExisting ⟨s, journal⟩
    (∃ e, result.1 = .error (.call e)) ∨
    (∃ s₁, Session.userBy ownerId s = (.ok none, s₁) ∧
      result.1 = .error (.configuration (.unknownDefaultOwner ownerId)) ∧ result.2.content = s₁) ∨
    ∃ (defaultOwner : User) (groupKeys cardKeys : List Text) (s₁ s₂ s₃ : Session)
      (q : Progress Session),
      Session.userBy ownerId s = (.ok (some defaultOwner), s₁) ∧
      Registry.serviceGroupKeys s₁ = (.ok groupKeys, s₂) ∧
      Registry.businessCardKeys s₂ = (.ok cardKeys, s₃) ∧
      Run.importBatch Document.elementReader
        { defaultOwner, overwriteExisting
          existingGroupKeys := groupKeys, existingBusinessCardKeys := cardKeys } batch
        { registry := s₃, log := ActionLog.named .null } = (.ok (), q) ∧
      result.1 = .ok q.log ∧ result.2.content = q.registry := by
  intro result
  have hresult : (Task.call (Session.userBy ownerId) >>= _) ⟨s, journal⟩ = result := rfl
  rcases Task.call_bind_eq hresult with hended | ⟨owner?, s₁, howner, hresult⟩
  · exact .inl hended
  cases owner? with
  | none => exact .inr (.inl ⟨s₁, howner, by rw [← hresult]; exact ⟨rfl, rfl⟩⟩)
  | some defaultOwner =>
    rcases Task.call_bind_eq hresult with hended | ⟨groupKeys, s₂, hgroups, hresult⟩
    · exact .inl hended
    rcases Task.call_bind_eq hresult with hended | ⟨cardKeys, s₃, hcards, hresult⟩
    · exact .inl hended
    rcases Task.exchange_bind_eq hresult with hended | ⟨_, q, hrun, hresult⟩
    · exact .inl hended
    refine .inr (.inr ⟨defaultOwner, groupKeys, cardKeys, s₁, s₂, s₃, q, howner, hgroups, hcards,
      hrun, ?_⟩)
    rw [← hresult]
    exact ⟨rfl, rfl⟩

namespace Session

variable {s s' : Session}

theorem userBy_ok {id : Text} {user? : Option User} (hp : s.pending = [])
    (h : userBy (.string id) s = (.ok user?, s')) :
    user? = Table.find? id (s.storage.current.users.getD []) ∧ s' = s.begun := by
  have hkey : ofExcept (Cell.keyOf "id" (.string id)) s = (.ok (.string id), s) := rfl
  rw [userBy, selectBy, Call.bind_of_ok hkey] at h
  obtain ⟨rows, s₁, hselect, hfind⟩ := Call.ok_of_bind h
  obtain ⟨hrows, rfl, -⟩ := select_ok hp hselect
  obtain ⟨cell, s₂, hcell, hreturn⟩ := Call.ok_of_bind hfind
  rw [show s.storage.current.users = some rows from hrows, Option.getD_some]
  cases hid : id.isUnicode with
  | true =>
    rw [Cell.ofJson_string hid] at hcell
    cases hcell
    cases hreturn
    exact ⟨rfl, rfl⟩
  | false =>
    rw [Cell.ofJson, hid] at hcell
    cases hcell

theorem serviceGroupKeys_ok {keys : List Text} (hp : s.pending = [])
    (h : (Registry.serviceGroupKeys : Call Session (List Text)) s = (.ok keys, s')) :
    keys = Table.keys (s.storage.current.groups.getD []) ∧ s' = s.begun := by
  obtain ⟨rows, s₁, hselect, hreturn⟩ := Call.ok_of_bind h
  obtain ⟨hrows, rfl, -⟩ := select_ok hp hselect
  cases hreturn
  rw [show s.storage.current.groups = some rows from hrows]
  exact ⟨rfl, rfl⟩

theorem businessCardKeys_ok {keys : List Text} (hp : s.pending = [])
    (h : (Registry.businessCardKeys : Call Session (List Text)) s = (.ok keys, s')) :
    s' = s.begun := by
  obtain ⟨rows, s₁, hselect, hreturn⟩ := Call.ok_of_bind h
  obtain ⟨-, rfl, -⟩ := select_ok hp hselect
  cases hreturn
  rfl

end Session

/-- What an import into a session has done that came to its end. -/
structure Session.Imported (s s' : Session) (batch : ParsedBatch) (ownerId : Text)
    (overwriting : Bool) (log : ActionLog) : Prop where
  resting : s'.Resting
  untouched : log.failsEarly = true → s'.storage.current = s.storage.current
  elements : ∃ defaultOwner,
    Table.find? ownerId (s.storage.current.users.getD []) = some defaultOwner ∧
    (s.storage.current.Rooted → log.hasError = false → ∀ element ∈ batch.serviceGroups,
      s.storage.current.Imports s'.storage.current defaultOwner overwriting element)

section

variable {request : ImportRequest} {db db' : Database}

theorem ImportRequest.hasGroup_eq
    (hkeys : request.existingGroupKeys = Table.keys (db.groups.getD [])) (participantId : Text) :
    request.hasGroup participantId = db.hasGroup participantId := by
  rw [Bool.eq_iff_iff, ImportRequest.hasGroup, hkeys, List.contains_iff_mem, Database.hasGroup,
    Table.hasKey_iff]

theorem Database.imports_of_intent
    (hkeys : request.existingGroupKeys = Table.keys (db.groups.getD []))
    {elements : List Json} {readings : List (Reading GroupRecord)}
    (hreadings : readings.map (·.1) = elements.map fun e =>
      ((Document.readServiceGroup e).2.run fun id => db.ownerOf request.defaultOwner id).2)
    {directoryIntegration : Bool} {results : List (Except Document.RecordError BusinessCard)}
    (hread : (stageAll request directoryIntegration readings results).2.any ActionRecord.isError =
      false)
    (hrows : ∀ participantId, db'.routing participantId =
      (((stageAll request directoryIntegration readings results).1.share participantId).intent
        (db.routing participantId)).routing) :
    ∀ element ∈ elements,
      db.Imports db' request.defaultOwner request.overwriteExisting element := by
  intro element helement
  obtain ⟨hrecords, hdistinct, -⟩ := (stageAll_hasError _ _ _ _).mp hread
  have hmem : ((Document.readServiceGroup element).2.run fun id =>
      db.ownerOf request.defaultOwner id).2 ∈ readings.map (·.1) := by
    rw [hreadings]
    exact List.mem_map_of_mem helement
  obtain ⟨record, hrecord⟩ : ∃ record, ((Document.readServiceGroup element).2.run fun id =>
      db.ownerOf request.defaultOwner id).2 = .ok record := by
    obtain ⟨reading, hr, hsame⟩ := List.mem_map.mp hmem
    obtain ⟨record, hrecord⟩ := hrecords reading hr
    exact ⟨record, hsame.symm.trans hrecord⟩
  obtain ⟨parsed, hparsed, rfl, -⟩ := Document.readServiceGroup_ok hrecord
  rw [hrecord] at hmem
  refine ⟨parsed, hparsed, ?_⟩
  have hintended := request.intended_routing hdistinct (mem_successes.mpr hmem)
    (if directoryIntegration then successes results else []) (db.routing parsed.participantId)
  rw [hrows, stageAll_intent hread, ← request.hasGroup_eq hkeys]
  exact hintended

end

namespace Session.Resting

variable {s s' : Session} {request : ImportRequest} {batch : ParsedBatch} {log : ActionLog}
  {q : Progress Session}

/-- An import that came to its end in a session. Nothing has changed if it recorded an error before it
proceeded, and if it recorded none at all, the elements are in the database. -/
theorem run_importBatch (h : s.Resting) (hc : s.storage.current.Complete)
    (hkeys : request.existingGroupKeys = Table.keys (s.storage.current.groups.getD []))
    (hlog : log.records = [])
    (hrun : Run.importBatch Document.elementReader request batch { registry := s, log } =
      (.ok (), q)) :
    q.registry.Resting ∧
    (q.log.failsEarly = true → q.registry.storage.current = s.storage.current) ∧
    (s.storage.current.Rooted → q.log.hasError = false → ∀ element ∈ batch.serviceGroups,
      s.storage.current.Imports q.registry.storage.current request.defaultOwner
        request.overwriteExisting element) := by
  obtain ⟨readings, t, hreads, hhalted, hproceeded⟩ := Run.importBatch_ended hrun
  obtain ⟨ht, hstorage, hreadings⟩ := h.reads hreads
  simp only [hlog, List.nil_append] at hhalted hproceeded
  generalize hstaged : stageAll request _ readings _ = staged at hhalted hproceeded
  by_cases houtcome : PlanOutcome.decide staged.1 (staged.2.any ActionRecord.isError) = .proceed
  · obtain ⟨turns, hcarry, hd, hrecords⟩ := hproceeded houtcome
    obtain ⟨-, hread⟩ := (PlanOutcome.decide_eq_proceed_iff _ _).mp houtcome
    obtain ⟨hq, -, hrows⟩ := ht.dialogue (hstorage ▸ hc) hd
    rw [List.append_assoc] at hrecords
    refine ⟨hq, fun hearly => ?_, fun hrooted hfine => ?_⟩
    · have hlate := ActionLog.not_failsEarly hrecords (by rw [houtcome]; rfl) hread
      rw [hlate] at hearly
      cases hearly
    · subst hstaged
      refine Database.imports_of_intent hkeys hreadings hread fun participantId => ?_
      rw [ActionLog.hasError, hrecords, List.any_append, List.cons_append, List.any_cons,
        Bool.or_eq_false_iff, Bool.or_eq_false_iff] at hfine
      have hdeletion := stageAll_deletion request (Registry.directoryIntegration s) readings
        (batch.businessCards.map fun e => (Document.readBusinessCard e).2) participantId
      rw [request.hasGroup_eq hkeys, Database.hasGroup, Table.hasKey_eq_isSome] at hdeletion
      rw [hrows, hstorage]
      exact hcarry.routed (stageAll_wellFormed_of_readings hreadings _ _) hdeletion
        (hrooted.routing participantId) hfine.2.2
  · obtain ⟨hregistry, hrecords⟩ := hhalted houtcome
    rw [hregistry, hstorage]
    refine ⟨ht, fun _ => rfl, fun hrooted hfine => ?_⟩
    rw [ActionLog.hasError, hrecords, List.any_append, Bool.or_eq_false_iff] at hfine
    obtain ⟨hread, -⟩ := hfine
    have hempty : staged.1.isEmpty = true := by
      by_contra hsome
      rw [PlanOutcome.decide_eq_proceed_iff] at houtcome
      exact houtcome ⟨by simpa using hsome, hread⟩
    subst hstaged
    refine Database.imports_of_intent hkeys hreadings hread fun participantId => ?_
    rw [StagedBatch.intent_of_isEmpty hempty]
    rfl

theorem importBatch (h : s.Resting) (hc : s.storage.current.Complete) (batch : ParsedBatch)
    (ownerId : Text) (overwriting : Bool) (journal : List Occurrence) :
    let result := Host.importBatch batch (.string ownerId) overwriting ⟨s, journal⟩
    (∃ e, result.1 = .error (.call e)) ∨
    ((∃ error, result.1 = .error (.configuration error)) ∧ result.2.content.Resting ∧
      result.2.content.storage.current = s.storage.current) ∨
    ∃ log, result.1 = .ok log ∧ s.Imported result.2.content batch ownerId overwriting log := by
  intro result
  rcases Host.importBatch_cases batch (.string ownerId) overwriting s journal with
    hended | ⟨s₁, hnobody, hresult, hleft⟩ |
    ⟨defaultOwner, groupKeys, cardKeys, s₁, s₂, s₃, q, howner, hgroups, hcards, hrun, hresult, hleft⟩
  · exact .inl hended
  · obtain ⟨-, rfl⟩ := userBy_ok h.pending hnobody
    refine .inr (.inl ⟨⟨_, hresult⟩, ?_⟩)
    rw [hleft]
    exact ⟨h.begun, rfl⟩
  · obtain ⟨hfound, rfl⟩ := userBy_ok h.pending howner
    obtain ⟨rfl, rfl⟩ := serviceGroupKeys_ok h.begun.pending hgroups
    obtain rfl := businessCardKeys_ok h.begun.begun.pending hcards
    obtain ⟨hresting, huntouched, helements⟩ := h.begun.begun.begun.run_importBatch hc rfl rfl hrun
    refine .inr (.inr ⟨q.log, hresult, ?_⟩)
    rw [hleft]
    exact ⟨hresting, huntouched, defaultOwner, hfound.symm, helements⟩

end Session.Resting

end ParticipantRegistry
