import ParticipantRegistry.Proofs.Document.Elements
import ParticipantRegistry.Proofs.Exchange.Preparation
import ParticipantRegistry.Proofs.Exchange.Share

/-!
# Imports into a store

An import of documents into a store, or into a registry that shows a store, always comes to its end.
What it stages is well formed, so its commit falls apart into shares; if the keys it was given are those
of the store, every share fits what the store holds of the participant.
-/

namespace ParticipantRegistry

open Document (GroupRecord Inquiry RecordError)

/-- A registry shows a store: users are looked up there, it takes cards if the store does, and mutations
that pass the check are answered or fail with a storage error. -/
structure Registry.Shows {σ : Type} [Registry σ] (content : σ → Store) : Prop where
  lookup : ∀ (id : Text) (s : σ),
    Registry.lookupUser id s = (.ok (Table.find? id (content s).users), s)
  directoryIntegration : ∀ s, Registry.directoryIntegration s = (content s).directoryIntegration
  contained : ∀ mutation : Mutation, mutation.check = .ok () → mutation.Contained σ

theorem Store.shows : Registry.Shows (id : Store → Store) where
  lookup _ _ := rfl
  directoryIntegration _ := rfl
  contained _ := Store.contained_of_check

theorem Traced.shows : Registry.Shows (Traced.content : Traced Store → Store) where
  lookup _ _ := rfl
  directoryIntegration _ := rfl
  contained _ h := Traced.contained (Store.contained_of_check h)

def Store.reading {α : Type} (defaultOwner : User) (s : Store) (inquiry : Inquiry α) : Reading α :=
  let answered := inquiry.run fun id => (Table.find? id s.users).getD defaultOwner
  (answered.2, answered.1.filter fun id => !Table.hasKey id s.users)

namespace Registry.Shows

variable {σ : Type} [Registry σ] {content : σ → Store}

theorem consults {α : Type} (hs : Registry.Shows content) (defaultOwner : User)
    (inquiry : Inquiry α) (s : σ) :
    Consults defaultOwner inquiry s ((content s).reading defaultOwner inquiry) s := by
  induction inquiry with
  | done result => exact .done result s
  | askUser id next ih =>
    have hasked := hs.lookup id s
    cases hu : Table.find? id (content s).users with
    | some user =>
      rw [hu] at hasked
      have hknown : (content s).reading defaultOwner (.askUser id next) =
          (content s).reading defaultOwner (next user) := by
        simp [Store.reading, Inquiry.run, Table.hasKey_eq_isSome, hu]
      rw [hknown]
      exact .known hasked (ih user)
    | none =>
      rw [hu] at hasked
      have hunknown : (content s).reading defaultOwner (.askUser id next) =
          (((content s).reading defaultOwner (next defaultOwner)).1,
            id :: ((content s).reading defaultOwner (next defaultOwner)).2) := by
        simp [Store.reading, Inquiry.run, Table.hasKey_eq_isSome, hu]
      rw [hunknown]
      exact .unknown hasked (ih defaultOwner)

theorem reads (hs : Registry.Shows content) (reader : Document.ElementReader) (defaultOwner : User)
    (elements : List Json) (s : σ) :
    Reads reader defaultOwner elements s
      (elements.map fun e => (content s).reading defaultOwner (reader.serviceGroup e).2) s := by
  induction elements with
  | nil => exact .nil s
  | cons e elements ih => exact .cons (hs.consults defaultOwner _ s) ih

end Registry.Shows

namespace Document

theorem GroupElement.toRecord_wellFormed {element : GroupElement} {owner : User}
    (h : (element.toRecord owner).check = .ok ()) : (element.toRecord owner).WellFormed where
  checked := by
    rw [GroupRecord.check] at h
    cases hg : (element.toRecord owner).group.check with
    | ok => rfl
    | error field =>
      rw [hg] at h
      cases h
  endpoints := by
    intro e he
    obtain ⟨endpoint, -, rfl⟩ := List.mem_map.mp he
    rfl
  redirects := by
    intro r hr
    obtain ⟨redirect, -, rfl⟩ := List.mem_map.mp hr
    rfl

theorem readServiceGroup_wellFormed {element : Json} {users : Text → User} {record : GroupRecord}
    (h : ((readServiceGroup element).2.run users).2 = .ok record) : record.WellFormed := by
  obtain ⟨parsed, -, rfl, hc⟩ := readServiceGroup_ok h
  exact GroupElement.toRecord_wellFormed hc

/-- All mutations that a record may be staged for have a property. -/
structure GroupRecord.Involves (P : Mutation → Prop) (record : GroupRecord) : Prop where
  deletion : P (.deleteGroup record.group.participantId false)
  creation : ∀ register, P (.createGroup record.group register)
  endpoints : ∀ e ∈ record.endpoints, P (.mergeEndpoint e)
  redirects : ∀ r ∈ record.redirects, P (.upsertRedirect r)

end Document

theorem mem_successes {ε α : Type} {results : List (Except ε α)} {a : α} :
    a ∈ successes results ↔ .ok a ∈ results := by
  rw [successes, List.mem_filterMap]
  constructor
  · rintro ⟨result, hr, ha⟩
    cases result with
    | error e => cases ha
    | ok b =>
      cases ha
      exact hr
  · intro h
    exact ⟨_, h, rfl⟩

namespace ImportRequest

variable {request : ImportRequest} {directoryIntegration : Bool} {batch : StagedBatch}

theorem mem_withRecords_groups {records : List GroupRecord} {g : StagedGroup}
    (hg : g ∈ (request.withRecords records { directoryIntegration }).groups) :
    g.record ∈ records := by
  rcases Table.mem_of_mem_putAll hg with hg | hg
  · obtain ⟨record, hr, rfl⟩ := List.mem_map.mp hg
    exact List.mem_of_mem_filter hr
  · cases hg

theorem mem_withRecords_deletions {records : List GroupRecord} {group : ServiceGroup}
    (hg : group ∈ (request.withRecords records { directoryIntegration }).groupDeletions) :
    ∃ record ∈ records, record.group = group := by
  rcases Table.mem_of_mem_putAll hg with hg | hg
  · obtain ⟨record, hr, rfl⟩ := List.mem_map.mp hg
    exact ⟨record, List.mem_of_mem_filter (List.mem_of_mem_filter hr), rfl⟩
  · cases hg

theorem mem_withCards {cards : List BusinessCard} {card : BusinessCard}
    (hb : batch.businessCards = []) (hc : card ∈ (request.withCards cards batch).businessCards) :
    card ∈ cards := by
  rcases Table.mem_of_mem_putAllLast hc with hc | hc
  · exact List.mem_of_mem_filter hc
  · rw [hb] at hc
    cases hc

theorem mem_withCards_deletions {cards : List BusinessCard} {card : BusinessCard}
    (hb : batch.businessCardDeletions = [])
    (hc : card ∈ (request.withCards cards batch).businessCardDeletions) : card ∈ cards := by
  rcases Table.mem_of_mem_putAll hc with hc | hc
  · exact List.mem_of_mem_filter (List.mem_of_mem_filter hc)
  · rw [hb] at hc
    cases hc

end ImportRequest

theorem stageAll_wellFormed (request : ImportRequest) (directoryIntegration : Bool)
    {readings : List (Reading GroupRecord)} {results : List (Except RecordError BusinessCard)}
    (hrecords : ∀ record ∈ successes (readings.map (·.1)), record.WellFormed)
    (hcards : ∀ card ∈ successes results, card.check = .ok ()) :
    (stageAll request directoryIntegration readings results).1.WellFormed := by
  have hgroups : (request.withRecords (successes (readings.map (·.1)))
      { directoryIntegration }).WellFormed :=
    ⟨Table.nodup_keys_putAll _ _ List.nodup_nil, Table.nodup_keys_putAll _ _ List.nodup_nil,
      List.nodup_nil, List.nodup_nil,
      fun g hg => hrecords g.record (ImportRequest.mem_withRecords_groups hg),
      by simp [ImportRequest.withRecords]⟩
  rw [stageAll_batch]
  split
  · exact ⟨hgroups.groups, hgroups.groupDeletions,
      Table.nodup_keys_putAllLast _ _ List.nodup_nil, Table.nodup_keys_putAll _ _ List.nodup_nil,
      hgroups.records, fun card hcard => hcards card (ImportRequest.mem_withCards rfl hcard)⟩
  · exact hgroups

theorem stageAll_wellFormed_of_readings {elements cards : List Json}
    {readings : List (Reading GroupRecord)} {users : Text → User}
    (hreadings : readings.map (·.1) = elements.map fun e =>
      ((Document.readServiceGroup e).2.run users).2)
    (request : ImportRequest) (directoryIntegration : Bool) :
    (stageAll request directoryIntegration readings
      (cards.map fun e => (Document.readBusinessCard e).2)).1.WellFormed := by
  apply stageAll_wellFormed
  · intro record hrecord
    rw [mem_successes, hreadings] at hrecord
    obtain ⟨e, -, hread⟩ := List.mem_map.mp hrecord
    exact Document.readServiceGroup_wellFormed hread
  · intro card hcard
    obtain ⟨e, -, hread⟩ := List.mem_map.mp (mem_successes.mp hcard)
    exact (Document.readBusinessCard_ok hread).2

/-- All mutations that a card may be staged for have a property. -/
structure BusinessCard.Involves (P : Mutation → Prop) (card : BusinessCard) : Prop where
  deletion : P (.deleteBusinessCard card)
  upsert : P (.upsertBusinessCard card)

theorem stageAll_requests (request : ImportRequest) (directoryIntegration : Bool)
    {readings : List (Reading GroupRecord)} {results : List (Except RecordError BusinessCard)}
    {P : Mutation → Prop} (hrecords : ∀ record ∈ successes (readings.map (·.1)), record.Involves P)
    (hcards : ∀ card ∈ successes results, card.Involves P) :
    ∀ r ∈ (stageAll request directoryIntegration readings results).1.requests, P r.mutation := by
  have hstaged : ∀ g ∈ (request.withRecords (successes (readings.map (·.1)))
      { directoryIntegration }).groups, g.record.Involves P :=
    fun g hg => hrecords g.record (ImportRequest.mem_withRecords_groups hg)
  have hdeleted : ∀ group ∈ (request.withRecords (successes (readings.map (·.1)))
      { directoryIntegration }).groupDeletions, P group.deletion.mutation := by
    intro group hg
    obtain ⟨record, hr, rfl⟩ := ImportRequest.mem_withRecords_deletions hg
    exact (hrecords record hr).deletion
  rw [stageAll_batch]
  simp only [StagedBatch.requests, List.forall_mem_append, List.forall_mem_map,
    List.forall_mem_flatMap, StagedGroup.children, StagedGroup.merges, StagedGroup.upserts]
  split
  · exact ⟨⟨⟨⟨hdeleted, fun g hg => (hstaged g hg).creation _⟩,
      fun g hg => ⟨(hstaged g hg).endpoints, (hstaged g hg).redirects⟩⟩,
      fun card hc => (hcards card (ImportRequest.mem_withCards_deletions rfl hc)).deletion⟩,
      fun card hc => (hcards card (ImportRequest.mem_withCards rfl hc)).upsert⟩
  · exact ⟨⟨⟨⟨hdeleted, fun g hg => (hstaged g hg).creation _⟩,
      fun g hg => ⟨(hstaged g hg).endpoints, (hstaged g hg).redirects⟩⟩,
      List.forall_mem_nil _⟩, List.forall_mem_nil _⟩

/-- The keys that an import is given are those of the store. -/
structure ImportRequest.Snapshot (request : ImportRequest) (s : Store) : Prop where
  groups : request.existingGroupKeys = Table.keys s.groups
  businessCards : request.existingBusinessCardKeys = Table.keys s.businessCards

namespace ImportRequest.Snapshot

variable {request : ImportRequest} {s : Store}

theorem hasGroup_eq (h : request.Snapshot s) (participantId : Text) :
    request.hasGroup participantId = (s.holding participantId).group.isSome := by
  rw [Bool.eq_iff_iff, hasGroup, h.groups, List.contains_iff_mem, ← Table.find?_isSome_iff]
  rfl

theorem hasBusinessCard_eq (h : request.Snapshot s) (participantId : Text) :
    request.hasBusinessCard participantId = (s.holding participantId).card.isSome := by
  rw [Bool.eq_iff_iff, hasBusinessCard, h.businessCards, List.contains_iff_mem,
    ← Table.find?_isSome_iff]
  rfl

end ImportRequest.Snapshot

theorem ImportRequest.withRecords_deletion (request : ImportRequest) (directoryIntegration : Bool)
    (records : List GroupRecord) (participantId : Text) :
    let staged := request.withRecords records { directoryIntegration }
    (Table.find? participantId staged.groupDeletions).isSome =
      ((Table.find? participantId staged.groups).isSome && request.hasGroup participantId) := by
  intro staged
  rw [Bool.eq_iff_iff, Bool.and_eq_true, Table.find?_isSome_iff, Table.find?_isSome_iff]
  simp only [staged, ImportRequest.withRecords, Table.mem_keys_putAll]
  simp only [Table.keys, List.map_map, List.map_nil, List.not_mem_nil, or_false, List.mem_map,
    List.mem_filter, Function.comp_apply]
  constructor
  · rintro ⟨record, ⟨hr, hstored⟩, rfl⟩
    exact ⟨⟨record, hr, rfl⟩, hstored⟩
  · rintro ⟨⟨record, hr, rfl⟩, hstored⟩
    exact ⟨record, ⟨hr, hstored⟩, rfl⟩

theorem ImportRequest.withCards_deletion (request : ImportRequest) (cards : List BusinessCard)
    {batch : StagedBatch} (hcards : batch.businessCards = [])
    (hdeletions : batch.businessCardDeletions = []) (participantId : Text) :
    let staged := request.withCards cards batch
    (Table.find? participantId staged.businessCardDeletions).isSome =
      ((Table.find? participantId staged.businessCards).isSome &&
        request.hasBusinessCard participantId) := by
  intro staged
  rw [Bool.eq_iff_iff, Bool.and_eq_true, Table.find?_isSome_iff, Table.find?_isSome_iff]
  simp only [staged, ImportRequest.withCards, hcards, hdeletions, Table.mem_keys_putAll,
    Table.mem_keys_putAllLast]
  simp only [Table.keys, List.map_nil, List.not_mem_nil, or_false, List.mem_map, List.mem_filter]
  constructor
  · rintro ⟨card, ⟨hc, hstored⟩, rfl⟩
    exact ⟨⟨card, hc, rfl⟩, hstored⟩
  · rintro ⟨⟨card, hc, rfl⟩, hstored⟩
    exact ⟨card, ⟨hc, hstored⟩, rfl⟩

theorem ImportRequest.withCards_known (request : ImportRequest) (cards : List BusinessCard)
    {batch : StagedBatch} (hcards : batch.businessCards = []) {participantId : Text}
    (h : (Table.find? participantId (request.withCards cards batch).businessCards).isSome = true) :
    (request.hasGroup participantId || batch.hasGroup participantId) = true := by
  rw [Table.find?_isSome_iff, ImportRequest.withCards, hcards, Table.mem_keys_putAllLast] at h
  simp only [Table.keys, List.map_nil, List.not_mem_nil, or_false, List.mem_map, List.mem_filter,
    Bool.and_eq_true] at h
  obtain ⟨card, ⟨-, hknown, -⟩, rfl⟩ := h
  exact hknown

/-- What is staged for a participant fits what the store holds. -/
theorem stageAll_fits {request : ImportRequest} {s : Store} (hs : request.Snapshot s)
    (directoryIntegration : Bool) (readings : List (Reading GroupRecord))
    (results : List (Except RecordError BusinessCard)) (participantId : Text) :
    ((stageAll request directoryIntegration readings results).1.share participantId).Fits
      (s.holding participantId) := by
  rw [stageAll_batch]
  generalize successes (readings.map (·.1)) = records
  have hdeletion := request.withRecords_deletion directoryIntegration records participantId
  rw [hs.hasGroup_eq] at hdeletion
  split
  · refine ⟨hdeletion, ?_, ?_, ?_⟩
    · rw [← hs.hasBusinessCard_eq]
      exact request.withCards_deletion (successes results) rfl rfl participantId
    · intro h
      have hknown := request.withCards_known (successes results) rfl h
      rw [StagedBatch.hasGroup, Table.hasKey_eq_isSome, hs.hasGroup_eq, Bool.or_comm] at hknown
      exact hknown
    · intro group hgroup card hcard
      exact (Table.key_of_find? hgroup).trans (Table.key_of_find? hcard).symm
  · exact ⟨hdeletion, rfl, fun h => absurd h Bool.false_ne_true, fun _ _ _ hcard => by cases hcard⟩

namespace Store

/-- What an import of documents stages over a store, and what it records in doing so. -/
def stage (request : ImportRequest) (batch : ParsedBatch) (s : Store) :
    StagedBatch × List ActionRecord :=
  stageAll request s.directoryIntegration
    (batch.serviceGroups.map fun e =>
      s.reading request.defaultOwner (Document.elementReader.serviceGroup e).2)
    (batch.businessCards.map fun e => (Document.elementReader.businessCard e).2)

theorem mem_readings {request : ImportRequest} {batch : ParsedBatch} {s : Store}
    {record : GroupRecord}
    (h : record ∈ successes ((batch.serviceGroups.map fun e =>
      s.reading request.defaultOwner (Document.elementReader.serviceGroup e).2).map (·.1))) :
    ∃ e ∈ batch.serviceGroups, ((Document.readServiceGroup e).2.run fun id =>
      (Table.find? id s.users).getD request.defaultOwner).2 = .ok record := by
  rw [mem_successes, List.map_map, List.mem_map] at h
  exact h

theorem mem_results {batch : ParsedBatch} {card : BusinessCard}
    (h : card ∈ successes (batch.businessCards.map fun e =>
      (Document.elementReader.businessCard e).2)) :
    ∃ e ∈ batch.businessCards, (Document.readBusinessCard e).2 = .ok card := by
  rw [mem_successes, List.mem_map] at h
  exact h

theorem stage_wellFormed (request : ImportRequest) (batch : ParsedBatch) (s : Store) :
    (s.stage request batch).1.WellFormed :=
  stageAll_wellFormed_of_readings (by rw [List.map_map]; rfl) request s.directoryIntegration

theorem stage_fits {request : ImportRequest} {s : Store} (hs : request.Snapshot s)
    (batch : ParsedBatch) (participantId : Text) :
    ((s.stage request batch).1.share participantId).Fits (s.holding participantId) :=
  stageAll_fits hs _ _ _ participantId

end Store

open Run in
/-- An import of documents into a registry that shows a store comes to its end. Unless it halts before
anything is written, it has committed what was staged. -/
theorem Registry.Shows.import_ends {σ : Type} [Registry σ] {content : σ → Store}
    (hs : Registry.Shows content) (request : ImportRequest) (batch : ParsedBatch)
    (p : Progress σ) :
    let staged := (content p.registry).stage request batch
    let outcome := PlanOutcome.decide staged.1
      ((p.log.records ++ staged.2).any ActionRecord.isError)
    ∃ r q : Progress σ,
      prepare Document.elementReader request batch p = (.ok (staged.1, outcome), r) ∧
      r.log.records = p.log.records ++ staged.2 ++ [⟨.null, outcome.note staged.1, none⟩] ∧
      importBatch Document.elementReader request batch p = (.ok (), q) ∧
      (outcome ≠ .proceed → q.registry = p.registry ∧ q.log = r.log) ∧
      (outcome = .proceed → ∃ turns : CommitTurns, turns.CarryOut staged.1 ∧
        Dialogue p.registry turns.all q.registry ∧
        q.log.records = r.log.records ++ turns.records staged.1) := by
  intro staged outcome
  obtain ⟨r, hprepare, hregistry, hlog⟩ := prepare_holds (p := p)
    (hs.reads Document.elementReader request.defaultOwner batch.serviceGroups p.registry)
  rw [hs.directoryIntegration] at hprepare hlog
  change prepare Document.elementReader request batch p = (.ok (staged.1, outcome), r) at hprepare
  by_cases houtcome : outcome = .proceed
  · have hcontained : ∀ request ∈ staged.1.requests, request.mutation.Contained σ :=
      fun request hr => hs.contained _
        ((Store.stage_wellFormed _ batch (content p.registry)).requests request hr).2
    obtain ⟨turns, report, s', hcarry, -, hd, hcommit⟩ := commit_holds staged.1 hcontained p.registry
    have hprepare' := hprepare
    rw [houtcome] at hprepare'
    obtain ⟨q, himport, hq, hrecords⟩ := import_proceeds hprepare' (hregistry ▸ hcommit)
    exact ⟨r, q, hprepare, hlog, himport, fun h => absurd houtcome h,
      fun _ => ⟨turns, hcarry, hq ▸ hd, hrecords⟩⟩
  · obtain ⟨q, himport, hq, hsame⟩ := import_halted hprepare houtcome
    exact ⟨r, q, hprepare, hlog, himport, fun _ => ⟨hq.trans hregistry, hsame⟩,
      fun h => absurd h houtcome⟩

end ParticipantRegistry
