import ParticipantRegistry.Exchange.Import
import ParticipantRegistry.Proofs.Exchange.Yields
import ParticipantRegistry.Proofs.Registry.Table

/-!
# Readings of a batch

Over a registry that looks up users without fail, every element of a batch has a reading: a record or
the reason why there is none. What is staged and what is recorded is a function of the readings. The
staged tables are told in closed form by the records that the request admits, and reading a batch
records an error exactly if some element is unreadable, a card is without a group, or two records
that are admitted share a key.
-/

namespace ParticipantRegistry

open Document (ElementReader GroupRecord Inquiry RecordError)

variable {σ α : Type}

/-- A record or why there is none, and the ids of the users that were asked for and are not known. -/
abbrev Reading (α : Type) := Except RecordError α × List Text

/-- A registry looks up the users that an inquiry asks for; the default owner stands for those that it
does not know. -/
inductive Consults [Registry σ] (defaultOwner : User) : Inquiry α → σ → Reading α → σ → Prop
  | done (result : Except RecordError α) (s : σ) :
      Consults defaultOwner (.done result) s (result, []) s
  | known {id : Text} {next : User → Inquiry α} {user : User} {reading : Reading α} {s s' s'' : σ}
      (asked : Registry.lookupUser id s = (.ok (some user), s'))
      (rest : Consults defaultOwner (next user) s' reading s'') :
      Consults defaultOwner (.askUser id next) s reading s''
  | unknown {id : Text} {next : User → Inquiry α} {reading : Reading α} {s s' s'' : σ}
      (asked : Registry.lookupUser id s = (.ok none, s'))
      (rest : Consults defaultOwner (next defaultOwner) s' reading s'') :
      Consults defaultOwner (.askUser id next) s (reading.1, id :: reading.2) s''

/-- The group elements of a batch are read one after the other. -/
inductive Reads [Registry σ] (reader : ElementReader) (defaultOwner : User) :
    List Json → σ → List (Reading GroupRecord) → σ → Prop
  | nil (s : σ) : Reads reader defaultOwner [] s [] s
  | cons {element : Json} {elements : List Json} {reading : Reading GroupRecord}
      {readings : List (Reading GroupRecord)} {s s' s'' : σ}
      (first : Consults defaultOwner (reader.serviceGroup element).2 s reading s')
      (rest : Reads reader defaultOwner elements s' readings s'') :
      Reads reader defaultOwner (element :: elements) s (reading :: readings) s''

section Lookups

variable [Registry σ] {γ : Type} {view : σ → γ}

theorem Consults.exists_of_lookups
    (hlookup : ∀ (id : Text) (s : σ), ∃ (user? : Option User) (s' : σ),
      Registry.lookupUser id s = (.ok user?, s') ∧ view s' = view s)
    (defaultOwner : User) (inquiry : Inquiry α) (s : σ) :
    ∃ (reading : Reading α) (s' : σ), Consults defaultOwner inquiry s reading s' ∧
      view s' = view s := by
  induction inquiry generalizing s with
  | done result => exact ⟨(result, []), s, .done result s, rfl⟩
  | askUser id next ih =>
    obtain ⟨user?, s', hasked, hview⟩ := hlookup id s
    cases user? with
    | some user =>
      obtain ⟨reading, s'', hrest, hview'⟩ := ih user s'
      exact ⟨reading, s'', .known hasked hrest, hview'.trans hview⟩
    | none =>
      obtain ⟨reading, s'', hrest, hview'⟩ := ih defaultOwner s'
      exact ⟨_, s'', .unknown hasked hrest, hview'.trans hview⟩

theorem Reads.exists_of_lookups
    (hlookup : ∀ (id : Text) (s : σ), ∃ (user? : Option User) (s' : σ),
      Registry.lookupUser id s = (.ok user?, s') ∧ view s' = view s)
    (reader : ElementReader) (defaultOwner : User) (elements : List Json) (s : σ) :
    ∃ (readings : List (Reading GroupRecord)) (s' : σ),
      Reads reader defaultOwner elements s readings s' ∧ view s' = view s := by
  induction elements generalizing s with
  | nil => exact ⟨[], s, .nil s, rfl⟩
  | cons element elements ih =>
    obtain ⟨reading, s', hfirst, hview⟩ :=
      Consults.exists_of_lookups hlookup defaultOwner (reader.serviceGroup element).2 s
    obtain ⟨readings, s'', hrest, hview'⟩ := ih s'
    exact ⟨_, s'', .cons hfirst hrest, hview'.trans hview⟩

end Lookups

instance : Keyed GroupRecord Text := ⟨fun record => record.group.participantId⟩

namespace ImportRequest

/-- A group may be staged if it is not stored yet or stored ones are overwritten. -/
def admits (request : ImportRequest) (record : GroupRecord) : Bool :=
  !request.hasGroup record.group.participantId || request.overwriteExisting

def admitsCard (request : ImportRequest) (card : BusinessCard) : Bool :=
  !request.hasBusinessCard card.participantId || request.overwriteExisting

def admittedKeys (request : ImportRequest) (records : List GroupRecord) : List Text :=
  (records.filter request.admits).map (·.group.participantId)

def admittedCardKeys (request : ImportRequest) (cards : List BusinessCard) : List Text :=
  (cards.filter request.admitsCard).map (·.participantId)

def stagedGroup (request : ImportRequest) (record : GroupRecord) : StagedGroup :=
  ⟨record, if request.hasGroup record.group.participantId then .overwrite else .create⟩

def withRecords (request : ImportRequest) (records : List GroupRecord) (batch : StagedBatch) :
    StagedBatch :=
  let admitted := records.filter request.admits
  let stored := admitted.filter fun record => request.hasGroup record.group.participantId
  { batch with
    groups := Table.putAll (admitted.map request.stagedGroup) batch.groups
    groupDeletions := Table.putAll (stored.map (·.group)) batch.groupDeletions }

def knowsGroup (request : ImportRequest) (batch : StagedBatch) (card : BusinessCard) : Bool :=
  request.hasGroup card.participantId || batch.hasGroup card.participantId

def withCards (request : ImportRequest) (cards : List BusinessCard) (batch : StagedBatch) :
    StagedBatch :=
  let admitted := cards.filter fun card => request.knowsGroup batch card && request.admitsCard card
  let stored := admitted.filter fun card => request.hasBusinessCard card.participantId
  { batch with
    businessCards := Table.putAllLast admitted batch.businessCards
    businessCardDeletions := Table.putAll stored batch.businessCardDeletions }

end ImportRequest

/-- The values of those results that have one. -/
def successes {ε : Type} (results : List (Except ε α)) : List α := results.filterMap Except.toOption

def stageReading (request : ImportRequest) (batch : StagedBatch) (index : Nat) :
    Reading GroupRecord → StagedBatch × List ActionRecord
  | (.error e, _) => (batch, [⟨.null, .groupUnreadable index, some (.record e)⟩])
  | (.ok record, unresolved) =>
    let staged := stageRecord request index record batch
    let replaced := unresolved.map fun id => Note.ownerReplaced id request.defaultOwner.id
    (staged.1, (replaced ++ staged.2).map fun note =>
      ⟨.ofText? (some record.group.participantId), note, none⟩)

def stageCardReading (request : ImportRequest) (batch : StagedBatch) (index : Nat) :
    Except RecordError BusinessCard → StagedBatch × List ActionRecord
  | .error e => (batch, [⟨.null, .cardUnreadable index, some (.record e)⟩])
  | .ok card =>
    let staged := stageCard request index card batch
    (staged.1, staged.2.map fun note => ⟨.ofText? (some card.participantId), note, none⟩)

/-- Takes steps from an index on, and gathers what they record. -/
def gather {β ι : Type} (step : β → Nat → ι → β × List ActionRecord) :
    β → Nat → List ι → β × List ActionRecord
  | b, _, [] => (b, [])
  | b, index, i :: items =>
    let first := step b index i
    let rest := gather step first.1 (index + 1) items
    (rest.1, first.2 ++ rest.2)

def stageAll (request : ImportRequest) (directoryIntegration : Bool)
    (readings : List (Reading GroupRecord)) (cards : List (Except RecordError BusinessCard)) :
    StagedBatch × List ActionRecord :=
  let groups := gather (stageReading request) { directoryIntegration } 0 readings
  if directoryIntegration then
    let all := gather (stageCardReading request) groups.1 0 cards
    (all.1, groups.2 ++ all.2)
  else groups

namespace Run

variable [Registry σ]

theorem yields_resolve {defaultOwner : User} {inquiry : Inquiry α} {reading : Reading α} {s s' : σ}
    (h : Consults defaultOwner inquiry s reading s') :
    Yields (resolve defaultOwner inquiry) s reading [] s' := by
  induction h with
  | done result s => exact yields_pure (result, []) s
  | known asked rest ih =>
    rw [resolve]
    exact (yields_call asked).bind_silent ih
  | unknown asked rest ih =>
    rw [resolve]
    exact (yields_call asked).bind_silent (ih.bind_pure rfl)

omit [Registry σ] in
theorem yields_emitSightings (sightings : List Document.Sighting) (s : σ) :
    Yields (emitSightings sightings) s () [] s :=
  yields_forM_silent (fun sighting => yields_emit (.sighted sighting) s) sightings

omit [Registry σ] in
theorem yields_recordAll (key : Text) (notes : List Note) (s : σ) :
    Yields (recordAll key notes) s () (notes.map fun note => ⟨.ofText? (some key), note, none⟩) s :=
  yields_forM (fun note => yields_record (some key) note none s) notes

theorem yields_readGroup {reader : ElementReader} {request : ImportRequest} {element : Json}
    {reading : Reading GroupRecord} {s s' : σ}
    (h : Consults request.defaultOwner (reader.serviceGroup element).2 s reading s')
    (batch : StagedBatch) (index : Nat) :
    Yields (readGroup reader request batch (element, index)) s
      (stageReading request batch index reading).1 (stageReading request batch index reading).2
      s' := by
  apply (yields_emitSightings _ s).bind_silent
  apply (yields_resolve h).bind_silent
  match reading with
  | (.error e, _) => exact (yields_record _ _ _ s').bind_pure rfl
  | (.ok record, unresolved) =>
    simp only [stageReading, List.map_append]
    exact (yields_recordAll _ _ s').bind ((yields_recordAll _ _ s').bind_pure rfl)

omit [Registry σ] in
theorem yields_readCard (reader : ElementReader) (request : ImportRequest) (batch : StagedBatch)
    (element : Json) (index : Nat) (s : σ) :
    let staged := stageCardReading request batch index (reader.businessCard element).2
    Yields (readCard reader request batch (element, index)) s staged.1 staged.2 s := by
  apply (yields_emitSightings _ s).bind_silent
  cases (reader.businessCard element).2 with
  | error e => exact (yields_record _ _ _ s).bind_pure rfl
  | ok card => exact (yields_recordAll _ _ s).bind_pure rfl

theorem yields_readGroups {reader : ElementReader} {request : ImportRequest} {elements : List Json}
    {readings : List (Reading GroupRecord)} {s s' : σ}
    (h : Reads reader request.defaultOwner elements s readings s') (batch : StagedBatch)
    (index : Nat) :
    let staged := gather (stageReading request) batch index readings
    Yields ((elements.zipIdx index).foldlM (readGroup reader request) batch) s staged.1 staged.2
      s' := by
  induction h generalizing batch index with
  | nil s => exact yields_pure batch s
  | cons first rest ih => exact (yields_readGroup first batch index).bind (ih _ (index + 1))

omit [Registry σ] in
theorem yields_readCards (reader : ElementReader) (request : ImportRequest) (elements : List Json)
    (batch : StagedBatch) (index : Nat) (s : σ) :
    let staged := gather (stageCardReading request) batch index
      (elements.map fun element => (reader.businessCard element).2)
    Yields ((elements.zipIdx index).foldlM (readCard reader request) batch) s staged.1 staged.2
      s := by
  induction elements generalizing batch index with
  | nil => exact yields_pure batch s
  | cons element elements ih =>
    exact (yields_readCard reader request batch element index s).bind (ih _ (index + 1))

theorem yields_readBatch {reader : ElementReader} {request : ImportRequest} {batch : ParsedBatch}
    {readings : List (Reading GroupRecord)} {s s' : σ}
    (h : Reads reader request.defaultOwner batch.serviceGroups s readings s') :
    let staged := stageAll request (Registry.directoryIntegration s) readings
      (batch.businessCards.map fun element => (reader.businessCard element).2)
    Yields (readBatch reader request batch) s staged.1 staged.2 s' := by
  apply Yields.of_get
  rintro p rfl
  have hstaged (staged : StagedBatch) : Yields
      (do emit (.staged staged.counts); return staged) s' staged [] s' :=
    (yields_emit _ s').bind_pure rfl
  simp only [stageAll]
  cases hd : Registry.directoryIntegration p.registry with
  | false =>
    exact (yields_readGroups h _ 0).then_silent ((yields_pure _ s').bind_silent (hstaged _))
  | true =>
    exact (yields_readGroups h _ 0).bind
      ((yields_readCards reader request _ _ 0 s').then_silent (hstaged _))

end Run

theorem successes_cons {ε : Type} (result : Except ε α) (results : List (Except ε α)) :
    successes (result :: results) = result.toOption.toList ++ successes results := by
  cases result <;> rfl

namespace ImportRequest

theorem withRecords_append (request : ImportRequest) (records more : List GroupRecord)
    (batch : StagedBatch) :
    request.withRecords (records ++ more) batch =
      request.withRecords more (request.withRecords records batch) := by
  simp only [withRecords, List.filter_append, List.map_append, Table.putAll, List.foldl_append]

theorem withCards_append (request : ImportRequest) (cards more : List BusinessCard)
    (batch : StagedBatch) :
    request.withCards (cards ++ more) batch =
      request.withCards more (request.withCards cards batch) := by
  simp only [withCards, List.filter_append, Table.putAll, Table.putAllLast, List.foldl_append]
  rfl

end ImportRequest

theorem stageRecord_eq (request : ImportRequest) (index : Nat) (record : GroupRecord)
    (batch : StagedBatch) :
    stageRecord request index record batch = (request.withRecords [record] batch,
      if request.admits record then
        (if batch.hasGroup record.group.participantId then [.groupRepeated index] else []) ++
          [.groupStaged (request.hasGroup record.group.participantId),
            .endpointsRead record.endpoints.length, .redirectsRead record.redirects.length]
      else [.groupIgnored]) := by
  cases hs : request.hasGroup record.group.participantId <;>
    cases ho : request.overwriteExisting <;>
    simp [stageRecord, ImportRequest.withRecords, ImportRequest.admits, ImportRequest.stagedGroup,
      Table.putAll, StagedBatch.stageGroup, StagedBatch.deleteGroup, hs, ho]

theorem stageCard_eq (request : ImportRequest) (index : Nat) (card : BusinessCard)
    (batch : StagedBatch) :
    stageCard request index card batch = (request.withCards [card] batch,
      if !request.knowsGroup batch card then [.cardWithoutGroup index]
      else if request.admitsCard card then
        (if batch.hasBusinessCard card.participantId then [.cardRepeated] else []) ++
          [.cardStaged (request.hasBusinessCard card.participantId)]
      else [.cardIgnored]) := by
  have hunknown : (!request.hasGroup card.participantId && !batch.hasGroup card.participantId) =
      !request.knowsGroup batch card := by
    rw [ImportRequest.knowsGroup, Bool.not_or]
  rw [stageCard, hunknown]
  cases hk : request.knowsGroup batch card <;>
    cases hs : request.hasBusinessCard card.participantId <;>
    cases ho : request.overwriteExisting <;>
    simp [ImportRequest.withCards, ImportRequest.admitsCard, Table.putAll, Table.putAllLast,
      StagedBatch.stageBusinessCard, StagedBatch.deleteBusinessCard, hs, ho, hk]

theorem gather_stageReading_batch (request : ImportRequest) (readings : List (Reading GroupRecord))
    (batch : StagedBatch) (index : Nat) :
    (gather (stageReading request) batch index readings).1 =
      request.withRecords (successes (readings.map (·.1))) batch := by
  induction readings generalizing batch index with
  | nil => rfl
  | cons reading readings ih =>
    rw [gather, ih, List.map_cons, successes_cons, ImportRequest.withRecords_append]
    match reading with
    | (.error e, unresolved) => rfl
    | (.ok record, unresolved) => rw [stageReading, stageRecord_eq]; rfl

theorem gather_stageCardReading_batch (request : ImportRequest)
    (results : List (Except RecordError BusinessCard)) (batch : StagedBatch) (index : Nat) :
    (gather (stageCardReading request) batch index results).1 =
      request.withCards (successes results) batch := by
  induction results generalizing batch index with
  | nil => rfl
  | cons result results ih =>
    rw [gather, ih, successes_cons, ImportRequest.withCards_append]
    cases result with
    | error e => rfl
    | ok card => rw [stageCardReading, stageCard_eq]; rfl

theorem Severity.isError_eq (severity : Severity) :
    severity.isError = (severity = .error || severity = .fatal : Bool) := by
  cases severity <;> rfl

theorem stageReading_hasError (request : ImportRequest) (batch : StagedBatch) (index : Nat)
    (reading : Reading GroupRecord) :
    (stageReading request batch index reading).2.any ActionRecord.isError =
      match reading.1 with
      | .error _ => true
      | .ok record => request.admits record && batch.hasGroup record.group.participantId := by
  match reading with
  | (.error e, unresolved) => rfl
  | (.ok record, unresolved) =>
    rw [stageReading, stageRecord_eq]
    cases ha : request.admits record <;>
      cases hb : batch.hasGroup record.group.participantId <;>
      simp [ActionRecord.isError, ActionRecord.severity, Note.severity, Severity.isError_eq,
        Function.comp_def, ha, hb]

theorem stageCardReading_hasError (request : ImportRequest) (batch : StagedBatch) (index : Nat)
    (result : Except RecordError BusinessCard) :
    (stageCardReading request batch index result).2.any ActionRecord.isError =
      match result with
      | .error _ => true
      | .ok card => !request.knowsGroup batch card ||
          request.admitsCard card && batch.hasBusinessCard card.participantId := by
  cases result with
  | error e => rfl
  | ok card =>
    rw [stageCardReading, stageCard_eq]
    cases hk : request.knowsGroup batch card <;> cases ha : request.admitsCard card <;>
      cases hb : batch.hasBusinessCard card.participantId <;>
      simp [ActionRecord.isError, ActionRecord.severity, Note.severity, Severity.isError_eq, hk, ha,
        hb]

namespace ImportRequest

theorem hasGroup_withRecords (request : ImportRequest) (records : List GroupRecord)
    (batch : StagedBatch) (k : Text) :
    (request.withRecords records batch).hasGroup k = true ↔
      k ∈ request.admittedKeys records ∨ batch.hasGroup k = true := by
  have hkeys : Table.keys ((records.filter request.admits).map request.stagedGroup) =
      request.admittedKeys records := by
    rw [Table.keys, List.map_map, admittedKeys]
    rfl
  rw [StagedBatch.hasGroup, StagedBatch.hasGroup, Table.hasKey_iff, Table.hasKey_iff, withRecords,
    Table.mem_keys_putAll, hkeys]

theorem hasBusinessCard_withCards (request : ImportRequest) (cards : List BusinessCard)
    (batch : StagedBatch) (k : Text) :
    (request.withCards cards batch).hasBusinessCard k = true ↔
      k ∈ request.admittedCardKeys (cards.filter (request.knowsGroup batch)) ∨
        batch.hasBusinessCard k = true := by
  rw [StagedBatch.hasBusinessCard, StagedBatch.hasBusinessCard, Table.hasKey_iff, Table.hasKey_iff,
    withCards, Table.mem_keys_putAllLast, admittedCardKeys, List.filter_filter]
  simp only [Bool.and_comm]
  rfl

end ImportRequest

private theorem fresh_cons {κ : Type} (used : κ → Prop) (k : κ) (ks : List κ) :
    ((k :: ks).Nodup ∧ ∀ j ∈ k :: ks, ¬used j) ↔
      ¬used k ∧ ks.Nodup ∧ ∀ j ∈ ks, ¬(j ∈ [k] ∨ used j) := by
  simp only [List.nodup_cons, List.forall_mem_cons, List.mem_singleton, not_or, forall_and]
  have hne : (∀ j ∈ ks, ¬j = k) ↔ k ∉ ks :=
    ⟨fun h hk => h k hk rfl, fun h j hj hjk => h (hjk ▸ hj)⟩
  rw [hne]
  tauto

/-- Reading the group elements records no error exactly if each of them has a record and those that
are admitted have distinct keys, none of which was staged before. -/
theorem gather_stageReading_hasError (request : ImportRequest)
    (readings : List (Reading GroupRecord)) (batch : StagedBatch) (index : Nat) :
    (gather (stageReading request) batch index readings).2.any ActionRecord.isError = false ↔
      (∀ reading ∈ readings, ∃ record, reading.1 = .ok record) ∧
      (request.admittedKeys (successes (readings.map (·.1)))).Nodup ∧
      ∀ k ∈ request.admittedKeys (successes (readings.map (·.1))), ¬batch.hasGroup k = true := by
  induction readings generalizing batch index with
  | nil => simp [gather, successes, ImportRequest.admittedKeys]
  | cons reading readings ih =>
    rw [gather, List.any_append, Bool.or_eq_false_iff, stageReading_hasError, ih, List.map_cons,
      successes_cons, List.forall_mem_cons]
    match reading with
    | (.error e, unresolved) => simp
    | (.ok record, unresolved) =>
      have hbatch : (stageReading request batch index (.ok record, unresolved)).1 =
          request.withRecords [record] batch := by rw [stageReading, stageRecord_eq]
      simp only [hbatch, ImportRequest.hasGroup_withRecords, Except.toOption, Option.toList_some,
        List.singleton_append, Except.ok.injEq, exists_eq', true_and]
      cases ha : request.admits record with
      | false => simp [ImportRequest.admittedKeys, ha]
      | true =>
        have hkeys (records : List GroupRecord) : request.admittedKeys (record :: records) =
            record.group.participantId :: request.admittedKeys records := by
          simp [ImportRequest.admittedKeys, ha]
        have hone : request.admittedKeys [record] = [record.group.participantId] := hkeys []
        rw [hone, hkeys, fresh_cons, Bool.true_and, ← Bool.not_eq_true, and_left_comm]

theorem gather_stageCardReading_hasError (request : ImportRequest)
    (results : List (Except RecordError BusinessCard)) (batch : StagedBatch) (index : Nat) :
    (gather (stageCardReading request) batch index results).2.any ActionRecord.isError = false ↔
      (∀ result ∈ results, ∃ card, result = .ok card ∧ request.knowsGroup batch card = true) ∧
      (request.admittedCardKeys (successes results)).Nodup ∧
      ∀ k ∈ request.admittedCardKeys (successes results), ¬batch.hasBusinessCard k = true := by
  induction results generalizing batch index with
  | nil => simp [gather, successes, ImportRequest.admittedCardKeys]
  | cons result results ih =>
    rw [gather, List.any_append, Bool.or_eq_false_iff, stageCardReading_hasError, ih,
      successes_cons, List.forall_mem_cons]
    cases result with
    | error e => simp
    | ok card =>
      have hbatch : (stageCardReading request batch index (.ok card)).1 =
          request.withCards [card] batch := by rw [stageCardReading, stageCard_eq]
      have hknows : request.knowsGroup (request.withCards [card] batch) = request.knowsGroup batch :=
        rfl
      cases hk : request.knowsGroup batch card with
      | false => simp [hk]
      | true =>
        have hcard : [card].filter (request.knowsGroup batch) = [card] := by simp [hk]
        simp only [hbatch, hknows, ImportRequest.hasBusinessCard_withCards, hcard, Except.toOption,
          Option.toList_some, List.singleton_append, Except.ok.injEq, exists_eq_left', hk,
          Bool.not_true, Bool.false_or, true_and]
        cases ha : request.admitsCard card with
        | false => simp [ImportRequest.admittedCardKeys, ha]
        | true =>
          have hkeys (cards : List BusinessCard) : request.admittedCardKeys (card :: cards) =
              card.participantId :: request.admittedCardKeys cards := by
            simp [ImportRequest.admittedCardKeys, ha]
          have hone : request.admittedCardKeys [card] = [card.participantId] := hkeys []
          rw [hone, hkeys, fresh_cons, Bool.true_and, ← Bool.not_eq_true, and_left_comm]

end ParticipantRegistry
