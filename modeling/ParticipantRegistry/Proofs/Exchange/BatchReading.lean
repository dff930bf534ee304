import ParticipantRegistry.Proofs.Exchange.Preparation

/-!
# What reading a batch stages and records

The staged groups come in the order in which their keys first came among the records that can be staged,
and the staged cards in the order in which they last came; each is the last record with its key. What is
recorded is a concatenation of lines, element by element. The lines about an element are told by itself
and the readings of the elements before it.

Only a lookup of a user that is not answered keeps a batch from being read.
-/

namespace ParticipantRegistry

open Document (ElementReader GroupRecord Inquiry RecordError)

namespace ImportRequest

variable (request : ImportRequest)

/-- The records that can be staged, in the order of their elements. -/
def stageable (readings : List (Reading GroupRecord)) : List GroupRecord :=
  (successes (readings.map (·.1))).filter request.admits

/-- The cards that can be staged beside the groups of a batch, in the order of their elements. -/
def stageableCards (staged : StagedBatch) (results : List (Except RecordError BusinessCard)) :
    List BusinessCard :=
  (successes results).filter fun card => request.knowsGroup staged card && request.admitsCard card

theorem keys_stageableCards (staged : StagedBatch)
    (results : List (Except RecordError BusinessCard)) :
    Table.keys (request.stageableCards staged results) =
      request.admittedCardKeys ((successes results).filter (request.knowsGroup staged)) := by
  rw [admittedCardKeys, List.filter_filter, stageableCards]
  simp only [Bool.and_comm]
  rfl

theorem stageable_new (h : request.overwriteExisting = false) (readings : List (Reading GroupRecord)) :
    (Table.keys (request.stageable readings)).filter (request.hasGroup ·) = [] := by
  rw [List.filter_eq_nil_iff]
  intro k hk
  obtain ⟨record, hrecord, rfl⟩ := List.mem_map.mp hk
  have hadmits := (List.mem_filter.mp hrecord).2
  rw [admits, h, Bool.or_false, Bool.not_eq_true'] at hadmits
  exact ne_true_of_eq_false hadmits

end ImportRequest

/-- The staged batch is the one that the readings of the elements call for. -/
structure StagedBatch.Follows (staged : StagedBatch) (request : ImportRequest)
    (readings : List (Reading GroupRecord)) (results : List (Except RecordError BusinessCard)) :
    Prop where
  groups : staged.groups =
    (Table.inPlace (Table.keys (request.stageable readings)) (request.stageable readings)).map
      request.stagedGroup
  groupDeletions : staged.groupDeletions =
    (Table.inPlace ((Table.keys (request.stageable readings)).filter (request.hasGroup ·))
      (request.stageable readings)).map (·.group)
  nothingDeleted : request.overwriteExisting = false → staged.groupDeletions = []
  businessCards : staged.businessCards =
    Table.atEnd (Table.keys (request.stageableCards staged results))
      (request.stageableCards staged results)
  businessCardDeletions : staged.businessCardDeletions =
    Table.inPlace ((Table.keys (request.stageableCards staged results)).filter
      (request.hasBusinessCard ·)) (request.stageableCards staged results)

namespace ImportRequest

variable (request : ImportRequest) (directoryIntegration : Bool)
  (readings : List (Reading GroupRecord))

theorem withRecords_groups :
    (request.withRecords (successes (readings.map (·.1))) { directoryIntegration }).groups =
      (Table.inPlace (Table.keys (request.stageable readings)) (request.stageable readings)).map
        request.stagedGroup := by
  have hput := Table.map_putAll (f := request.stagedGroup) (fun _ => rfl)
    (request.stageable readings) []
  rw [← Table.putAll_nil, hput]
  rfl

theorem withRecords_groupDeletions :
    (request.withRecords (successes (readings.map (·.1))) { directoryIntegration }).groupDeletions =
      (Table.inPlace ((Table.keys (request.stageable readings)).filter (request.hasGroup ·))
        (request.stageable readings)).map (·.group) := by
  have hput := Table.map_putAll (f := GroupRecord.group) (fun _ => rfl)
    ((request.stageable readings).filter fun record => request.hasGroup (key record)) []
  rw [← Table.putAll_filter_nil, hput]
  rfl

end ImportRequest

theorem stageAll_follows (request : ImportRequest) (directoryIntegration : Bool)
    (readings : List (Reading GroupRecord)) (results : List (Except RecordError BusinessCard)) :
    (stageAll request directoryIntegration readings results).1.Follows request readings
      (if directoryIntegration then results else []) := by
  have hgroups := request.withRecords_groups directoryIntegration readings
  have hdeletions := request.withRecords_groupDeletions directoryIntegration readings
  have hunchanged (h : request.overwriteExisting = false) : (request.withRecords
      (successes (readings.map (·.1))) { directoryIntegration }).groupDeletions = [] := by
    rw [hdeletions, request.stageable_new h]
    rfl
  have hbatch := stageAll_batch request directoryIntegration readings results
  simp only at hbatch
  cases directoryIntegration with
  | false =>
    rw [hbatch, if_neg Bool.false_ne_true, if_neg Bool.false_ne_true]
    exact ⟨hgroups, hdeletions, hunchanged, rfl, rfl⟩
  | true =>
    rw [hbatch, if_pos rfl, if_pos rfl]
    exact ⟨hgroups, hdeletions, hunchanged, Table.putAllLast_nil _,
      Table.putAll_filter_nil (request.hasBusinessCard ·) _⟩

namespace ImportRequest

variable (request : ImportRequest)

/-- The lines about a group element, by the readings of the elements before it. -/
def groupLines (earlier : List (Reading GroupRecord)) (index : Nat) :
    Reading GroupRecord → List ActionRecord
  | (.error e, _) => [⟨.null, .groupUnreadable index, some (.record e)⟩]
  | (.ok record, unresolved) =>
    let participantId := record.group.participantId
    let repeated := if participantId ∈ Table.keys (request.stageable earlier) then
      [Note.groupRepeated index] else []
    let decided := if request.admits record then
      repeated ++ [.groupStaged (request.hasGroup participantId),
        .endpointsRead record.endpoints.length, .redirectsRead record.redirects.length]
      else [.groupIgnored]
    (unresolved.map (fun id => Note.ownerReplaced id request.defaultOwner.id) ++ decided).map
      fun note => ⟨.ofText? (some participantId), note, none⟩

def cardLines (staged : StagedBatch) (earlier : List (Except RecordError BusinessCard))
    (index : Nat) : Except RecordError BusinessCard → List ActionRecord
  | .error e => [⟨.null, .cardUnreadable index, some (.record e)⟩]
  | .ok card =>
    let repeated := if card.participantId ∈ Table.keys (request.stageableCards staged earlier) then
      [Note.cardRepeated] else []
    let decided := if !request.knowsGroup staged card then [.cardWithoutGroup index]
      else if request.admitsCard card then
        repeated ++ [.cardStaged (request.hasBusinessCard card.participantId)]
      else [.cardIgnored]
    decided.map fun note => ⟨.ofText? (some card.participantId), note, none⟩

end ImportRequest

section Gathering

variable {β ι : Type} {step : β → Nat → ι → β × List ActionRecord}

theorem gather_append_singleton (b : β) (index : Nat) (items : List ι) (i : ι) :
    gather step b index (items ++ [i]) =
      let gathered := gather step b index items
      let last := step gathered.1 (index + items.length) i
      (last.1, gathered.2 ++ last.2) := by
  induction items generalizing b index with
  | nil => simp [gather]
  | cons first items ih =>
    rw [List.cons_append, gather, ih, gather, List.length_cons, Nat.add_right_comm, Nat.add_assoc]
    simp only [List.append_assoc]

theorem gather_eq {made : List ι → β} {lines : List ι → Nat → ι → List ActionRecord}
    (hstep : ∀ earlier i, step (made earlier) earlier.length i =
      (made (earlier ++ [i]), lines earlier earlier.length i)) (items : List ι) :
    gather step (made []) 0 items =
      (made items, items.zipIdx.flatMap fun item => lines (items.take item.2) item.2 item.1) := by
  induction items using List.reverseRecOn with
  | nil => rfl
  | append_singleton items i ih =>
    have hearlier : (items.zipIdx.flatMap fun item => lines (items.take item.2) item.2 item.1) =
        items.zipIdx.flatMap fun item => lines ((items ++ [i]).take item.2) item.2 item.1 := by
      apply List.flatMap_congr
      intro item hitem
      have hindex : item.2 ≤ items.length := Nat.le_of_lt (List.snd_lt_of_mem_zipIdx hitem)
      rw [List.take_append_of_le_length hindex]
    rw [gather_append_singleton, ih, Nat.zero_add, hearlier, List.zipIdx_append, List.flatMap_append]
    simp only [hstep]
    simp

end Gathering

theorem stageReading_eq (request : ImportRequest) (directoryIntegration : Bool)
    (earlier : List (Reading GroupRecord)) (reading : Reading GroupRecord) :
    let made (readings : List (Reading GroupRecord)) :=
      request.withRecords (successes (readings.map (·.1))) { directoryIntegration }
    stageReading request (made earlier) earlier.length reading =
      (made (earlier ++ [reading]), request.groupLines earlier earlier.length reading) := by
  intro made
  have hmade : made (earlier ++ [reading]) =
      request.withRecords (successes [reading.1]) (made earlier) := by
    simp only [made, List.map_append, successes, List.filterMap_append]
    exact request.withRecords_append _ _ _
  rw [hmade]
  obtain ⟨result, unresolved⟩ := reading
  cases result with
  | error e => rfl
  | ok record =>
    have hstaged : (made earlier).hasGroup record.group.participantId = true ↔
        record.group.participantId ∈ Table.keys (request.stageable earlier) := by
      refine (request.hasGroup_withRecords _ _ _).trans ((or_iff_left ?_).trans Iff.rfl)
      exact Bool.false_ne_true
    rw [stageReading, stageRecord_eq, ImportRequest.groupLines]
    simp only [hstaged]
    rfl

theorem stageCardReading_eq (request : ImportRequest) (staged : StagedBatch)
    (hnone : staged.businessCards = []) (earlier : List (Except RecordError BusinessCard))
    (result : Except RecordError BusinessCard) :
    stageCardReading request (request.withCards (successes earlier) staged) earlier.length result =
      (request.withCards (successes (earlier ++ [result])) staged,
        request.cardLines staged earlier earlier.length result) := by
  have hmade : request.withCards (successes (earlier ++ [result])) staged =
      request.withCards (successes [result]) (request.withCards (successes earlier) staged) := by
    simp only [successes, List.filterMap_append]
    exact request.withCards_append _ _ _
  rw [hmade]
  cases result with
  | error e => rfl
  | ok card =>
    have hknows : request.knowsGroup (request.withCards (successes earlier) staged) card =
        request.knowsGroup staged card := rfl
    have hstaged : (request.withCards (successes earlier) staged).hasBusinessCard card.participantId =
        true ↔ card.participantId ∈ Table.keys (request.stageableCards staged earlier) := by
      rw [request.hasBusinessCard_withCards, StagedBatch.hasBusinessCard, hnone,
        request.keys_stageableCards]
      exact or_iff_left Bool.false_ne_true
    rw [stageCardReading, stageCard_eq, ImportRequest.cardLines, hknows]
    simp only [hstaged]
    rfl

theorem stageAll_lines (request : ImportRequest) (directoryIntegration : Bool)
    (readings : List (Reading GroupRecord)) (results : List (Except RecordError BusinessCard)) :
    let staged := stageAll request directoryIntegration readings results
    let taken := if directoryIntegration then results else []
    staged.2 =
      (readings.zipIdx.flatMap fun (reading, index) =>
        request.groupLines (readings.take index) index reading) ++
      (taken.zipIdx.flatMap fun (result, index) =>
        request.cardLines staged.1 (taken.take index) index result) := by
  intro staged taken
  have hgroups : gather (stageReading request) { directoryIntegration } 0 readings =
      (request.withRecords (successes (readings.map (·.1))) { directoryIntegration },
        readings.zipIdx.flatMap fun item => request.groupLines (readings.take item.2) item.2 item.1) :=
    gather_eq (stageReading_eq request directoryIntegration) readings
  have hcards (groups : StagedBatch) (hnone : groups.businessCards = []) :
      gather (stageCardReading request) groups 0 results =
        (request.withCards (successes results) groups,
          results.zipIdx.flatMap fun item =>
            request.cardLines groups (results.take item.2) item.2 item.1) :=
    gather_eq (stageCardReading_eq request groups hnone) results
  cases directoryIntegration with
  | false =>
    have hstaged : staged = gather (stageReading request) { directoryIntegration := false } 0 readings :=
      rfl
    have htaken : taken = [] := rfl
    rw [htaken, List.zipIdx_nil, List.flatMap_nil, List.append_nil, hstaged]
    exact congrArg Prod.snd hgroups
  | true =>
    let groups := request.withRecords (successes (readings.map (·.1))) {}
    have hstaged : staged = (request.withCards (successes results) groups,
        (readings.zipIdx.flatMap fun item => request.groupLines (readings.take item.2) item.2 item.1) ++
          results.zipIdx.flatMap fun item =>
            request.cardLines groups (results.take item.2) item.2 item.1) := by
      simp only [staged, stageAll, if_true, hgroups, hcards groups rfl, groups]
    rw [hstaged]
    rfl

namespace Run

variable {σ α β : Type} [Registry σ]

/-- Started on content `s`, the run ends with a lookup of a user that is not answered. -/
def FailsLookup (run : Run σ α) (s : σ) : Prop :=
  ∀ p : Progress σ, p.registry = s → ∃ (id : Text) (t : σ) (e : CallError) (q : Progress σ),
    Registry.lookupUser id t = (.error e, q.registry) ∧ run p = (.error e, q)

theorem FailsLookup.bind {run : Run σ α} {s : σ} (h : FailsLookup run s) (next : α → Run σ β) :
    FailsLookup (run >>= next) s := by
  intro p hp
  obtain ⟨id, t, e, q, hasked, hrun⟩ := h p hp
  exact ⟨id, t, e, q, hasked, Call.bind_of_error hrun⟩

theorem Yields.failsLookup {run : Run σ α} {next : α → Run σ β} {s s' : σ} {a : α}
    {records : List ActionRecord} (hrun : Yields run s a records s') (h : FailsLookup (next a) s') :
    FailsLookup (run >>= next) s := by
  intro p hp
  obtain ⟨events, hfirst⟩ := hrun p hp
  obtain ⟨id, t, e, q, hasked, hnext⟩ := h (run p).2 (by rw [hfirst])
  rw [hfirst] at hnext
  exact ⟨id, t, e, q, hasked, (Call.bind_of_ok hfirst).trans hnext⟩

theorem failsLookup_call {id : Text} {s s' : σ} {e : CallError}
    (h : Registry.lookupUser id s = (.error e, s')) :
    FailsLookup (call (Registry.lookupUser id)) s := by
  rintro p rfl
  refine ⟨id, p.registry, e,
    ⟨s', p.log, p.events ++ answerEvents (.error e : Except CallError (Option User))⟩, h, ?_⟩
  simp only [call, h]

theorem resolve_cases (defaultOwner : User) (inquiry : Inquiry α) (s : σ) :
    (∃ (reading : Reading α) (s' : σ), Consults defaultOwner inquiry s reading s') ∨
      FailsLookup (resolve defaultOwner inquiry) s := by
  induction inquiry generalizing s with
  | done result => exact .inl ⟨(result, []), s, .done result s⟩
  | askUser id next ih =>
    cases hasked : (Registry.lookupUser id : Call σ (Option User)) s with
    | mk answer s' =>
      rw [resolve]
      rcases answer with e | _ | user
      · exact .inr ((failsLookup_call hasked).bind _)
      · rcases ih defaultOwner s' with ⟨reading, s'', hrest⟩ | hfails
        · exact .inl ⟨_, s'', .unknown hasked hrest⟩
        · exact .inr ((yields_call hasked).failsLookup (hfails.bind _))
      · rcases ih user s' with ⟨reading, s'', hrest⟩ | hfails
        · exact .inl ⟨reading, s'', .known hasked hrest⟩
        · exact .inr ((yields_call hasked).failsLookup hfails)

theorem readGroups_cases (reader : ElementReader) (request : ImportRequest) (elements : List Json)
    (staged : StagedBatch) (index : Nat) (s : σ) :
    (∃ (readings : List (Reading GroupRecord)) (s' : σ),
        Reads reader request.defaultOwner elements s readings s') ∨
      FailsLookup ((elements.zipIdx index).foldlM (readGroup reader request) staged) s := by
  induction elements generalizing staged index s with
  | nil => exact .inl ⟨[], s, .nil s⟩
  | cons element elements ih =>
    rcases resolve_cases request.defaultOwner (reader.serviceGroup element).2 s with
      ⟨reading, s', hfirst⟩ | hfails
    · have hgroup := yields_readGroup hfirst staged index
      rcases ih (stageReading request staged index reading).1 (index + 1) s' with
        ⟨readings, s'', hrest⟩ | hfails
      · exact .inl ⟨reading :: readings, s'', .cons hfirst hrest⟩
      · exact .inr (hgroup.failsLookup hfails)
    · have hgroup : FailsLookup (readGroup reader request staged (element, index)) s :=
        (yields_emitSightings _ s).failsLookup (hfails.bind _)
      exact .inr (hgroup.bind _)

/-- A batch is read unless a lookup of a user is not answered. What is staged follows the readings of its
elements, and the lines about them are appended to the log: those about the groups, then, if cards are
taken, those about the cards. -/
theorem readBatch_follows (reader : ElementReader) (request : ImportRequest) (batch : ParsedBatch)
    (p : Progress σ) :
    (∃ (id : Text) (s : σ) (e : CallError) (q : Progress σ),
        Registry.lookupUser id s = (.error e, q.registry) ∧
        readBatch reader request batch p = (.error e, q)) ∨
      ∃ (readings : List (Reading GroupRecord)) (staged : StagedBatch) (q : Progress σ),
        Reads reader request.defaultOwner batch.serviceGroups p.registry readings q.registry ∧
        readBatch reader request batch p = (.ok staged, q) ∧
        staged.directoryIntegration = Registry.directoryIntegration p.registry ∧
        let cards := if Registry.directoryIntegration p.registry then
          batch.businessCards.map fun element => (reader.businessCard element).2 else []
        staged.Follows request readings cards ∧
        q.log.records = p.log.records ++
          (readings.zipIdx.flatMap fun (reading, index) =>
            request.groupLines (readings.take index) index reading) ++
          (cards.zipIdx.flatMap fun (result, index) =>
            request.cardLines staged (cards.take index) index result) := by
  rcases readGroups_cases reader request batch.serviceGroups
    { directoryIntegration := Registry.directoryIntegration p.registry } 0 p.registry with
    ⟨readings, s', hreads⟩ | hfails
  · refine .inr ?_
    obtain ⟨events, hread⟩ := yields_readBatch hreads p rfl
    refine ⟨readings, _, _, hreads, hread, ?_, stageAll_follows request _ readings _, ?_⟩
    · have hbatch := stageAll_batch request (Registry.directoryIntegration p.registry) readings
        (batch.businessCards.map fun element => (reader.businessCard element).2)
      simp only at hbatch
      rw [hbatch]
      split <;> rfl
    · rw [List.append_assoc, stageAll_lines]
  · obtain ⟨id, s, e, q, hasked, hrun⟩ := hfails p rfl
    have hbegin : (get : Run σ (Progress σ)) p = (.ok p, p) := rfl
    exact .inl ⟨id, s, e, q, hasked, (Call.bind_of_ok hbegin).trans (Call.bind_of_error hrun)⟩

end Run

end ParticipantRegistry
