import ParticipantRegistry.Proofs.Exchange.Isolation

/-!
# The order of a document

The order in which a document lists its groups and its cards does not matter. Where the order could
tell, a key is listed twice, and that is an error which keeps the whole batch from being written. Without
one the same is staged for every participant, and a commit does to each of them what is staged for it.
-/

namespace ParticipantRegistry

open Document (GroupRecord RecordError)

theorem StagedBatch.isEmpty_iff_hasKeys (staged : StagedBatch) :
    staged.isEmpty = true ↔ ∀ participantId,
      staged.hasGroup participantId = false ∧ staged.hasBusinessCard participantId = false := by
  rw [StagedBatch.isEmpty_iff_share]
  refine forall_congr' fun participantId => ?_
  rw [StagedBatch.hasGroup, StagedBatch.hasBusinessCard, Table.hasKey_eq_isSome,
    Table.hasKey_eq_isSome, Option.isSome_eq_false_iff, Option.isSome_eq_false_iff,
    Option.isNone_iff_eq_none, Option.isNone_iff_eq_none]
  rfl

section Staging

variable {records records' : List GroupRecord} {cards cards' : List BusinessCard}

namespace ImportRequest

theorem admittedKeys_perm (request : ImportRequest) (h : records.Perm records') :
    (request.admittedKeys records).Perm (request.admittedKeys records') :=
  (h.filter request.admits).map _

theorem admittedCardKeys_perm (request : ImportRequest) (h : cards.Perm cards') :
    (request.admittedCardKeys cards).Perm (request.admittedCardKeys cards') :=
  (h.filter request.admitsCard).map _

theorem hasGroup_of_perm (request : ImportRequest) (directoryIntegration : Bool)
    (h : records.Perm records') (k : Text) :
    (request.withRecords records { directoryIntegration }).hasGroup k =
      (request.withRecords records' { directoryIntegration }).hasGroup k := by
  rw [Bool.eq_iff_iff, hasGroup_withRecords, hasGroup_withRecords,
    (request.admittedKeys_perm h).mem_iff]

theorem knowsGroup_of_perm (request : ImportRequest) (directoryIntegration : Bool)
    (h : records.Perm records') :
    request.knowsGroup (request.withRecords records { directoryIntegration }) =
      request.knowsGroup (request.withRecords records' { directoryIntegration }) := by
  funext card
  rw [knowsGroup, knowsGroup, request.hasGroup_of_perm directoryIntegration h]

theorem hasBusinessCard_of_perm (request : ImportRequest) {batch batch' : StagedBatch}
    (h : cards.Perm cards') (hknows : request.knowsGroup batch = request.knowsGroup batch')
    (hbatch : batch.businessCards = batch'.businessCards) (k : Text) :
    (request.withCards cards batch).hasBusinessCard k =
      (request.withCards cards' batch').hasBusinessCard k := by
  rw [Bool.eq_iff_iff, hasBusinessCard_withCards, hasBusinessCard_withCards, hknows,
    (request.admittedCardKeys_perm (h.filter _)).mem_iff, StagedBatch.hasBusinessCard, hbatch]
  rfl

theorem withRecords_share_of_perm (request : ImportRequest) (directoryIntegration : Bool)
    (h : records.Perm records') (hn : (request.admittedKeys records).Nodup) (participantId : Text) :
    (request.withRecords records { directoryIntegration }).share participantId =
      (request.withRecords records' { directoryIntegration }).share participantId := by
  have hadmitted := h.filter request.admits
  have hgroups : (Table.keys ((records.filter request.admits).map request.stagedGroup)).Nodup := by
    rw [Table.keys, List.map_map]
    exact hn
  have hdeletions : (Table.keys (((records.filter request.admits).filter fun record =>
      request.hasGroup record.group.participantId).map (·.group))).Nodup := by
    rw [Table.keys, List.map_map]
    exact (List.filter_sublist.map _).nodup hn
  simp only [StagedBatch.share, withRecords, Table.find?_putAll,
    Table.last?_of_perm hgroups (hadmitted.map _) participantId,
    Table.last?_of_perm hdeletions ((hadmitted.filter _).map _) participantId]

theorem withCards_share_of_perm (request : ImportRequest) {batch batch' : StagedBatch}
    {participantId : Text} (h : cards.Perm cards') (hn : (request.admittedCardKeys cards).Nodup)
    (hknows : request.knowsGroup batch = request.knowsGroup batch')
    (hshare : batch.share participantId = batch'.share participantId) :
    (request.withCards cards batch).share participantId =
      (request.withCards cards' batch').share participantId := by
  let isAdmitted card := request.knowsGroup batch' card && request.admitsCard card
  have hadmitted : (cards.filter isAdmitted).Perm (cards'.filter isAdmitted) := h.filter isAdmitted
  have hcards : (Table.keys (cards.filter isAdmitted)).Nodup := by
    rw [← List.filter_filter]
    exact (List.filter_sublist.map _).nodup hn
  have hdeletions := Table.nodup_keys_filter
    (fun card => request.hasBusinessCard card.participantId) _ hcards
  obtain ⟨hgroup, hdeletion, hcard, hcardDeletion⟩ := Share.mk.inj hshare
  simp only [StagedBatch.share, withCards, hknows, Table.find?_putAll, Table.find?_putAllLast,
    hgroup, hdeletion, hcard, hcardDeletion]
  rw [Table.last?_of_perm hcards hadmitted participantId,
    Table.last?_of_perm hdeletions (hadmitted.filter _) participantId]

end ImportRequest

variable {readings readings' : List (Reading GroupRecord)}
  {results results' : List (Except RecordError BusinessCard)}

theorem successes_perm {ε α : Type} {results results' : List (Except ε α)}
    (h : results.Perm results') : (successes results).Perm (successes results') :=
  h.filterMap Except.toOption

theorem stageAll_hasError_of_perm (request : ImportRequest) (directoryIntegration : Bool)
    (hreadings : readings.Perm readings') (hresults : results.Perm results') :
    (stageAll request directoryIntegration readings results).2.any ActionRecord.isError =
      (stageAll request directoryIntegration readings' results').2.any ActionRecord.isError := by
  have hrecords := successes_perm (hreadings.map (·.1))
  have hcards := successes_perm hresults
  have hfree : (stageAll request directoryIntegration readings results).2.any ActionRecord.isError =
        false ↔
      (stageAll request directoryIntegration readings' results').2.any ActionRecord.isError =
        false := by
    rw [stageAll_hasError, stageAll_hasError, knowsGroup_stageAll, knowsGroup_stageAll,
      request.knowsGroup_of_perm directoryIntegration hrecords, (request.admittedKeys_perm hrecords).nodup_iff,
      (request.admittedCardKeys_perm hcards).nodup_iff]
    simp only [hreadings.mem_iff, hresults.mem_iff]
  rw [← Bool.not_inj_iff, ← Bool.coe_false_iff_false, hfree]

theorem stageAll_isEmpty_of_perm (request : ImportRequest) (directoryIntegration : Bool)
    (hreadings : readings.Perm readings') (hresults : results.Perm results') :
    (stageAll request directoryIntegration readings results).1.isEmpty =
      (stageAll request directoryIntegration readings' results').1.isEmpty := by
  have hrecords := successes_perm (hreadings.map (·.1))
  have hcards := successes_perm hresults
  rw [Bool.eq_iff_iff, StagedBatch.isEmpty_iff_hasKeys, StagedBatch.isEmpty_iff_hasKeys,
    stageAll_batch, stageAll_batch]
  refine forall_congr' fun k => ?_
  have hgroup := request.hasGroup_of_perm directoryIntegration hrecords k
  cases directoryIntegration with
  | false => exact and_congr (iff_of_eq (congrArg (· = false) hgroup)) Iff.rfl
  | true =>
    have hknows := request.knowsGroup_of_perm true hrecords
    have hcard := request.hasBusinessCard_of_perm hcards hknows rfl k
    exact and_congr (iff_of_eq (congrArg (· = false) hgroup))
      (iff_of_eq (congrArg (· = false) hcard))

/-- If nothing in the batch is an error, what is staged for a participant does not depend on the
order. -/
theorem stageAll_share_of_perm (request : ImportRequest) (directoryIntegration : Bool)
    (hreadings : readings.Perm readings') (hresults : results.Perm results')
    (hread : (stageAll request directoryIntegration readings results).2.any ActionRecord.isError =
      false) (participantId : Text) :
    (stageAll request directoryIntegration readings results).1.share participantId =
      (stageAll request directoryIntegration readings' results').1.share participantId := by
  obtain ⟨-, hkeys, hcardKeys⟩ := (stageAll_hasError _ _ _ _).mp hread
  have hrecords := successes_perm (hreadings.map (·.1))
  have hshare := request.withRecords_share_of_perm directoryIntegration hrecords hkeys participantId
  rw [stageAll_batch, stageAll_batch]
  cases directoryIntegration with
  | false => exact hshare
  | true =>
    exact request.withCards_share_of_perm (successes_perm hresults) (hcardKeys rfl).2
      (request.knowsGroup_of_perm true hrecords) hshare

end Staging

namespace Store

section

variable {request : ImportRequest} {batch batch' : ParsedBatch}

theorem readings_perm (s : Store) (request : ImportRequest)
    (h : batch.serviceGroups.Perm batch'.serviceGroups) :
    (batch.serviceGroups.map fun e =>
      s.reading request.defaultOwner (Document.elementReader.serviceGroup e).2).Perm
    (batch'.serviceGroups.map fun e =>
      s.reading request.defaultOwner (Document.elementReader.serviceGroup e).2) := h.map _

theorem stage_outcome_of_perm (s : Store) (request : ImportRequest)
    (hgroups : batch.serviceGroups.Perm batch'.serviceGroups)
    (hcards : batch.businessCards.Perm batch'.businessCards) :
    PlanOutcome.decide (s.stage request batch).1
        ((s.stage request batch).2.any ActionRecord.isError) =
      PlanOutcome.decide (s.stage request batch').1
        ((s.stage request batch').2.any ActionRecord.isError) := by
  have hreadings := s.readings_perm request hgroups
  rw [PlanOutcome.decide, PlanOutcome.decide, stage, stage,
    stageAll_isEmpty_of_perm request _ hreadings (hcards.map _),
    stageAll_hasError_of_perm request _ hreadings (hcards.map _)]

theorem stage_about_of_perm (s : Store) (request : ImportRequest)
    (hgroups : batch.serviceGroups.Perm batch'.serviceGroups)
    (hcards : batch.businessCards.Perm batch'.businessCards)
    (hread : (s.stage request batch).2.any ActionRecord.isError = false) (participantId : Text) :
    (s.stage request batch).1.about participantId = (s.stage request batch').1.about participantId := by
  have hshare := stageAll_share_of_perm request s.directoryIntegration
    (s.readings_perm request hgroups) (hcards.map _) hread participantId
  obtain ⟨hgroup, hdeletion, hcard, hcardDeletion⟩ := Share.mk.inj hshare
  have hdirectory (batch : ParsedBatch) :
      (s.stage request batch).1.directoryIntegration = s.directoryIntegration := by
    rw [stage, stageAll_batch]
    split <;> rfl
  rw [(s.stage_wellFormed request batch).about_eq, (s.stage_wellFormed request batch').about_eq,
    StagedBatch.mk.injEq]
  exact ⟨(hdirectory batch).trans (hdirectory batch').symm, congrArg Option.toList hgroup,
    congrArg Option.toList hdeletion, congrArg Option.toList hcard,
    congrArg Option.toList hcardDeletion⟩

end

end Store

/-- The order in which a batch lists its elements does not matter: the same decision is made on it, and
the store comes to hold the same, whatever the store is told to let fail. -/
theorem import_order_irrelevant (s : Store) (request : ImportRequest) {batch batch' : ParsedBatch}
    (hgroups : batch.serviceGroups.Perm batch'.serviceGroups)
    (hcards : batch.businessCards.Perm batch'.businessCards) (correlationId correlationId' : Json) :
    let task := s.importing request batch correlationId
    let task' := s.importing request batch' correlationId'
    ∃ (staged staged' : StagedBatch) (outcome : PlanOutcome) (r r' q q' : Progress Store),
      Run.prepare Document.elementReader request batch task.start = (.ok (staged, outcome), r) ∧
      Run.prepare Document.elementReader request batch' task'.start = (.ok (staged', outcome), r') ∧
      task.run = (.ok (), q) ∧ task'.run = (.ok (), q') ∧ q.registry.Alike q'.registry := by
  intro task task'
  obtain ⟨r, q, hprepare, -, himport, hhalted, hproceeds⟩ :=
    Store.shows.import_ends request batch task.start
  obtain ⟨r', q', hprepare', -, himport', hhalted', hproceeds'⟩ :=
    Store.shows.import_ends request batch' task'.start
  have houtcome := s.stage_outcome_of_perm request hgroups hcards
  have hsameOutcome : Run.prepare Document.elementReader request batch' task'.start =
      (.ok ((s.stage request batch').1, PlanOutcome.decide (s.stage request batch).1
        ((s.stage request batch).2.any ActionRecord.isError)), r') := by
    rw [houtcome]
    exact hprepare'
  refine ⟨_, _, _, r, r', q, q', hprepare, hsameOutcome, himport, himport', ?_⟩
  by_cases hproceed : PlanOutcome.decide (s.stage request batch).1
      ((s.stage request batch).2.any ActionRecord.isError) = .proceed
  · obtain ⟨turns, hcarry, hd, -⟩ := hproceeds hproceed
    obtain ⟨turns', hcarry', hd', -⟩ := hproceeds' (houtcome.symm.trans hproceed)
    have hw := s.stage_wellFormed request batch
    have hw' := s.stage_wellFormed request batch'
    have hread := ((PlanOutcome.decide_eq_proceed_iff _ _).mp hproceed).2
    refine ⟨(hcarry.holdings hw hd).1.trans (hcarry'.holdings hw' hd').1.symm, fun k => ?_⟩
    let isOwn (participantId : Text) : Bool := participantId = k
    have hstaged : (s.stage request batch).1.restrict isOwn =
        (s.stage request batch').1.restrict isOwn :=
      s.stage_about_of_perm request hgroups hcards hread k
    have hsame := (hcarry.agree_of_restrict hw hw' hstaged hcarry' hd hd' (.refl isOwn s)).2
    exact hsame.holding k (decide_eq_true rfl)
  · rw [(hhalted hproceed).1, (hhalted' fun h => hproceed (houtcome.trans h)).1]
    exact ⟨rfl, fun _ => rfl⟩

/-- Two groups are created in the order of the document, but both documents leave the same. -/
theorem import_order_irrelevant_swapped :
    let s : Store := { users := [⟨"u", "U"⟩] }
    let element (k : Text) : Json :=
      .object [("participant_id", .string k), ("owner_id", .string "u")]
    let batch : ParsedBatch := ⟨[element "a", element "b"], []⟩
    let batch' : ParsedBatch := ⟨[element "b", element "a"], []⟩
    batch.serviceGroups.Perm batch'.serviceGroups ∧ batch.businessCards.Perm batch'.businessCards ∧
      ∃ q q' : Progress Store,
        (s.importing (s.replacing ⟨"admin", "Admin"⟩) batch .null).run = (.ok (), q) ∧
        (s.importing (s.replacing ⟨"admin", "Admin"⟩) batch' .null).run = (.ok (), q') ∧
        q.registry.groups = [⟨"a", "u", none⟩, ⟨"b", "u", none⟩] ∧
        q'.registry.groups = [⟨"b", "u", none⟩, ⟨"a", "u", none⟩] ∧
        q.registry.Alike q'.registry := by
  intro s element batch batch'
  have hgroups : batch.serviceGroups.Perm batch'.serviceGroups := .swap _ _ _
  have hcards : batch.businessCards.Perm batch'.businessCards := .refl _
  obtain ⟨-, -, -, -, -, q, q', -, -, himport, himport', halike⟩ := import_order_irrelevant s
    (s.replacing ⟨"admin", "Admin"⟩) hgroups hcards .null .null
  refine ⟨hgroups, hcards, q, q', himport, himport', ?_, ?_, halike⟩
  · have hq : q = _ := (Prod.mk.inj himport).2.symm
    rw [hq]
    decide +kernel
  · have hq' : q' = _ := (Prod.mk.inj himport').2.symm
    rw [hq']
    decide +kernel

end ParticipantRegistry
