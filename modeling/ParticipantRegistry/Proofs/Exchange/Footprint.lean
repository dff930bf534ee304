import ParticipantRegistry.Proofs.Exchange.EndState

/-!
# What an import may touch

An import leaves alone every participant that no element of the batch is about. Without overwriting it
stages a group only where none is stored and a card only where none is stored, so it deletes nothing, and
what was there before is there afterwards.
-/

namespace ParticipantRegistry

open Document (GroupRecord RecordError)

/-- An element of the batch, read with these users, is about the participant. -/
def ParsedBatch.Names (batch : ParsedBatch) (users : Text → User) (participantId : Text) : Prop :=
  (∃ e ∈ batch.serviceGroups, ∃ record : GroupRecord,
    ((Document.readServiceGroup e).2.run users).2 = .ok record ∧
      record.group.participantId = participantId) ∨
  ∃ e ∈ batch.businessCards, ∃ card : BusinessCard,
    (Document.readBusinessCard e).2 = .ok card ∧ card.participantId = participantId

/-- Every record of a store is found in another one as it is. -/
structure Store.Within (s t : Store) : Prop where
  groups : ∀ (k : Text) (group : ServiceGroup),
    Table.find? k s.groups = some group → Table.find? k t.groups = some group
  endpoints : ∀ (k : EndpointKey) (endpoint : Endpoint),
    Table.find? k s.endpoints = some endpoint → Table.find? k t.endpoints = some endpoint
  redirects : ∀ (k : RedirectKey) (redirect : Redirect),
    Table.find? k s.redirects = some redirect → Table.find? k t.redirects = some redirect
  businessCards : ∀ (k : Text) (card : BusinessCard),
    Table.find? k s.businessCards = some card → Table.find? k t.businessCards = some card

section Staging

variable {request : ImportRequest} {directoryIntegration : Bool}
  {readings : List (Reading GroupRecord)} {results : List (Except RecordError BusinessCard)}
  {participantId : Text}

theorem exists_record_of_staged
    (h : ((stageAll request directoryIntegration readings results).1.share
      participantId).group.isSome = true) :
    ∃ record ∈ successes (readings.map (·.1)), request.admits record = true ∧
      record.group.participantId = participantId := by
  rw [stageAll_share_group, Option.isSome_map] at h
  obtain ⟨record, hrecord⟩ := Option.isSome_iff_exists.mp h
  obtain ⟨hmem, hk⟩ := Table.mem_of_last? hrecord
  obtain ⟨hmem, hadmits⟩ := List.mem_filter.mp hmem
  exact ⟨record, hmem, hadmits, hk⟩

theorem exists_card_of_staged
    (h : ((stageAll request directoryIntegration readings results).1.share
      participantId).card.isSome = true) :
    ∃ card ∈ successes results, request.admitsCard card = true ∧
      card.participantId = participantId := by
  rw [stageAll_batch] at h
  split at h
  · simp only [StagedBatch.share, ImportRequest.withCards, Table.find?_putAllLast] at h
    obtain ⟨card, hcard⟩ := Option.isSome_iff_exists.mp h
    rw [ImportRequest.withRecords, Table.find?_nil, Option.or_none] at hcard
    obtain ⟨hmem, hk⟩ := Table.mem_of_last? hcard
    obtain ⟨hmem, hadmits⟩ := List.mem_filter.mp hmem
    rw [Bool.and_eq_true] at hadmits
    exact ⟨card, hmem, hadmits.2, hk⟩
  · cases h

end Staging

namespace Store

variable {s : Store} {request : ImportRequest} {batch : ParsedBatch}

theorem stage_names {participantId : Text}
    (h : ((s.stage request batch).1.share participantId).group.isSome = true ∨
      ((s.stage request batch).1.share participantId).card.isSome = true) :
    batch.Names (fun id => (Table.find? id s.users).getD request.defaultOwner) participantId := by
  rcases h with h | h
  · obtain ⟨record, hr, -, hk⟩ := exists_record_of_staged h
    rw [mem_successes, List.map_map, List.mem_map] at hr
    obtain ⟨e, he, hread⟩ := hr
    exact .inl ⟨e, he, record, hread, hk⟩
  · obtain ⟨card, hc, -, hk⟩ := exists_card_of_staged h
    rw [mem_successes, List.mem_map] at hc
    obtain ⟨e, he, hread⟩ := hc
    exact .inr ⟨e, he, card, hread, hk⟩

theorem stage_adds (hs : request.Snapshot s) (ho : request.overwriteExisting = false)
    (batch : ParsedBatch) (participantId : Text) :
    let share := (s.stage request batch).1.share participantId
    (share.group.isSome = true → (s.holding participantId).group = none) ∧
      (share.card.isSome = true → (s.holding participantId).card = none) := by
  constructor
  · intro h
    obtain ⟨record, -, hadmits, hk⟩ := exists_record_of_staged h
    rw [ImportRequest.admits, ho, Bool.or_false, hk, hs.hasGroup_eq] at hadmits
    simpa using hadmits
  · intro h
    obtain ⟨card, -, hadmits, hk⟩ := exists_card_of_staged h
    rw [ImportRequest.admitsCard, ho, Bool.or_false, hk, hs.hasBusinessCard_eq] at hadmits
    simpa using hadmits

theorem stage_keeps (hs : request.Snapshot s) (ho : request.overwriteExisting = false)
    (batch : ParsedBatch) :
    (s.stage request batch).1.groupDeletions = [] ∧
      (s.stage request batch).1.businessCardDeletions = [] := by
  rw [Table.eq_nil_iff (κ := Text), Table.eq_nil_iff (κ := Text), ← forall_and]
  intro k
  obtain ⟨hgroup, hcard⟩ := stage_adds hs ho batch k
  have hfits := s.stage_fits hs batch k
  constructor
  · by_contra hdeletion
    have hboth := hfits.groupDeletion
    rw [StagedBatch.share, Option.isSome_iff_ne_none.mpr hdeletion, eq_comm, Bool.and_eq_true] at hboth
    rw [hgroup hboth.1] at hboth
    cases hboth.2
  · by_contra hdeletion
    have hboth := hfits.cardDeletion
    rw [StagedBatch.share, Option.isSome_iff_ne_none.mpr hdeletion, eq_comm, Bool.and_eq_true] at hboth
    rw [hcard hboth.1] at hboth
    cases hboth.2

end Store

theorem CommitTurns.CarryOut.deletes_nothing {turns : CommitTurns} {staged : StagedBatch}
    (hcarry : turns.CarryOut staged) (hgroups : staged.groupDeletions = [])
    (hcards : staged.businessCardDeletions = []) :
    ∀ mutation ∈ turns.all.map (·.mutation),
      mutation.operation ≠ .deleteGroup ∧ mutation.operation ≠ .deleteBusinessCard := by
  have hdeletions : turns.deletions = [] := by
    simpa [hgroups] using hcarry.deletions
  have hcardDeletions : turns.cardDeletions = [] := by
    simpa [hcards] using hcarry.cardDeletions
  intro mutation hm
  obtain ⟨t, ht, rfl⟩ := List.mem_map.mp hm
  have hr : t.toRequest ∈ turns.all.map Turn.toRequest := List.mem_map_of_mem ht
  simp only [CommitTurns.all, hdeletions, hcardDeletions, List.nil_append, List.append_nil,
    List.map_append, hcarry.creations, hcarry.children, hcarry.cards, List.mem_append, List.mem_map,
    List.mem_flatMap] at hr
  rcases hr with (⟨g, -, hg⟩ | ⟨g, -, hg⟩) | ⟨card, -, hcard⟩
  · have hm : t.mutation = g.creation.mutation := congrArg Request.mutation hg.symm
    rw [hm]
    constructor <;> intro h <;> cases h
  · rcases StagedGroup.mem_children hg with ⟨e, hm⟩ | ⟨r, hm⟩ <;> rw [hm] <;> constructor <;>
      intro h <;> cases h
  · have hm : t.mutation = card.upsert.mutation := congrArg Request.mutation hcard.symm
    rw [hm]
    constructor <;> intro h <;> cases h

theorem Store.within_of_holdings {s t : Store} (howned : s.Owned)
    (h : ∀ participantId, s.hasGroup participantId = true →
      (t.holding participantId).group = (s.holding participantId).group ∧
      (t.holding participantId).endpoints = (s.holding participantId).endpoints ∧
      (t.holding participantId).redirects = (s.holding participantId).redirects ∧
      ((s.holding participantId).card.isSome = true →
        (t.holding participantId).card = (s.holding participantId).card)) :
    s.Within t := by
  refine ⟨fun k group hfind => ?_, fun k e hfind => ?_, fun k r hfind => ?_, fun k card hfind => ?_⟩
  · have hheld : s.hasGroup k = true := by
      rw [Store.hasGroup, Table.hasKey_eq_isSome, hfind]
      rfl
    exact (h k hheld).1.trans hfind
  · have hk : key e = k := Table.key_of_find? hfind
    have hheld := howned.endpoints e (List.mem_of_find?_eq_some hfind)
    rw [Store.find?_endpoints, ← hk]
    rw [Store.find?_endpoints, ← hk] at hfind
    rw [← hfind]
    exact congrArg (Table.find? (key e)) (h e.participantId hheld).2.1
  · have hk : key r = k := Table.key_of_find? hfind
    have hheld := howned.redirects r (List.mem_of_find?_eq_some hfind)
    rw [Store.find?_redirects, ← hk]
    rw [Store.find?_redirects, ← hk] at hfind
    rw [← hfind]
    exact congrArg (Table.find? (key r)) (h r.participantId hheld).2.2.1
  · have hk : card.participantId = k := Table.key_of_find? hfind
    have hheld := howned.businessCards card (List.mem_of_find?_eq_some hfind)
    have hcard : (s.holding k).card.isSome = true := by
      rw [Store.holding, hfind]
      rfl
    exact ((h k (hk ▸ hheld)).2.2.2 hcard).trans hfind

/-- An import leaves the users and every participant that no element of the batch is about as they were.
Without overwriting it asks for no deletion, and every record that was there before is there afterwards
as it was. -/
theorem import_footprint (s : Store) (howned : s.Owned) (batch : ParsedBatch) (defaultOwner : User)
    (overwriteExisting : Bool) (correlationId : Json) :
    let request : ImportRequest :=
      { defaultOwner, overwriteExisting
        existingGroupKeys := Table.keys s.groups
        existingBusinessCardKeys := Table.keys s.businessCards }
    let start : Progress (Traced Store) := { registry := ⟨s, []⟩, log := .named correlationId }
    ∃ q : Progress (Traced Store),
      (⟨batch, request, Document.elementReader, start⟩ : ImportTask (Traced Store)).run =
        (.ok (), q) ∧
      q.registry.content.users = s.users ∧
      (∀ participantId,
        ¬batch.Names (fun id => (Table.find? id s.users).getD defaultOwner) participantId →
          q.registry.content.holding participantId = s.holding participantId) ∧
      (overwriteExisting = false →
        (∀ mutation ∈ q.registry.calls,
          mutation.operation ≠ .deleteGroup ∧ mutation.operation ≠ .deleteBusinessCard) ∧
        s.Within q.registry.content) := by
  intro request start
  have hsnapshot : request.Snapshot s := ⟨rfl, rfl⟩
  have hw := s.stage_wellFormed request batch
  have hfits := s.stage_fits hsnapshot batch
  obtain ⟨r, q, -, -, himport, hhalted, hproceeded⟩ := Traced.shows.import_ends request batch start
  refine ⟨q, himport, ?_⟩
  by_cases houtcome : PlanOutcome.decide (s.stage request batch).1
      ((start.log.records ++ (s.stage request batch).2).any ActionRecord.isError) = .proceed
  · obtain ⟨turns, hcarry, hd, -⟩ := hproceeded houtcome
    obtain ⟨hdialogue, hcalls⟩ := Traced.dialogue_iff.mp hd
    obtain ⟨hbare, hholding⟩ := hcarry.holdings hw hdialogue
    refine ⟨(Store.frame_of_bare hbare).1, fun participantId hnames => ?_, fun ho => ⟨?_, ?_⟩⟩
    · have hnone {α : Type} {staged : Option α} (h : ¬staged.isSome = true) : staged = none := by
        simpa using h
      have hidle := (hcarry.share hw participantId).idle (hfits participantId)
        (hnone fun h => hnames (Store.stage_names (.inl h)))
        (hnone fun h => hnames (Store.stage_names (.inr h)))
      exact (hidle ▸ hholding participantId).of_nil
    · obtain ⟨hgroups, hcards⟩ := Store.stage_keeps hsnapshot ho batch
      rw [hcalls]
      exact hcarry.deletes_nothing hgroups hcards
    · refine Store.within_of_holdings howned fun participantId hheld => ?_
      obtain ⟨hgroup, hcard⟩ := Store.stage_adds hsnapshot ho batch participantId
      rw [Store.hasGroup_eq] at hheld
      exact (hcarry.share hw participantId).added (hfits participantId) hgroup hcard
        (hholding participantId) hheld
  · have hsame : q.registry = ⟨s, []⟩ := (hhalted houtcome).1
    rw [hsame]
    exact ⟨rfl, fun _ _ => rfl, fun _ => ⟨nofun, fun _ _ => id, fun _ _ => id, fun _ _ => id,
      fun _ _ => id⟩⟩

/-- A group is added beside the one that is there, although the batch has another one for it. -/
theorem import_footprint_added :
    let s : Store :=
      { users := [⟨"u", "U"⟩], groups := [⟨"a", "u", some "old"⟩]
        endpoints := [⟨"a", "order", "billing", "as4", "old", none, none, none, none⟩] }
    let element (k : Text) : Json :=
      .object [("participant_id", .string k), ("owner_id", .string "u")]
    let start : Progress (Traced Store) := { registry := ⟨s, []⟩, log := .named .null }
    s.Owned ∧ ∃ q : Progress (Traced Store),
      (⟨⟨[element "a", element "b"], []⟩,
        { defaultOwner := ⟨"admin", "Admin"⟩, existingGroupKeys := ["a"] },
        Document.elementReader, start⟩ : ImportTask (Traced Store)).run = (.ok (), q) ∧
      s.Within q.registry.content ∧ q.registry.calls = [.createGroup ⟨"b", "u", none⟩ true] := by
  intro s element start
  have howned : s.Owned := ⟨by decide, by decide, by decide⟩
  obtain ⟨q, hrun, -, -, hadditive⟩ := import_footprint s howned ⟨[element "a", element "b"], []⟩
    ⟨"admin", "Admin"⟩ false .null
  refine ⟨howned, q, hrun, (hadditive rfl).2, ?_⟩
  have hq : q = _ := (Prod.mk.inj hrun).2.symm
  rw [hq]
  decide +kernel

end ParticipantRegistry
