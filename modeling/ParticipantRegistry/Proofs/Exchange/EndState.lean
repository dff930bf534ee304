import ParticipantRegistry.Proofs.Exchange.StoreImport

/-!
# What is held after an import

The log of an import tells the truth: if it has no error, every participant with a staged group holds
that group with its children and the staged card, if there is one, and every other participant holds
what was held before, but for a staged card. If reading the batch gives no error and nothing is told to
go wrong for those for whom something is staged, the log has none.
-/

namespace ParticipantRegistry

open Document (GroupRecord RecordError)

/-- Every endpoint, redirect and business card belongs to a stored group. -/
structure Store.Owned (s : Store) : Prop where
  endpoints : ∀ e ∈ s.endpoints, s.hasGroup e.participantId = true
  redirects : ∀ r ∈ s.redirects, s.hasGroup r.participantId = true
  businessCards : ∀ card ∈ s.businessCards, s.hasGroup card.participantId = true

theorem Store.Owned.holding {s : Store} (h : s.Owned) (participantId : Text) :
    (s.holding participantId).Owned := by
  intro hnone
  have hforeign {k : Text} (hk : s.hasGroup k = true) : k ≠ participantId := by
    rintro rfl
    rw [Store.hasGroup_eq, hnone] at hk
    cases hk
  have hendpoints : s.endpoints.filter (·.participantId = participantId) = [] := by
    rw [List.filter_eq_nil_iff]
    intro e he hk
    exact hforeign (h.endpoints e he) (of_decide_eq_true hk)
  have hredirects : s.redirects.filter (·.participantId = participantId) = [] := by
    rw [List.filter_eq_nil_iff]
    intro r hr hk
    exact hforeign (h.redirects r hr) (of_decide_eq_true hk)
  have hcard : Table.find? participantId s.businessCards = none := by
    rw [Table.find?_eq_none_iff]
    intro hk
    obtain ⟨card, hcard, hk⟩ := List.mem_map.mp hk
    exact hforeign (h.businessCards card hcard) hk
  rw [Store.holding] at hnone ⊢
  simp only at hnone
  rw [hnone, hendpoints, hredirects, hcard]

theorem Store.owned_of_holding {s : Store} (h : ∀ participantId, (s.holding participantId).Owned) :
    s.Owned := by
  have hempty {participantId : Text} (hno : ¬s.hasGroup participantId = true) :
      s.holding participantId = {} := by
    rw [Store.hasGroup_eq, Bool.not_eq_true, Option.isSome_eq_false_iff,
      Option.isNone_iff_eq_none] at hno
    exact h participantId hno
  refine ⟨fun e he => ?_, fun r hr => ?_, fun card hcard => ?_⟩
  · by_contra hno
    have hnil := List.filter_eq_nil_iff.mp (congrArg Holding.endpoints (hempty hno))
    exact hnil e he (decide_eq_true rfl)
  · by_contra hno
    have hnil := List.filter_eq_nil_iff.mp (congrArg Holding.redirects (hempty hno))
    exact hnil r hr (decide_eq_true rfl)
  · by_contra hno
    have hnone : Table.find? card.participantId s.businessCards = none :=
      congrArg Holding.card (hempty hno)
    exact (Table.find?_eq_none_iff _ _).mp hnone (List.mem_map_of_mem hcard)

/-- What a participant shall hold after records and cards were imported. Of several records with one
key the last one counts. -/
def ImportRequest.intended (request : ImportRequest) (records : List GroupRecord)
    (cards : List BusinessCard) (participantId : Text) (h : Holding) : Holding :=
  let card := Table.last? participantId (cards.filter request.admitsCard)
  match Table.last? participantId (records.filter request.admits) with
  | some record =>
    { group := some record.group
      endpoints := Table.putAll record.endpoints []
      redirects := Table.putAll record.redirects []
      card }
  | none => { h with card := card.or h.card }

theorem Turn.record_isError (t : Turn) : t.record.isError = !t.isChange := by
  rw [ActionRecord.isError, t.record_severity]
  cases t.isChange <;> rfl

theorem Turn.cardRecord_isError (deletedGroups : List Text) (t : Turn) :
    (t.cardRecord deletedGroups).isError = !(t.isChange || t.isMoot deletedGroups) := by
  rw [ActionRecord.isError, t.cardRecord_severity]
  cases t.isChange || t.isMoot deletedGroups <;> rfl

theorem CommitTurns.records_hasError (turns : CommitTurns) (staged : StagedBatch) :
    (turns.records staged).any ActionRecord.isError = false ↔
      (∀ t ∈ turns.deletions ++ turns.creations ++ turns.children ++ turns.cards,
        t.isChange = true) ∧
      ∀ t ∈ turns.cardDeletions, (t.isChange || t.isMoot turns.deletedGroups) = true := by
  have hmap (line : Turn → ActionRecord) (fine : Turn → Bool)
      (h : ∀ t, (line t).isError = !fine t) (ts : List Turn) :
      (ts.map line).any ActionRecord.isError = false ↔ ∀ t ∈ ts, fine t = true := by
    simp [List.any_eq_false, h]
  have hretracted (cards : List BusinessCard) :
      (cards.map BusinessCard.retraction).any ActionRecord.isError = false := by
    rw [List.any_map, List.any_eq_false]
    intro card _
    exact Bool.false_ne_true
  rw [CommitTurns.records, List.any_append, List.any_append, List.any_append, hretracted,
    Bool.or_false, Bool.or_eq_false_iff, Bool.or_eq_false_iff, hmap _ _ Turn.record_isError,
    hmap _ _ Turn.record_isError, hmap _ _ (Turn.cardRecord_isError turns.deletedGroups),
    and_right_comm]
  simp only [List.forall_mem_append]

theorem CommitTurns.CarryOut.settled {turns : CommitTurns} {staged : StagedBatch} {s s' : Store}
    (hcarry : turns.CarryOut staged) (hw : staged.WellFormed) (howned : s.Owned)
    (hfits : ∀ participantId, (staged.share participantId).Fits (s.holding participantId))
    (hd : Dialogue s turns.all s')
    (hrecords : (turns.records staged).any ActionRecord.isError = false) (participantId : Text) :
    s'.holding participantId = (staged.share participantId).intent (s.holding participantId) := by
  obtain ⟨hchanges, hcards⟩ := (turns.records_hasError staged).mp hrecords
  apply (hcarry.share hw participantId).settled (hfits participantId) (howned.holding participantId)
    ((hcarry.holdings hw hd).2 participantId)
  · simp only [List.forall_mem_append] at hchanges ⊢
    obtain ⟨⟨⟨hdel, hcre⟩, hchi⟩, hcar⟩ := hchanges
    exact ⟨⟨⟨fun t ht => hdel t (List.mem_of_mem_filter ht),
      fun t ht => hcre t (List.mem_of_mem_filter ht)⟩,
      fun t ht => hchi t (List.mem_of_mem_filter ht)⟩,
      fun t ht => hcar t (List.mem_of_mem_filter ht)⟩
  · intro t ht
    obtain ⟨ht, hk⟩ := List.mem_filter.mp ht
    rw [← of_decide_eq_true hk, turns.isMoot_about]
    exact hcards t ht

theorem CommitTurns.CarryOut.changes {turns : CommitTurns} {staged : StagedBatch} {s s' : Store}
    (hcarry : turns.CarryOut staged) (hw : staged.WellFormed) (howned : s.Owned)
    (hfits : ∀ participantId, (staged.share participantId).Fits (s.holding participantId))
    (hd : Dialogue s turns.all s')
    (hclear : ∀ participantId,
      (staged.hasGroup participantId || staged.hasBusinessCard participantId) = true →
        (s.hindrance participantId).Clear) :
    (turns.records staged).any ActionRecord.isError = false := by
  rw [turns.records_hasError]
  have habout (t : Turn) (ht : t ∈ turns.all) : t ∈ (turns.about t.participantId).all := by
    rw [CommitTurns.all_about]
    exact List.mem_filter.mpr ⟨ht, by simp⟩
  have hclear (t : Turn) (ht : t ∈ turns.all) : (s.hindrance t.participantId).Clear := by
    apply hclear
    by_contra hnone
    rw [Bool.not_eq_true, Bool.or_eq_false_iff, StagedBatch.hasGroup, StagedBatch.hasBusinessCard,
      Table.hasKey_eq_isSome, Table.hasKey_eq_isSome, Option.isSome_eq_false_iff,
      Option.isSome_eq_false_iff, Option.isNone_iff_eq_none, Option.isNone_iff_eq_none] at hnone
    have hidle := (hcarry.share hw t.participantId).idle (hfits t.participantId) hnone.1 hnone.2
    exact absurd (hidle ▸ habout t ht) List.not_mem_nil
  have hchanges (t : Turn) (ht : t ∈ turns.all) := (hcarry.share hw t.participantId).changes
    (hfits t.participantId) (howned.holding t.participantId)
    ((hcarry.holdings hw hd).2 t.participantId) (hclear t ht)
  have hself (ts : List Turn) (t : Turn) (ht : t ∈ ts) :
      t ∈ ts.filter (·.participantId = t.participantId) := List.mem_filter.mpr ⟨ht, by simp⟩
  constructor
  · intro t ht
    apply (hchanges t (by simp only [CommitTurns.all, List.mem_append] at ht ⊢; tauto)).1
    have hm := hself _ t ht
    simp only [List.filter_append] at hm
    exact hm
  · intro t ht
    have hm := (hchanges t (by simp [CommitTurns.all, ht])).2 t (hself _ t ht)
    rwa [turns.isMoot_about] at hm

theorem map_eq_successes {ε α ι : Type} {f : ι → Except ε α} {items : List ι}
    (h : ∀ i ∈ items, ∃ a, f i = .ok a) : items.map f = (successes (items.map f)).map .ok := by
  induction items with
  | nil => rfl
  | cons i items ih =>
    obtain ⟨⟨a, ha⟩, hrest⟩ := List.forall_mem_cons.mp h
    rw [List.map_cons, successes_cons, List.map_append, ← ih hrest, ha]
    rfl

theorem ImportRequest.find?_withRecords (request : ImportRequest) (records : List GroupRecord)
    (directoryIntegration : Bool) (participantId : Text) :
    Table.find? participantId (request.withRecords records { directoryIntegration }).groups =
      (Table.last? participantId (records.filter request.admits)).map request.stagedGroup := by
  rw [ImportRequest.withRecords, Table.find?_putAll, Table.find?_nil, Option.or_none]
  exact Table.last?_map request.stagedGroup (fun _ => rfl) participantId _

theorem stageAll_share_group (request : ImportRequest) (directoryIntegration : Bool)
    (readings : List (Reading GroupRecord)) (results : List (Except RecordError BusinessCard))
    (participantId : Text) :
    ((stageAll request directoryIntegration readings results).1.share participantId).group =
      (Table.last? participantId ((successes (readings.map (·.1))).filter request.admits)).map
        request.stagedGroup := by
  rw [stageAll_batch, ← request.find?_withRecords _ directoryIntegration]
  split <;> rfl

theorem ImportRequest.find?_withCards (request : ImportRequest) {cards : List BusinessCard}
    {batch : StagedBatch} (hcards : batch.businessCards = [])
    (hknown : ∀ card ∈ cards, request.knowsGroup batch card = true) (participantId : Text) :
    Table.find? participantId (request.withCards cards batch).businessCards =
      Table.last? participantId (cards.filter request.admitsCard) := by
  have hadmitted : (cards.filter fun card =>
      request.knowsGroup batch card && request.admitsCard card) =
        cards.filter request.admitsCard := by
    apply List.filter_congr
    intro card hcard
    rw [hknown card hcard, Bool.true_and]
  rw [ImportRequest.withCards, Table.find?_putAllLast, hcards, Table.find?_nil, Option.or_none,
    hadmitted]

theorem stageAll_intent {request : ImportRequest} {directoryIntegration : Bool}
    {readings : List (Reading GroupRecord)} {results : List (Except RecordError BusinessCard)}
    (hread : (stageAll request directoryIntegration readings results).2.any ActionRecord.isError =
      false) (participantId : Text) (h : Holding) :
    ((stageAll request directoryIntegration readings results).1.share participantId).intent h =
      request.intended (successes (readings.map (·.1)))
        (if directoryIntegration then successes results else []) participantId h := by
  obtain ⟨-, -, hcards⟩ := (stageAll_hasError _ _ _ _).mp hread
  have hgroup := request.find?_withRecords (successes (readings.map (·.1))) directoryIntegration
    participantId
  have hbatch := stageAll_batch request directoryIntegration readings results
  rw [hbatch] at hcards ⊢
  cases directoryIntegration with
  | false =>
    simp only [Bool.false_eq_true, if_false, StagedBatch.share, Share.intent, hgroup,
      ImportRequest.intended]
    cases Table.last? participantId ((successes (readings.map (·.1))).filter request.admits) <;> rfl
  | true =>
    have hknown (card : BusinessCard) (hc : card ∈ successes results) : request.knowsGroup
        (request.withRecords (successes (readings.map (·.1))) { directoryIntegration := true })
        card = true := by
      obtain ⟨card', hok, hknown⟩ := (hcards rfl).1 _ (mem_successes.mp hc)
      cases hok
      exact hknown
    have hcard := request.find?_withCards rfl hknown participantId
    have hgroup' : Table.find? participantId (request.withCards (successes results)
        (request.withRecords (successes (readings.map (·.1))) { directoryIntegration := true })).groups
          = _ := hgroup
    simp only [if_true, StagedBatch.share, Share.intent, hgroup', hcard, ImportRequest.intended]
    cases Table.last? participantId ((successes (readings.map (·.1))).filter request.admits) <;> rfl

/-- If reading a batch gives no error, every element that counts has a record or a card, and what the
shares intend is what they intend. -/
theorem Store.stage_intent {request : ImportRequest} {batch : ParsedBatch} {s : Store}
    (hread : (s.stage request batch).2.any ActionRecord.isError = false) :
    ∃ (records : List GroupRecord) (cards : List BusinessCard),
      batch.serviceGroups.map (fun e => ((Document.readServiceGroup e).2.run
        fun id => (Table.find? id s.users).getD request.defaultOwner).2) = records.map .ok ∧
      (if s.directoryIntegration then batch.businessCards else []).map
        (fun e => (Document.readBusinessCard e).2) = cards.map .ok ∧
      ∀ (participantId : Text) (h : Holding),
        ((s.stage request batch).1.share participantId).intent h =
          request.intended records cards participantId h := by
  obtain ⟨hrecords, -, hcards⟩ := (stageAll_hasError _ _ _ _).mp hread
  refine ⟨_, _, ?_, ?_, stageAll_intent hread⟩
  · rw [List.map_map]
    exact map_eq_successes fun e he => hrecords _ (List.mem_map_of_mem he)
  · split
    · next hd =>
      refine map_eq_successes fun e he => ?_
      obtain ⟨card, hcard, -⟩ := (hcards hd).1 _ (List.mem_map_of_mem he)
      exact ⟨card, hcard⟩
    · rfl

theorem StagedBatch.intent_of_isEmpty {staged : StagedBatch} (h : staged.isEmpty = true)
    (participantId : Text) (holding : Holding) :
    (staged.share participantId).intent holding = holding := by
  rw [StagedBatch.isEmpty, Bool.and_eq_true, List.isEmpty_iff, List.isEmpty_iff] at h
  rw [StagedBatch.share, h.1, h.2]
  rfl

/-- An import of documents with the keys of the store comes to its end. If its log has no error, every
element that counts has a record or a card, and every participant holds what they intend, while nothing
else in the store has changed. Conversely, if nothing is told to go wrong for those for whom something
is staged, the log has an error exactly if it had one once it was decided, and an import that proceeds
had none. -/
theorem import_end_state (s : Store) (howned : s.Owned) (batch : ParsedBatch) (defaultOwner : User)
    (overwriteExisting : Bool) (correlationId : Json) :
    let request : ImportRequest :=
      { defaultOwner, overwriteExisting
        existingGroupKeys := Table.keys s.groups
        existingBusinessCardKeys := Table.keys s.businessCards }
    let start : Progress Store := { registry := s, log := .named correlationId }
    ∃ (staged : StagedBatch) (outcome : PlanOutcome) (r q : Progress Store),
      Run.prepare Document.elementReader request batch start = (.ok (staged, outcome), r) ∧
      (⟨batch, request, Document.elementReader, start⟩ : ImportTask Store).run = (.ok (), q) ∧
      (q.log.hasError = false →
        ∃ (records : List GroupRecord) (cards : List BusinessCard),
          batch.serviceGroups.map (fun e => ((Document.readServiceGroup e).2.run
            fun id => (Table.find? id s.users).getD defaultOwner).2) = records.map .ok ∧
          (if s.directoryIntegration then batch.businessCards else []).map
            (fun e => (Document.readBusinessCard e).2) = cards.map .ok ∧
          q.registry.bare = s.bare ∧
          ∀ participantId, q.registry.holding participantId =
            request.intended records cards participantId (s.holding participantId)) ∧
      (outcome = .proceed → r.log.hasError = false) ∧
      ((∀ participantId,
          (staged.hasGroup participantId || staged.hasBusinessCard participantId) = true →
            (s.hindrance participantId).Clear) →
        q.log.hasError = r.log.hasError) := by
  intro request start
  have hsnapshot : request.Snapshot s := ⟨rfl, rfl⟩
  have hw := s.stage_wellFormed request batch
  have hfits := s.stage_fits hsnapshot batch
  obtain ⟨r, q, hprepare, hlog, himport, hhalted, hproceeded⟩ :=
    Store.shows.import_ends request batch start
  have hread (hr : r.log.hasError = false) :
      (s.stage request batch).2.any ActionRecord.isError = false := by
    rw [ActionLog.hasError, hlog, List.any_append, Bool.or_eq_false_iff] at hr
    exact hr.1
  refine ⟨_, _, r, q, hprepare, himport, ?_, ?_, ?_⟩
  · intro hq
    by_cases houtcome : PlanOutcome.decide (s.stage request batch).1
        ((start.log.records ++ (s.stage request batch).2).any ActionRecord.isError) = .proceed
    · obtain ⟨turns, hcarry, hd, hrecords⟩ := hproceeded houtcome
      rw [ActionLog.hasError, hrecords, List.any_append, Bool.or_eq_false_iff] at hq
      obtain ⟨records, cards, hrs, hcs, hintent⟩ := Store.stage_intent (hread hq.1)
      refine ⟨records, cards, hrs, hcs, (hcarry.holdings hw hd).1, fun participantId => ?_⟩
      exact (hcarry.settled hw howned hfits hd hq.2 participantId).trans (hintent participantId _)
    · obtain ⟨hregistry, hsame⟩ := hhalted houtcome
      rw [hsame] at hq
      obtain ⟨records, cards, hrs, hcs, hintent⟩ := Store.stage_intent (hread hq)
      have hempty : (s.stage request batch).1.isEmpty = true := by
        by_contra hsome
        exact houtcome ((PlanOutcome.decide_eq_proceed_iff _ _).mpr
          ⟨by simpa using hsome, hread hq⟩)
      refine ⟨records, cards, hrs, hcs, by rw [hregistry], fun participantId => ?_⟩
      rw [hregistry, ← hintent, StagedBatch.intent_of_isEmpty hempty]
  · intro houtcome
    obtain ⟨-, hnone⟩ := (PlanOutcome.decide_eq_proceed_iff _ _).mp houtcome
    rw [ActionLog.hasError, hlog, houtcome, List.any_append, hnone]
    rfl
  · intro hclear
    by_cases houtcome : PlanOutcome.decide (s.stage request batch).1
        ((start.log.records ++ (s.stage request batch).2).any ActionRecord.isError) = .proceed
    · obtain ⟨turns, hcarry, hd, hrecords⟩ := hproceeded houtcome
      have hcommit := hcarry.changes hw howned hfits hd hclear
      rw [ActionLog.hasError, hrecords, List.any_append, ← ActionLog.hasError]
      exact (congrArg (r.log.hasError || ·) hcommit).trans (Bool.or_false _)
    · rw [(hhalted houtcome).2]

/-- A group with an endpoint, a redirect and a card is overwritten, and one is created beside it; a third
one stays as it is. -/
theorem import_end_state_overwritten :
    let endpoint (key url : Text) : Endpoint := ⟨key, "order", "billing", "as4", url, none, none, none, none⟩
    let card (name : Text) : BusinessCard := ⟨"a", [⟨name, "DE", .null, [], [], .null, none⟩]⟩
    let s : Store :=
      { users := [⟨"u", "U"⟩], groups := [⟨"a", "u", some "old"⟩, ⟨"c", "u", none⟩]
        endpoints := [endpoint "a" "old", endpoint "c" "kept"]
        redirects := [⟨"a", "order", "old", none, none, none⟩]
        businessCards := [card "Old"] }
    let element (key : Text) (members : Json.Members) : Json :=
      .object (("participant_id", .string key) :: members)
    let batch : ParsedBatch :=
      ⟨[element "a" [("owner_id", .string "u"), ("endpoints", .array [.object
          [("document_type", .string "order"), ("process", .string "billing"),
            ("transport_profile", .string "as4"), ("endpoint_url", .string "new")]])],
        element "b" [("owner_id", .string "v")]],
       [element "a" [("entities", .array [.object
          [("name", .string "New"), ("country_code", .string "de")]])]]⟩
    s.Owned ∧ ∃ q : Progress Store,
      (⟨batch, ⟨⟨"admin", "Admin"⟩, true, ["a", "c"], ["a"]⟩, Document.elementReader,
        { registry := s, log := .named .null }⟩ : ImportTask Store).run = (.ok (), q) ∧
      q.log.hasError = false ∧
      q.registry.holding "a" =
        { group := some ⟨"a", "u", none⟩, endpoints := [endpoint "a" "new"], card := some (card "New") } ∧
      q.registry.holding "b" = { group := some ⟨"b", "admin", none⟩ } ∧
      q.registry.holding "c" =
        { group := some ⟨"c", "u", none⟩, endpoints := [endpoint "c" "kept"] } := by
  intro endpoint card s element batch
  have howned : s.Owned := ⟨by decide, by decide, by decide⟩
  refine ⟨howned, ?_⟩
  obtain ⟨staged, outcome, r, q, -, hrun, htruth, -⟩ :=
    import_end_state s howned batch ⟨"admin", "Admin"⟩ true .null
  have hq : q = _ := (Prod.mk.inj hrun).2.symm
  have herror : q.log.hasError = false := by
    rw [hq]
    decide +kernel
  obtain ⟨records, cards, hrecords, hcards, -, hholding⟩ := htruth herror
  have hread : records =
      [⟨⟨"a", "u", none⟩, [endpoint "a" "new"], []⟩, ⟨⟨"b", "admin", none⟩, [], []⟩] :=
    List.map_injective_iff.mpr (fun _ _ => Except.ok.inj) (hrecords.symm.trans (by rfl))
  have hcard : cards = [card "New"] :=
    List.map_injective_iff.mpr (fun _ _ => Except.ok.inj) (hcards.symm.trans (by rfl))
  refine ⟨q, hrun, herror, ?_⟩
  rw [hholding, hholding, hholding, hread, hcard]
  decide +kernel

end ParticipantRegistry
