import ParticipantRegistry.Proofs.Exchange.EndState

/-!
# Importing a batch again

What an import with overwriting stages depends on the users of the store and, for a card, on whether the
group is staged or stored. An import that was hindered changes neither: it keeps the group of every
participant for whom it stages none. So the same batch stages the same once more, and an import that
nothing hinders makes up for one that was stopped on the way.
-/

namespace ParticipantRegistry

open Document (GroupRecord RecordError)

namespace Store

def hindered (failing unchanging : List Trial) (s : Store) : Store := { s with failing, unchanging }

def replacing (defaultOwner : User) (s : Store) : ImportRequest where
  defaultOwner
  overwriteExisting := true
  existingGroupKeys := Table.keys s.groups
  existingBusinessCardKeys := Table.keys s.businessCards

def overwriting (batch : ParsedBatch) (defaultOwner : User) (correlationId : Json) (s : Store) :
    ImportTask Store where
  batch
  request := s.replacing defaultOwner
  reader := Document.elementReader
  start := { registry := s, log := .named correlationId }

/-- Nothing tells two stores apart but the order of their records. -/
structure Alike (s t : Store) : Prop where
  bare : s.bare = t.bare
  holding : ∀ participantId, s.holding participantId = t.holding participantId

end Store

/-- Two requests with overwriting that know of the same groups, but for those of some records. -/
structure ImportRequest.Renews (request request' : ImportRequest) (records : List GroupRecord) :
    Prop where
  overwrites : request.overwriteExisting = true
  overwrites' : request'.overwriteExisting = true
  hasGroup : ∀ k ∉ Table.keys records, request'.hasGroup k = request.hasGroup k

namespace ImportRequest

theorem admits_of_overwrite {request : ImportRequest} (h : request.overwriteExisting = true) :
    request.admits = fun _ => true := by
  funext record
  rw [admits, h, Bool.or_true]

theorem admitsCard_of_overwrite {request : ImportRequest} (h : request.overwriteExisting = true) :
    request.admitsCard = fun _ => true := by
  funext card
  rw [admitsCard, h, Bool.or_true]

variable {request request' : ImportRequest} {records : List GroupRecord}

theorem hasGroup_withRecords_of_overwrite (h : request.overwriteExisting = true)
    (directoryIntegration : Bool) (k : Text) :
    (request.withRecords records { directoryIntegration }).hasGroup k = true ↔
      k ∈ Table.keys records := by
  rw [hasGroup_withRecords, admittedKeys, admits_of_overwrite h, List.filter_true]
  exact or_iff_left Bool.false_ne_true

theorem Renews.knowsGroup_eq (h : request.Renews request' records) (directoryIntegration : Bool) :
    request'.knowsGroup (request'.withRecords records { directoryIntegration }) =
      request.knowsGroup (request.withRecords records { directoryIntegration }) := by
  funext card
  rw [Bool.eq_iff_iff, knowsGroup, knowsGroup, Bool.or_eq_true, Bool.or_eq_true,
    hasGroup_withRecords_of_overwrite h.overwrites,
    hasGroup_withRecords_of_overwrite h.overwrites']
  by_cases hk : card.participantId ∈ Table.keys records
  · simp [hk]
  · rw [h.hasGroup _ hk]

theorem Renews.businessCards_eq (h : request.Renews request' records) (directoryIntegration : Bool)
    (cards : List BusinessCard) :
    (request'.withCards cards
      (request'.withRecords records { directoryIntegration })).businessCards =
    (request.withCards cards
      (request.withRecords records { directoryIntegration })).businessCards := by
  simp only [withCards, h.knowsGroup_eq, admitsCard_of_overwrite h.overwrites,
    admitsCard_of_overwrite h.overwrites']
  rfl

theorem Renews.record_eq (h : request.Renews request' records) (directoryIntegration : Bool)
    (participantId : Text) :
    (Table.find? participantId
      (request'.withRecords records { directoryIntegration }).groups).map (·.record) =
    (Table.find? participantId
      (request.withRecords records { directoryIntegration }).groups).map (·.record) := by
  rw [find?_withRecords, find?_withRecords, admits_of_overwrite h.overwrites,
    admits_of_overwrite h.overwrites', Option.map_map, Option.map_map]
  rfl

end ImportRequest

theorem StagedBatch.isEmpty_iff_share (staged : StagedBatch) :
    staged.isEmpty = true ↔ ∀ participantId,
      (staged.share participantId).group = none ∧ (staged.share participantId).card = none := by
  rw [StagedBatch.isEmpty, Bool.and_eq_true, List.isEmpty_iff, List.isEmpty_iff, Table.eq_nil_iff,
    Table.eq_nil_iff, ← forall_and]
  rfl

section Staging

variable {request request' : ImportRequest} {directoryIntegration : Bool}
  {readings : List (Reading GroupRecord)} {results : List (Except RecordError BusinessCard)}

theorem knowsGroup_stageAll (request : ImportRequest) (directoryIntegration : Bool)
    (readings : List (Reading GroupRecord)) (results : List (Except RecordError BusinessCard)) :
    request.knowsGroup (stageAll request directoryIntegration readings results).1 =
      request.knowsGroup
        (request.withRecords (successes (readings.map (·.1))) { directoryIntegration }) := by
  rw [stageAll_batch]
  split <;> rfl

theorem ImportRequest.Renews.share_eq
    (h : request.Renews request' (successes (readings.map (·.1)))) (directoryIntegration : Bool)
    (results : List (Except RecordError BusinessCard)) (participantId : Text) :
    let share := (stageAll request directoryIntegration readings results).1.share participantId
    let share' := (stageAll request' directoryIntegration readings results).1.share participantId
    share'.group.map (·.record) = share.group.map (·.record) ∧ share'.card = share.card := by
  have hrecord := h.record_eq directoryIntegration participantId
  rw [stageAll_batch, stageAll_batch]
  cases directoryIntegration with
  | false => exact ⟨hrecord, rfl⟩
  | true =>
    exact ⟨hrecord, congrArg (Table.find? participantId) (h.businessCards_eq true (successes results))⟩

theorem ImportRequest.Renews.isEmpty_iff
    (h : request.Renews request' (successes (readings.map (·.1)))) :
    (stageAll request' directoryIntegration readings results).1.isEmpty = true ↔
      (stageAll request directoryIntegration readings results).1.isEmpty = true := by
  rw [StagedBatch.isEmpty_iff_share, StagedBatch.isEmpty_iff_share]
  refine forall_congr' fun participantId => ?_
  obtain ⟨hrecord, hcard⟩ := h.share_eq directoryIntegration results participantId
  rw [← Option.map_eq_none_iff, hrecord, Option.map_eq_none_iff, hcard]

theorem ImportRequest.Renews.hasError_iff
    (h : request.Renews request' (successes (readings.map (·.1)))) :
    (stageAll request' directoryIntegration readings results).2.any ActionRecord.isError = false ↔
      (stageAll request directoryIntegration readings results).2.any ActionRecord.isError =
        false := by
  rw [stageAll_hasError, stageAll_hasError, knowsGroup_stageAll, knowsGroup_stageAll,
    h.knowsGroup_eq]
  simp only [ImportRequest.admittedKeys, ImportRequest.admittedCardKeys,
    ImportRequest.admits_of_overwrite h.overwrites, ImportRequest.admits_of_overwrite h.overwrites',
    ImportRequest.admitsCard_of_overwrite h.overwrites,
    ImportRequest.admitsCard_of_overwrite h.overwrites']

end Staging

namespace Store

variable {s t : Store} {batch : ParsedBatch} {defaultOwner : User}

theorem replacing_snapshot (defaultOwner : User) (s : Store) :
    (s.replacing defaultOwner).Snapshot s :=
  ⟨rfl, rfl⟩

def replacement (batch : ParsedBatch) (defaultOwner : User) (s : Store) (participantId : Text) :
    Share :=
  (s.stage (s.replacing defaultOwner) batch).1.share participantId

def Proceeds (batch : ParsedBatch) (defaultOwner : User) (s : Store) : Prop :=
  (s.stage (s.replacing defaultOwner) batch).1.isEmpty = false ∧
    (s.stage (s.replacing defaultOwner) batch).2.any ActionRecord.isError = false

theorem Owned.hindered (howned : s.Owned) (failing unchanging : List Trial) :
    (s.hindered failing unchanging).Owned :=
  ⟨howned.endpoints, howned.redirects, howned.businessCards⟩

/-- However an import that overwrites is hindered, it leaves every intention as it was and the group of
every participant for whom it stages none. It meets the intentions if nothing is told to go wrong. -/
theorem overwriting_ends (howned : s.Owned) (batch : ParsedBatch) (defaultOwner : User)
    (failing unchanging : List Trial) (correlationId : Json) :
    ∃ q : Progress Store,
      ((s.hindered failing unchanging).overwriting batch defaultOwner correlationId).run =
        (.ok (), q) ∧
      q.registry.bare = (s.hindered failing unchanging).bare ∧ q.registry.Owned ∧
      (¬s.Proceeds batch defaultOwner → q.registry = s.hindered failing unchanging) ∧
      (s.Proceeds batch defaultOwner → ∀ participantId,
        let share := s.replacement batch defaultOwner participantId
        (share.group = none →
          (q.registry.holding participantId).group = (s.holding participantId).group) ∧
        share.intent (q.registry.holding participantId) = share.intent (s.holding participantId) ∧
        (failing = [] → unchanging = [] →
          q.registry.holding participantId = share.intent (s.holding participantId))) := by
  have hw := s.stage_wellFormed (s.replacing defaultOwner) batch
  have hfits := s.stage_fits (s.replacing_snapshot defaultOwner) batch
  have hhindered := howned.hindered failing unchanging
  obtain ⟨r, q, -, -, himport, hhalted, hproceeded⟩ := Store.shows.import_ends
    (s.replacing defaultOwner) batch
    { registry := s.hindered failing unchanging, log := .named correlationId }
  refine ⟨q, himport, ?_⟩
  have houtcome := PlanOutcome.decide_eq_proceed_iff (s.stage (s.replacing defaultOwner) batch).1
    ((s.stage (s.replacing defaultOwner) batch).2.any ActionRecord.isError)
  by_cases hproceeds : s.Proceeds batch defaultOwner
  · obtain ⟨turns, hcarry, hd, -⟩ := hproceeded (houtcome.mpr hproceeds)
    obtain ⟨hbare, hholding⟩ := hcarry.holdings hw hd
    refine ⟨hbare, owned_of_holding fun k => (hholding k).owned (hhindered.holding k),
      fun h => absurd hproceeds h, fun _ participantId => ?_⟩
    have hshare := hcarry.share hw participantId
    refine ⟨fun hgroup => hshare.group_kept (hfits participantId) hgroup (hholding participantId),
      hshare.intent_eq (hfits participantId) (hholding participantId), ?_⟩
    rintro rfl rfl
    have hclear (k : Text) : ((s.hindered [] []).hindrance k).Clear := fun _ => ⟨rfl, rfl⟩
    exact hcarry.settled hw hhindered hfits hd
      (hcarry.changes hw hhindered hfits hd fun k _ => hclear k) participantId
  · have hsame : q.registry = s.hindered failing unchanging :=
      (hhalted fun h => hproceeds (houtcome.mp h)).1
    rw [hsame]
    exact ⟨rfl, hhindered, fun _ => rfl, fun h => absurd h hproceeds⟩

/-- Over a store with the same users in which every participant without a staged group has the same
group as before, the same is staged again. -/
theorem replacement_again (husers : t.users = s.users)
    (hdirectory : t.directoryIntegration = s.directoryIntegration)
    (hkept : ∀ participantId, (s.replacement batch defaultOwner participantId).group = none →
      (t.holding participantId).group = (s.holding participantId).group) :
    (t.Proceeds batch defaultOwner ↔ s.Proceeds batch defaultOwner) ∧
      ∀ (participantId : Text) (h : Holding),
        (t.replacement batch defaultOwner participantId).intent h =
          (s.replacement batch defaultOwner participantId).intent h := by
  let readings := batch.serviceGroups.map fun e =>
    s.reading defaultOwner (Document.elementReader.serviceGroup e).2
  let results := batch.businessCards.map fun e => (Document.elementReader.businessCard e).2
  have hstage : t.stage (t.replacing defaultOwner) batch =
      stageAll (t.replacing defaultOwner) s.directoryIntegration readings results := by
    rw [stage, hdirectory]
    simp only [reading, husers]
    rfl
  have hrenews : (s.replacing defaultOwner).Renews (t.replacing defaultOwner)
      (successes (readings.map (·.1))) := by
    refine ⟨rfl, rfl, fun k hk => ?_⟩
    have hnone : (s.replacement batch defaultOwner k).group = none := by
      rw [replacement, stage, stageAll_share_group, ImportRequest.admits_of_overwrite rfl,
        List.filter_true, Option.map_eq_none_iff, Table.last?_eq_none_iff]
      exact hk
    rw [(t.replacing_snapshot defaultOwner).hasGroup_eq,
      (s.replacing_snapshot defaultOwner).hasGroup_eq, hkept k hnone]
  constructor
  · rw [Proceeds, Proceeds, hstage, ← Bool.not_eq_true, ← Bool.not_eq_true (s.stage _ _).1.isEmpty]
    exact and_congr (not_congr hrenews.isEmpty_iff) hrenews.hasError_iff
  · intro participantId h
    obtain ⟨hrecord, hcard⟩ := hrenews.share_eq s.directoryIntegration results participantId
    rw [replacement, hstage]
    exact Share.intent_congr hrecord hcard h

end Store

/-- An import with overwriting that was stopped by failures is made up for by the next one: importing a
batch again, with the keys that are there then and nothing told to go wrong, leaves the same content as
one import without failures. If nothing went wrong the first time, the second import changes nothing. -/
theorem import_recovers (s : Store) (howned : s.Owned) (batch : ParsedBatch) (defaultOwner : User)
    (failing unchanging : List Trial) (first second third : Json) :
    ∃ q₁ q₂ q : Progress Store,
      ((s.hindered failing unchanging).overwriting batch defaultOwner first).run = (.ok (), q₁) ∧
      ((q₁.registry.hindered [] []).overwriting batch defaultOwner second).run = (.ok (), q₂) ∧
      ((s.hindered [] []).overwriting batch defaultOwner third).run = (.ok (), q) ∧
      q₂.registry.Alike q.registry ∧
      (failing = [] → unchanging = [] → q₂.registry.Alike q₁.registry) := by
  obtain ⟨q₁, hrun₁, hbare₁, howned₁, hhalted₁, hproceeds₁⟩ :=
    Store.overwriting_ends howned batch defaultOwner failing unchanging first
  obtain ⟨q₂, hrun₂, hbare₂, -, hhalted₂, hproceeds₂⟩ :=
    Store.overwriting_ends howned₁ batch defaultOwner [] [] second
  obtain ⟨q, hrun, hbare, -, hhalted, hproceeds⟩ :=
    Store.overwriting_ends howned batch defaultOwner [] [] third
  refine ⟨q₁, q₂, q, hrun₁, hrun₂, hrun, ?_⟩
  have hsame : (q₁.registry.hindered [] []).bare = (s.hindered [] []).bare :=
    congrArg (Store.hindered [] []) hbare₁
  by_cases hstaged : s.Proceeds batch defaultOwner
  · have hfirst := hproceeds₁ hstaged
    obtain ⟨husers, hdirectory⟩ := Store.frame_of_bare hbare₁
    obtain ⟨hagain, hintent⟩ :=
      Store.replacement_again husers hdirectory fun k hk => (hfirst k).1 hk
    have hsecond (k : Text) := (hproceeds₂ (hagain.mpr hstaged) k).2.2 rfl rfl
    have hthird (k : Text) := (hproceeds hstaged k).2.2 rfl rfl
    have hmet (k : Text) : q₂.registry.holding k = q.registry.holding k :=
      ((hsecond k).trans (hintent k _)).trans ((hfirst k).2.1.trans (hthird k).symm)
    refine ⟨⟨hbare₂.trans (hsame.trans hbare.symm), hmet⟩, ?_⟩
    rintro rfl rfl
    refine ⟨hbare₂.trans (hsame.trans hbare₁.symm), fun k => ?_⟩
    exact (hmet k).trans ((hthird k).trans ((hfirst k).2.2 rfl rfl).symm)
  · have hfirst : q₁.registry = s.hindered failing unchanging := hhalted₁ hstaged
    rw [hfirst] at hhalted₂
    rw [hhalted₂ hstaged, hhalted hstaged, hfirst]
    refine ⟨⟨rfl, fun _ => rfl⟩, ?_⟩
    rintro rfl rfl
    exact ⟨rfl, fun _ => rfl⟩

/-- A group that was deleted and could not be created again is there after the second import. -/
theorem import_recovers_uncreated :
    let s : Store := { users := [⟨"u", "U"⟩], groups := [⟨"a", "u", none⟩] }
    let batch : ParsedBatch :=
      ⟨[.object [("participant_id", .string "a"), ("owner_id", .string "u")]], []⟩
    s.Owned ∧ ∃ q₁ q₂ q : Progress Store,
      ((s.hindered [⟨.createGroup, "a"⟩] []).overwriting batch ⟨"admin", "Admin"⟩ .null).run =
        (.ok (), q₁) ∧
      q₁.registry.groups = [] ∧
      ((q₁.registry.hindered [] []).overwriting batch ⟨"admin", "Admin"⟩ .null).run =
        (.ok (), q₂) ∧
      ((s.hindered [] []).overwriting batch ⟨"admin", "Admin"⟩ .null).run = (.ok (), q) ∧
      q₂.registry.Alike q.registry := by
  intro s batch
  have howned : s.Owned := ⟨by simp [s], by simp [s], by simp [s]⟩
  obtain ⟨q₁, q₂, q, hrun₁, hrun₂, hrun, halike, -⟩ := import_recovers s howned batch
    ⟨"admin", "Admin"⟩ [⟨.createGroup, "a"⟩] [] .null .null .null
  refine ⟨howned, q₁, q₂, q, hrun₁, ?_, hrun₂, hrun, halike⟩
  have hq₁ : q₁ = _ := (Prod.mk.inj hrun₁).2.symm
  rw [hq₁]
  decide +kernel

end ParticipantRegistry
