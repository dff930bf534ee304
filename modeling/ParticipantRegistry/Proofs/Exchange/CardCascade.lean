import ParticipantRegistry.Proofs.Exchange.Footprint
import ParticipantRegistry.Proofs.Exchange.Isolation

/-!
# Cards while the directory is not integrated

Without directory integration an import asks for nothing to be done to a card. Yet a group that is to be
overwritten is deleted first, and a deleted group takes its card along, while no card is staged that
could be stored in its place. So of every participant the card is kept, unless the group was deleted.
-/

namespace ParticipantRegistry

namespace Mutation

def IsAboutCard (mutation : Mutation) : Prop :=
  mutation.operation = .deleteBusinessCard ∨ mutation.operation = .upsertBusinessCard

theorem effect_card {mutation : Mutation} (hno : ¬mutation.IsAboutCard) (h : Holding) :
    (mutation.effect h).card = if mutation.operation = .deleteGroup then none else h.card := by
  cases mutation with
  | deleteBusinessCard card => exact absurd (.inl rfl) hno
  | upsertBusinessCard card => exact absurd (.inr rfl) hno
  | _ => rfl

end Mutation

def Turn.deletesGroup (participantId : Text) (turn : Turn) : Bool :=
  turn.mutation.participantId = participantId &&
    (turn.isChange && turn.mutation.operation = .deleteGroup)

/-- What says nothing of cards leaves the card, unless it deletes the group. -/
theorem Holding.Dialogue.card_eq {hindrance : Hindrance} {h h' : Holding} {turns : List Turn}
    (hd : Holding.Dialogue hindrance h turns h') (hno : ∀ t ∈ turns, ¬t.mutation.IsAboutCard) :
    h'.card = if turns.any fun t => t.isChange && t.mutation.operation = .deleteGroup then none
      else h.card := by
  induction hd with
  | nil h => rfl
  | @cons h h' turn turns first rest ih =>
    obtain ⟨hturn, hturns⟩ := List.forall_mem_cons.mp hno
    have happlied : (turn.applied h).card =
        if turn.isChange && turn.mutation.operation = .deleteGroup then none else h.card := by
      rw [Turn.applied]
      cases turn.isChange with
      | false => rfl
      | true => simpa using Mutation.effect_card hturn h
    rw [ih hturns, happlied, List.any_cons]
    cases turns.any fun t => t.isChange && t.mutation.operation = .deleteGroup
    · rw [Bool.or_false]
      rfl
    · rw [Bool.or_true]
      rfl

theorem Store.card_eq {s s' : Store} {turns : List Turn} (hd : Dialogue s turns s')
    (hcheck : ∀ t ∈ turns, t.mutation.check = .ok ())
    (hno : ∀ t ∈ turns, ¬t.mutation.IsAboutCard) (participantId : Text) :
    (s'.holding participantId).card =
      if turns.any (Turn.deletesGroup participantId) then none
      else (s.holding participantId).card := by
  have hholding := (Store.dialogue_holding hd hcheck).2 participantId
  rw [hholding.card_eq fun t ht => hno t (List.mem_of_mem_filter ht), List.any_filter]
  rfl

/-- A staged batch asks for a request in one of five phases. -/
inductive StagedBatch.AsksFor (staged : StagedBatch) : Request → Prop
  | groupDeletion {group : ServiceGroup} (h : group ∈ staged.groupDeletions) :
      AsksFor staged group.deletion
  | creation {g : StagedGroup} (h : g ∈ staged.groups) : AsksFor staged g.creation
  | child {g : StagedGroup} {r : Request} (h : g ∈ staged.groups) (hr : r ∈ g.children) :
      AsksFor staged r
  | cardDeletion {card : BusinessCard} (h : card ∈ staged.businessCardDeletions) :
      AsksFor staged card.deletion
  | card {card : BusinessCard} (h : card ∈ staged.businessCards) : AsksFor staged card.upsert

theorem StagedBatch.asksFor_of_mem {staged : StagedBatch} {r : Request} (h : r ∈ staged.requests) :
    staged.AsksFor r := by
  simp only [StagedBatch.requests, List.mem_append, List.mem_map, List.mem_flatMap] at h
  rcases h with (((⟨group, hg, rfl⟩ | ⟨g, hg, rfl⟩) | ⟨g, hg, hr⟩) | ⟨card, hc, rfl⟩) | ⟨card, hc, rfl⟩
  · exact .groupDeletion hg
  · exact .creation hg
  · exact .child hg hr
  · exact .cardDeletion hc
  · exact .card hc

namespace StagedBatch.AsksFor

variable {staged : StagedBatch} {r : Request}

theorem not_isAboutCard (h : staged.AsksFor r) (hcards : staged.businessCards = [])
    (hdeletions : staged.businessCardDeletions = []) : ¬r.mutation.IsAboutCard := by
  cases h with
  | groupDeletion hg => rintro (h | h) <;> cases h
  | creation hg => rintro (h | h) <;> cases h
  | child hg hr =>
    rcases StagedGroup.mem_children hr with ⟨e, hm⟩ | ⟨redirect, hm⟩ <;> rw [hm] <;>
      rintro (h | h) <;> cases h
  | cardDeletion hc => rw [hdeletions] at hc; cases hc
  | card hc => rw [hcards] at hc; cases hc

theorem deletion (h : staged.AsksFor r) (hop : r.mutation.operation = .deleteGroup) :
    ∃ group ∈ staged.groupDeletions, r = group.deletion := by
  cases h with
  | groupDeletion hg => exact ⟨_, hg, rfl⟩
  | creation hg => cases hop
  | child hg hr =>
    rcases StagedGroup.mem_children hr with ⟨e, hm⟩ | ⟨redirect, hm⟩ <;> rw [hm] at hop <;> cases hop
  | cardDeletion hc => cases hop
  | card hc => cases hop

end StagedBatch.AsksFor

theorem Store.stage_no_cards {s : Store} (hoff : s.directoryIntegration = false)
    (request : ImportRequest) (batch : ParsedBatch) :
    (s.stage request batch).1.businessCards = [] ∧
      (s.stage request batch).1.businessCardDeletions = [] := by
  rw [Store.stage, stageAll_batch, hoff]
  exact ⟨rfl, rfl⟩

theorem Store.overwritten_of_deletion {s : Store} {request : ImportRequest}
    (hs : request.Snapshot s) {batch : ParsedBatch} {group : ServiceGroup}
    (hg : group ∈ (s.stage request batch).1.groupDeletions) :
    request.overwriteExisting = true ∧ (s.holding group.participantId).group.isSome = true ∧
      batch.Names (fun id => (Table.find? id s.users).getD request.defaultOwner)
        group.participantId := by
  have hdeletion : ((s.stage request batch).1.share group.participantId).groupDeletion.isSome =
      true := (Table.find?_isSome_iff _ _).mpr (List.mem_map_of_mem hg)
  rw [(s.stage_fits hs batch _).groupDeletion, Bool.and_eq_true] at hdeletion
  refine ⟨?_, hdeletion.2, Store.stage_names (.inl hdeletion.1)⟩
  by_contra ho
  rw [(Store.stage_keeps hs (Bool.eq_false_iff.mpr ho) batch).1] at hg
  cases hg

/-- An import without directory integration asks for nothing to be done to a card. Afterwards every
participant has the card from before, unless the group was deleted: then there is none. Only a stored
group of which the batch has another one is deleted, and only in order to be overwritten. -/
theorem import_without_directory (s : Store) (hoff : s.directoryIntegration = false)
    (batch : ParsedBatch) (defaultOwner : User) (overwriteExisting : Bool) (correlationId : Json) :
    let request : ImportRequest :=
      { defaultOwner, overwriteExisting
        existingGroupKeys := Table.keys s.groups
        existingBusinessCardKeys := Table.keys s.businessCards }
    let start : Progress (Traced Store) := { registry := ⟨s, []⟩, log := .named correlationId }
    ∃ (q : Progress (Traced Store)) (turns : List Turn),
      (⟨batch, request, Document.elementReader, start⟩ : ImportTask (Traced Store)).run =
        (.ok (), q) ∧
      Dialogue s turns q.registry.content ∧ q.registry.calls = turns.map (·.mutation) ∧
      (∀ t ∈ turns, ¬t.mutation.IsAboutCard) ∧
      ∀ participantId,
        (q.registry.content.holding participantId).card =
          (if turns.any (Turn.deletesGroup participantId) then none
          else (s.holding participantId).card) ∧
        (turns.any (Turn.deletesGroup participantId) = true →
          overwriteExisting = true ∧ (s.holding participantId).group.isSome = true ∧
          batch.Names (fun id => (Table.find? id s.users).getD defaultOwner) participantId) := by
  intro request start
  have hsnapshot : request.Snapshot s := ⟨rfl, rfl⟩
  have hw := s.stage_wellFormed request batch
  obtain ⟨r, q, -, -, himport, hhalted, hproceeded⟩ := Traced.shows.import_ends request batch start
  by_cases houtcome : PlanOutcome.decide (s.stage request batch).1
      ((start.log.records ++ (s.stage request batch).2).any ActionRecord.isError) = .proceed
  · obtain ⟨turns, hcarry, hd, -⟩ := hproceeded houtcome
    obtain ⟨hdialogue, hcalls⟩ := Traced.dialogue_iff.mp hd
    obtain ⟨hcards, hdeletions⟩ := Store.stage_no_cards hoff request batch
    have hasks (t : Turn) (ht : t ∈ turns.all) : (s.stage request batch).1.AsksFor t.toRequest :=
      StagedBatch.asksFor_of_mem (hcarry.mem_requests t ht)
    have hno : ∀ t ∈ turns.all, ¬t.mutation.IsAboutCard :=
      fun t ht => (hasks t ht).not_isAboutCard hcards hdeletions
    have hcheck : ∀ t ∈ turns.all, t.mutation.check = .ok () :=
      fun t ht => (hw.requests t.toRequest (hcarry.mem_requests t ht)).2
    refine ⟨q, turns.all, himport, hdialogue, hcalls, hno,
      fun participantId => ⟨Store.card_eq hdialogue hcheck hno participantId, fun hdeleted => ?_⟩⟩
    obtain ⟨t, ht, hdeletes⟩ := List.any_eq_true.mp hdeleted
    simp only [Turn.deletesGroup, Bool.and_eq_true, decide_eq_true_eq] at hdeletes
    obtain ⟨group, hg, hr⟩ := (hasks t ht).deletion hdeletes.2.2
    have hk : group.participantId = participantId := by
      rw [← hdeletes.1, hr]
      rfl
    rw [← hk]
    exact Store.overwritten_of_deletion hsnapshot hg
  · obtain ⟨hregistry, -⟩ := hhalted houtcome
    refine ⟨q, [], himport, hregistry ▸ .nil s, by rw [hregistry]; rfl, by simp,
      fun participantId => ⟨by rw [hregistry]; rfl, fun h => absurd h Bool.false_ne_true⟩⟩

/-- Of two participants with a card, the one with a group in the batch loses it. -/
theorem import_without_directory_overwritten :
    let s : Store :=
      { users := [⟨"u", "U"⟩], groups := [⟨"a", "u", none⟩, ⟨"b", "u", none⟩]
        businessCards := [⟨"a", []⟩, ⟨"b", []⟩], directoryIntegration := false }
    let batch : ParsedBatch :=
      ⟨[.object [("participant_id", .string "a"), ("owner_id", .string "u")]], []⟩
    let request : ImportRequest :=
      { defaultOwner := ⟨"admin", "Admin"⟩, overwriteExisting := true
        existingGroupKeys := ["a", "b"], existingBusinessCardKeys := ["a", "b"] }
    let start : Progress (Traced Store) := { registry := ⟨s, []⟩, log := .named .null }
    s.directoryIntegration = false ∧ ∃ (q : Progress (Traced Store)) (turns : List Turn),
      (⟨batch, request, Document.elementReader, start⟩ : ImportTask (Traced Store)).run =
        (.ok (), q) ∧
      q.registry.calls = turns.map (·.mutation) ∧ (∀ t ∈ turns, ¬t.mutation.IsAboutCard) ∧
      (q.registry.content.holding "a").card = none ∧
      (q.registry.content.holding "b").card = some ⟨"b", []⟩ := by
  intro s batch request start
  obtain ⟨q, turns, hrun, -, hcalls, hno, -⟩ :=
    import_without_directory s rfl batch ⟨"admin", "Admin"⟩ true .null
  have hq : q = _ := (Prod.mk.inj hrun).2.symm
  refine ⟨rfl, q, turns, hrun, hcalls, hno, ?_, ?_⟩
  · rw [hq]
    decide +kernel
  · rw [hq]
    decide +kernel

/-- A group that is overwritten while the directory is not integrated is there again afterwards, but
without its card. -/
theorem card_lost_without_directory :
    let group : ServiceGroup := ⟨"a", "u", none⟩
    let s : Store :=
      { users := [⟨"u", "U"⟩], groups := [group], businessCards := [⟨"a", []⟩]
        directoryIntegration := false }
    let batch : ParsedBatch :=
      ⟨[.object [("participant_id", .string "a"), ("owner_id", .string "u")]], []⟩
    ∃ q : Progress Store,
      (s.importing (s.replacing ⟨"u", "U"⟩) batch .null).run = (.ok (), q) ∧
      s.directoryIntegration = false ∧
      (q.registry.holding "a").group = some group ∧
      (s.holding "a").card = some ⟨"a", []⟩ ∧ (q.registry.holding "a").card = none := by
  intro group s batch
  let task := s.importing (s.replacing ⟨"u", "U"⟩) batch .null
  have hanswer : task.run.1 = .ok () := by decide +kernel
  have hgroup : (task.run.2.registry.holding "a").group = some group := by decide +kernel
  have hcard : (task.run.2.registry.holding "a").card = none := by decide +kernel
  exact ⟨task.run.2, Prod.ext hanswer rfl, rfl, hgroup, by decide, hcard⟩

end ParticipantRegistry
