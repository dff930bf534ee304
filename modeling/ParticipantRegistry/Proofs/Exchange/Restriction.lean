import ParticipantRegistry.Proofs.Exchange.CommitTrace

/-!
# Commits for some participants

A staged batch falls apart by participants, and so do the turns of its commit: those on behalf of some
participants carry out what is staged for them, and they are recorded as they are in the whole commit.
The content of a registry and the staged batch tell which turns there are.
-/

namespace ParticipantRegistry

namespace StagedBatch

def restrict (p : Text → Bool) (staged : StagedBatch) : StagedBatch :=
  { staged with
    groups := staged.groups.filter fun g => p g.participantId
    groupDeletions := staged.groupDeletions.filter fun g => p g.participantId
    businessCards := staged.businessCards.filter fun c => p c.participantId
    businessCardDeletions := staged.businessCardDeletions.filter fun c => p c.participantId }

end StagedBatch

/-- The record is about a participant with the property or about none. -/
def ActionRecord.concerns (p : Text → Bool) (r : ActionRecord) : Bool :=
  match r.key with
  | .string participantId => p participantId
  | _ => true

namespace CommitTurns

def restrict (p : Text → Bool) (turns : CommitTurns) : CommitTurns where
  deletions := turns.deletions.filter fun t => p t.participantId
  creations := turns.creations.filter fun t => p t.participantId
  children := turns.children.filter fun t => p t.participantId
  cardDeletions := turns.cardDeletions.filter fun t => p t.participantId
  cards := turns.cards.filter fun t => p t.participantId

variable (p : Text → Bool)

theorem all_restrict (turns : CommitTurns) :
    (turns.restrict p).all = turns.all.filter fun t => p t.participantId := by
  simp only [all, restrict, List.filter_append]

private theorem filter_requests {ι : Type} {turns : List Turn} {items : List ι} {request : ι → Request}
    (h : turns.map Turn.toRequest = items.map request) :
    (turns.filter fun t => p t.participantId).map Turn.toRequest =
      (items.filter fun i => p (request i).participantId).map request := by
  have hf := congrArg (List.filter fun r : Request => p r.participantId) h
  rwa [List.filter_map, List.filter_map] at hf

private theorem filter_children (groups : List StagedGroup) :
    (groups.flatMap StagedGroup.children).filter (fun r => p r.participantId) =
      (groups.filter fun g => p g.participantId).flatMap StagedGroup.children := by
  induction groups with
  | nil => rfl
  | cons g groups ih =>
    have hown : ∀ r ∈ g.children, r.participantId = g.participantId := by
      simp [StagedGroup.children, StagedGroup.merges, StagedGroup.upserts, or_imp, forall_and]
    rw [List.flatMap_cons, List.filter_append, ih, List.filter_cons]
    cases hk : p g.participantId with
    | true =>
      rw [List.filter_eq_self.mpr fun r hr => by simp [hown r hr, hk]]
      simp
    | false =>
      rw [List.filter_eq_nil_iff.mpr fun r hr => by simp [hown r hr, hk]]
      simp

variable {p}

theorem contains_restrict {participantId : Text} (hp : p participantId = true) (q : Turn → Bool)
    (turns : List Turn) :
    (((turns.filter fun t => p t.participantId).filter q).map (·.participantId)).contains
        participantId =
      ((turns.filter q).map (·.participantId)).contains participantId := by
  rw [Bool.eq_iff_iff, List.contains_iff_mem, List.contains_iff_mem]
  simp only [List.mem_map, List.mem_filter]
  constructor
  · rintro ⟨t, ⟨⟨ht, -⟩, hq⟩, hk⟩
    exact ⟨t, ⟨ht, hq⟩, hk⟩
  · rintro ⟨t, ⟨ht, hq⟩, hk⟩
    exact ⟨t, ⟨⟨ht, hk ▸ hp⟩, hq⟩, hk⟩

theorem isMoot_restrict (turns : CommitTurns) {t : Turn} (ht : p t.participantId = true) :
    t.isMoot (turns.restrict p).deletedGroups = t.isMoot turns.deletedGroups := by
  rw [Turn.isMoot, Turn.isMoot, deletedGroups, deletedGroups, restrict, contains_restrict ht]

/-- The turns on behalf of some participants carry out what is staged for them. -/
theorem CarryOut.restrict {turns : CommitTurns} {staged : StagedBatch} (h : turns.CarryOut staged)
    (p : Text → Bool) : (turns.restrict p).CarryOut (staged.restrict p) where
  deletions := filter_requests p h.deletions
  creations := filter_requests p h.creations
  children := by
    have hf := congrArg (List.filter fun r : Request => p r.participantId) h.children
    rw [List.filter_map, filter_children, List.filter_filter] at hf
    rw [CommitTurns.restrict, StagedBatch.restrict, List.filter_filter]
    refine hf.trans (congrArg (List.flatMap StagedGroup.children) (List.filter_congr ?_))
    intro g _
    rw [Bool.and_comm]
    cases hp : p g.participantId with
    | true => rw [Bool.and_true, Bool.and_true]; exact (contains_restrict hp _ turns.creations).symm
    | false => rw [Bool.and_false, Bool.and_false]
  cardDeletions := filter_requests p h.cardDeletions
  cards := by
    have hf := filter_requests p h.cards
    rw [List.filter_filter] at hf
    rw [CommitTurns.restrict, StagedBatch.restrict, List.filter_filter]
    refine hf.trans (congrArg (List.map BusinessCard.upsert) (List.filter_congr ?_))
    intro card _
    change (p card.participantId && !turns.failedGroups.contains card.participantId) = _
    cases hp : p card.participantId with
    | true =>
      rw [Bool.true_and, Bool.and_true]
      exact congrArg not (contains_restrict hp _ turns.creations).symm
    | false => rw [Bool.false_and, Bool.and_false]

theorem concerns_cardRecord (p : Text → Bool) (deletedGroups : List Text) (t : Turn) :
    (t.cardRecord deletedGroups).concerns p = p t.participantId := by
  rw [Turn.cardRecord]
  split <;> rfl

theorem retracted_restrict (p : Text → Bool) (turns : CommitTurns) (staged : StagedBatch) :
    (turns.restrict p).retracted (staged.restrict p) =
      (turns.retracted staged).filter fun card => p card.participantId := by
  rw [retracted, retracted, StagedBatch.restrict, List.filter_filter, List.filter_filter]
  apply List.filter_congr
  intro card _
  cases hp : p card.participantId with
  | true =>
    rw [Bool.and_true, Bool.true_and]
    exact contains_restrict hp _ turns.creations
  | false => rw [Bool.and_false, Bool.false_and]

theorem records_restrict (p : Text → Bool) (turns : CommitTurns) (staged : StagedBatch) :
    (turns.restrict p).records (staged.restrict p) =
      (turns.records staged).filter (ActionRecord.concerns p) := by
  have hrecords (l : List Turn) : (l.map Turn.record).filter (ActionRecord.concerns p) =
      (l.filter fun t => p t.participantId).map Turn.record := List.filter_map
  have hretractions (l : List BusinessCard) :
      (l.map BusinessCard.retraction).filter (ActionRecord.concerns p) =
        (l.filter fun card => p card.participantId).map BusinessCard.retraction := List.filter_map
  have hcardRecords : (turns.cardDeletions.map (Turn.cardRecord turns.deletedGroups)).filter
        (ActionRecord.concerns p) =
      (turns.restrict p).cardDeletions.map (Turn.cardRecord (turns.restrict p).deletedGroups) := by
    have hconcerns : ActionRecord.concerns p ∘ Turn.cardRecord turns.deletedGroups =
        fun t => p t.participantId := funext (concerns_cardRecord p turns.deletedGroups)
    rw [List.filter_map, hconcerns]
    apply List.map_congr_left
    intro t ht
    rw [Turn.cardRecord, Turn.cardRecord, isMoot_restrict turns (List.mem_filter.mp ht).2]
  rw [records, records, List.filter_append, List.filter_append, List.filter_append, hrecords,
    hretractions, hcardRecords, hrecords, retracted_restrict, List.filter_append, List.filter_append]
  rfl

variable {σ : Type} [Registry σ]

/-- A commit of one batch on the same content takes the same turns. -/
theorem CarryOut.unique {turns turns' : CommitTurns} {staged : StagedBatch} {s s₁ s₂ : σ}
    (h : turns.CarryOut staged) (h' : turns'.CarryOut staged) (hd : Dialogue s turns.all s₁)
    (hd' : Dialogue s turns'.all s₂) : turns = turns' ∧ s₁ = s₂ := by
  obtain ⟨deletions, creations, children, cardDeletions, cards⟩ := turns
  obtain ⟨deletions', creations', children', cardDeletions', cards'⟩ := turns'
  obtain ⟨t₄, hd, hd₅⟩ := hd.of_append
  obtain ⟨t₃, hd, hd₄⟩ := hd.of_append
  obtain ⟨t₂, hd, hd₃⟩ := hd.of_append
  obtain ⟨t₁, hd₁, hd₂⟩ := hd.of_append
  obtain ⟨u₄, hd', hd₅'⟩ := hd'.of_append
  obtain ⟨u₃, hd', hd₄'⟩ := hd'.of_append
  obtain ⟨u₂, hd', hd₃'⟩ := hd'.of_append
  obtain ⟨u₁, hd₁', hd₂'⟩ := hd'.of_append
  obtain ⟨rfl, rfl⟩ := hd₁.unique hd₁' (h.deletions.trans h'.deletions.symm)
  obtain ⟨rfl, rfl⟩ := hd₂.unique hd₂' (h.creations.trans h'.creations.symm)
  obtain ⟨rfl, rfl⟩ := hd₃.unique hd₃' (h.children.trans h'.children.symm)
  obtain ⟨rfl, rfl⟩ := hd₄.unique hd₄' (h.cardDeletions.trans h'.cardDeletions.symm)
  obtain ⟨rfl, rfl⟩ := hd₅.unique hd₅' (h.cards.trans h'.cards.symm)
  exact ⟨rfl, rfl⟩

end CommitTurns

end ParticipantRegistry
