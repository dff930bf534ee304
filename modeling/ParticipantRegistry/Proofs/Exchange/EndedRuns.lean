import ParticipantRegistry.Proofs.Exchange.BatchReading
import ParticipantRegistry.Proofs.Exchange.CommitTrace

/-!
# Runs that have come to their end

A registry may answer a call with a fault, and a fault ends an import early. An import that has come to
its end has met none: it has read its batch and has held the dialogue that carries out what was staged,
as it would have done over a registry that always answers.
-/

namespace ParticipantRegistry

open Document (ElementReader GroupRecord)

namespace Run

variable {σ α β ι : Type}

/-- A run that was started on content `s` has come to its end. -/
def Finishes (run : Run σ α) (s : σ) : Prop :=
  ∃ (p q : Progress σ) (a : α), p.registry = s ∧ run p = (.ok a, q)

namespace Finishes

variable {run : Run σ α} {next : α → Run σ β} {s s' : σ}

theorem of_bind (h : Finishes (run >>= next) s) : Finishes run s := by
  obtain ⟨p, q, b, hp, hrun⟩ := h
  obtain ⟨a, p', hfirst, -⟩ := Call.ok_of_bind hrun
  exact ⟨p, p', a, hp, hfirst⟩

theorem goesOn {a : α} {records : List ActionRecord} (h : Finishes (run >>= next) s)
    (hy : Yields run s a records s') : Finishes (next a) s' := by
  obtain ⟨p, q, b, hp, hrun⟩ := h
  obtain ⟨events, hfirst⟩ := hy p hp
  rw [Call.bind_of_ok hfirst] at hrun
  exact ⟨_, q, b, rfl, hrun⟩

theorem of_get {next : Progress σ → Run σ β} (h : Finishes (get >>= next) s) :
    ∃ p : Progress σ, p.registry = s ∧ Finishes (next p) s := by
  obtain ⟨p, q, b, hp, hrun⟩ := h
  exact ⟨p, hp, p, q, b, hp, hrun⟩

theorem attempt {c : Call σ α} (h : Finishes (attempt c) s) :
    ∃ (reply : Except StorageError α) (s' : σ), c s = (reply.mapError .storage, s') := by
  obtain ⟨p, q, a, rfl, hrun⟩ := h
  rw [Run.attempt, Run.call] at hrun
  cases hc : c p.registry with
  | mk answer s' =>
    rcases answer with (e | fault) | a
    · exact ⟨.error e, s', rfl⟩
    · rw [hc] at hrun
      cases hrun
    · exact ⟨.ok a, s', rfl⟩

end Finishes

section Commit

variable [Registry σ] {s : σ}

theorem finishes_mutate (request : Request) {next : Bool → Run σ β}
    (h : Finishes (mutate request.participantId request.mutation >>= next) s) :
    ∃ (reply : Reply) (s' : σ), request.mutation.perform s = (reply.mapError .storage, s') ∧
      Finishes (next (⟨request, reply⟩ : Turn).isChange) s' := by
  obtain ⟨reply, s', hreply⟩ := h.of_bind.of_bind.attempt
  exact ⟨reply, s', hreply, h.goesOn (yields_mutate hreply)⟩

theorem finishes_deleteCard {deletedGroups : List Text} {card : BusinessCard} {next : Bool → Run σ β}
    (h : Finishes (deleteCard deletedGroups card >>= next) s) :
    ∃ (reply : Reply) (s' : σ), card.deletion.mutation.perform s = (reply.mapError .storage, s') ∧
      Finishes (next (⟨card.deletion, reply⟩ : Turn).isChange) s' := by
  obtain ⟨reply, s', hreply⟩ := h.of_bind.of_bind.attempt
  exact ⟨reply, s', hreply, h.goesOn (yields_deleteCard deletedGroups hreply)⟩

theorem Finishes.exists_dialogue {loop : List ι → Run σ β} {request : ι → Request}
    (hstep : ∀ i items s, Finishes (loop (i :: items)) s → ∃ (reply : Reply) (s' : σ),
      (request i).mutation.perform s = (reply.mapError .storage, s') ∧ Finishes (loop items) s')
    {items : List ι} (h : Finishes (loop items) s) : ∃ (turns : List Turn) (s' : σ),
      Dialogue s turns s' ∧ turns.map Turn.toRequest = items.map request := by
  induction items generalizing s with
  | nil => exact ⟨[], s, .nil s, rfl⟩
  | cons i items ih =>
    obtain ⟨reply, t, hreply, hrest⟩ := hstep i items s h
    obtain ⟨turns, s', hd, hr⟩ := ih hrest
    exact ⟨⟨request i, reply⟩ :: turns, s', .cons hreply hd, congrArg (request i :: ·) hr⟩

theorem dialogue_deleteGroups {groups : List ServiceGroup} (h : Finishes (deleteGroups groups) s) :
    ∃ (turns : List Turn) (s' : σ), Dialogue s turns s' ∧
      turns.map Turn.toRequest = groups.map ServiceGroup.deletion := by
  refine h.exists_dialogue fun group groups s h => ?_
  obtain ⟨reply, s', hreply, hrest⟩ := finishes_mutate group.deletion h
  exact ⟨reply, s', hreply, hrest.of_bind⟩

theorem dialogue_createGroups {groups : List StagedGroup} (h : Finishes (createGroups groups) s) :
    ∃ (turns : List Turn) (s' : σ), Dialogue s turns s' ∧
      turns.map Turn.toRequest = groups.map StagedGroup.creation := by
  refine h.exists_dialogue fun g groups s h => ?_
  obtain ⟨created, s', hcreated⟩ := h.of_bind.attempt
  have hgoes := h.goesOn (yields_attempt hcreated)
  cases created with
  | ok group =>
    exact ⟨.ok true, s', Call.bind_of_ok hcreated, (hgoes.goesOn (yields_record _ _ _ _)).of_bind⟩
  | error e =>
    exact ⟨.error e, s', Call.bind_of_error hcreated,
      (hgoes.goesOn (yields_record _ _ _ _)).of_bind⟩

theorem dialogue_count (request : ι → Request) {step : ι → Run σ Bool}
    (hstep : ∀ (i : ι) (next : Bool → Run σ Nat) (s : σ), Finishes (step i >>= next) s →
      ∃ (reply : Reply) (s' : σ), (request i).mutation.perform s = (reply.mapError .storage, s') ∧
        Finishes (next (⟨request i, reply⟩ : Turn).isChange) s')
    {items : List ι} (h : Finishes (count step items) s) : ∃ (turns : List Turn) (s' : σ),
      Dialogue s turns s' ∧ turns.map Turn.toRequest = items.map request := by
  refine h.exists_dialogue fun i items s h => ?_
  obtain ⟨reply, s', hreply, hrest⟩ := hstep i _ s h
  exact ⟨reply, s', hreply, hrest.of_bind⟩

theorem dialogue_createChildren {created : List Text} {groups : List StagedGroup}
    (h : Finishes (createChildren created groups) s) : ∃ (turns : List Turn) (s' : σ),
      Dialogue s turns s' ∧ turns.map Turn.toRequest =
        (groups.filter fun g => created.contains g.participantId).flatMap StagedGroup.children := by
  induction groups generalizing s with
  | nil => exact ⟨[], s, .nil s, rfl⟩
  | cons g groups ih =>
    rw [createChildren] at h
    rw [List.filter_cons]
    split at h
    · next hk =>
      obtain ⟨merges, t, hd, hr⟩ := dialogue_count
        (fun e => ⟨g.participantId, .mergeEndpoint e⟩) (fun _ _ _ h => finishes_mutate _ h) h.of_bind
      have h := h.goesOn (yields_count (fun e => ⟨g.participantId, .mergeEndpoint e⟩)
        (fun _ _ _ _ h => yields_mutate h) hd hr)
      obtain ⟨upserts, t', hd', hr'⟩ := dialogue_count
        (fun r => ⟨g.participantId, .upsertRedirect r⟩) (fun _ _ _ h => finishes_mutate _ h) h.of_bind
      have h := h.goesOn (yields_count (fun r => ⟨g.participantId, .upsertRedirect r⟩)
        (fun _ _ _ _ h => yields_mutate h) hd' hr')
      obtain ⟨turns, s', hd'', hr''⟩ := ih h.of_bind
      refine ⟨merges ++ (upserts ++ turns), s', hd.append (hd'.append hd''), ?_⟩
      rw [if_pos hk, List.flatMap_cons, List.map_append, List.map_append, hr, hr', hr'',
        StagedGroup.children, List.append_assoc]
      rfl
    · next hk =>
      rw [if_neg hk]
      exact ih h

theorem dialogue_commit {staged : StagedBatch} (h : Finishes (commit staged) s) :
    ∃ (turns : CommitTurns) (s' : σ), turns.CarryOut staged ∧ Dialogue s turns.all s' := by
  obtain ⟨deletions, s₁, hd₁, hr₁⟩ := dialogue_deleteGroups h.of_bind
  have h := h.goesOn (yields_deleteGroups hd₁ hr₁)
  obtain ⟨creations, s₂, hd₂, hr₂⟩ := dialogue_createGroups h.of_bind
  obtain ⟨created, hk, hy⟩ := yields_createGroups hd₂ hr₂
  have h := h.goesOn hy
  obtain ⟨children, s₃, hd₃, hr₃⟩ := dialogue_createChildren h.of_bind
  have h := h.goesOn (yields_createChildren hd₃ hr₃)
  have h := h.goesOn (yields_forM (fun k => yields_record (some k) .cardRetracted none s₃) _)
  obtain ⟨cardDeletions, s₄, hd₄, hr₄⟩ :=
    dialogue_count BusinessCard.deletion (fun _ _ _ h => finishes_deleteCard h) h.of_bind
  have h := h.goesOn
    (yields_count BusinessCard.deletion (fun _ _ _ _ h => yields_deleteCard _ h) hd₄ hr₄)
  obtain ⟨cards, s₅, hd₅, hr₅⟩ :=
    dialogue_count BusinessCard.upsert (fun _ _ _ h => finishes_mutate _ h) h.of_bind
  rw [hk] at hr₃
  exact ⟨⟨deletions, creations, children, cardDeletions, cards⟩, s₅, ⟨hr₁, hr₂, hr₃, hr₄, hr₅⟩,
    (((hd₁.append hd₂).append hd₃).append hd₄).append hd₅⟩

end Commit

section Reading

variable [Registry σ] {s : σ}

theorem FailsLookup.not_finishes {run : Run σ α} (h : FailsLookup run s) : ¬Finishes run s := by
  rintro ⟨p, q, a, hp, hrun⟩
  obtain ⟨_, _, e, q', -, hfails⟩ := h p hp
  rw [hfails] at hrun
  cases hrun

/-- An import that has come to its end has read its batch and decided on it. Unless it proceeded it has
asked for nothing else, and if it did, it has carried out what was staged. -/
theorem importBatch_ended {reader : ElementReader} {request : ImportRequest} {batch : ParsedBatch}
    {p q : Progress σ} (h : importBatch reader request batch p = (.ok (), q)) :
    ∃ (readings : List (Reading GroupRecord)) (s' : σ),
      Reads reader request.defaultOwner batch.serviceGroups p.registry readings s' ∧
      let staged := stageAll request (Registry.directoryIntegration p.registry) readings
        (batch.businessCards.map fun element => (reader.businessCard element).2)
      let outcome := PlanOutcome.decide staged.1
        ((p.log.records ++ staged.2).any ActionRecord.isError)
      let planned := p.log.records ++ staged.2 ++ [⟨.null, outcome.note staged.1, none⟩]
      (outcome ≠ .proceed → q.registry = s' ∧ q.log.records = planned) ∧
      (outcome = .proceed → ∃ turns : CommitTurns, turns.CarryOut staged.1 ∧
        Dialogue s' turns.all q.registry ∧
        q.log.records = planned ++ turns.records staged.1) := by
  obtain ⟨⟨staged, outcome⟩, r, hprepare, hcomplete⟩ := Call.ok_of_bind h
  have hbegins : Finishes (prepare reader request batch) p.registry := ⟨p, r, _, rfl, hprepare⟩
  have hread := (hbegins.goesOn (yields_emit _ _)).of_bind
  obtain ⟨_, -, hgroups⟩ := hread.of_get
  obtain ⟨readings, s', hreads⟩ := (readGroups_cases reader request batch.serviceGroups _ 0
    p.registry).resolve_right fun hfails => hfails.not_finishes hgroups.of_bind
  refine ⟨readings, s', hreads, ?_⟩
  intro staged' outcome' planned
  obtain ⟨r', hprepare', hregistry, hlog⟩ := prepare_holds (p := p) hreads
  obtain ⟨hanswer, rfl⟩ := Prod.mk.inj (hprepare.symm.trans hprepare')
  obtain ⟨rfl, rfl⟩ := Prod.mk.inj (Except.ok.inj hanswer)
  refine ⟨fun houtcome => ?_, fun houtcome => ?_⟩
  · obtain ⟨q', himport, hq, hsame⟩ := import_halted hprepare' houtcome
    cases h.symm.trans himport
    exact ⟨hq.trans hregistry, hsame ▸ hlog⟩
  · have hplanned : prepare reader request batch p = (.ok (staged'.1, outcome'), r) := hprepare
    have hends : complete staged'.1 outcome' r = (.ok (), q) := hcomplete
    rw [houtcome] at hplanned hends
    have hcommit : Finishes (commit staged'.1) s' := Finishes.of_bind ⟨r, q, (), hregistry, hends⟩
    obtain ⟨turns, s'', hcarry, hd⟩ := dialogue_commit hcommit
    obtain ⟨report, -, hyields⟩ := yields_commit hcarry hd
    obtain ⟨q', himport, hq, hrecords⟩ := import_proceeds hplanned (hregistry ▸ hyields)
    cases h.symm.trans himport
    exact ⟨turns, hcarry, hq ▸ hd, by rw [hrecords, hlog]⟩

end Reading

end Run

end ParticipantRegistry
