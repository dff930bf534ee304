import Mathlib.Data.List.Nodup
import ParticipantRegistry.Exchange.Commit
import ParticipantRegistry.Proofs.Exchange.Yields
import ParticipantRegistry.Proofs.Registry.Dialogue

/-!
# The trace of a commit

A commit of a staged batch is a dialogue of five phases. Which requests are made depends on earlier
replies in two places only: children are stored for the groups that were created, and cards for all
groups but those that were refused. Each turn is recorded once, in turn, and the report counts turns.
-/

namespace ParticipantRegistry

namespace Turn

def note (turn : Turn) : Note :=
  if turn.isChange then .succeeded turn.mutation else .failed turn.mutation

def cause (turn : Turn) : Option Cause :=
  match turn.reply with
  | .ok _ => none
  | .error e => some (.storage e)

def record (turn : Turn) : ActionRecord :=
  ⟨.ofText? (some turn.participantId), turn.note, turn.cause⟩

/-- Nothing was deleted because the card went with its group. -/
def isMoot (deletedGroups : List Text) (turn : Turn) : Bool :=
  !turn.isChange && !turn.isRefusal && deletedGroups.contains turn.participantId

def cardRecord (deletedGroups : List Text) (turn : Turn) : ActionRecord :=
  if turn.isMoot deletedGroups then
    ⟨.ofText? (some turn.participantId), .cardAlreadyDeleted, none⟩
  else turn.record

theorem record_severity (turn : Turn) :
    turn.record.severity = if turn.isChange then .success else .error := by
  rw [ActionRecord.severity, record, note]
  cases turn.isChange <;> rfl

theorem cardRecord_severity (deletedGroups : List Text) (turn : Turn) :
    (turn.cardRecord deletedGroups).severity =
      if turn.isChange || turn.isMoot deletedGroups then .success else .error := by
  rw [cardRecord]
  cases hm : turn.isMoot deletedGroups with
  | true => simp [ActionRecord.severity, Note.severity]
  | false => simp [record_severity]

def changes (operation : Operation) (turns : List Turn) : Nat :=
  turns.countP fun t => t.isChange && decide (t.mutation.operation = operation)

theorem changes_append (operation : Operation) (turns more : List Turn) :
    changes operation (turns ++ more) = changes operation turns + changes operation more :=
  List.countP_append

theorem changes_of_operation {turns : List Turn} {operation : Operation}
    (h : ∀ t ∈ turns, t.mutation.operation = operation) (other : Operation) :
    changes other turns = if operation = other then turns.countP (·.isChange) else 0 := by
  rw [changes]
  by_cases ho : operation = other
  · rw [if_pos ho]
    apply List.countP_congr
    intro t ht
    simp [h t ht, ho]
  · rw [if_neg ho, List.countP_eq_zero]
    intro t ht
    simp [h t ht, ho]

theorem exists_request {ι : Type} {turns : List Turn} {items : List ι} {request : ι → Request}
    (h : turns.map toRequest = items.map request) {t : Turn} (ht : t ∈ turns) :
    ∃ i, t.toRequest = request i := by
  have hm : t.toRequest ∈ items.map request := h ▸ List.mem_map_of_mem ht
  obtain ⟨i, -, hi⟩ := List.mem_map.mp hm
  exact ⟨i, hi.symm⟩

end Turn

namespace StagedGroup

def creation (staged : StagedGroup) : Request :=
  ⟨staged.participantId, .createGroup staged.record.group (!staged.isOverwrite)⟩

def merges (staged : StagedGroup) : List Request :=
  staged.record.endpoints.map fun e => ⟨staged.participantId, .mergeEndpoint e⟩

def upserts (staged : StagedGroup) : List Request :=
  staged.record.redirects.map fun r => ⟨staged.participantId, .upsertRedirect r⟩

def children (staged : StagedGroup) : List Request := staged.merges ++ staged.upserts

end StagedGroup

def ServiceGroup.deletion (group : ServiceGroup) : Request :=
  ⟨group.participantId, .deleteGroup group.participantId false⟩

namespace BusinessCard

def deletion (card : BusinessCard) : Request := ⟨card.participantId, .deleteBusinessCard card⟩

def upsert (card : BusinessCard) : Request := ⟨card.participantId, .upsertBusinessCard card⟩

def retraction (card : BusinessCard) : ActionRecord :=
  ⟨.ofText? (some card.participantId), .cardRetracted, none⟩

theorem retraction_severity (card : BusinessCard) : card.retraction.severity = .info := rfl

end BusinessCard

def StagedBatch.requests (staged : StagedBatch) : List Request :=
  staged.groupDeletions.map ServiceGroup.deletion ++ staged.groups.map StagedGroup.creation ++
    staged.groups.flatMap StagedGroup.children ++
    staged.businessCardDeletions.map BusinessCard.deletion ++
    staged.businessCards.map BusinessCard.upsert

/-- The turns of a commit, phase by phase. -/
structure CommitTurns where
  deletions : List Turn
  creations : List Turn
  children : List Turn
  cardDeletions : List Turn
  cards : List Turn

namespace CommitTurns

def all (turns : CommitTurns) : List Turn :=
  turns.deletions ++ turns.creations ++ turns.children ++ turns.cardDeletions ++ turns.cards

def deletedGroups (turns : CommitTurns) : List Text :=
  (turns.deletions.filter (·.isChange)).map (·.participantId)

def createdGroups (turns : CommitTurns) : List Text :=
  (turns.creations.filter fun t => !t.isRefusal).map (·.participantId)

def failedGroups (turns : CommitTurns) : List Text :=
  (turns.creations.filter (·.isRefusal)).map (·.participantId)

def retracted (turns : CommitTurns) (staged : StagedBatch) : List BusinessCard :=
  staged.businessCards.filter fun card => turns.failedGroups.contains card.participantId

/-- The turns carry out the staged batch: each phase makes its requests in order, where children are
stored for the groups that were created and cards for those that were not refused. -/
structure CarryOut (turns : CommitTurns) (staged : StagedBatch) : Prop where
  deletions : turns.deletions.map Turn.toRequest = staged.groupDeletions.map ServiceGroup.deletion
  creations : turns.creations.map Turn.toRequest = staged.groups.map StagedGroup.creation
  children : turns.children.map Turn.toRequest =
    (staged.groups.filter fun g => turns.createdGroups.contains g.participantId).flatMap
      StagedGroup.children
  cardDeletions : turns.cardDeletions.map Turn.toRequest =
    staged.businessCardDeletions.map BusinessCard.deletion
  cards : turns.cards.map Turn.toRequest =
    (staged.businessCards.filter fun c => !turns.failedGroups.contains c.participantId).map
      BusinessCard.upsert

/-- What a commit records: every turn once, and each retracted card before the card deletions. -/
def records (turns : CommitTurns) (staged : StagedBatch) : List ActionRecord :=
  (turns.deletions ++ turns.creations ++ turns.children).map Turn.record ++
    (turns.retracted staged).map BusinessCard.retraction ++
    turns.cardDeletions.map (Turn.cardRecord turns.deletedGroups) ++ turns.cards.map Turn.record

/-- The report tells of every turn by what came of it. -/
structure Reported (turns : CommitTurns) (staged : StagedBatch) (report : CommitReport) : Prop where
  deletedGroups : report.deletedGroups = turns.deletedGroups
  createdGroups : report.createdGroups.map (·.1) = turns.createdGroups
  failedGroups : report.failedGroups = turns.failedGroups
  mergedEndpoints : report.mergedEndpoints = Turn.changes .mergeEndpoint turns.children
  upsertedRedirects : report.upsertedRedirects = Turn.changes .upsertRedirect turns.children
  deletedBusinessCards : report.deletedBusinessCards = turns.cardDeletions.countP (·.isChange)
  createdBusinessCards : report.createdBusinessCards = turns.cards.countP (·.isChange)
  retractedBusinessCards :
    report.retractedBusinessCards = (turns.retracted staged).map (·.participantId)

theorem exists_of_contained {σ : Type} [Registry σ] (staged : StagedBatch)
    (hc : ∀ r ∈ staged.requests, r.mutation.Contained σ) (s : σ) :
    ∃ (turns : CommitTurns) (s' : σ), turns.CarryOut staged ∧ Dialogue s turns.all s' := by
  simp only [StagedBatch.requests, List.forall_mem_append] at hc
  obtain ⟨⟨⟨⟨hdel, hcre⟩, hchi⟩, hcdel⟩, hcup⟩ := hc
  obtain ⟨deletions, s₁, hd₁, hr₁⟩ := Dialogue.exists_of_contained hdel s
  obtain ⟨creations, s₂, hd₂, hr₂⟩ := Dialogue.exists_of_contained hcre s₁
  -- which children and cards are asked for depends on the replies to the creations
  let created := (creations.filter fun t => !t.isRefusal).map (·.participantId)
  let failed := (creations.filter (·.isRefusal)).map (·.participantId)
  let groups := staged.groups.filter fun g => created.contains g.participantId
  let cards := staged.businessCards.filter fun c => !failed.contains c.participantId
  have hgroups : groups.flatMap StagedGroup.children ⊆ staged.groups.flatMap StagedGroup.children := by
    intro r hr
    obtain ⟨g, hg, hr⟩ := List.mem_flatMap.mp hr
    exact List.mem_flatMap.mpr ⟨g, List.mem_of_mem_filter hg, hr⟩
  have hcards : cards.map BusinessCard.upsert ⊆ staged.businessCards.map BusinessCard.upsert :=
    List.map_subset _ (List.filter_subset_self _)
  obtain ⟨children, s₃, hd₃, hr₃⟩ :=
    Dialogue.exists_of_contained (fun r hr => hchi r (hgroups hr)) s₂
  obtain ⟨cardDeletions, s₄, hd₄, hr₄⟩ := Dialogue.exists_of_contained hcdel s₃
  obtain ⟨upserts, s₅, hd₅, hr₅⟩ :=
    Dialogue.exists_of_contained (fun r hr => hcup r (hcards hr)) s₄
  exact ⟨⟨deletions, creations, children, cardDeletions, upserts⟩, s₅, ⟨hr₁, hr₂, hr₃, hr₄, hr₅⟩,
    (((hd₁.append hd₂).append hd₃).append hd₄).append hd₅⟩

end CommitTurns

namespace Run

variable {σ : Type} [Registry σ]

theorem yields_mutate {request : Request} {reply : Reply} {s s' : σ}
    (h : request.mutation.perform s = (reply.mapError .storage, s')) :
    Yields (mutate request.participantId request.mutation) s (⟨request, reply⟩ : Turn).isChange
      [(⟨request, reply⟩ : Turn).record] s' := by
  apply (yields_attempt h).bind_silent
  match reply with
  | .ok true => exact (yields_record _ _ _ _).bind_pure rfl
  | .ok false => exact (yields_record _ _ _ _).bind_pure rfl
  | .error e => exact (yields_record _ _ _ _).bind_pure rfl

theorem yields_deleteCard (deletedGroups : List Text) {card : BusinessCard}
    {reply : Reply} {s s' : σ}
    (h : card.deletion.mutation.perform s = (reply.mapError .storage, s')) :
    Yields (deleteCard deletedGroups card) s (⟨card.deletion, reply⟩ : Turn).isChange
      [(⟨card.deletion, reply⟩ : Turn).cardRecord deletedGroups] s' := by
  apply (yields_attempt h).bind_silent
  match reply with
  | .ok true => exact (yields_record _ _ _ _).bind_pure rfl
  | .ok false =>
    have hline : (⟨card.deletion, .ok false⟩ : Turn).cardRecord deletedGroups =
        ⟨.ofText? (some card.participantId),
          if deletedGroups.contains card.participantId then .cardAlreadyDeleted
          else .failed (.deleteBusinessCard card), none⟩ := by
      rw [Turn.cardRecord, Turn.isMoot]
      by_cases hd : card.participantId ∈ deletedGroups <;>
        simp [hd, Turn.isChange, Turn.isRefusal, Reply.isChange, Reply.isRefusal, Turn.record,
          Turn.note, Turn.cause, BusinessCard.deletion]
    rw [hline]
    exact (yields_record _ _ _ _).bind_pure rfl
  | .error e => exact (yields_record _ _ _ _).bind_pure rfl

theorem yields_count {ι : Type} (request : ι → Request) {step : ι → Run σ Bool}
    {line : Turn → ActionRecord}
    (hstep : ∀ (i : ι) (reply : Reply) (s s' : σ),
      (request i).mutation.perform s = (reply.mapError .storage, s') →
        Yields (step i) s (⟨request i, reply⟩ : Turn).isChange [line ⟨request i, reply⟩] s')
    {items : List ι} {turns : List Turn} {s s' : σ} (hd : Dialogue s turns s')
    (hr : turns.map Turn.toRequest = items.map request) :
    Yields (count step items) s (turns.countP (·.isChange)) (turns.map line) s' := by
  induction items generalizing turns s with
  | nil =>
    obtain rfl := List.map_eq_nil_iff.mp hr
    cases hd
    exact yields_pure 0 _
  | cons i items ih =>
    obtain ⟨⟨_, reply⟩, rest, rfl, rfl, hrest⟩ := List.map_eq_cons_iff.mp hr
    cases hd with
    | cons first hd =>
      apply (hstep i reply s _ first).bind
      apply (ih hd hrest).bind_pure
      rw [List.countP_cons]
      cases (⟨request i, reply⟩ : Turn).isChange <;> simp [Nat.add_comm]

theorem yields_deleteGroups {groups : List ServiceGroup} {turns : List Turn} {s s' : σ}
    (hd : Dialogue s turns s')
    (hr : turns.map Turn.toRequest = groups.map ServiceGroup.deletion) :
    Yields (deleteGroups groups) s ((turns.filter (·.isChange)).map (·.participantId))
      (turns.map Turn.record) s' := by
  induction groups generalizing turns s with
  | nil =>
    obtain rfl := List.map_eq_nil_iff.mp hr
    cases hd
    exact yields_pure [] _
  | cons group groups ih =>
    obtain ⟨⟨_, reply⟩, rest, rfl, rfl, hrest⟩ := List.map_eq_cons_iff.mp hr
    cases hd with
    | cons first hd =>
      apply (yields_mutate first).bind
      apply (ih hd hrest).bind_pure
      rw [List.filter_cons]
      cases (⟨group.deletion, reply⟩ : Turn).isChange <;> rfl

theorem yields_createGroups {groups : List StagedGroup} {turns : List Turn} {s s' : σ}
    (hd : Dialogue s turns s')
    (hr : turns.map Turn.toRequest = groups.map StagedGroup.creation) :
    ∃ created : List (Text × ServiceGroup),
      created.map (·.1) = (turns.filter fun t => !t.isRefusal).map (·.participantId) ∧
      Yields (createGroups groups) s
        (created, (turns.filter (·.isRefusal)).map (·.participantId)) (turns.map Turn.record) s' := by
  induction groups generalizing turns s with
  | nil =>
    obtain rfl := List.map_eq_nil_iff.mp hr
    cases hd
    exact ⟨[], rfl, yields_pure ([], []) _⟩
  | cons staged groups ih =>
    obtain ⟨⟨_, reply⟩, rest, rfl, rfl, hrest⟩ := List.map_eq_cons_iff.mp hr
    cases hd with
    | @cons _ t _ _ _ first hd =>
      obtain ⟨created, hk, hy⟩ := ih hd hrest
      rcases Mutation.createGroup_cases first with ⟨group, hg, rfl⟩ | ⟨e, hg, rfl⟩
      · refine ⟨(staged.participantId, group) :: created,
          by simp [hk, Turn.isRefusal, Reply.isRefusal, StagedGroup.creation], ?_⟩
        have ha : Yields (attempt (Registry.createGroup staged.record.group (!staged.isOverwrite))) s
            (.ok group) [] t := yields_attempt hg
        exact ha.bind_silent ((yields_record _ _ _ _).bind (hy.bind_pure rfl))
      · refine ⟨created, by simp [hk, Turn.isRefusal, Reply.isRefusal], ?_⟩
        have ha : Yields (attempt (Registry.createGroup staged.record.group (!staged.isOverwrite))) s
            (.error e) [] t := yields_attempt hg
        exact ha.bind_silent ((yields_record _ _ _ _).bind (hy.bind_pure rfl))

private theorem operation_of_requests {ι : Type} {turns : List Turn} {items : List ι}
    {request : ι → Request} {operation : Operation}
    (h : turns.map Turn.toRequest = items.map request)
    (ho : ∀ i, (request i).mutation.operation = operation) :
    ∀ t ∈ turns, t.mutation.operation = operation := by
  intro t ht
  obtain ⟨i, hi⟩ := Turn.exists_request h ht
  rw [hi, ho]

theorem yields_createChildren {created : List Text} {groups : List StagedGroup} {turns : List Turn}
    {s s' : σ} (hd : Dialogue s turns s')
    (hr : turns.map Turn.toRequest =
      (groups.filter fun g => created.contains g.participantId).flatMap StagedGroup.children) :
    Yields (createChildren created groups) s
      (Turn.changes .mergeEndpoint turns, Turn.changes .upsertRedirect turns)
      (turns.map Turn.record) s' := by
  induction groups generalizing turns s with
  | nil =>
    obtain rfl := List.map_eq_nil_iff.mp hr
    cases hd
    exact yields_pure (0, 0) _
  | cons staged groups ih =>
    rw [List.filter_cons] at hr
    cases hk : created.contains staged.participantId with
    | false =>
      rw [hk] at hr
      rw [createChildren, hk]
      exact ih hd hr
    | true =>
      rw [hk, if_pos rfl, List.flatMap_cons, StagedGroup.children] at hr
      obtain ⟨children, rest, rfl, hchildren, hrest⟩ := List.map_eq_append_iff.mp hr
      obtain ⟨merges, upserts, rfl, hmerges, hupserts⟩ := List.map_eq_append_iff.mp hchildren
      obtain ⟨t', hd, hd''⟩ := hd.of_append
      obtain ⟨t, hd, hd'⟩ := hd.of_append
      have hy := yields_count (fun e => ⟨staged.participantId, .mergeEndpoint e⟩)
        (fun _ _ _ _ h => yields_mutate h) hd hmerges
      have hy' := yields_count (fun r => ⟨staged.participantId, .upsertRedirect r⟩)
        (fun _ _ _ _ h => yields_mutate h) hd' hupserts
      have hm := operation_of_requests hmerges fun _ => rfl
      have hu := operation_of_requests hupserts fun _ => rfl
      rw [createChildren, hk]
      simp only [Turn.changes_append, Turn.changes_of_operation hm,
        Turn.changes_of_operation hu, List.map_append, List.append_assoc]
      exact hy.bind (hy'.bind ((ih hd'' hrest).bind_pure (by simp)))

theorem yields_commit {staged : StagedBatch} {turns : CommitTurns} {s s' : σ}
    (hcarry : turns.CarryOut staged) (hd : Dialogue s turns.all s') :
    ∃ report, turns.Reported staged report ∧
      Yields (commit staged) s report (turns.records staged) s' := by
  obtain ⟨s₄, hd, hd₅⟩ := hd.of_append
  obtain ⟨s₃, hd, hd₄⟩ := hd.of_append
  obtain ⟨s₂, hd, hd₃⟩ := hd.of_append
  obtain ⟨s₁, hd₁, hd₂⟩ := hd.of_append
  have hy₁ := yields_deleteGroups hd₁ hcarry.deletions
  obtain ⟨created, hk, hy₂⟩ := yields_createGroups hd₂ hcarry.creations
  have hk : created.map (·.1) = turns.createdGroups := hk
  have hy₃ := yields_createChildren hd₃ hcarry.children
  have hy₄ := yields_count BusinessCard.deletion
    (fun _ _ _ _ h => yields_deleteCard turns.deletedGroups h) hd₄ hcarry.cardDeletions
  have hy₅ := yields_count BusinessCard.upsert (fun _ _ _ _ h => yields_mutate h) hd₅ hcarry.cards
  rw [← hk] at hy₃
  let retracted := (turns.retracted staged).map (·.participantId)
  refine ⟨⟨turns.deletedGroups, created, turns.failedGroups,
    Turn.changes .mergeEndpoint turns.children, Turn.changes .upsertRedirect turns.children,
    turns.cardDeletions.countP (·.isChange), turns.cards.countP (·.isChange), retracted⟩, ?_, ?_⟩
  · exact ⟨rfl, hk, rfl, rfl, rfl, rfl, rfl, rfl⟩
  · have hret : Yields (retracted.forM fun k => record (some k) .cardRetracted) s₃ ()
        (retracted.map fun k => ⟨.ofText? (some k), .cardRetracted, none⟩) s₃ :=
      yields_forM (fun k => yields_record (some k) .cardRetracted none s₃) retracted
    have hrecords : turns.records staged =
        turns.deletions.map Turn.record ++ (turns.creations.map Turn.record ++
          (turns.children.map Turn.record ++
            (retracted.map (fun k => ⟨.ofText? (some k), .cardRetracted, none⟩) ++
              (turns.cardDeletions.map (Turn.cardRecord turns.deletedGroups) ++
                turns.cards.map Turn.record)))) := by
      simp only [CommitTurns.records, List.map_append, List.append_assoc, List.map_map, retracted]
      rfl
    rw [hrecords]
    exact hy₁.bind (hy₂.bind (hy₃.bind (hret.bind (hy₄.bind (hy₅.then_silent
      ((yields_emit _ s').bind_pure rfl))))))

/-- A commit of requests that are never answered with a fault comes to its end, and is a dialogue that
carries out the staged batch. -/
theorem commit_holds (staged : StagedBatch)
    (hc : ∀ r ∈ staged.requests, r.mutation.Contained σ) (s : σ) :
    ∃ (turns : CommitTurns) (report : CommitReport) (s' : σ), turns.CarryOut staged ∧
      turns.Reported staged report ∧ Dialogue s turns.all s' ∧
      Yields (commit staged) s report (turns.records staged) s' := by
  obtain ⟨turns, s', hcarry, hd⟩ := CommitTurns.exists_of_contained staged hc s
  obtain ⟨report, hreport, hy⟩ := yields_commit hcarry hd
  exact ⟨turns, report, s', hcarry, hreport, hd, hy⟩

/-- Over a registry that answers every mutation or refuses it with a storage error, a commit ends with
a report after exactly the calls that carry out the staged batch. It records each call once and in
order, a retracted card before the card deletions, and a call counts as a success if it changed
something or deleted a card that had gone with its group. -/
theorem commit_traced (hc : ∀ mutation : Mutation, mutation.Contained σ) (staged : StagedBatch)
    (p : Progress (Traced σ)) :
    ∃ (turns : CommitTurns) (report : CommitReport) (q : Progress (Traced σ)),
      commit staged p = (.ok report, q) ∧ turns.CarryOut staged ∧
      Dialogue p.registry.content turns.all q.registry.content ∧
      q.registry.calls = p.registry.calls ++ turns.all.map (·.mutation) ∧
      q.log.records = p.log.records ++ turns.records staged ∧
      (∀ t ∈ turns.deletions ++ turns.creations ++ turns.children ++ turns.cards,
        t.record.severity = if t.isChange then .success else .error) ∧
      (∀ t ∈ turns.cardDeletions, (t.cardRecord turns.deletedGroups).severity =
        if t.isChange || t.isMoot turns.deletedGroups then .success else .error) ∧
      (∀ card ∈ turns.retracted staged, card.retraction.severity = .info) ∧
      turns.Reported staged report := by
  obtain ⟨turns, report, s', hturns, hreport, hd, hy⟩ :=
    commit_holds staged (fun r _ => Traced.contained (hc r.mutation)) p.registry
  obtain ⟨events, hrun⟩ := hy p rfl
  obtain ⟨hcontent, hcalls⟩ := Traced.dialogue_iff.mp hd
  exact ⟨turns, report, _, hrun, hturns, hcontent, hcalls, rfl, fun t _ => t.record_severity,
    fun t _ => t.cardRecord_severity _, fun card _ => card.retraction_severity, hreport⟩

/-- A group that is refused is the only call of its commit; its card is retracted. -/
theorem commit_traced_refused :
    let group : ServiceGroup := ⟨"a", "owner", none⟩
    let staged : StagedBatch :=
      { groups := [⟨⟨group, [], []⟩, .create⟩], businessCards := [⟨"a", []⟩] }
    let p : Progress (Traced Script) := { registry := ⟨⟨[.error (.unavailable "offline")]⟩, []⟩ }
    (∀ mutation : Mutation, mutation.Contained Script) ∧
      ∃ (turns : CommitTurns) (report : CommitReport) (q : Progress (Traced Script)),
        commit staged p = (.ok report, q) ∧ turns.CarryOut staged ∧
        turns.all.map (·.mutation) = [.createGroup group true] ∧
        q.log.records = turns.records staged ∧ report.retractedBusinessCards = ["a"] := by
  intro group staged p
  obtain ⟨turns, report, q, hrun, hcarry, -, hcalls, hrecords, -⟩ :=
    commit_traced Script.contained staged p
  obtain ⟨hreport, hq⟩ := Prod.mk.inj hrun
  refine ⟨Script.contained, turns, report, q, hrun, hcarry, ?_, hrecords, ?_⟩
  · have h : q.registry.calls = [.createGroup group true] := hq ▸ rfl
    rwa [hcalls] at h
  · injection hreport with hreport
    exact hreport ▸ rfl

end Run

end ParticipantRegistry
