import Mathlib.Data.Set.Basic
import ParticipantRegistry.Proofs.Exchange.Recovery

/-!
# Failures that stay with their participants

What goes wrong for some participants of an import does not show for any other. A dialogue with a store
is, for the participants that nothing goes wrong for, a dialogue with any store that holds the same of
them. So an import in which operations fail for some participants, or change nothing, does to the others
what an import does in which nothing goes wrong, and records the same about them.
-/

namespace ParticipantRegistry

namespace Store

/-- Two stores hold the same of the participants with a property, and the same goes wrong for them. -/
structure AgreesOn (p : Text → Bool) (s t : Store) : Prop where
  holding : ∀ participantId, p participantId = true →
    s.holding participantId = t.holding participantId
  hindrance : ∀ participantId, p participantId = true →
    s.hindrance participantId = t.hindrance participantId

namespace AgreesOn

variable {p : Text → Bool} {s t u : Store}

theorem refl (p : Text → Bool) (s : Store) : AgreesOn p s s := ⟨fun _ _ => rfl, fun _ _ => rfl⟩

theorem symm (h : AgreesOn p s t) : AgreesOn p t s :=
  ⟨fun k hk => (h.holding k hk).symm, fun k hk => (h.hindrance k hk).symm⟩

theorem trans (h : AgreesOn p s t) (h' : AgreesOn p t u) : AgreesOn p s u :=
  ⟨fun k hk => (h.holding k hk).trans (h'.holding k hk),
    fun k hk => (h.hindrance k hk).trans (h'.hindrance k hk)⟩

theorem carryOut_left (h : AgreesOn p s t) {mutation : Mutation}
    (hm : p mutation.participantId = false) : AgreesOn p (mutation.carryOut s) t := by
  refine ⟨fun k hk => ?_, fun k hk => ?_⟩
  · have hne : mutation.participantId ≠ k := by
      rintro rfl
      rw [hm] at hk
      cases hk
    rw [carryOut_holding, if_neg hne, h.holding k hk]
  · rw [hindrance_of_bare (carryOut_bare mutation s), h.hindrance k hk]

theorem carryOut (h : AgreesOn p s t) (mutation : Mutation) :
    AgreesOn p (mutation.carryOut s) (mutation.carryOut t) := by
  refine ⟨fun k hk => ?_, fun k hk => ?_⟩
  · rw [carryOut_holding, carryOut_holding, h.holding k hk]
  · rw [hindrance_of_bare (carryOut_bare mutation s), hindrance_of_bare (carryOut_bare mutation t),
      h.hindrance k hk]

end AgreesOn

theorem reply_eq {s s' : Store} {turn : Turn} (hc : turn.mutation.check = .ok ())
    (h : turn.mutation.perform s = (turn.reply.mapError .storage, s')) :
    turn.reply = turn.mutation.answer (s.hindrance turn.mutation.participantId)
        (s.holding turn.mutation.participantId) ∧
      s' = if turn.isChange then turn.mutation.carryOut s else s := by
  rw [perform_eq turn.mutation s hc] at h
  obtain ⟨hreply, rfl⟩ := Prod.mk.inj h
  have hreply := Reply.eq_of_mapError hreply
  exact ⟨hreply.symm, by rw [hreply, Turn.isChange]⟩

/-- Stores that agree on some participants reply alike to what is asked on behalf of them, whatever is
asked of one of them on behalf of others. -/
theorem dialogue_restrict {p : Text → Bool} {s s' t : Store} {turns : List Turn}
    (hd : Dialogue s turns s') (hc : ∀ turn ∈ turns, turn.mutation.check = .ok ())
    (h : AgreesOn p s t) :
    ∃ t', Dialogue t (turns.filter fun turn => p turn.mutation.participantId) t' ∧
      AgreesOn p s' t' := by
  induction hd generalizing t with
  | nil s => exact ⟨t, .nil t, h⟩
  | @cons s s₁ s' turn turns first rest ih =>
    obtain ⟨hcheck, hchecks⟩ := List.forall_mem_cons.mp hc
    obtain ⟨hreply, rfl⟩ := reply_eq hcheck first
    rw [List.filter_cons]
    cases hp : p turn.mutation.participantId with
    | false =>
      have hsame : AgreesOn p (if turn.isChange then turn.mutation.carryOut s else s) t := by
        split
        · exact h.carryOut_left hp
        · exact h
      exact ih hchecks hsame
    | true =>
      have hperform : turn.mutation.perform t = (turn.reply.mapError .storage,
          if turn.isChange then turn.mutation.carryOut t else t) := by
        rw [perform_eq turn.mutation t hcheck, ← h.holding _ hp, ← h.hindrance _ hp, ← hreply]
        rfl
      have hsame : AgreesOn p (if turn.isChange then turn.mutation.carryOut s else s)
          (if turn.isChange then turn.mutation.carryOut t else t) := by
        split
        · exact h.carryOut turn.mutation
        · exact h
      obtain ⟨t', hrest, h'⟩ := ih hchecks hsame
      exact ⟨t', .cons hperform hrest, h'⟩

theorem agreesOn_hindered {F : Set Text} [DecidablePred (· ∈ F)] {failing unchanging : List Trial}
    (h : ∀ trial ∈ failing ++ unchanging, trial.participantId ∈ F) (s : Store) :
    AgreesOn (fun k => decide (k ∉ F)) (s.hindered [] []) (s.hindered failing unchanging) := by
  refine ⟨fun _ _ => rfl, fun k hk => ?_⟩
  have hcontains (trials : List Trial) (ht : ∀ trial ∈ trials, trial.participantId ∈ F)
      (operation : Operation) : trials.contains ⟨operation, k⟩ = false := by
    rw [← Bool.not_eq_true, List.contains_iff_mem]
    intro hmem
    exact of_decide_eq_true hk (ht _ hmem)
  obtain ⟨hfailing, hunchanging⟩ := List.forall_mem_append.mp h
  rw [hindrance, hindrance, hindered, hindered]
  congr 1
  · funext operation
    exact (hcontains failing hfailing operation).symm
  · funext operation
    exact (hcontains unchanging hunchanging operation).symm

end Store

theorem CommitTurns.CarryOut.agree_of_restrict {p : Text → Bool} {turns turns' : CommitTurns}
    {staged staged' : StagedBatch} {s s' t t' : Store} (hw : staged.WellFormed)
    (hw' : staged'.WellFormed) (hstaged : staged.restrict p = staged'.restrict p)
    (h : turns.CarryOut staged) (h' : turns'.CarryOut staged') (hd : Dialogue s turns.all s')
    (hd' : Dialogue t turns'.all t') (ha : s.AgreesOn p t) :
    turns.restrict p = turns'.restrict p ∧ s'.AgreesOn p t' := by
  -- Both dialogues are followed on the one store, with nothing but the turns for the participants.
  have hrestrict {turns : CommitTurns} {staged : StagedBatch} {u u' : Store}
      (hw : staged.WellFormed) (h : turns.CarryOut staged) (hd : Dialogue u turns.all u')
      (ha : u.AgreesOn p s) :
      ∃ v, Dialogue s (turns.restrict p).all v ∧ u'.AgreesOn p v := by
    have hrequests : ∀ turn ∈ turns.all, turn.mutation.participantId = turn.participantId ∧
        turn.mutation.check = .ok () :=
      fun turn ht => hw.requests turn.toRequest (h.mem_requests turn ht)
    have hfilter : (turns.restrict p).all =
        turns.all.filter fun turn => p turn.mutation.participantId := by
      rw [CommitTurns.all_restrict]
      apply List.filter_congr
      intro turn ht
      rw [(hrequests turn ht).1]
    rw [hfilter]
    exact Store.dialogue_restrict hd (fun turn ht => (hrequests turn ht).2) ha
  obtain ⟨v, hv, hsame⟩ := hrestrict hw h hd (.refl p s)
  obtain ⟨v', hv', hsame'⟩ := hrestrict hw' h' hd' ha.symm
  have hcarry := h.restrict p
  rw [hstaged] at hcarry
  obtain ⟨hturns, rfl⟩ := hcarry.unique (h'.restrict p) hv hv'
  exact ⟨hturns, hsame.trans hsame'.symm⟩

theorem CommitTurns.CarryOut.agree {p : Text → Bool} {turns turns' : CommitTurns}
    {staged : StagedBatch} {s s' t t' : Store} (hw : staged.WellFormed) (h : turns.CarryOut staged)
    (h' : turns'.CarryOut staged) (hd : Dialogue s turns.all s') (hd' : Dialogue t turns'.all t')
    (ha : s.AgreesOn p t) : turns.restrict p = turns'.restrict p ∧ s'.AgreesOn p t' :=
  h.agree_of_restrict hw hw rfl h' hd hd' ha

def Store.importing (request : ImportRequest) (batch : ParsedBatch) (correlationId : Json)
    (s : Store) : ImportTask Store where
  batch
  request
  reader := Document.elementReader
  start := { registry := s, log := .named correlationId }

/-- An import in which operations fail or change nothing for some participants comes to its end as one
does in which nothing goes wrong. Both leave the same of every other participant, and both record the
same about the others and about none. -/
theorem failures_contained (s : Store) (request : ImportRequest) (batch : ParsedBatch)
    (F : Set Text) [DecidablePred (· ∈ F)] (failing unchanging : List Trial)
    (h : ∀ trial ∈ failing ++ unchanging, trial.participantId ∈ F)
    (correlationId correlationId' : Json) :
    let isOutside := ActionRecord.concerns fun participantId => decide (participantId ∉ F)
    ∃ q q' : Progress Store,
      ((s.hindered [] []).importing request batch correlationId).run = (.ok (), q) ∧
      ((s.hindered failing unchanging).importing request batch correlationId').run = (.ok (), q') ∧
      (∀ participantId ∉ F, q.registry.holding participantId = q'.registry.holding participantId) ∧
      q.log.records.filter isOutside = q'.log.records.filter isOutside := by
  intro isOutside
  have ha := s.agreesOn_hindered h
  obtain ⟨r, q, -, hr, himport, hhalted, hproceeds⟩ := Store.shows.import_ends request batch
    ((s.hindered [] []).importing request batch correlationId).start
  obtain ⟨r', q', -, hr', himport', hhalted', hproceeds'⟩ := Store.shows.import_ends request batch
    ((s.hindered failing unchanging).importing request batch correlationId').start
  -- What is staged does not depend on what goes wrong afterwards.
  have hrecords : r.log.records = r'.log.records := hr.trans hr'.symm
  have hagree : q.registry.AgreesOn (fun k => decide (k ∉ F)) q'.registry ∧
      q.log.records.filter isOutside = q'.log.records.filter isOutside := by
    by_cases houtcome : PlanOutcome.decide (s.stage request batch).1
        (([] ++ (s.stage request batch).2).any ActionRecord.isError) = .proceed
    · obtain ⟨turns, hcarry, hd, hlog⟩ := hproceeds houtcome
      obtain ⟨turns', hcarry', hd', hlog'⟩ := hproceeds' houtcome
      have hw := s.stage_wellFormed request batch
      obtain ⟨hturns, hsame⟩ := CommitTurns.CarryOut.agree hw hcarry hcarry' hd hd' ha
      refine ⟨hsame, ?_⟩
      have hcommit := CommitTurns.records_restrict (fun k => decide (k ∉ F)) turns
        (s.stage request batch).1
      rw [hturns, CommitTurns.records_restrict] at hcommit
      rw [hlog, hlog', hrecords, List.filter_append, List.filter_append]
      exact congrArg (r'.log.records.filter isOutside ++ ·) hcommit.symm
    · obtain ⟨hregistry, hlog⟩ := hhalted houtcome
      obtain ⟨hregistry', hlog'⟩ := hhalted' houtcome
      rw [hregistry, hregistry', hlog, hlog', hrecords]
      exact ⟨ha, rfl⟩
  exact ⟨q, q', himport, himport', fun k hk => hagree.1.holding k (decide_eq_true hk), hagree.2⟩

/-- A group that cannot be created again is missing afterwards, and nothing else is. -/
theorem failures_contained_uncreated :
    let s : Store := { users := [⟨"u", "U"⟩], groups := [⟨"a", "u", none⟩, ⟨"b", "u", none⟩] }
    let element (k : Text) : Json :=
      .object [("participant_id", .string k), ("owner_id", .string "u")]
    let batch : ParsedBatch := ⟨[element "a", element "b"], []⟩
    let request := s.replacing ⟨"admin", "Admin"⟩
    let failing : List Trial := [⟨.createGroup, "a"⟩]
    (∀ trial ∈ failing ++ [], trial.participantId ∈ {k : Text | k = "a"}) ∧
      ∃ q q' : Progress Store,
        ((s.hindered [] []).importing request batch .null).run = (.ok (), q) ∧
        ((s.hindered failing []).importing request batch .null).run = (.ok (), q') ∧
        q'.registry.groups = [⟨"b", "u", none⟩] ∧
        q.registry.holding "b" = q'.registry.holding "b" := by
  intro s element batch request failing
  have hF : ∀ trial ∈ failing ++ [], trial.participantId ∈ {k : Text | k = "a"} := by
    simp [failing]
  obtain ⟨q, q', himport, himport', hsame, -⟩ :=
    failures_contained s request batch {k : Text | k = "a"} failing [] hF .null .null
  have hb : ("b" : Text) ∉ {k : Text | k = "a"} := by decide
  refine ⟨hF, q, q', himport, himport', ?_, hsame "b" hb⟩
  have hq' : q' = _ := (Prod.mk.inj himport').2.symm
  rw [hq']
  decide +kernel

end ParticipantRegistry
