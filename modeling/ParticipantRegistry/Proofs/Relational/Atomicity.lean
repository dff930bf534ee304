import ParticipantRegistry.Proofs.Relational.AddedUsers

/-!
# Mutations that happen as a whole or not at all

A mutation that fails leaves every table as it was, wherever in its work it was stopped: by a table
that is missing, by a database that refuses changes, or by the registrar. As the registrar is told last,
what it has carried out is what lasts: it has registered a group if the call that was to do so has
returned, and deregistered one if that call has told of a deletion.
-/

namespace ParticipantRegistry

namespace Session

variable {s s' : Session} {mutation : Mutation}

def Tells (s s' : Session) (told : List Registration) : Prop := s'.registrar = (s.telling told).registrar

theorem tells_nil (h : s'.registrar = s.registrar) : s.Tells s' [] := by
  rw [Tells, telling_nil]
  exact h

theorem registrar_touched (s : Session) : s.touched.registrar = s.registrar := by
  rw [touched]
  split
  · split <;> rfl
  · rfl

theorem Ends.tells {changed : Bool} (h : s.Ends mutation changed s') :
    s.Tells s' (if changed then mutation.announcements else []) := by
  cases h with
  | idle => exact tells_nil rfl
  | done => rfl

theorem Settled.keeps_touched (h : s.Settled) : s.Keeps s.touched := by
  refine ⟨h.touched, ?_⟩
  rw [Session.touched]
  split
  · split <;> rfl
  · rfl

/-- How a mutation ends on a session that has nothing to do or undo: it returns, or what is stored and
the registrar are as they were. -/
inductive Concludes (s : Session) (mutation : Mutation) : Except CallError Json × Session → Prop
  | returned {answer : Json} {s' : Session} {changed : Bool} (ends : s.Ends mutation changed s')
      (deleted : ∀ participantId deprovision, mutation = .deleteGroup participantId deprovision →
        answer = .bool changed)
      (created : ∀ group register, mutation = .createGroup group register → changed = true) :
      Concludes s mutation (.ok answer, s')
  | failed {e : CallError} {s' : Session} (kept : s.Keeps s') (untold : s.Tells s' []) :
      Concludes s mutation (.error e, s')

theorem concludes_answer (hs : s.Settled) (mutation : Mutation) :
    s.Concludes mutation ((Invocation.mutate mutation).answer s) := by
  have hconcluded := concluded_mutation mutation hs
  change s.Concludes mutation (Invocation.answerMutation mutation s)
  cases hanswer : Invocation.answerMutation mutation s with
  | mk outcome s' =>
    rw [hanswer] at hconcluded
    cases hconcluded with
    | made settled =>
      obtain ⟨changed, hends, hdeleted, hcreated⟩ := answerMutation_ok hs.pending hanswer
      exact .returned hends hdeleted hcreated
    | rejected => exact .failed (keeps_rolledBack hs.storage) (tells_nil rfl)
    | faulted => exact .failed hs.keeps_touched (tells_nil (registrar_touched s))
    | unencoded => exact .failed (keeps_rolledBack hs.storage).failed (tells_nil rfl)

/-- The registrar has registered a participant during the call if this was to create and register its
group and has returned, and it has deregistered one if the call was to delete and deregister its group
and has told that it did. -/
theorem Concludes.exists_told {outcome : Except CallError Json}
    (h : s.Concludes mutation (outcome, s')) : ∃ told, s.Tells s' told ∧ ∀ participantId,
      (.register participantId ∈ told ↔
        (∃ group, mutation = .createGroup group true ∧ group.participantId = participantId) ∧
          ∃ answer, outcome = .ok answer) ∧
      (.deregister participantId ∈ told ↔
        mutation = .deleteGroup participantId true ∧ outcome = .ok (.bool true)) := by
  cases h with
  | failed _ untold => exact ⟨[], untold, fun _ => by simp⟩
  | @returned answer _ changed ends deleted created =>
    refine ⟨_, ends.tells, fun participantId => ?_⟩
    cases changed with
    | true =>
      rw [if_pos rfl, Mutation.register_mem_announcements, Mutation.deregister_mem_announcements]
      refine ⟨⟨fun hm => ⟨hm, answer, rfl⟩, fun hm => hm.1⟩, ⟨fun hm => ⟨hm, ?_⟩, fun hm => hm.1⟩⟩
      rw [deleted participantId true hm]
    | false =>
      rw [if_neg Bool.false_ne_true]
      refine ⟨⟨nofun, fun hm => ?_⟩, ⟨nofun, fun hm => ?_⟩⟩
      · obtain ⟨⟨group, hgroup, -⟩, -⟩ := hm
        exact absurd (created group true hgroup) Bool.false_ne_true
      · obtain ⟨hdelete, hanswer⟩ := hm
        rw [deleted participantId true hdelete] at hanswer
        cases hanswer

/-- A mutation that fails leaves every table as it was, so that after an error of storage the next calls
are answered as if it had not been made; and what the registrar has carried out during a call is what
the call has made for good. -/
theorem mutation_atomic (s : Session) (hs : s.Settled) (mutation : Mutation) :
    let outcome := ((Invocation.mutate mutation).answer s).1
    let s' := ((Invocation.mutate mutation).answer s).2
    (∀ e, outcome = .error e → s'.storage = s.storage) ∧
    (∀ e, outcome = .error (.storage e) → s'.isUsable = true ∧
      (s.isUsable = true → s.isCutOff = false → ∀ later, s'.answers later = s.answers later)) ∧
    (s.registrar = none → s'.registrar = none) ∧
    ∀ registrar, s.registrar = some registrar → ∃ told,
      s'.registrar = some { registrar with done := registrar.done ++ told } ∧
      ∀ participantId,
        (.register participantId ∈ told ↔
          (∃ group, mutation = .createGroup group true ∧ group.participantId = participantId) ∧
            ∃ answer, outcome = .ok answer) ∧
        (.deregister participantId ∈ told ↔
          mutation = .deleteGroup participantId true ∧ outcome = .ok (.bool true)) := by
  intro outcome s'
  have hanswer : (Invocation.mutate mutation).answer s = (outcome, s') := rfl
  have hconcludes := concludes_answer hs mutation
  rw [hanswer] at hconcludes
  obtain ⟨told, htold, hiff⟩ := hconcludes.exists_told
  refine ⟨fun e he => ?_, fun e he => ?_, fun hr => ?_, fun registrar hr => ⟨told, ?_, hiff⟩⟩
  · rw [he] at hconcludes
    cases hconcludes with
    | failed kept => exact kept.storage
  · rw [he] at hanswer
    obtain ⟨-, hrolledBack⟩ := (answer_failed hs hanswer).storage e rfl
    rw [hrolledBack]
    exact ⟨rfl, fun hu hc => answers_rolledBack hs hu hc⟩
  · rw [htold, telling_of_none hr, hr]
  · rw [htold, telling, hr]
    rfl

/-- The table of cards is missed after endpoints and redirects were deleted. -/
theorem mutation_atomic_without_cards :
    let endpoint : Endpoint := ⟨"a", "invoice", "billing", "as4", "https://a", none, none, none, none⟩
    let db : Database := { Database.fresh with
      users := some [⟨"u", "U"⟩]
      groups := some [⟨"a", "u", none⟩]
      endpoints := some [endpoint] }
    let s : Session := { storage := .holding (db.drop .businessCards), registrar := some {} }
    let result := (Invocation.mutate (.deleteGroup "a" true)).answer s
    s.Settled ∧ (∃ e, result.1 = .error (.storage e)) ∧ result.2.storage = s.storage ∧
      result.2.registrar = some {} ∧ ∀ later, result.2.answers later = s.answers later := by
  intro endpoint db s result
  have hs : s.Settled := ⟨rfl, rfl⟩
  have hfailed : result.1 =
    .error (.storage (.statement ("Deleting service group " ++ "a") .missingTable)) := rfl
  obtain ⟨hstorage, hlater, -, -⟩ := mutation_atomic s hs (.deleteGroup "a" true)
  refine ⟨hs, ⟨_, hfailed⟩, hstorage _ hfailed, ?_, (hlater _ hfailed).2 rfl rfl⟩
  rfl

end Session

end ParticipantRegistry
