import ParticipantRegistry.Proofs.Application.HostExchange
import ParticipantRegistry.Proofs.Application.UnitsHeld

/-!
# The life cycle of units of work

Steps are made one after the other, whatever comes of each. The repositories of a unit of work are
reachable from the time it is entered until it is exited; an exit that fails has not given them up. A unit
works on the engine that was managed when it was made, whatever is started or shut down since, and no
failure that is raised in a unit ends with it.
-/

namespace ParticipantRegistry

namespace LifeTurn

def EnteredIn (unit : Nat) (turns : List LifeTurn) : Prop :=
  ∃ earlier turn later, turns = earlier ++ turn :: later ∧ turn.Enters unit ∧
    ∀ t ∈ later, ¬t.Exits unit

theorem not_enteredIn_nil (unit : Nat) : ¬EnteredIn unit [] := by
  rintro ⟨earlier, turn, later, h, -⟩
  simp at h

theorem enteredIn_concat {unit : Nat} {turns : List LifeTurn} {turn : LifeTurn} :
    EnteredIn unit (turns ++ [turn]) ↔ turn.Enters unit ∨ EnteredIn unit turns ∧ ¬turn.Exits unit := by
  constructor
  · rintro ⟨earlier, entering, later, h, henters, hlater⟩
    -- the last turn is the one that entered, or it comes after it
    cases later using List.reverseRecOn with
    | nil =>
      have hlast := (List.append_inj' h rfl).2
      rw [List.singleton_inj.mp hlast]
      exact .inl henters
    | append_singleton later last _ =>
      have hturns : turns ++ [turn] = (earlier ++ entering :: later) ++ [last] := by
        rw [h, List.append_assoc, List.cons_append]
      obtain ⟨hturns, hlast⟩ := List.append_inj' hturns rfl
      rw [List.singleton_inj.mp hlast]
      have hexits : ¬last.Exits unit := hlater _ (List.mem_append_right _ List.mem_cons_self)
      refine .inr ⟨⟨earlier, entering, later, hturns, henters, ?_⟩, hexits⟩
      intro t ht
      exact hlater t (List.mem_append_left _ ht)
  · rintro (henters | ⟨⟨earlier, entering, later, rfl, henters, hlater⟩, hlast⟩)
    · exact ⟨turns, turn, [], rfl, henters, fun _ ht => absurd ht List.not_mem_nil⟩
    · refine ⟨earlier, entering, later ++ [turn], by simp, henters, ?_⟩
      intro t ht
      rcases List.mem_append.mp ht with ht | ht
      · exact hlater t ht
      · rw [List.mem_singleton.mp ht]
        exact hlast

end LifeTurn

namespace Site

variable {unit engine : Nat} {steps : List LifeStep} {d : Desk Site}

theorem performAll_concat (steps : List LifeStep) (step : LifeStep) (d : Desk Site) :
    performAll (steps ++ [step]) d =
      ((performAll steps d).1 ++ [⟨step, (perform step (performAll steps d).2).1⟩],
        (perform step (performAll steps d).2).2) := by
  induction steps generalizing d with
  | nil => rfl
  | cons first steps ih =>
    simp only [List.cons_append, performAll, ih]
    rfl

theorem performAll_induction {P : List LifeTurn → Site → Prop} (steps : List LifeStep)
    (hfirst : P [] d.content)
    (hstep : ∀ turns s s' answer, ∀ step ∈ steps, Does s step answer s' → P turns s →
      P (turns ++ [⟨step, answer⟩]) s') :
    P (performAll steps d).1 (performAll steps d).2.content := by
  induction steps using List.reverseRecOn with
  | nil => exact hfirst
  | append_singleton steps step ih =>
    rw [performAll_concat]
    refine hstep _ _ _ _ step (List.mem_append_right _ List.mem_cons_self) (perform_does _ _) (ih ?_)
    intro turns s s' answer step hmem
    exact hstep turns s s' answer step (List.mem_append_left _ hmem)

/-- A unit of work stays on its engine, whatever is started, shut down or done. -/
theorem performAll_engine {held : Holder} (steps : List LifeStep)
    (hfound : d.content.holders[unit]? = some held) :
    ∃ held', (performAll steps d).2.content.holders[unit]? = some held' ∧
      held'.unit.engine = held.unit.engine := by
  refine performAll_induction (P := fun _ s => ∃ held', s.holders[unit]? = some held' ∧
    held'.unit.engine = held.unit.engine) steps ⟨held, hfound, rfl⟩ ?_
  rintro turns s s' answer step - hdoes ⟨held', hfound', hengine⟩
  obtain ⟨last, hlast, hsame, -⟩ := hdoes.keeps_unit hfound'
  exact ⟨last, hlast, hsame.trans hengine⟩

/-- Work in a unit of work is done in a session over the engine, and leaves all that other engines lead
to. -/
def WorksOn (engine unit : Nat) (d : Desk Site) : Prop :=
  ∃ held, d.content.holders[unit]? = some held ∧ held.unit.engine = engine ∧
    ∀ session, held.unit.session = some session → ∀ task : Task Session Unit,
      (work unit task d).1 = (task ⟨held.unit.sessionOn session d.content.host.databases, d.journal⟩).1 ∧
      Databases.Through engine d.content.host.databases (work unit task d).2.content.host.databases

theorem worksOn_of_found {held : Holder} (hfound : d.content.holders[unit]? = some held) :
    WorksOn held.unit.engine unit d := by
  refine ⟨held, hfound, rfl, fun session hsession task => ?_⟩
  obtain ⟨session', d', hdone, hthrough, -⟩ := work_some hfound hsession task
  rw [hdone]
  exact ⟨rfl, hthrough⟩

structure InOrder (turns : List LifeTurn) (s : Site) : Prop where
  /-- The factory is absent or made for the managed engine. -/
  factory : ∀ engine, s.adapter.factory = some engine → s.adapter.managed = some engine
  repositories : ∀ unit, s.repositoriesOf unit = s.sessionOf unit
  reachable : ∀ unit, (s.repositoriesOf unit).isSome = true ↔ LifeTurn.EnteredIn unit turns

structure StepsInOrder (d : Desk Site) : Prop where
  failed : ∀ step failure, (perform step d).1 = .error failure →
    (perform step d).2.content.adapter.managed = d.content.adapter.managed ∧
    ∀ unit, (perform step d).2.content.sessionOf unit = d.content.sessionOf unit ∧
      (perform step d).2.content.repositoriesOf unit = d.content.repositoriesOf unit
  /-- A unit of work that cannot be entered, as it is entered, stays as it is. -/
  refused : ∀ unit failure, (perform (.enter unit) d).1 = .error failure →
    (perform (.enter unit) d).2.content.holders = d.content.holders
  others : ∀ step unit held, ¬step.IsOf unit → d.content.holders[unit]? = some held →
    (perform step d).2.content.holders[unit]? = some held
  managed : ∀ step, (∀ target force, step ≠ .start target force) → step ≠ .stop →
    (perform step d).2.content.adapter.managed = d.content.adapter.managed
  /-- An engine that is managed is replaced only by force. -/
  started : ∀ target force, (perform (.start target force) d).1 = .ok .done →
    (d.content.adapter.managed = none ∨ force = true) ∧
    ∃ engine, (perform (.start target force) d).2.content.adapter.managed = some engine ∧
      ∀ number, target = .engine number → engine = number
  stopped : (perform .stop d).2.content.adapter.managed = none
  /-- A unit of work is made while an engine is managed, and stays on it. -/
  constructed : ∀ directoryIntegration, match d.content.adapter.managed with
    | none => (perform (.construct directoryIntegration) d).1 = .error (.startup .notStarted)
    | some engine => (perform (.construct directoryIntegration) d).1 = .ok .done ∧
      ∀ later, WorksOn engine d.content.holders.length
        (performAll later (perform (.construct directoryIntegration) d).2).2
  /-- No failure ends at an exit, nor at the end of a unit of work as a whole. -/
  exited : ∀ unit raised swallows,
    (perform (.exit unit raised) d).1 = .ok (.exited swallows) → swallows = false
  within : ∀ (unit : WorkUnit) (task : Task Session Unit),
    (Host.within unit task ⟨d.content.host, d.journal⟩).1 = .ok () → unit.session = none ∧
      (task ⟨unit.sessionOn {} d.content.host.databases, d.journal⟩).1 = .ok ()

theorem Does.constructed_at {s s' : Site} {directoryIntegration : Bool}
    {answer : Except Failure LifeReply} (hd : s.Does (.construct directoryIntegration) answer s')
    (h : s.Coherent) :
    match s.adapter.managed with
    | none => answer = .error (.startup .notStarted)
    | some engine => answer = .ok .done ∧
      ∃ held, s'.holders[s.holders.length]? = some held ∧ held.unit.engine = engine := by
  cases hd with
  | notConstructed managed => rw [managed]
  | constructed found _ _ holders =>
    rw [found, holders]
    exact ⟨rfl, _, List.getElem?_concat_length, h.getD_factory found⟩

theorem Coherent.stepsInOrder (h : d.content.Coherent) : StepsInOrder d where
  failed step failure hfailed := by
    have hdoes := perform_does step d
    rw [hfailed] at hdoes
    exact hdoes.failed
  refused unit failure hfailed := by
    have hdoes := perform_does (.enter unit) d
    rw [hfailed] at hdoes
    generalize hanswer : (.error failure : Except Failure LifeReply) = answer at hdoes
    cases hdoes with
    | notEntered _ _ holders => exact holders
    | entered => cases hanswer
  others step unit held hstep hfound := by
    obtain ⟨held', hfound', -, hsame⟩ := (perform_does step d).keeps_unit hfound
    rw [hfound', hsame hstep]
  managed step hstart hstop := (perform_does step d).managed hstart hstop
  started target force hdone := by
    have hdoes := perform_does (.start target force) d
    rw [hdone] at hdoes
    generalize hanswer : (.ok .done : Except Failure LifeReply) = answer at hdoes
    cases hdoes with
    | refused => cases hanswer
    | started allowed managed _ number => exact ⟨allowed, _, managed, number⟩
  stopped := by
    cases perform_does .stop d with
    | stopped managed => exact managed
  constructed directoryIntegration := by
    have hmade := (perform_does (.construct directoryIntegration) d).constructed_at h
    split <;> rename_i hmanaged <;> rw [hmanaged] at hmade
    · exact hmade
    · obtain ⟨hdone, held, hfound, rfl⟩ := hmade
      refine ⟨hdone, fun later => ?_⟩
      obtain ⟨held', hfound', hengine⟩ := performAll_engine later hfound
      exact hengine ▸ worksOn_of_found hfound'
  exited unit raised swallows hexit := by
    have hdoes := perform_does (.exit unit raised) d
    rw [hexit] at hdoes
    cases hdoes
    rfl
  within unit task hdone := by
    cases hnew : unit.session with
    | some session =>
      rw [Host.within, Task.bind_apply, WorkUnit.enter, hnew] at hdone
      cases hdone
    | none =>
      obtain ⟨left, hanswer⟩ := Host.within_answer (h := d.content.host) unit hnew task d.journal
      rw [hdone] at hanswer
      cases left with
      | ok _ => exact ⟨rfl, hanswer.symm⟩
      | error _ => cases hanswer

/-- Units of work that nothing was done in: whatever fails changes nothing about them, and those that
were entered can be exited. -/
structure LeftInOrder (d : Desk Site) : Prop where
  failed : ∀ step failure, ¬step.IsWork → (perform step d).1 = .error failure →
    (perform step d).2.content.holders = d.content.holders
  exit : ∀ unit raised, (∃ failure, (perform (.exit unit raised) d).1 = .error failure) ↔
    d.content.repositoriesOf unit = none

theorem Coherent.leftInOrder (h : d.content.Coherent) (hidle : d.content.Idle) : LeftInOrder d where
  failed step failure hstep hfailed := by
    have hdoes := perform_does step d
    rw [hfailed] at hdoes
    exact hdoes.holders_of_failed hstep hidle
  exit unit raised := (perform_does (.exit unit raised) d).exit_failed h hidle

theorem fresh_coherent (surroundings : Surroundings) (disk : Disk) :
    (fresh surroundings disk).Coherent where
  factory _ h := by cases h
  holders _ h := absurd h List.not_mem_nil

theorem performAll_coherent (steps : List LifeStep) (h : d.content.Coherent) :
    (performAll steps d).2.content.Coherent :=
  performAll_induction (P := fun _ s => s.Coherent) steps h
    fun _ _ _ _ _ _ hdoes hbefore => hdoes.coherent hbefore

theorem performAll_idle (steps : List LifeStep) (hsteps : ∀ step ∈ steps, ¬step.IsWork)
    (h : d.content.Idle) : (performAll steps d).2.content.Idle :=
  performAll_induction (P := fun _ s => s.Idle) steps h
    fun _ _ _ _ step hmem hdoes hbefore => hdoes.idle (hsteps step hmem) hbefore

theorem performAll_reachable (steps : List LifeStep) (h : d.content.holders = []) (unit : Nat) :
    ((performAll steps d).2.content.repositoriesOf unit).isSome = true ↔
      LifeTurn.EnteredIn unit (performAll steps d).1 := by
  refine performAll_induction (P := fun turns s =>
    (s.repositoriesOf unit).isSome = true ↔ LifeTurn.EnteredIn unit turns) steps ?_ ?_
  · rw [repositoriesOf, h]
    exact iff_of_false Bool.false_ne_true (LifeTurn.not_enteredIn_nil unit)
  · intro turns s s' answer step _ hdoes hbefore
    rw [hdoes.reaches, LifeTurn.enteredIn_concat, hbefore]

/-- Whatever steps are made from the start, and whichever of them fail. -/
theorem life_cycle (surroundings : Surroundings) (disk : Disk) (journal : List Occurrence)
    (steps : List LifeStep) :
    let (turns, d) := performAll steps ⟨fresh surroundings disk, journal⟩
    InOrder turns d.content ∧ StepsInOrder d ∧
      ((∀ step ∈ steps, ¬step.IsWork) → LeftInOrder d) := by
  have hcoherent := performAll_coherent (d := ⟨_, journal⟩) steps (fresh_coherent surroundings disk)
  refine ⟨⟨hcoherent.factory, hcoherent.repositoriesOf_eq, ?_⟩, hcoherent.stepsInOrder, ?_⟩
  · exact performAll_reachable steps rfl
  · intro hsteps
    refine hcoherent.leftInOrder (performAll_idle steps hsteps ?_)
    exact fun _ h => absurd h List.not_mem_nil

/-- A unit of work outlives its engine: it stays entered when another engine is managed. -/
example (surroundings : Surroundings) (disk : Disk) :
    let engine : Engine := .memory (.holding {}) 0
    let d := (performAll [.make engine, .make engine, .start (.engine 0) false, .construct true, .enter 0,
      .start (.engine 1) true] ⟨fresh surroundings disk, []⟩).2
    d.content.repositoriesOf 0 = some 0 ∧ d.content.adapter.managed = some 1 := by
  exact ⟨rfl, rfl⟩

end Site

end ParticipantRegistry
