import ParticipantRegistry.Proofs.Application.LifeSteps

/-!
# What units of work hold

A step leaves all units of work, each on its engine, and those that it is not asked of as they were. A
step that fails leaves the managed engine, and to every unit its session and repositories. The factory is
absent or made for the managed engine, so a unit is made for the engine that is managed. Repositories
become reachable by entering a unit and go out of reach by exiting it.
-/

namespace ParticipantRegistry

namespace LifeStep

def IsOf (unit : Nat) : LifeStep → Prop
  | .enter u => u = unit
  | .work u _ => u = unit
  | .exit u _ => u = unit
  | _ => False

def IsWork : LifeStep → Prop
  | .work _ _ => True
  | _ => False

end LifeStep

namespace LifeTurn

def Enters (unit : Nat) : LifeTurn → Prop
  | ⟨.enter entered, .ok _⟩ => entered = unit
  | _ => False

/-- The unit of work was exited; an exit that failed does not count. -/
def Exits (unit : Nat) : LifeTurn → Prop
  | ⟨.exit exited _, .ok _⟩ => exited = unit
  | _ => False

end LifeTurn

/-- The session of a unit of work and its repositories come and go together. -/
structure Holder.Coherent (holder : Holder) : Prop where
  repositories : holder.repositories = holder.session
  session : holder.session.isSome = holder.unit.session.isSome

namespace Site

variable {s s' : Site} {step : LifeStep} {answer : Except Failure LifeReply} {unit : Nat} {held : Holder}

def sessionOf (unit : Nat) (s : Site) : Option Nat := s.holders[unit]?.bind Holder.session

def repositoriesOf (unit : Nat) (s : Site) : Option Nat := s.holders[unit]?.bind Holder.repositories

/-- The factory is absent or made for the managed engine. -/
structure Coherent (s : Site) : Prop where
  factory : ∀ engine, s.adapter.factory = some engine → s.adapter.managed = some engine
  holders : ∀ holder ∈ s.holders, holder.Coherent

theorem Coherent.getD_factory (h : s.Coherent) {managed : Nat} (hm : s.adapter.managed = some managed) :
    s.adapter.factory.getD managed = managed := by
  cases hf : s.adapter.factory with
  | none => rfl
  | some engine => exact Option.some.inj ((h.factory engine hf).symm.trans hm)

theorem Coherent.of_stays (h : s.Coherent) (hstays : s.adapter.Stays s'.adapter)
    (hholders : ∀ holder ∈ s'.holders, holder.Coherent) : s'.Coherent where
  factory engine hf := by
    rw [hstays.managed]
    exact h.factory engine (hstays.factory ▸ hf)
  holders := hholders

theorem Coherent.of_forgotten (h : s.Coherent) (hfactory : s'.adapter.factory = none)
    (hholders : s'.holders = s.holders) : s'.Coherent where
  factory engine hf := by
    rw [hfactory] at hf
    cases hf
  holders := hholders ▸ h.holders

theorem Coherent.mem_set (h : s.Coherent) (hheld : held.Coherent) (unit : Nat) :
    ∀ holder ∈ s.holders.set unit held, holder.Coherent := by
  intro holder hmem
  rcases List.mem_or_eq_of_mem_set hmem with hmem | rfl
  · exact h.holders holder hmem
  · exact hheld

theorem Coherent.with_session (h : s.Coherent) (hfound : s.holders[unit]? = some held)
    (hentered : held.unit.session.isSome = true) (session : OpenSession) :
    Holder.Coherent { held with unit := { held.unit with session := some session } } := by
  have hheld := h.holders held (List.mem_of_getElem? hfound)
  exact ⟨hheld.repositories, hheld.session.trans hentered⟩

theorem Does.coherent (hd : s.Does step answer s') (h : s.Coherent) : s'.Coherent := by
  cases hd with
  | made adapter holders => exact h.of_stays adapter (holders ▸ h.holders)
  | refused adapter holders => exact h.of_stays adapter (holders ▸ h.holders)
  | started _ _ factory _ holders => exact h.of_forgotten factory holders
  | stopped _ factory holders => exact h.of_forgotten factory holders
  | notConstructed => exact h
  | constructed found kept factory holders =>
    refine ⟨fun engine hf => ?_, ?_⟩
    · rw [factory, h.getD_factory found] at hf
      rw [kept, found, hf]
    · rw [holders]
      intro holder hmem
      rcases List.mem_append.mp hmem with hmem | hmem
      · exact h.holders holder hmem
      · rw [List.mem_singleton.mp hmem]
        exact ⟨rfl, rfl⟩
  | notEntered _ adapter holders =>
    exact h.of_stays (adapter ▸ .refl _) (holders ▸ h.holders)
  | entered _ _ adapter holders =>
    exact h.of_stays (adapter ▸ .refl _) (holders ▸ h.mem_set ⟨rfl, rfl⟩ _)
  | notWorked => exact h
  | @worked unit _ _ _ session _ found entered through holders =>
    have hheld := h.with_session found entered session
    exact h.of_stays through.adapter (holders ▸ h.mem_set hheld unit)
  | outside => exact h
  | @notExited unit _ _ _ _ session _ found entered _ through holders =>
    have hheld := h.with_session found (by rw [entered]; rfl) session
    exact h.of_stays through.adapter (holders ▸ h.mem_set hheld unit)
  | exited _ _ through holders => exact h.of_stays through.adapter (holders ▸ h.mem_set ⟨rfl, rfl⟩ _)

theorem repositoriesOf_congr (h : s'.holders = s.holders) (unit : Nat) :
    s'.repositoriesOf unit = s.repositoriesOf unit := by
  rw [repositoriesOf, repositoriesOf, h]

theorem sessionOf_congr (h : s'.holders = s.holders) (unit : Nat) :
    s'.sessionOf unit = s.sessionOf unit := by
  rw [sessionOf, sessionOf, h]

theorem getElem?_set_of_found (hfound : s.holders[unit]? = some held) (new : Holder) (other : Nat) :
    (s.holders.set unit new)[other]? = if unit = other then some new else s.holders[other]? := by
  by_cases h : unit = other
  · subst h
    rw [if_pos rfl, List.getElem?_set_self (List.getElem?_eq_some_iff.mp hfound).1]
  · rw [if_neg h, List.getElem?_set_ne h]

theorem repositoriesOf_set (hfound : s.holders[unit]? = some held) {new : Holder}
    (h : s'.holders = s.holders.set unit new) (other : Nat) :
    s'.repositoriesOf other = if unit = other then new.repositories else s.repositoriesOf other := by
  rw [repositoriesOf, h, getElem?_set_of_found hfound]
  split <;> rfl

theorem sessionOf_set (hfound : s.holders[unit]? = some held) {new : Holder}
    (h : s'.holders = s.holders.set unit new) (other : Nat) :
    s'.sessionOf other = if unit = other then new.session else s.sessionOf other := by
  rw [sessionOf, h, getElem?_set_of_found hfound]
  split <;> rfl

theorem held_of_set (hfound : s.holders[unit]? = some held) {used : WorkUnit}
    (h : s'.holders = s.holders.set unit { held with unit := used }) (other : Nat) :
    s'.sessionOf other = s.sessionOf other ∧ s'.repositoriesOf other = s.repositoriesOf other := by
  rw [sessionOf_set hfound h, repositoriesOf_set hfound h]
  split
  · next heq => rw [← heq, sessionOf, repositoriesOf, hfound]; exact ⟨rfl, rfl⟩
  · exact ⟨rfl, rfl⟩

/-- A step that fails leaves the managed engine, and all units of work what they hold. -/
theorem Does.failed {failure : Failure} (hd : s.Does step (.error failure) s') :
    s'.adapter.managed = s.adapter.managed ∧
      ∀ unit, s'.sessionOf unit = s.sessionOf unit ∧ s'.repositoriesOf unit = s.repositoriesOf unit := by
  generalize hanswer : (.error failure : Except Failure LifeReply) = answer at hd
  cases hd with
  | made | started | stopped | constructed | entered | exited => cases hanswer
  | refused adapter holders =>
    exact ⟨adapter.managed, fun unit => ⟨sessionOf_congr holders unit, repositoriesOf_congr holders unit⟩⟩
  | notEntered _ adapter holders =>
    exact ⟨congrArg _ adapter,
      fun unit => ⟨sessionOf_congr holders unit, repositoriesOf_congr holders unit⟩⟩
  | notConstructed | notWorked | outside => exact ⟨rfl, fun _ => ⟨rfl, rfl⟩⟩
  | worked found _ through holders => exact ⟨through.adapter.managed, held_of_set found holders⟩
  | notExited found _ _ through holders => exact ⟨through.adapter.managed, held_of_set found holders⟩

theorem Does.managed (hd : s.Does step answer s') (hstart : ∀ target force, step ≠ .start target force)
    (hstop : step ≠ .stop) : s'.adapter.managed = s.adapter.managed := by
  cases hd with
  | made adapter => exact adapter.managed
  | refused | started => exact absurd rfl (hstart _ _)
  | stopped => exact absurd rfl hstop
  | notConstructed | notWorked | outside => rfl
  | constructed _ kept => exact kept
  | notEntered _ adapter => exact congrArg _ adapter
  | entered _ _ adapter => exact congrArg _ adapter
  | worked _ _ through => exact through.adapter.managed
  | notExited _ _ _ through => exact through.adapter.managed
  | exited _ _ through => exact through.adapter.managed

/-- Units of work stay, each on its engine, and those that a step is not asked of stay as they are. -/
theorem Does.keeps_unit (hd : s.Does step answer s') (hfound : s.holders[unit]? = some held) :
    ∃ held', s'.holders[unit]? = some held' ∧ held'.unit.engine = held.unit.engine ∧
      (¬step.IsOf unit → held' = held) := by
  have hsame (h : s'.holders = s.holders) : ∃ held', s'.holders[unit]? = some held' ∧
      held'.unit.engine = held.unit.engine ∧ (¬step.IsOf unit → held' = held) :=
    ⟨held, h ▸ hfound, rfl, fun _ => rfl⟩
  have hset {asked : Nat} {old new : Holder} (hold : s.holders[asked]? = some old)
      (h : s'.holders = s.holders.set asked new) (hengine : new.unit.engine = old.unit.engine)
      (hstep : step.IsOf asked) : ∃ held', s'.holders[unit]? = some held' ∧
      held'.unit.engine = held.unit.engine ∧ (¬step.IsOf unit → held' = held) := by
    rw [h, getElem?_set_of_found hold]
    split
    · next heq =>
      subst heq
      obtain rfl : old = held := Option.some.inj (hold.symm.trans hfound)
      exact ⟨new, rfl, hengine, fun hnot => absurd hstep hnot⟩
    · exact ⟨held, hfound, rfl, fun _ => rfl⟩
  cases hd with
  | made _ holders => exact hsame holders
  | refused _ holders => exact hsame holders
  | started _ _ _ _ holders => exact hsame holders
  | stopped _ _ holders => exact hsame holders
  | notConstructed | notWorked | outside => exact hsame rfl
  | constructed _ _ _ holders =>
    have hlt := (List.getElem?_eq_some_iff.mp hfound).1
    exact ⟨held, by rw [holders, List.getElem?_append_left hlt, hfound], rfl, fun _ => rfl⟩
  | notEntered _ _ holders => exact hsame holders
  | entered found _ _ holders => exact hset found holders rfl rfl
  | worked found _ _ holders => exact hset found holders rfl rfl
  | notExited found _ _ _ holders => exact hset found holders rfl rfl
  | exited found _ _ holders => exact hset found holders rfl rfl

/-- Repositories become reachable by entering the unit of work, and go out of reach by exiting it. -/
theorem Does.reaches (hd : s.Does step answer s') (unit : Nat) :
    (s'.repositoriesOf unit).isSome = true ↔ LifeTurn.Enters unit ⟨step, answer⟩ ∨
      (s.repositoriesOf unit).isSome = true ∧ ¬LifeTurn.Exits unit ⟨step, answer⟩ := by
  -- all steps but entering and exiting leave every unit the repositories that it has
  have hneither (h : s'.repositoriesOf unit = s.repositoriesOf unit)
      (henters : ¬LifeTurn.Enters unit ⟨step, answer⟩)
      (hexits : ¬LifeTurn.Exits unit ⟨step, answer⟩) :
      (s'.repositoriesOf unit).isSome = true ↔ LifeTurn.Enters unit ⟨step, answer⟩ ∨
        (s.repositoriesOf unit).isSome = true ∧ ¬LifeTurn.Exits unit ⟨step, answer⟩ := by
    simp only [h, henters, hexits, false_or, not_false_eq_true, and_true]
  cases hd with
  | made _ holders => exact hneither (repositoriesOf_congr holders unit) id id
  | refused _ holders => exact hneither (repositoriesOf_congr holders unit) id id
  | started _ _ _ _ holders => exact hneither (repositoriesOf_congr holders unit) id id
  | stopped _ _ holders => exact hneither (repositoriesOf_congr holders unit) id id
  | notConstructed => exact hneither rfl id id
  | notWorked => exact hneither rfl id id
  | outside => exact hneither rfl id id
  | constructed _ _ _ holders =>
    refine hneither ?_ id id
    rw [repositoriesOf, repositoriesOf, holders]
    rcases Nat.lt_trichotomy unit s.holders.length with hlt | rfl | hgt
    · rw [List.getElem?_append_left hlt]
    · simp
    · rw [List.getElem?_eq_none (by simp; omega), List.getElem?_eq_none (by omega)]
  | notEntered _ _ holders => exact hneither (repositoriesOf_congr holders unit) id id
  | @entered asked _ _ found _ _ holders =>
    rw [repositoriesOf_set found holders]
    by_cases heq : asked = unit
    · subst heq
      simp [LifeTurn.Enters]
    · simp [LifeTurn.Enters, LifeTurn.Exits, heq]
  | worked found _ _ holders => exact hneither (held_of_set found holders unit).2 id id
  | notExited found _ _ _ holders => exact hneither (held_of_set found holders unit).2 id id
  | @exited asked _ _ _ found _ _ holders =>
    rw [repositoriesOf_set found holders]
    by_cases heq : asked = unit
    · subst heq
      simp [LifeTurn.Enters, LifeTurn.Exits]
    · simp [LifeTurn.Enters, LifeTurn.Exits, heq]

def Idle (s : Site) : Prop :=
  ∀ held ∈ s.holders, ∀ session, held.unit.session = some session → session.transaction = .idle

theorem Idle.mem_set (h : s.Idle) {used : WorkUnit}
    (hused : ∀ session, used.session = some session → session.transaction = .idle)
    (unit : Nat) (session repositories : Option Nat) :
    ∀ held ∈ s.holders.set unit ⟨used, session, repositories⟩,
      ∀ session, held.unit.session = some session → session.transaction = .idle := by
  intro held hmem
  rcases List.mem_or_eq_of_mem_set hmem with hmem | rfl
  · exact h held hmem
  · exact hused

theorem Does.idle (hd : s.Does step answer s') (hstep : ¬step.IsWork) (h : s.Idle) : s'.Idle := by
  cases hd with
  | made _ holders | refused _ holders | started _ _ _ _ holders | stopped _ _ holders
  | notEntered _ _ holders =>
    rw [Idle, holders]
    exact h
  | notConstructed | outside => exact h
  | constructed _ _ _ holders =>
    rw [Idle, holders]
    intro held hmem session hsession
    rcases List.mem_append.mp hmem with hmem | hmem
    · exact h held hmem session hsession
    · rw [List.mem_singleton.mp hmem] at hsession
      cases hsession
  | entered _ _ _ holders =>
    rw [Idle, holders]
    exact h.mem_set (fun session hsession => by cases hsession; rfl) _ _ _
  | notWorked | worked => exact absurd trivial hstep
  | notExited found entered begun =>
    have hidle := h _ (List.mem_of_getElem? found) _ entered
    rw [begun] at hidle
    cases hidle
  | exited _ _ _ holders =>
    rw [Idle, holders]
    exact h.mem_set (fun session hsession => by cases hsession) _ _ _

/-- As long as no session has begun a transaction, a step that fails changes nothing about units of
work. -/
theorem Does.holders_of_failed {failure : Failure} (hd : s.Does step (.error failure) s')
    (hstep : ¬step.IsWork) (h : s.Idle) : s'.holders = s.holders := by
  generalize hanswer : (.error failure : Except Failure LifeReply) = answer at hd
  cases hd with
  | made | started | stopped | constructed | entered | exited => cases hanswer
  | refused _ holders => exact holders
  | notEntered _ _ holders => exact holders
  | notConstructed | outside => rfl
  | notWorked | worked => exact absurd trivial hstep
  | notExited found entered begun =>
    have hidle := h _ (List.mem_of_getElem? found) _ entered
    rw [begun] at hidle
    cases hidle

theorem Coherent.repositoriesOf_eq (h : s.Coherent) (unit : Nat) :
    s.repositoriesOf unit = s.sessionOf unit := by
  rw [repositoriesOf, sessionOf]
  cases hfound : s.holders[unit]? with
  | none => rfl
  | some held => exact (h.holders held (List.mem_of_getElem? hfound)).repositories

theorem Coherent.isSome_repositoriesOf (h : s.Coherent) (hfound : s.holders[unit]? = some held) :
    (s.repositoriesOf unit).isSome = held.unit.session.isSome := by
  rw [h.repositoriesOf_eq, sessionOf, hfound]
  exact (h.holders held (List.mem_of_getElem? hfound)).session

theorem Does.exit_failed {raised : Option Failure} (hd : s.Does (.exit unit raised) answer s')
    (h : s.Coherent) (hidle : s.Idle) :
    (∃ failure, answer = .error failure) ↔ s.repositoriesOf unit = none := by
  rw [← Option.not_isSome_iff_eq_none]
  cases hd with
  | outside absent =>
    refine iff_of_true ⟨_, rfl⟩ ?_
    cases hfound : s.holders[unit]? with
    | none => simp [repositoriesOf, hfound]
    | some held => simp [h.isSome_repositoriesOf hfound, absent held hfound]
  | notExited found entered begun =>
    have hidle := hidle _ (List.mem_of_getElem? found) _ entered
    rw [begun] at hidle
    cases hidle
  | exited found entered =>
    refine iff_of_false (by rintro ⟨_, h⟩; cases h) ?_
    rw [h.isSome_repositoriesOf found, entered]
    exact not_not_intro rfl

end Site

end ParticipantRegistry
