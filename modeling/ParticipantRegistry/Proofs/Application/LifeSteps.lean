import ParticipantRegistry.Proofs.Application.AdapterChanges

/-!
# Steps in the life of units of work

`Site.Does` says of each step what it may be answered and what it leaves, and `Site.perform_does` that
every step keeps to it. Where a step fails, nothing is put into the place of what a unit of work holds;
its session may have been rolled back.
-/

namespace ParticipantRegistry

namespace Site

variable {α : Type} {d : Desk Site} {step : LifeStep} {unit : Nat}

/-- What a step does to a site, and how it is answered. -/
inductive Does (s : Site) : LifeStep → Except Failure LifeReply → Site → Prop
  | made {engine : Engine} {s' : Site} (adapter : s.adapter.Stays s'.adapter)
      (holders : s'.holders = s.holders) : Does s (.make engine) (.ok .done) s'
  | refused {target : StartTarget} {force : Bool} {failure : Failure} {s' : Site}
      (adapter : s.adapter.Stays s'.adapter) (holders : s'.holders = s.holders) :
      Does s (.start target force) (.error failure) s'
  | started {target : StartTarget} {force : Bool} {engine : Nat} {s' : Site}
      (allowed : s.adapter.managed = none ∨ force = true)
      (managed : s'.adapter.managed = some engine) (factory : s'.adapter.factory = none)
      (number : ∀ number, target = .engine number → engine = number)
      (holders : s'.holders = s.holders) : Does s (.start target force) (.ok .done) s'
  | stopped {s' : Site} (managed : s'.adapter.managed = none) (factory : s'.adapter.factory = none)
      (holders : s'.holders = s.holders) : Does s .stop (.ok .done) s'
  | notConstructed {directoryIntegration : Bool} (managed : s.adapter.managed = none) :
      Does s (.construct directoryIntegration) (.error (.startup .notStarted)) s
  | constructed {directoryIntegration : Bool} {managed : Nat} {s' : Site}
      (found : s.adapter.managed = some managed) (kept : s'.adapter.managed = s.adapter.managed)
      (factory : s'.adapter.factory = some (s.adapter.factory.getD managed))
      (holders : s'.holders = s.holders ++
        [{ unit := { engine := s.adapter.factory.getD managed, directoryIntegration } }]) :
      Does s (.construct directoryIntegration) (.ok .done) s'
  | notEntered {unit : Nat} {failure : Failure} {s' : Site}
      (held : ∀ holder, s.holders[unit]? = some holder → holder.unit.session.isSome = true)
      (adapter : s'.adapter = s.adapter) (holders : s'.holders = s.holders) :
      Does s (.enter unit) (.error failure) s'
  | entered {unit : Nat} {holder : Holder} {s' : Site} (found : s.holders[unit]? = some holder)
      (free : holder.unit.session = none) (adapter : s'.adapter = s.adapter)
      (holders : s'.holders = s.holders.set unit
        { unit := { holder.unit with session := some {} }
          session := some s.sessions
          repositories := some s.sessions }) :
      Does s (.enter unit) (.ok .done) s'
  | notWorked {unit : Nat} {task : Task Session Unit}
      (absent : ∀ holder, s.holders[unit]? = some holder → holder.unit.session = none) :
      Does s (.work unit task) (.error (.startup .notEntered)) s
  | worked {unit : Nat} {task : Task Session Unit} {answer : Except Failure Unit} {holder : Holder}
      {session : OpenSession} {s' : Site} (found : s.holders[unit]? = some holder)
      (entered : holder.unit.session.isSome = true)
      (through : Databases.Through holder.unit.engine s.host.databases s'.host.databases)
      (holders : s'.holders = s.holders.set unit
        { holder with unit := { holder.unit with session := some session } }) :
      Does s (.work unit task) (answer.map fun _ => .done) s'
  | outside {unit : Nat} {raised : Option Failure}
      (absent : ∀ holder, s.holders[unit]? = some holder → holder.unit.session = none) :
      Does s (.exit unit raised) (.error (.startup .notEntered)) s
  | notExited {unit : Nat} {raised : Option Failure} {failure : Failure} {holder : Holder}
      {before after : OpenSession} {s' : Site} (found : s.holders[unit]? = some holder)
      (entered : holder.unit.session = some before) (begun : before.transaction = .begun)
      (through : Databases.Through holder.unit.engine s.host.databases s'.host.databases)
      (holders : s'.holders = s.holders.set unit
        { holder with unit := { holder.unit with session := some after } }) :
      Does s (.exit unit raised) (.error failure) s'
  | exited {unit : Nat} {raised : Option Failure} {holder : Holder} {s' : Site}
      (found : s.holders[unit]? = some holder) (entered : holder.unit.session.isSome = true)
      (through : Databases.Through holder.unit.engine s.host.databases s'.host.databases)
      (holders : s'.holders = s.holders.set unit
        { unit := { holder.unit with session := none } }) :
      Does s (.exit unit raised) (.ok (.exited false)) s'

theorem onHost_apply (task : Task Host α) (d : Desk Site) :
    onHost task d = ((task ⟨d.content.host, d.journal⟩).1,
      ⟨{ d.content with host := (task ⟨d.content.host, d.journal⟩).2.content },
        (task ⟨d.content.host, d.journal⟩).2.journal⟩) := rfl

theorem putHolder_apply (unit : Nat) (held : Holder) (d : Desk Site) :
    putHolder unit held d =
      (.ok (), ⟨{ d.content with holders := d.content.holders.set unit held }, d.journal⟩) := rfl

theorem holder_some {held : Holder} (h : d.content.holders[unit]? = some held) :
    holder unit d = (.ok held, d) := by
  simp only [holder, Task.bind_apply, Task.content_apply, h]
  rfl

theorem holder_none (h : d.content.holders[unit]? = none) :
    holder unit d = (.error (.startup .notEntered), d) := by
  simp only [holder, Task.bind_apply, Task.content_apply, h]
  rfl

/-- A unit of work is entered, or it is not, be it that it was never made. -/
theorem absent_or_entered (s : Site) (unit : Nat) :
    (∀ held, s.holders[unit]? = some held → held.unit.session = none) ∨
      ∃ held session, s.holders[unit]? = some held ∧ held.unit.session = some session := by
  cases hfound : s.holders[unit]? with
  | none => exact .inl fun held h => absurd h.symm (Option.some_ne_none held)
  | some held =>
    cases hsession : held.unit.session with
    | none => exact .inl fun _ h => Option.some.inj h ▸ hsession
    | some session => exact .inr ⟨held, session, rfl, hsession⟩

theorem does_of_task {task : Task Site Unit}
    (h : d.content.Does step ((task d).1.map fun _ => .done) (task d).2.content)
    (hstep : perform step = do
      task
      return .done) :
    d.content.Does step (perform step d).1 (perform step d).2.content := by
  rw [hstep, Task.bind_apply]
  rcases hdone : task d with ⟨_ | _, d'⟩ <;> rw [hdone] at h <;> exact h

theorem start_does (target : StartTarget) (force : Bool) (d : Desk Site) :
    d.content.Does (.start target force)
      ((onHost (Host.startOn target force) d).1.map fun _ => .done)
      (onHost (Host.startOn target force) d).2.content := by
  obtain ⟨answer, h', hstart, hdoes⟩ := Host.startOn_starts target force ⟨d.content.host, d.journal⟩
  rw [onHost_apply, hstart]
  cases hdoes with
  | refused stays => exact .refused stays rfl
  | started allowed managed factory number => exact .started allowed managed factory number rfl

theorem stop_does (d : Desk Site) :
    d.content.Does .stop ((onHost Host.shutdown d).1.map fun _ => .done)
      (onHost Host.shutdown d).2.content := by
  have hstopped : (onHost Host.shutdown d) = (.ok (),
      ⟨{ d.content with host := { d.content.host with
          databases := d.content.host.databases.shutdown } }, d.journal⟩) := rfl
  rw [hstopped]
  refine .stopped ?_ ?_ rfl
  all_goals
    simp only [adapter, Databases.shutdown, Adapter.shutdown]
    split <;> rfl

theorem construct_does (directoryIntegration : Bool) (d : Desk Site) :
    d.content.Does (.construct directoryIntegration)
      ((construct directoryIntegration d).1.map fun _ => .done)
      (construct directoryIntegration d).2.content := by
  simp only [construct, Task.bind_apply, onHost_apply, Host.newUnit_own]
  cases hm : d.content.host.databases.adapter.managed with
  | none => exact .notConstructed hm
  | some managed => exact .constructed hm hm.symm rfl rfl

theorem enter_does (unit : Nat) (d : Desk Site) :
    d.content.Does (.enter unit) ((enter unit d).1.map fun _ => .done) (enter unit d).2.content := by
  cases hfound : d.content.holders[unit]? with
  | none =>
    rw [enter, Task.bind_apply, holder_none hfound]
    exact .notEntered (by simp [hfound]) rfl rfl
  | some held =>
    rw [enter, Task.bind_apply, holder_some hfound]
    simp only [Task.bind_apply, Task.content_apply, Task.setContent_apply, putHolder_apply]
    cases hsession : held.unit.session with
    | none =>
      simp only [WorkUnit.enter, hsession, Task.ofExcept_ok]
      exact .entered hfound hsession rfl rfl
    | some session =>
      simp only [WorkUnit.enter, hsession, Task.ofExcept_error]
      exact .notEntered (by simp [hfound, hsession]) rfl rfl

theorem work_absent (absent : ∀ held, d.content.holders[unit]? = some held → held.unit.session = none)
    (task : Task Session Unit) : work unit task d = (.error (.startup .notEntered), d) := by
  cases hfound : d.content.holders[unit]? with
  | none => rw [work, Task.bind_apply, holder_none hfound]
  | some held =>
    rw [work, Task.bind_apply, holder_some hfound]
    simp only [Task.bind_apply, onHost_apply, Host.inUnit_none (absent held hfound)]

theorem work_some {held : Holder} {session : OpenSession} (hfound : d.content.holders[unit]? = some held)
    (hsession : held.unit.session = some session) (task : Task Session Unit) :
    ∃ (session' : OpenSession) (d' : Desk Site),
      work unit task d =
        ((task ⟨held.unit.sessionOn session d.content.host.databases, d.journal⟩).1, d') ∧
      Databases.Through held.unit.engine d.content.host.databases d'.content.host.databases ∧
      d'.content.holders = d.content.holders.set unit
        { held with unit := { held.unit with session := some session' } } := by
  obtain ⟨session', d', hdone, hthrough⟩ :=
    Host.inUnit_some hsession task ⟨d.content.host, d.journal⟩
  rw [work, Task.bind_apply, holder_some hfound]
  simp only [Task.bind_apply, onHost_apply, putHolder_apply, hdone]
  cases (task ⟨held.unit.sessionOn session d.content.host.databases, d.journal⟩).1 with
  | ok _ => exact ⟨session', _, rfl, hthrough, rfl⟩
  | error failure => exact ⟨session', _, rfl, hthrough, rfl⟩

theorem work_does (unit : Nat) (task : Task Session Unit) (d : Desk Site) :
    d.content.Does (.work unit task) ((work unit task d).1.map fun _ => .done)
      (work unit task d).2.content := by
  rcases d.content.absent_or_entered unit with absent | ⟨held, session, hfound, hsession⟩
  · rw [work_absent absent]
    exact .notWorked absent
  · obtain ⟨session', d', hdone, hthrough, hholders⟩ := work_some hfound hsession task
    rw [hdone]
    exact .worked hfound (by rw [hsession]; rfl) hthrough hholders

/-- After a rollback the session is idle, whether or not there was still something to roll back. -/
theorem work_rollback {held : Holder} {session : OpenSession}
    (hfound : d.content.holders[unit]? = some held) (hsession : held.unit.session = some session) :
    ∃ (answer : Except Failure Unit) (session' : OpenSession) (d' : Desk Site),
      work unit (Task.call Session.rollback) d = (answer, d') ∧
      Databases.Through held.unit.engine d.content.host.databases d'.content.host.databases ∧
      d'.content.holders = d.content.holders.set unit
        { held with unit := { held.unit with session := some session' } } ∧
      session'.transaction = .idle ∧
      (answer = .ok () ∨ ∃ failure, answer = .error failure ∧ session.transaction = .begun) := by
  obtain ⟨answer, session', d', hdone, hthrough, hidle, hcases⟩ :=
    Host.inUnit_rollback hsession ⟨d.content.host, d.journal⟩
  rw [work, Task.bind_apply, holder_some hfound]
  simp only [Task.bind_apply, onHost_apply, putHolder_apply, hdone]
  cases answer with
  | ok _ => exact ⟨_, session', _, rfl, hthrough, rfl, hidle, hcases⟩
  | error failure => exact ⟨_, session', _, rfl, hthrough, rfl, hidle, hcases⟩

theorem release_some {held : Holder} {session : OpenSession}
    (hfound : d.content.holders[unit]? = some held) (hsession : held.unit.session = some session) :
    ∃ (answer : Except Failure Unit) (d' : Desk Site), release unit d = (answer, d') ∧
      Databases.Through held.unit.engine d.content.host.databases d'.content.host.databases ∧
      (answer = .ok () ∧ d'.content.holders = d.content.holders.set unit
          { unit := { held.unit with session := none } } ∨
        ∃ failure session', answer = .error failure ∧ session.transaction = .begun ∧
          d'.content.holders = d.content.holders.set unit
            { held with unit := { held.unit with session := some session' } }) := by
  obtain ⟨answer, session?, d', hleave, hthrough, hcases⟩ :=
    Host.leave_some hsession ⟨d.content.host, d.journal⟩
  rw [release, Task.bind_apply, holder_some hfound]
  simp only [Task.bind_apply, onHost_apply, putHolder_apply, hleave]
  rcases hcases with ⟨rfl, rfl⟩ | ⟨e, rfl, hstill, hbegun⟩
  · refine ⟨_, _, rfl, hthrough, .inl ⟨rfl, ?_⟩⟩
    exact List.set_set _
  · obtain ⟨session', rfl⟩ := Option.isSome_iff_exists.mp hstill
    exact ⟨_, _, rfl, hthrough, .inr ⟨_, session', rfl, hbegun, rfl⟩⟩

theorem release_absent
    (absent : ∀ held, d.content.holders[unit]? = some held → held.unit.session = none) :
    release unit d = (.error (.startup .notEntered), d) := by
  cases hfound : d.content.holders[unit]? with
  | none => rw [release, Task.bind_apply, holder_none hfound]
  | some held =>
    rw [release, Task.bind_apply, holder_some hfound]
    simp only [Task.bind_apply, onHost_apply, Host.leave_none (absent held hfound)]

theorem exit_none (unit : Nat) (d : Desk Site) :
    exit unit none d = ((release unit d).1.map fun _ => false, (release unit d).2) := by
  have hdone : exit unit none d = (release unit >>= fun _ => pure false) d := rfl
  rw [hdone, Task.bind_apply]
  rcases release unit d with ⟨_ | _, d'⟩ <;> rfl

theorem exit_some (unit : Nat) (failure : Failure) (d : Desk Site) :
    exit unit (some failure) d =
      (work unit (Task.call Session.rollback) >>= fun _ => exit unit none) d := rfl

theorem exit_does (unit : Nat) (raised : Option Failure) (d : Desk Site) :
    d.content.Does (.exit unit raised) ((exit unit raised d).1.map .exited)
      (exit unit raised d).2.content := by
  rcases d.content.absent_or_entered unit with absent | ⟨held, session, hfound, hsession⟩
  · have hdone : exit unit raised d = (.error (.startup .notEntered), d) := by
      cases raised with
      | none => rw [exit_none, release_absent absent]; rfl
      | some failure => rw [exit_some, Task.bind_apply, work_absent absent]
    rw [hdone]
    exact .outside absent
  · have hentered : held.unit.session.isSome = true := by rw [hsession]; rfl
    cases raised with
    | none =>
      rw [exit_none]
      obtain ⟨answer, d', hdone, hthrough,
        ⟨rfl, hholders⟩ | ⟨failure, session', rfl, hbegun, hholders⟩⟩ := release_some hfound hsession
      · rw [hdone]
        exact .exited hfound hentered hthrough hholders
      · rw [hdone]
        exact .notExited hfound hsession hbegun hthrough hholders
    | some failure =>
      obtain ⟨answer, session', d₁, hdone, hthrough, hholders, hidle, rfl | ⟨e, rfl, hbegun⟩⟩ :=
        work_rollback hfound hsession
      · -- the session is idle now, so nothing keeps it from being given up
        rw [exit_some, Task.bind_apply, hdone]
        simp only [exit_none]
        have hfound₁ : d₁.content.holders[unit]? =
            some { held with unit := { held.unit with session := some session' } } := by
          rw [hholders]
          exact List.getElem?_set_self (List.getElem?_eq_some_iff.mp hfound).1
        obtain ⟨_, d₂, hreleased, hthrough₂, ⟨rfl, hholders₂⟩ | ⟨_, _, _, hbegun, _⟩⟩ :=
          release_some hfound₁ rfl
        · rw [hholders, List.set_set] at hholders₂
          rw [hreleased]
          exact .exited hfound hentered (hthrough.trans hthrough₂) hholders₂
        · rw [hidle] at hbegun
          cases hbegun
      · rw [exit_some, Task.bind_apply, hdone]
        exact .notExited hfound hsession hbegun hthrough hholders

theorem perform_does (step : LifeStep) (d : Desk Site) :
    d.content.Does step (perform step d).1 (perform step d).2.content := by
  cases step with
  | make engine => exact .made ⟨rfl, rfl⟩ rfl
  | start target force => exact does_of_task (start_does target force d) rfl
  | stop => exact does_of_task (stop_does d) rfl
  | construct directoryIntegration => exact does_of_task (construct_does directoryIntegration d) rfl
  | enter unit => exact does_of_task (enter_does unit d) rfl
  | work unit task => exact does_of_task (work_does unit task d) rfl
  | exit unit raised =>
    have hdoes := exit_does unit raised d
    have hperform : perform (.exit unit raised) =
        exit unit raised >>= fun swallows => pure (.exited swallows) := rfl
    rw [hperform, Task.bind_apply]
    rcases hdone : exit unit raised d with ⟨_ | _, d'⟩ <;> rw [hdone] at hdoes <;> exact hdoes

end Site

end ParticipantRegistry
