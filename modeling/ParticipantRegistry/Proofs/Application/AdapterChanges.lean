import ParticipantRegistry.Application.LifeCycle
import ParticipantRegistry.Proofs.Application.Startup

/-!
# What tasks leave of the adapter

Only a start that succeeds and a shutdown change the engine that is managed. Work in units of work, and a
start that fails, may change what is in databases, but neither the managed engine nor the factory. A new
unit of work is made for the managed engine, and only where there is none is it refused.
-/

namespace ParticipantRegistry

namespace Task

variable {σ α β ε : Type}

theorem bind_apply (task : Task σ α) (next : α → Task σ β) (d : Desk σ) :
    (task >>= next) d =
      match task d with
      | (.ok a, d) => next a d
      | (.error failure, d) => (.error failure, d) := by
  rcases h : task d with ⟨answer, d'⟩
  cases answer with
  | ok a => exact bind_of_ok h
  | error failure => exact bind_of_error h

theorem content_apply (d : Desk σ) : (content : Task σ σ) d = (.ok d.content, d) := rfl

theorem setContent_apply (content : σ) (d : Desk σ) :
    setContent content d = (.ok (), { d with content }) := rfl

theorem ofExcept_ok (failure : ε → Failure) (a : α) (d : Desk σ) :
    ofExcept failure (.ok a) d = (.ok a, d) := rfl

theorem ofExcept_error (failure : ε → Failure) (e : ε) (d : Desk σ) :
    (ofExcept failure (.error e) : Task σ α) d = (.error (failure e), d) := rfl

end Task

/-- The same engine is managed, and units of work are made with the same factory. -/
structure Adapter.Stays (a a' : Adapter) : Prop where
  managed : a'.managed = a.managed
  factory : a'.factory = a.factory

theorem Adapter.Stays.refl (a : Adapter) : a.Stays a := ⟨rfl, rfl⟩

theorem Adapter.Stays.trans {a a' a'' : Adapter} (h : a.Stays a') (h' : a'.Stays a'') : a.Stays a'' :=
  ⟨h'.managed.trans h.managed, h'.factory.trans h.factory⟩

namespace Databases

variable {d : Databases} {engine : Nat}

/-- What work through an engine leaves as it was: all that other engines lead to. -/
structure Through (engine : Nat) (d d' : Databases) : Prop where
  adapter : d.adapter.Stays d'.adapter
  others : ∀ other, other ≠ engine → d'.adapter.engines[other]? = d.adapter.engines[other]?
  file : ∀ place readOnly, d'.adapter.engines[engine]? = some (.file place readOnly) ↔
    d.adapter.engines[engine]? = some (.file place readOnly)
  databases : ∀ place, (∀ readOnly, d.adapter.engines[engine]? ≠ some (.file place readOnly)) →
    d'.disk.databaseAt place = d.disk.databaseAt place

theorem Through.refl (engine : Nat) (d : Databases) : Through engine d d :=
  ⟨.refl _, fun _ _ => rfl, fun _ _ => Iff.rfl, fun _ _ => rfl⟩

theorem Through.trans {d' d'' : Databases} (h : Through engine d d') (h' : Through engine d' d'') :
    Through engine d d'' where
  adapter := h.adapter.trans h'.adapter
  others other hne := (h'.others other hne).trans (h.others other hne)
  file place readOnly := (h'.file place readOnly).trans (h.file place readOnly)
  databases place hplace :=
    (h'.databases place fun readOnly hfile => hplace readOnly ((h.file place readOnly).mp hfile)).trans
      (h.databases place hplace)

theorem keep_through (d : Databases) (engine : Nat) (before : OpenSession) (s : Session) :
    Through engine d (d.keep engine before s).2 := by
  rw [keep]
  split
  · exact .refl _ _
  · next storage connection found =>
    refine ⟨⟨rfl, rfl⟩, fun other hne => ?_, fun place readOnly => ?_, fun _ _ => rfl⟩
    · exact List.getElem?_set_ne hne.symm
    · have hset := List.getElem?_set_self (a := Engine.memory s.storage connection)
        (List.getElem?_eq_some_iff.mp found).1
      simp only [found, hset, Option.some.injEq, reduceCtorEq]
  · next place readOnly found =>
    refine ⟨⟨rfl, rfl⟩, fun _ _ => rfl, fun _ _ => Iff.rfl, fun other hother => ?_⟩
    have hne : other ≠ place := fun h => hother readOnly (h ▸ found)
    simp only
    split
    · rfl
    · exact Disk.databaseAt_saveDatabase_ne hne _

theorem keep_transaction (d : Databases) (engine : Nat) (before : OpenSession) (s : Session) :
    (d.keep engine before s).1.transaction = s.transaction := by
  rw [keep]
  split <;> rfl

theorem upgradeEngine_stays (number : Nat) (d : Databases) :
    d.adapter.Stays (d.upgradeEngine number).2.adapter := by
  rw [upgradeEngine]
  split
  · exact .refl _
  · exact ⟨rfl, rfl⟩
  · split
    · exact ⟨rfl, rfl⟩
    · exact .refl _

end Databases

namespace Host

variable {h : Host} {journal : List Occurrence}

/-- What a start leaves: it fails and the adapter stays, or a new factory is to be made for an engine. An
adapter that is started already is started anew only by force. -/
inductive Starts (h : Host) (target : StartTarget) (force : Bool) : Except Failure Unit → Host → Prop
  | refused {failure : Failure} {h' : Host} (stays : h.databases.adapter.Stays h'.databases.adapter) :
      Starts h target force (.error failure) h'
  | started {engine : Nat} {h' : Host}
      (allowed : h.databases.adapter.managed = none ∨ force = true)
      (managed : h'.databases.adapter.managed = some engine)
      (factory : h'.databases.adapter.factory = none)
      (number : ∀ number, target = .engine number → engine = number) :
      Starts h target force (.ok ()) h'

theorem allowed_of_not_refused {a : Adapter} {force : Bool} (h : ¬(a.isStarted && !force) = true) :
    a.managed = none ∨ force = true := by
  cases force with
  | true => exact .inr rfl
  | false =>
    rw [Bool.not_false, Bool.and_true, Adapter.isStarted] at h
    exact .inl (Option.not_isSome_iff_eq_none.mp h)

def startAt : Json → Task Host Unit
  | .string address => do
    let location ← Task.ofExcept .address (Location.read address)
    let h ← Task.content
    let databases ← Task.ofExcept (.call <| .fault <| .database ·) (h.databases.start location)
    Task.setContent { h with databases }
  | _ => throw (.address .malformed)

theorem startup_eq (address : Json) (force : Bool) (d : Desk Host) :
    startup address force d =
      if d.content.databases.adapter.isStarted && !force then (.error (.startup .alreadyStarted), d)
      else if address.isGiven then startAt address d
      else ((Json.string <$> databaseAddress) >>= startAt) d := by
  simp only [startup, Task.bind_apply, Task.content_apply]
  split
  · rfl
  · split
    · cases address <;> rfl
    · rw [Task.bind_apply]
      rcases (Json.string <$> databaseAddress : Task Host Json) d with ⟨_ | found, d'⟩
      · rfl
      · cases found <;> rfl

theorem startAt_starts (address found : Json) {force : Bool} (d : Desk Host) (h : Host)
    (allowed : h.databases.adapter.managed = none ∨ force = true)
    (hstays : h.databases.adapter.Stays d.content.databases.adapter) :
    ∃ answer h', startAt found d = (answer, ⟨h', d.journal⟩) ∧
      h.Starts (.address address) force answer h' := by
  cases found with
  | string t =>
    simp only [startAt, Task.bind_apply]
    cases Location.read t with
    | error e => exact ⟨_, d.content, rfl, .refused hstays⟩
    | ok location =>
      simp only [Task.ofExcept_ok, Task.content_apply]
      cases hstart : d.content.databases.start location with
      | error e => exact ⟨_, d.content, rfl, .refused hstays⟩
      | ok databases =>
        obtain ⟨⟨engine, disk⟩, -, hstarted⟩ := Except.ok_of_bind hstart
        cases hstarted
        exact ⟨_, _, rfl, .started allowed rfl rfl nofun⟩
  | _ => exact ⟨_, d.content, rfl, .refused hstays⟩

theorem startup_starts (address : Json) (force : Bool) (d : Desk Host) :
    ∃ answer h', startup address force d = (answer, ⟨h', d.journal⟩) ∧
      d.content.Starts (.address address) force answer h' := by
  rw [startup_eq]
  split
  · exact ⟨_, d.content, rfl, .refused (.refl _)⟩
  · next hgo =>
    have allowed := allowed_of_not_refused hgo
    split
    · exact startAt_starts address address d d.content allowed (.refl _)
    · have haddress := d.content.databaseAddress_eq d.journal
      simp only [map_eq_pure_bind, bind_assoc, pure_bind]
      rw [Task.bind_apply, haddress]
      cases d.content.surroundings.databaseAddress none d.content.disk with
      | error e => exact ⟨_, d.content, rfl, .refused (.refl _)⟩
      | ok found =>
        obtain ⟨t, disk⟩ := found
        exact startAt_starts address (.string t) ⟨d.content.setDisk disk, d.journal⟩ d.content allowed
          ⟨rfl, rfl⟩

theorem adopt_starts (number : Nat) (force : Bool) (d : Desk Host) :
    ∃ answer h', adopt number force d = (answer, ⟨h', d.journal⟩) ∧
      d.content.Starts (.engine number) force answer h' := by
  obtain ⟨h, journal⟩ := d
  have hstays := h.databases.upgradeEngine_stays number
  simp only [adopt, Task.bind_apply, Task.content_apply]
  split
  · exact ⟨_, h, rfl, .refused (.refl _)⟩
  · next hgo =>
    have allowed := allowed_of_not_refused hgo
    rcases hupgrade : h.databases.upgradeEngine number with ⟨_ | _, databases⟩
    · rw [hupgrade] at hstays
      exact ⟨_, { h with databases }, rfl, .refused hstays⟩
    · exact ⟨_, _, rfl, .started allowed rfl rfl fun _ htarget => by cases htarget; rfl⟩

theorem startOn_starts (target : StartTarget) (force : Bool) (d : Desk Host) :
    ∃ answer h', startOn target force d = (answer, ⟨h', d.journal⟩) ∧
      d.content.Starts target force answer h' := by
  cases target with
  | engine number => exact adopt_starts number force d
  | address address => exact startup_starts address force d

theorem newUnit_own (directoryIntegration : Bool) (policy : Policy) (d : Desk Host) :
    newUnit (some directoryIntegration) policy d =
      match d.content.databases.adapter.managed with
      | none => (.error (.startup .notStarted), d)
      | some managed =>
        let engine := d.content.databases.adapter.factory.getD managed
        let adapter := { d.content.databases.adapter with factory := some engine }
        (.ok { engine, directoryIntegration },
          ⟨{ d.content with databases := { d.content.databases with adapter } }, d.journal⟩) := by
  obtain ⟨⟨surroundings, ⟨engines, managed, factory⟩, disk, locks⟩, journal⟩ := d
  cases managed <;> cases factory <;> rfl

end Host

namespace Session

theorem rollback_eq (s : Session) :
    rollback s =
      (if s.isCutOff then .error (.fault (.database .connectionClosed)) else .ok (), s.rolledBack) := by
  have hdone : rollback s =
      (if s.isCutOff then refuse .connectionClosed else pure () : Call Session Unit) s.rolledBack := rfl
  rw [hdone]
  cases s.isCutOff <;> rfl

end Session

namespace WorkUnit

variable {u : WorkUnit} {d : Databases} {session : OpenSession}

theorem use_none {β : Type} (hu : u.session = none) (work : Session → β × Session) :
    u.use d work = .error .notEntered := by
  rw [use, opened, hu]
  rfl

theorem begun_of_isCutOff (h : (u.sessionOn session d).isCutOff = true) :
    session.transaction = .begun := by
  have h : (d.reach u.engine session).refusal = some .connectionClosed := of_decide_eq_true h
  rw [Databases.reach] at h
  split at h
  · cases h
  · by_contra hidle
    simp [hidle] at h
  · next place readOnly hfile =>
    simp only [Disk.databaseAt] at h
    split at h
    · cases h
    · next error hfound =>
      split at hfound <;> cases hfound
      cases h

theorem leave_none (hu : u.session = none) (d : Databases) : u.leave d = .error .notEntered := by
  rw [leave, use_none hu]
  rfl

theorem leave_some (hu : u.session = some session) (d : Databases) :
    ∃ (answer : Except CallError Unit) (session? : Option OpenSession) (d' : Databases),
      u.leave d = .ok (answer, { u with session := session? }, d') ∧ Databases.Through u.engine d d' ∧
      (answer = .ok () ∧ session? = none ∨
        ∃ e, answer = .error e ∧ session?.isSome = true ∧ session.transaction = .begun) := by
  have hthrough := d.keep_through u.engine session (Session.rollback (u.sessionOn session d)).2
  have huse := use_eq (d := d) hu (Session.rollback ·)
  rw [leave, huse]
  rw [Session.rollback_eq] at hthrough ⊢
  cases hcut : (u.sessionOn session d).isCutOff with
  | false => exact ⟨.ok (), none, _, rfl, hthrough, .inl ⟨rfl, rfl⟩⟩
  | true => exact ⟨.error _, some _, _, rfl, hthrough, .inr ⟨_, rfl, rfl, begun_of_isCutOff hcut⟩⟩

end WorkUnit

namespace Host

variable {α : Type} {unit : WorkUnit} {session : OpenSession}

theorem inUnit_none (hu : unit.session = none) (work : Task Session α) (d : Desk Host) :
    inUnit unit work d = (.error (.startup .notEntered), d) := by
  have hget : (get : Task Host (Desk Host)) d = (.ok d, d) := rfl
  rw [inUnit, Task.bind_of_ok hget, WorkUnit.use_none hu]
  rfl

theorem inUnit_some (hu : unit.session = some session) (work : Task Session α) (d : Desk Host) :
    ∃ (session' : OpenSession) (d' : Desk Host),
      inUnit unit work d =
        (.ok ((work ⟨unit.sessionOn session d.content.databases, d.journal⟩).1,
          { unit with session := some session' }), d') ∧
      Databases.Through unit.engine d.content.databases d'.content.databases := by
  have hget : (get : Task Host (Desk Host)) d = (.ok d, d) := rfl
  rw [inUnit, Task.bind_of_ok hget, WorkUnit.use_eq hu]
  exact ⟨_, _, rfl, d.content.databases.keep_through _ _ _⟩

theorem inUnit_rollback (hu : unit.session = some session) (d : Desk Host) :
    ∃ (answer : Except Failure Unit) (session' : OpenSession) (d' : Desk Host),
      inUnit unit (Task.call Session.rollback) d =
        (.ok (answer, { unit with session := some session' }), d') ∧
      Databases.Through unit.engine d.content.databases d'.content.databases ∧
      session'.transaction = .idle ∧
      (answer = .ok () ∨ ∃ failure, answer = .error failure ∧ session.transaction = .begun) := by
  have hget : (get : Task Host (Desk Host)) d = (.ok d, d) := rfl
  have hcall (s : Session) : Task.call Session.rollback ⟨s, d.journal⟩ =
      (((Session.rollback s).1).mapError .call,
        ⟨s.rolledBack, d.journal ++ (Run.answerEvents (Session.rollback s).1).map .exchange⟩) := by
    rw [Task.call, Session.rollback_eq]
    cases s.isCutOff <;> rfl
  rw [inUnit, Task.bind_of_ok hget, WorkUnit.use_eq hu]
  simp only [hcall]
  refine ⟨_, _, _, rfl, d.content.databases.keep_through _ _ _, Databases.keep_transaction _ _ _ _, ?_⟩
  rw [Session.rollback_eq]
  cases hcut : (unit.sessionOn session d.content.databases).isCutOff with
  | false => exact .inl rfl
  | true => exact .inr ⟨_, rfl, WorkUnit.begun_of_isCutOff hcut⟩

theorem leave_none (hu : unit.session = none) (d : Desk Host) :
    leave unit d = (.error (.startup .notEntered), d) := by
  rw [leave, Task.bind_apply, Task.content_apply]
  simp only [WorkUnit.leave_none hu]
  rfl

theorem leave_some (hu : unit.session = some session) (d : Desk Host) :
    ∃ (answer : Except CallError Unit) (session? : Option OpenSession) (d' : Desk Host),
      leave unit d = (.ok (answer, { unit with session := session? }), d') ∧
      Databases.Through unit.engine d.content.databases d'.content.databases ∧
      (answer = .ok () ∧ session? = none ∨
        ∃ e, answer = .error e ∧ session?.isSome = true ∧ session.transaction = .begun) := by
  obtain ⟨answer, session?, databases, hleave, hthrough, hcases⟩ :=
    WorkUnit.leave_some hu d.content.databases
  refine ⟨answer, session?, ⟨{ d.content with databases }, d.journal⟩, ?_, hthrough, hcases⟩
  rw [leave, Task.bind_apply, Task.content_apply]
  simp only [hleave]
  rfl

end Host

end ParticipantRegistry
