import ParticipantRegistry.Proofs.Files.Disk
import ParticipantRegistry.Proofs.Relational.StoreMirror
import ParticipantRegistry.Relational.UnitOfWork

/-!
# What units of work leave behind

Work that ends with nothing left to commit leaves the database of its engine as the session has it, in
memory or on disk. Leaving the unit of work then undoes nothing. Engines stay as they are managed, and
directories stay.
-/

namespace ParticipantRegistry

namespace Databases

variable {d d' : Databases} {engine : Nat} {db db' : Database}

/-- At the end of an engine there is a database that can be changed. -/
inductive Serves (d : Databases) (engine : Nat) (db : Database) : Prop
  | memory {connection : Nat}
      (found : d.adapter.engines[engine]? = some (.memory (.holding db) connection))
  | file {place : DiskPlace} (found : d.adapter.engines[engine]? = some (.file place false))
      (database : d.disk.databaseAt place = .ok db) (free : d.locks.contains place = false)

/-- The databases after some work through an engine: the same engines are managed, the directories are the
same, and the engine leads to no other file. -/
structure Retains (engine : Nat) (d d' : Databases) : Prop where
  managed : d'.adapter.managed = d.adapter.managed
  factory : d'.adapter.factory = d.adapter.factory
  directories : d.disk.SameDirectories d'.disk
  place : ∀ place readOnly, d'.adapter.engines[engine]? = some (.file place readOnly) →
    d.adapter.engines[engine]? = some (.file place readOnly)

theorem Retains.refl (engine : Nat) (d : Databases) : Retains engine d d :=
  ⟨rfl, rfl, .refl _, fun _ _ h => h⟩

theorem Retains.trans {d'' : Databases} (h : Retains engine d d') (h' : Retains engine d' d'') :
    Retains engine d d'' :=
  ⟨h'.managed.trans h.managed, h'.factory.trans h.factory, h.directories.trans h'.directories,
    fun place readOnly hp => h.place place readOnly (h'.place place readOnly hp)⟩

def barrierAt (place : DiskPlace) (readOnly : Bool) (d : Databases) : Option DatabaseError :=
  if readOnly then some .readOnly else if d.locks.contains place then some .locked else none

/-- At the end of an engine there is a database, and there may be a reason why it refuses changes. -/
inductive Leads (d : Databases) (engine : Nat) (db : Database) : Option DatabaseError → Prop
  | memory {connection : Nat}
      (found : d.adapter.engines[engine]? = some (.memory (.holding db) connection)) :
      Leads d engine db none
  | file {place : DiskPlace} {readOnly : Bool}
      (found : d.adapter.engines[engine]? = some (.file place readOnly))
      (database : d.disk.databaseAt place = .ok db) : Leads d engine db (d.barrierAt place readOnly)

/-- The databases after some work through an engine: it leads to the same file, and the databases at
other places are as they were. -/
structure Spares (engine : Nat) (d d' : Databases) : Prop where
  file : ∀ place readOnly, d.adapter.engines[engine]? = some (.file place readOnly) →
    d'.adapter.engines[engine]? = some (.file place readOnly)
  others : ∀ place, (∀ readOnly, d.adapter.engines[engine]? ≠ some (.file place readOnly)) →
    d'.disk.databaseAt place = d.disk.databaseAt place

theorem Spares.trans {d'' : Databases} (h : Spares engine d d') (hr : Retains engine d d')
    (h' : Spares engine d' d'') : Spares engine d d'' where
  file place readOnly hfile := h'.file place readOnly (h.file place readOnly hfile)
  others place hp :=
    (h'.others place fun readOnly hfile => hp readOnly (hr.place place readOnly hfile)).trans
      (h.others place hp)

theorem Serves.leads (h : d.Serves engine db) : d.Leads engine db none := by
  cases h with
  | memory found => exact .memory found
  | @file place found database free =>
    have hleads : d.Leads engine db (d.barrierAt place false) := .file found database
    rwa [barrierAt, free] at hleads

theorem Leads.serves (h : d.Leads engine db none) : d.Serves engine db := by
  generalize hbarrier : (none : Option DatabaseError) = barrier at h
  cases h with
  | memory found => exact .memory found
  | @file place readOnly found database =>
    rw [barrierAt] at hbarrier
    cases readOnly with
    | true => cases hbarrier
    | false =>
      refine .file found database ?_
      by_contra hlocked
      rw [Bool.not_eq_false] at hlocked
      rw [hlocked] at hbarrier
      cases hbarrier

variable {barrier : Option DatabaseError}

/-- A session that knows the connection, or has not begun a transaction, sees the database. -/
theorem Leads.reach (h : d.Leads engine db barrier) {session : OpenSession}
    (hc : session.changed = none)
    (ht : session.transaction = .begun → session.connection = d.connectionOf engine) :
    d.reach engine session = { storage := .holding db, barrier } := by
  cases h with
  | @memory connection found =>
    have hconnection : d.connectionOf engine = connection := by rw [connectionOf, found]
    have hopen : ¬(session.transaction = .begun ∧ session.connection ≠ connection) :=
      fun hcut => hcut.2 ((ht hcut.1).trans hconnection)
    rw [Databases.reach, found]
    simp only [hopen, if_false]
  | file found database =>
    rw [Databases.reach, found]
    simp only [database, hc, Option.isNone_none, Bool.true_and, barrierAt]
    rfl

theorem Leads.reach_new (h : d.Leads engine db barrier) :
    d.reach engine {} = { storage := .holding db, barrier } :=
  h.reach rfl fun hbegun => by cases hbegun

theorem Leads.keep (h : d.Leads engine db barrier) {before : OpenSession} {s : Session}
    (hc : before.changed = none)
    (hreach : d.reach engine before = { storage := .holding db, barrier })
    (hs : s.storage = .holding db') (hcut : s.isCutOff = false) :
    ∃ d' : Databases, d.keep engine before s =
        ({ pending := s.pending, transaction := s.transaction,
           connection := d.connectionOf engine }, d') ∧
      d'.Leads engine db' barrier ∧ d'.connectionOf engine = d.connectionOf engine ∧
      Retains engine d d' ∧ Spares engine d d' := by
  cases h with
  | @memory connection found =>
    obtain ⟨hlt, -⟩ := List.getElem?_eq_some_iff.mp found
    let adapter' : Adapter :=
      { d.adapter with engines := d.adapter.engines.set engine (.memory s.storage connection) }
    have hset : adapter'.engines[engine]? = some (.memory (.holding db') connection) := by
      rw [← hs]
      exact List.getElem?_set_self hlt
    refine ⟨{ d with adapter := adapter' }, ?_, .memory hset, ?_, ⟨rfl, rfl, .refl _, ?_⟩,
      fun place readOnly hfile => ?_, fun _ _ => rfl⟩
    · rw [Databases.keep, found]
      simp only [hcut, Bool.false_eq_true, if_false]
      rfl
    · rw [connectionOf, connectionOf, hset, found]
    · intro place readOnly hfile
      rw [hset] at hfile
      cases hfile
    · rw [found] at hfile
      cases hfile
  | @file place readOnly found database =>
    by_cases hsame : db' = db
    · subst hsame
      refine ⟨d, ?_, .file found database, rfl, .refl engine d, fun _ _ => id, fun _ _ => rfl⟩
      rw [Databases.keep, found]
      simp only [hcut, hs, hreach, hc, Storage.holding, if_true, Bool.false_eq_true, if_false,
        Option.isSome_none]
    · let d' : Databases := { d with disk := d.disk.saveDatabase place db' }
      have hleads : d'.Leads engine db' (d'.barrierAt place readOnly) :=
        .file found (Disk.databaseAt_saveDatabase db')
      refine ⟨d', ?_, hleads, rfl,
        ⟨rfl, rfl, Disk.sameDirectories_saveDatabase db', fun _ _ hp => hp⟩, fun _ _ => id,
        fun other hother => ?_⟩
      · rw [Databases.keep, found]
        simp only [hcut, hs, hreach, hc, hsame, Storage.holding, if_true, Bool.false_eq_true,
          if_false, Option.isSome_none]
        rfl
      · refine Disk.databaseAt_saveDatabase_ne (fun hplace => ?_) db'
        exact hother readOnly (hplace ▸ found)

theorem Leads.databaseAt (h : d.Leads engine db barrier) {place : DiskPlace} {readOnly : Bool}
    (hfile : d.adapter.engines[engine]? = some (.file place readOnly)) :
    d.disk.databaseAt place = .ok db := by
  cases h with
  | memory found =>
    rw [found] at hfile
    cases hfile
  | file found database =>
    rw [found] at hfile
    cases hfile
    exact database

/-- Work that leaves the database of its engine as it was leaves all databases on disk. -/
theorem Spares.databaseAt_eq (h : Spares engine d d') (hdb : d.Leads engine db barrier)
    (hdb' : d'.Leads engine db barrier) (place : DiskPlace) :
    d'.disk.databaseAt place = d.disk.databaseAt place := by
  by_cases hfile : ∃ readOnly, d.adapter.engines[engine]? = some (.file place readOnly)
  · obtain ⟨readOnly, hfile⟩ := hfile
    rw [hdb.databaseAt hfile, hdb'.databaseAt (h.file place readOnly hfile)]
  · exact h.others place fun readOnly hsome => hfile ⟨readOnly, hsome⟩

theorem Serves.withFile (h : d.Serves engine db) {place : DiskPlace}
    (hp : ∀ readOnly, d.adapter.engines[engine]? ≠ some (.file place readOnly)) (content : Octets) :
    ({ d with disk := d.disk.withFile place content } : Databases).Serves engine db := by
  cases h with
  | memory found => exact .memory found
  | @file other found database free =>
    have hne : other ≠ place := by
      rintro rfl
      exact hp false found
    exact .file found ((Disk.databaseAt_withFile hne).trans database) free

end Databases

namespace WorkUnit

open Databases (Leads Retains Serves Spares)

variable {u : WorkUnit} {d : Databases} {session : OpenSession} {db db' : Database} {t : Store}

theorem use_eq {β : Type} (hu : u.session = some session) (work : Session → β × Session) :
    u.use d work =
      .ok ((work (u.sessionOn session d)).1,
        { u with session := some (d.keep u.engine session (work (u.sessionOn session d)).2).1 },
        (d.keep u.engine session (work (u.sessionOn session d)).2).2) := by
  rw [use, opened, hu]
  rfl

theorem sessionOn_mirrors (h : d.Serves u.engine db) (hshows : db.Shows t) (hf : t.failing = [])
    (hu : t.unchanging = []) (hd : u.directoryIntegration = t.directoryIntegration) :
    (u.sessionOn {} d).Mirrors t.users t := by
  rw [sessionOn, h.leads.reach_new]
  exact ⟨⟨rfl, rfl, rfl, rfl, nofun, hd, rfl, hf, hu, hshows⟩, rfl⟩

/-- Work that leaves nothing to commit, and leaving the unit after it. -/
theorem use_leave {β : Type} {work : Session → β × Session} {answer : β} {s : Session}
    {barrier : Option DatabaseError} (h : d.Leads u.engine db barrier)
    (hw : work (u.sessionOn {} d) = (answer, s)) (hs : s.Settled) (hcut : s.isCutOff = false) :
    ∃ (used left : WorkUnit) (d₁ d₂ : Databases),
      ({ u with session := some {} } : WorkUnit).use d work = .ok (answer, used, d₁) ∧
      used.leave d₁ = .ok (.ok (), left, d₂) ∧
      d₂.Leads u.engine s.storage.current barrier ∧ Retains u.engine d d₂ ∧ Spares u.engine d d₂ := by
  have hstorage : s.storage = .holding s.storage.current :=
    congrArg (Storage.mk s.storage.current) hs.storage.symm
  obtain ⟨d₁, hkeep, h₁, hconnection, hretains, hspares⟩ :=
    h.keep rfl h.reach_new hstorage hcut
  let kept : OpenSession :=
    { pending := s.pending, transaction := s.transaction, connection := d.connectionOf u.engine }
  let used : WorkUnit := { u with session := some kept }
  have hreach : d₁.reach u.engine kept = _ := h₁.reach rfl fun _ => hconnection.symm
  let s₁ : Session := used.sessionOn kept d₁
  have hs₁ : s₁ = { storage := .holding s.storage.current, pending := s.pending, barrier
                    transaction := s.transaction, directoryIntegration := u.directoryIntegration } := by
    simp only [s₁, sessionOn, used, hreach]
    rfl
  have hrollback : Session.rollback s₁ = (.ok (), s₁.rolledBack) := by
    rw [hs₁]
    rfl
  have hrolled : s₁.rolledBack.storage = .holding s.storage.current ∧
      s₁.rolledBack.isCutOff = false := by
    rw [hs₁]
    cases s.transaction <;> exact ⟨rfl, rfl⟩
  obtain ⟨d₂, hkeep₂, h₂, -, hretains₂, hspares₂⟩ := h₁.keep rfl hreach hrolled.1 hrolled.2
  refine ⟨used, { used with session := none }, d₁, d₂, ?_, ?_, h₂, hretains.trans hretains₂,
    hspares.trans hretains hspares₂⟩
  · have hw' : work (({ u with session := some {} } : WorkUnit).sessionOn {} d) = (answer, s) := hw
    rw [use_eq rfl, hw', hkeep]
  · have hwork : Session.rollback (used.sessionOn kept d₁) = (.ok (), s₁.rolledBack) := hrollback
    rw [leave, use_eq rfl, hwork, hkeep₂]
    rfl

theorem exists_leave (hu : u.session = some session) (d : Databases) :
    ∃ (answer : Except CallError Unit) (left : WorkUnit) (d' : Databases),
      u.leave d = .ok (answer, left, d') := by
  rw [leave, use_eq hu]
  cases (Session.rollback (u.sessionOn session d)).1 with
  | ok _ => exact ⟨.ok (), _, _, rfl⟩
  | error e => exact ⟨.error e, _, _, rfl⟩

end WorkUnit

end ParticipantRegistry
