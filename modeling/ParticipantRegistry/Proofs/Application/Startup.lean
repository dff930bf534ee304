import ParticipantRegistry.Proofs.Application.SessionExchange
import ParticipantRegistry.Proofs.Relational.Rewrites
import ParticipantRegistry.Proofs.Relational.Units

/-!
# Starting the adapter

Before its first unit of work a host opens the database that its settings lead to, in a file or in memory.
A database with all its tables is opened as it is, or not at all: only one without tables is brought to
the current schema.
-/

namespace ParticipantRegistry

section

variable {ε ε' α β σ : Type}

theorem Except.ok_of_bind {x : Except ε α} {next : α → Except ε β} {b : β}
    (h : (x >>= next) = .ok b) : ∃ a, x = .ok a ∧ next a = .ok b := by
  cases x with
  | ok a => exact ⟨a, rfl, h⟩
  | error e => cases h

theorem Except.ok_of_mapError {x : Except ε α} {f : ε → ε'} {a : α} (h : x.mapError f = .ok a) :
    x = .ok a := by
  cases x <;> cases h
  rfl

theorem Task.bind_congr {task task' : Task σ α} {next : α → Task σ β} {d : Desk σ}
    (h : task d = task' d) : (task >>= next) d = (task' >>= next) d := by
  change ExceptT.bindCont next (task d).1 (task d).2 = _
  rw [h]
  rfl

theorem Task.ofExcept_bind_eq {failure : ε → Failure} {x : Except ε α} {next : α → Task σ β}
    {d : Desk σ} {result : Except Failure β × Desk σ}
    (h : (Task.ofExcept failure x >>= next) d = result) :
    (∃ e, x = .error e ∧ result = (.error (failure e), d)) ∨ ∃ a, x = .ok a ∧ next a d = result := by
  cases x with
  | ok a => exact .inr ⟨a, rfl, h⟩
  | error e => exact .inl ⟨e, rfl, h.symm⟩

end

namespace Disk

variable {disk disk' : Disk} {place : DiskPlace}

/-- Every database with all its tables is as it was. -/
def KeepsTables (disk disk' : Disk) : Prop :=
  ∀ place db, disk.databaseAt place = .ok db → db.Complete → disk'.databaseAt place = .ok db

theorem KeepsTables.of_databaseAt
    (h : ∀ place, disk'.databaseAt place = disk.databaseAt place) : disk.KeepsTables disk' :=
  fun place _ hdb _ => (h place).trans hdb

theorem KeepsTables.trans {disk'' : Disk} (h : disk.KeepsTables disk')
    (h' : disk'.KeepsTables disk'') : disk.KeepsTables disk'' :=
  fun place db hdb hc => h' place db (h place db hdb hc) hc

theorem keepsTables_saveDatabase (h : ∀ db, disk.databaseAt place = .ok db → ¬db.Complete)
    (db : Database) : disk.KeepsTables (disk.saveDatabase place db) := by
  intro other found hfound hc
  have hne : other ≠ place := by
    rintro rfl
    exact h found hfound hc
  exact (databaseAt_saveDatabase_ne hne db).trans hfound

theorem makeDirectories_ok (h : disk.makeDirectories place = .ok disk') (other : DiskPlace) :
    disk'.databaseAt other = disk.databaseAt other := by
  obtain ⟨-, -, h⟩ := Except.ok_of_bind h
  split at h
  · cases h
    rfl
  · obtain ⟨-, -, h⟩ := Except.ok_of_bind h
    cases h
    rfl

end Disk

theorem Database.not_complete_empty : ¬Database.Complete {} := fun hc => absurd (hc .users) nofun

theorem Disk.not_complete_of_missing {disk : Disk} {place : DiskPlace}
    (h : disk.isFile place = false) (db : Database) (hdb : disk.databaseAt place = .ok db) :
    ¬db.Complete := by
  rw [isFile, Bool.or_eq_false_iff, Option.isSome_eq_false_iff, Option.isSome_eq_false_iff,
    Option.isNone_iff_eq_none, Option.isNone_iff_eq_none] at h
  rw [databaseAt, h.1, h.2] at hdb
  cases hdb
  exact Database.not_complete_empty

theorem Database.not_complete_of_tables {db : Database} (h : db.tables = []) : ¬db.Complete := by
  intro hc
  have husers : TableName.users ∈ db.tables :=
    List.mem_filter.mpr ⟨List.mem_cons_self, hc .users⟩
  rw [h] at husers
  cases husers

theorem Surroundings.databaseAddress_ok {s : Surroundings} {disk disk' : Disk} {address : Text}
    (h : s.databaseAddress none disk = .ok (address, disk')) (place : DiskPlace) :
    disk'.databaseAt place = disk.databaseAt place := by
  rw [databaseAddress] at h
  split at h
  · cases h
    rfl
  · obtain ⟨d, -, h⟩ := Except.ok_of_bind h
    obtain ⟨made, hensure, h⟩ := Except.ok_of_bind h
    cases h
    obtain ⟨way, -, hensure⟩ := Except.ok_of_bind hensure
    obtain ⟨_, hmake, hensure⟩ := Except.ok_of_bind hensure
    cases hensure
    exact Disk.makeDirectories_ok (Except.ok_of_mapError hmake) place

namespace Databases

variable {disk disk' : Disk} {place : DiskPlace}

theorem openFile_ok {path : Text} {access : Access}
    (h : openFile disk path access = .ok (place, disk')) :
    place = (Path.read path).placeFrom disk.workingDirectory ∧ disk.KeepsTables disk' := by
  rw [openFile] at h
  simp only at h
  split at h
  · cases h
  · cases h
    refine ⟨rfl, ?_⟩
    split
    · next hmissing =>
      exact Disk.keepsTables_saveDatabase (Disk.not_complete_of_missing (by simpa using hmissing)) _
    · exact .of_databaseAt fun _ => rfl

theorem upgradeFile_ok {readOnly : Bool} (h : upgradeFile disk place readOnly = .ok disk') :
    (∃ db, disk'.databaseAt place = .ok db) ∧ disk.KeepsTables disk' := by
  obtain ⟨db, hdb, h⟩ := Except.ok_of_bind h
  obtain ⟨upgraded, hupgrade, h⟩ := Except.ok_of_bind h
  split at h
  · cases h
    exact ⟨⟨db, hdb⟩, .of_databaseAt fun _ => rfl⟩
  · next hsame =>
    replace h : disk.saveDatabase place upgraded = disk' := by
      cases readOnly <;> cases h
      rfl
    subst h
    refine ⟨⟨upgraded, Disk.databaseAt_saveDatabase upgraded⟩,
      Disk.keepsTables_saveDatabase (fun found hfound => ?_) upgraded⟩
    rw [hdb] at hfound
    cases hfound
    rw [Database.upgrade] at hupgrade
    split at hupgrade
    · cases hupgrade
      exact absurd rfl hsame
    · split at hupgrade
      · exact Database.not_complete_of_tables ‹_›
      · cases hupgrade

theorem open?_ok {location : Location} {engine : Engine} (h : open? disk location = .ok (engine, disk')) :
    disk.KeepsTables disk' ∧ (engine = .memory (.holding .fresh) 0 ∨
      ∃ (path : Text) (access : Access) (db : Database), location = .file path access ∧
        engine = .file ((Path.read path).placeFrom disk.workingDirectory) access.readOnly ∧
        disk'.databaseAt ((Path.read path).placeFrom disk.workingDirectory) = .ok db) := by
  cases location with
  | memory readOnly =>
    cases readOnly with
    | true => cases h
    | false =>
      obtain ⟨db, hupgrade, h⟩ := Except.ok_of_bind h
      cases Database.upgrade_empty.symm.trans hupgrade
      cases h
      exact ⟨.of_databaseAt fun _ => rfl, .inl rfl⟩
  | file path access =>
    obtain ⟨⟨place, opened⟩, hopen, h⟩ := Except.ok_of_bind h
    obtain ⟨upgraded, hupgrade, h⟩ := Except.ok_of_bind h
    cases h
    obtain ⟨rfl, hkeeps⟩ := openFile_ok hopen
    obtain ⟨⟨db, hdb⟩, hkeeps'⟩ := upgradeFile_ok hupgrade
    exact ⟨hkeeps.trans hkeeps', .inr ⟨path, access, db, rfl, rfl, hdb⟩⟩
  | unclear => cases h

end Databases

namespace Host

variable {h : Host}

def databasePlace? (h : Host) : Option DiskPlace :=
  match h.surroundings.databaseAddress none h.disk with
  | .error _ => none
  | .ok (address, disk) =>
    match Location.read address with
    | .ok (.file path _) => some ((Path.read path).placeFrom disk.workingDirectory)
    | _ => none

def opening (h : Host) : Except Failure Databases := do
  let (address, disk) ← (h.surroundings.databaseAddress none h.disk).mapError .directory
  let location ← (Location.read address).mapError .address
  ({ h.databases with disk }.start location).mapError (.call <| .fault <| .database ·)

theorem opening_eq {address : Text} {disk : Disk}
    (ha : h.surroundings.databaseAddress none h.disk = .ok (address, disk)) :
    h.opening = (Location.read address).mapError .address >>= fun location =>
      ({ h.databases with disk }.start location).mapError (.call <| .fault <| .database ·) := by
  rw [opening, ha]
  rfl

/-- An engine leads to a new database in memory or to the one in the file from the settings. -/
inductive Opens (h : Host) (d : Databases) (engine : Nat) : Database → Prop
  | memory (found : d.adapter.engines[engine]? = some (.memory (.holding .fresh) 0)) :
      Opens h d engine .fresh
  | file {place : DiskPlace} {readOnly : Bool} {db : Database} (settings : h.databasePlace? = some place)
      (found : d.adapter.engines[engine]? = some (.file place readOnly))
      (database : d.disk.databaseAt place = .ok db) : Opens h d engine db

theorem Opens.leads {d : Databases} {engine : Nat} {db : Database} (ho : h.Opens d engine db) :
    ∃ barrier, d.Leads engine db barrier := by
  cases ho with
  | memory found => exact ⟨none, .memory found⟩
  | file settings found database => exact ⟨_, .file found database⟩

theorem databaseAddress_eq (journal : List Occurrence) :
    databaseAddress ⟨h, journal⟩ =
      match h.surroundings.databaseAddress none h.disk with
      | .error e => (.error (.directory e), ⟨h, journal⟩)
      | .ok (address, disk) => (.ok address, ⟨h.setDisk disk, journal⟩) := by
  have hcontent : (Task.content : Task Host Host) ⟨h, journal⟩ = (.ok h, ⟨h, journal⟩) := rfl
  rw [databaseAddress, Task.bind_of_ok hcontent]
  cases h.surroundings.databaseAddress none h.disk <;> rfl

/-- Starting the adapter fails, or it manages a new engine, which leads to the database of the settings.
Databases with all their tables stay as they are. -/
theorem startup_cases (hstopped : h.databases.adapter.isStarted = false) (journal : List Occurrence) :
    let result := startup .null false ⟨h, journal⟩
    h.disk.KeepsTables result.2.content.disk ∧
    ((∃ failure, result.1 = .error failure ∧ h.opening = .error failure) ∨
      ∃ (databases : Databases) (engine : Nat) (db : Database),
        result = (.ok (), ⟨{ h with databases }, journal⟩) ∧ h.opening = .ok databases ∧
        databases.adapter.managed = some engine ∧ databases.adapter.factory = none ∧
        h.Opens databases engine db) := by
  intro result
  have hresult : startup .null false ⟨h, journal⟩ = result := rfl
  have hcontent (k : Host) : (Task.content : Task Host Host) ⟨k, journal⟩ = (.ok k, ⟨k, journal⟩) := rfl
  have haddress := h.databaseAddress_eq journal
  have hnot : ¬Json.null.isGiven = true := Bool.false_ne_true
  rw [startup, Task.bind_of_ok (hcontent h)] at hresult
  simp only [hstopped, Bool.false_and, Bool.false_eq_true, if_false] at hresult
  rw [if_neg hnot, bind_map_left] at hresult
  cases ha : h.surroundings.databaseAddress none h.disk with
  | error e =>
    rw [ha] at haddress
    rw [Task.bind_of_error haddress] at hresult
    rw [← hresult]
    exact ⟨.of_databaseAt fun _ => rfl, .inl ⟨_, rfl, by rw [opening, ha]; rfl⟩⟩
  | ok found =>
    obtain ⟨address, disk⟩ := found
    have hkeeps : h.disk.KeepsTables disk := .of_databaseAt (Surroundings.databaseAddress_ok ha)
    rw [ha] at haddress
    rw [Task.bind_of_ok haddress] at hresult
    rcases Task.ofExcept_bind_eq hresult with ⟨e, hl, hresult⟩ | ⟨location, hl, hresult⟩
    · rw [hresult]
      refine ⟨hkeeps, .inl ⟨_, rfl, ?_⟩⟩
      rw [opening_eq ha, hl]
      rfl
    · rw [Task.bind_of_ok (hcontent _)] at hresult
      rcases Task.ofExcept_bind_eq hresult with ⟨e, hs, hresult⟩ | ⟨databases, hs, hresult⟩
      · rw [hresult]
        refine ⟨hkeeps, .inl ⟨_, rfl, ?_⟩⟩
        rw [opening_eq ha, hl]
        exact congrArg (Except.mapError _) hs
      · have hopening : h.opening = .ok databases := by
          rw [opening_eq ha, hl]
          exact congrArg (Except.mapError _) hs
        obtain ⟨⟨engine, disk'⟩, hopen, hs⟩ := Except.ok_of_bind hs
        cases hs
        obtain ⟨hkeeps', hengine⟩ := Databases.open?_ok hopen
        have hadded : (h.databases.adapter.engines ++ [engine])[h.databases.adapter.engines.length]? =
            some engine := List.getElem?_concat_length
        let databases : Databases :=
          { h.databases with adapter := h.databases.adapter.start engine, disk := disk' }
        have hdone : result = (.ok (), ⟨{ h with databases }, journal⟩) := hresult.symm
        have hleft : h.disk.KeepsTables result.2.content.disk := by
          rw [hdone]
          exact hkeeps.trans hkeeps'
        rcases hengine with rfl | ⟨path, access, db, rfl, rfl, hdb⟩
        · exact ⟨hleft, .inr ⟨databases, h.databases.adapter.engines.length, .fresh, hdone, hopening,
            rfl, rfl, .memory hadded⟩⟩
        · refine ⟨hleft, .inr ⟨databases, h.databases.adapter.engines.length, db, hdone, hopening, rfl,
            rfl, .file ?_ hadded hdb⟩⟩
          rw [databasePlace?, ha]
          simp only [hl]
          rfl

theorem newUnit_cases (hstopped : h.databases.adapter.isStarted = false) (policy : Policy)
    (journal : List Occurrence) :
    let result := newUnit none policy ⟨h, journal⟩
    h.disk.KeepsTables result.2.content.disk ∧
    ((∃ failure, result.1 = .error failure ∧ h.opening = .error failure) ∨
      ∃ (unit : WorkUnit) (databases : Databases) (db : Database),
        result = (.ok unit, ⟨{ h with databases }, journal⟩) ∧ unit.session = none ∧
        (∀ failure, h.opening ≠ .error failure) ∧ h.Opens databases unit.engine db) := by
  intro result
  have hresult : newUnit none policy ⟨h, journal⟩ = result := rfl
  have hcontent (k : Host) : (Task.content : Task Host Host) ⟨k, journal⟩ = (.ok k, ⟨k, journal⟩) := rfl
  rw [newUnit, Task.bind_of_ok (hcontent h)] at hresult
  simp only [hstopped, Option.isNone_none, Bool.not_false, Bool.and_self, if_true] at hresult
  obtain ⟨hkeeps, ⟨failure, hfailed, hopening⟩ |
    ⟨databases, engine, db, hstarted, hopening, hmanaged, hfactory, hopens⟩⟩ :=
      startup_cases hstopped journal
  · have hstartup : startup .null false ⟨h, journal⟩ = (.error failure, _) := Prod.ext hfailed rfl
    rw [Task.bind_of_error hstartup] at hresult
    rw [← hresult]
    exact ⟨hkeeps, .inl ⟨failure, rfl, hopening⟩⟩
  · rw [hstarted] at hkeeps
    rw [Task.bind_of_ok hstarted, Task.bind_of_ok (hcontent _)] at hresult
    have hmade : databases.adapter.sessionFactory =
        .ok (engine, { databases.adapter with factory := some engine }) := by
      simp only [Adapter.sessionFactory, hmanaged, hfactory]
    have hnew : WorkUnit.new ((none : Option Bool).getD policy.directoryIntegration)
        databases.adapter = .ok (⟨engine, policy.directoryIntegration, none⟩,
          { databases.adapter with factory := some engine }) := by
      rw [WorkUnit.new, hmade]
      rfl
    simp only [hnew] at hresult
    rw [← hresult]
    refine ⟨hkeeps, .inr ⟨_, _, db, rfl, rfl, fun failure hfailed => ?_, ?_⟩⟩
    · rw [hopening] at hfailed
      cases hfailed
    · cases hopens with
      | memory found => exact .memory found
      | file settings found database => exact .file settings found database

end Host

end ParticipantRegistry
