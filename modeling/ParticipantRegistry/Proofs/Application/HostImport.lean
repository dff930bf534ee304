import ParticipantRegistry.Proofs.Application.HostExchange
import ParticipantRegistry.Proofs.Application.SessionImport
import ParticipantRegistry.Proofs.Application.Startup

/-!
# Importing a file on a host

A host whose adapter is not started imports a file into the database that its settings lead to. If a
log is returned, the file held a document and the default owner is a user of the database. Where the
work is ended by anything but a call, or an error is recorded before it proceeds, every database is as
it was.
-/

namespace ParticipantRegistry

namespace Host

variable {h : Host}

def HoldsDocument (h : Host) (path : Path) (batch : ParsedBatch) : Prop :=
  ∃ content, h.disk.contentAt path = .ok content ∧
    (Document.load path.toText content).2 = .ok batch

/-- An import was ended by anything but a call in a session, the database cannot be opened, or an error
was recorded before the import proceeded. -/
def StopsEarly (h : Host) (answer : Except Failure ActionLog) : Prop :=
  (∃ failure, answer = .error failure ∧ ∀ e, failure ≠ .call e) ∨
  (∃ failure, h.opening = .error failure) ∨
  ∃ log, answer = .ok log ∧ log.failsEarly = true

/-- The settings lead to a file with a database that has all its tables, or to none. -/
def HasTables (h : Host) : Prop :=
  ∀ place, h.databasePlace? = some place → ∃ db, h.disk.databaseAt place = .ok db ∧ db.Complete

theorem Opens.complete {d : Databases} {engine : Nat} {db : Database} (ho : h.Opens d engine db)
    (hkeeps : h.disk.KeepsTables d.disk) (htables : h.HasTables) : db.Complete := by
  cases ho with
  | memory found => exact Database.coherent_fresh.complete
  | @file place readOnly db settings found database =>
    obtain ⟨before, hbefore, hc⟩ := htables place settings
    rw [hkeeps place before hbefore hc] at database
    cases database
    exact hc

/-- What an import has done that returned a log: the default owner is known to the database of the
settings, and if the log has no error, the elements are there. -/
def Imported (h h' : Host) (batch : ParsedBatch) (ownerId : Text) (overwriting : Bool)
    (log : ActionLog) : Prop :=
  ∃ (place : DiskPlace) (db db' : Database) (defaultOwner : User),
    h.databasePlace? = some place ∧ h.disk.databaseAt place = .ok db ∧
    h'.disk.databaseAt place = .ok db' ∧
    Table.find? ownerId (db.users.getD []) = some defaultOwner ∧
    (db.Rooted → log.hasError = false → ∀ element ∈ batch.serviceGroups,
      db.Imports db' defaultOwner overwriting element)

theorem within_importBatch {unit : WorkUnit} {databases : Databases} {db : Database}
    (hnew : unit.session = none) (hopens : h.Opens databases unit.engine db)
    (hkeeps : h.disk.KeepsTables databases.disk) (htables : h.HasTables) (batch : ParsedBatch)
    (ownerId : Text) (overwriting : Bool) (journal : List Occurrence) :
    let result := within unit (importBatch batch (.string ownerId) overwriting)
      ⟨{ h with databases }, journal⟩
    (∃ e, result.1 = .error (.call e)) ∨
    ((∃ error, result.1 = .error (.configuration error)) ∧
      h.disk.KeepsTables result.2.content.disk) ∨
    ∃ log, result.1 = .ok log ∧
      (log.failsEarly = true → h.disk.KeepsTables result.2.content.disk) ∧
      h.Imported result.2.content batch ownerId overwriting log := by
  intro result
  obtain ⟨barrier, hleads⟩ := hopens.leads
  have hc := hopens.complete hkeeps htables
  let s : Session := unit.sessionOn {} databases
  have hs : s = { storage := .holding db, barrier,
                  directoryIntegration := unit.directoryIntegration } := by
    simp only [s, WorkUnit.sessionOn, hleads.reach_new]
  have hresting : s.Resting := by
    rw [hs]
    exact ⟨⟨rfl, rfl⟩, rfl⟩
  have hstorage : s.storage.current = db := by
    rw [hs]
    rfl
  let worked := importBatch batch (.string ownerId) overwriting ⟨s, journal⟩
  have hleft (hrest : worked.2.content.Resting) : ∃ databases' : Databases,
      result = (worked.1, ⟨{ h with databases := databases' }, worked.2.journal⟩) ∧
      databases'.Leads unit.engine worked.2.content.storage.current barrier ∧
      Databases.Retains unit.engine databases databases' ∧
      Databases.Spares unit.engine databases databases' :=
    within_eq unit hnew hleads rfl hrest.toSettled hrest.isCutOff
  have hsame {databases' : Databases} {current : Database} (hcurrent : current = db)
      (hleads' : databases'.Leads unit.engine current barrier)
      (hspares : Databases.Spares unit.engine databases databases') :
      h.disk.KeepsTables databases'.disk := by
    subst hcurrent
    exact hkeeps.trans (.of_databaseAt (hspares.databaseAt_eq hleads hleads'))
  rcases hresting.importBatch (hstorage ▸ hc) batch ownerId overwriting journal with
    ⟨e, hcall⟩ | ⟨⟨error, herror⟩, hrest, huntouched⟩ | ⟨log, hlog, himported⟩
  · obtain ⟨left, hanswer⟩ := within_answer (h := { h with databases }) unit hnew
      (importBatch batch (.string ownerId) overwriting) journal
    refine .inl ?_
    have hresult : result.1 = (left.mapError .call).bind fun _ => worked.1 := hanswer
    rw [hresult, show worked.1 = _ from hcall]
    cases left with
    | ok _ => exact ⟨e, rfl⟩
    | error e' => exact ⟨e', rfl⟩
  · obtain ⟨databases', hresult, hleads', -, hspares⟩ := hleft hrest
    rw [hresult]
    exact .inr (.inl ⟨⟨error, herror⟩, hsame (huntouched.trans hstorage) hleads' hspares⟩)
  · obtain ⟨databases', hresult, hleads', -, hspares⟩ := hleft himported.resting
    rw [hresult]
    refine .inr (.inr ⟨log, hlog, fun hearly =>
      hsame ((himported.untouched hearly).trans hstorage) hleads' hspares, ?_⟩)
    obtain ⟨defaultOwner, howner, helements⟩ := himported.elements
    rw [hstorage] at howner helements
    cases hopens with
    | memory found => cases howner
    | @file place readOnly db settings found database =>
      obtain ⟨before, hbefore, hcomplete⟩ := htables place settings
      rw [hkeeps place before hbefore hcomplete] at database
      cases database
      exact ⟨place, _, _, defaultOwner, settings, hbefore,
        hleads'.databaseAt (hspares.file place readOnly found), howner, helements⟩

theorem withUnit_importBatch (hstopped : h.databases.adapter.isStarted = false)
    (htables : h.HasTables) (policy : Policy) (batch : ParsedBatch) (ownerId : Text)
    (overwriting : Bool) (journal : List Occurrence) :
    let result := withUnit none policy (importBatch batch (.string ownerId) overwriting) ⟨h, journal⟩
    (h.StopsEarly result.1 → h.disk.KeepsTables result.2.content.disk) ∧
    ∀ log, result.1 = .ok log → h.Imported result.2.content batch ownerId overwriting log := by
  intro result
  have hresult : withUnit none policy (importBatch batch (.string ownerId) overwriting) ⟨h, journal⟩ =
      result := rfl
  rw [withUnit] at hresult
  obtain ⟨hkeeps, ⟨failure, hfailed, -⟩ | ⟨unit, databases, db, hunit, hnew, hopening, hopens⟩⟩ :=
    newUnit_cases hstopped policy journal
  · have hmade : newUnit none policy ⟨h, journal⟩ = (.error failure, _) := Prod.ext hfailed rfl
    rw [Task.bind_of_error hmade] at hresult
    rw [← hresult]
    exact ⟨fun _ => hkeeps, nofun⟩
  rw [Task.bind_of_ok hunit] at hresult
  rw [hunit] at hkeeps
  rcases within_importBatch hnew hopens hkeeps htables batch ownerId overwriting journal with
    ⟨e, hcall⟩ | ⟨⟨error, herror⟩, hkept⟩ | ⟨log, hlog, hkept, himported⟩
  · rw [hresult] at hcall
    rw [hcall]
    refine ⟨fun hearly => ?_, nofun⟩
    rcases hearly with ⟨failure, hanswer, hnocall⟩ | ⟨failure, hfailed⟩ | ⟨log, hanswer, -⟩
    · cases hanswer
      exact absurd rfl (hnocall e)
    · exact absurd hfailed (hopening failure)
    · cases hanswer
  · rw [hresult] at herror hkept
    rw [herror]
    exact ⟨fun _ => hkept, nofun⟩
  · rw [hresult] at hlog hkept himported
    rw [hlog]
    refine ⟨fun hearly => ?_, fun log' hlog' => ?_⟩
    · rcases hearly with ⟨failure, hanswer, -⟩ | ⟨failure, hfailed⟩ | ⟨log', hanswer, hearly⟩
      · cases hanswer
      · exact absurd hfailed (hopening failure)
      · cases hanswer
        exact hkept hearly
    · cases hlog'
      exact himported

theorem loadDocument_cases (path : Path) (journal : List Occurrence) :
    (∃ (failure : Failure) (journal' : List Occurrence),
      loadDocument path ⟨h, journal⟩ = (.error failure, ⟨h, journal'⟩)) ∨
    ∃ (batch : ParsedBatch) (journal' : List Occurrence),
      loadDocument path ⟨h, journal⟩ = (.ok batch, ⟨h, journal'⟩) ∧ h.HoldsDocument path batch := by
  let opened : List Occurrence := journal ++ [.exchange (.documentOpened path.toText)]
  have hopened : Task.tellEvents [.documentOpened path.toText] ⟨h, journal⟩ =
      (.ok (), ⟨h, opened⟩) := rfl
  have hcontent : (Task.content : Task Host Host) ⟨h, opened⟩ = (.ok h, ⟨h, opened⟩) := rfl
  generalize hresult : loadDocument path ⟨h, journal⟩ = result
  rw [loadDocument, Task.bind_of_ok hopened, Task.bind_of_ok hcontent] at hresult
  rcases Task.ofExcept_bind_eq hresult with ⟨e, -, hresult⟩ | ⟨content, hfile, hresult⟩
  · exact .inl ⟨_, _, hresult⟩
  · simp only at hresult
    cases hload : (Document.load path.toText content).2 with
    | error e =>
      rw [hload] at hresult
      exact .inl ⟨_, _, hresult.symm⟩
    | ok batch =>
      rw [hload] at hresult
      exact .inr ⟨batch, _, hresult.symm, content, hfile, hload⟩

theorem ownerId_cases {environment : Environment} {policy : Policy}
    (hpolicy : environment.policy = .ok policy) (overwriteExisting : Option Bool)
    (owner : Option Text) :
    let options : ExchangeOptions := { overwriteExisting, defaultOwnerId := Json.ofText? owner }
    options.ownerId policy = .null ∨ ∃ ownerId, options.ownerId policy = .string ownerId := by
  intro options
  have htext (t : Option Text) : Json.ofText? t = .null ∨ ∃ id, Json.ofText? t = .string id := by
    cases t with
    | none => exact .inl rfl
    | some id => exact .inr ⟨id, rfl⟩
  rw [ExchangeOptions.ownerId]
  split
  · exact htext owner
  · obtain ⟨_, -, hpolicy⟩ := Except.ok_of_bind hpolicy
    obtain ⟨_, -, hpolicy⟩ := Except.ok_of_bind hpolicy
    cases hpolicy
    exact htext _

theorem importFile_cases (hstopped : h.databases.adapter.isStarted = false) (htables : h.HasTables)
    (path : Text) (overwriteExisting : Option Bool) (owner : Option Text)
    (journal : List Occurrence) :
    let options : ExchangeOptions := { overwriteExisting, defaultOwnerId := Json.ofText? owner }
    let result := importFile path options ⟨h, journal⟩
    (h.StopsEarly result.1 → h.disk.KeepsTables result.2.content.disk) ∧
    ∀ log, result.1 = .ok log → ∃ (policy : Policy) (batch : ParsedBatch) (ownerId : Text),
      h.surroundings.environment.policy = .ok policy ∧ h.HoldsDocument (Path.read path) batch ∧
      options.ownerId policy = .string ownerId ∧
      h.Imported result.2.content batch ownerId
        (overwriteExisting.getD policy.overwriteExisting) log := by
  intro options result
  have hsame : h.disk.KeepsTables h.disk := .of_databaseAt fun _ => rfl
  have hresult : importFile path options ⟨h, journal⟩ = result := rfl
  have hsettings : Host.policy options.policy ⟨h, journal⟩ =
      Task.ofExcept .configuration h.surroundings.environment.policy ⟨h, journal⟩ := rfl
  rw [importFile, Task.bind_congr hsettings] at hresult
  rcases Task.ofExcept_bind_eq hresult with ⟨e, -, hresult⟩ | ⟨policy, hpolicy, hresult⟩
  · rw [hresult]
    exact ⟨fun _ => hsame, fun _ hlog => by cases hlog⟩
  have hid : options.ownerId policy = .null ∨ ∃ id, options.ownerId policy = .string id :=
    ownerId_cases hpolicy overwriteExisting owner
  simp only at hresult
  rw [← ExchangeOptions.ownerId] at hresult
  rcases hid with hnobody | ⟨ownerId, howner⟩
  · have hthrow : (throw (.configuration .noDefaultOwner) : Task Host PUnit) ⟨h, journal⟩ =
        (.error (.configuration .noDefaultOwner), ⟨h, journal⟩) := rfl
    rw [if_pos hnobody, Task.bind_of_error hthrow] at hresult
    rw [← hresult]
    exact ⟨fun _ => hsame, fun _ hlog => by cases hlog⟩
  have hsomebody : Json.string ownerId ≠ .null := Json.noConfusion
  rw [howner, if_neg hsomebody] at hresult
  rcases loadDocument_cases (h := h) (Path.read path) journal with
    ⟨failure, journal', hload⟩ | ⟨batch, journal', hload, hholds⟩
  · rw [Task.bind_of_error hload] at hresult
    rw [← hresult]
    exact ⟨fun _ => hsame, fun _ hlog => by cases hlog⟩
  rw [Task.bind_of_ok hload] at hresult
  obtain ⟨hearly, himported⟩ := withUnit_importBatch hstopped htables policy batch ownerId
    (overwriteExisting.getD policy.overwriteExisting) journal'
  cases hunit : withUnit none policy (importBatch batch (.string ownerId)
      (overwriteExisting.getD policy.overwriteExisting)) ⟨h, journal'⟩ with
  | mk answer d =>
    rw [hunit] at hearly himported
    cases answer with
    | error failure =>
      have hresult : result = (.error failure, d) := hresult.symm.trans (Task.bind_of_error hunit)
      rw [hresult]
      exact ⟨hearly, fun _ hlog => by cases hlog⟩
    | ok log =>
      have hresult : result = (.ok log, ⟨d.content, d.journal ++ _⟩) :=
        hresult.symm.trans (Task.bind_of_ok hunit)
      rw [hresult]
      refine ⟨hearly, fun log' hlog => ?_⟩
      cases hlog
      exact ⟨policy, batch, ownerId, hpolicy, hholds, howner, himported log rfl⟩

end Host

end ParticipantRegistry
