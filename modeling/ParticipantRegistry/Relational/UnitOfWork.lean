import ParticipantRegistry.Files.Disk
import ParticipantRegistry.Relational.Address
import ParticipantRegistry.Relational.SessionRegistry

/-!
# Units of work

An adapter manages at most one engine, the way to one database. A unit of work takes the engine that
is managed when it is made, and keeps it. Between entering and leaving it has a session; leaving
undoes what was not committed.

Units get their engine through a factory that the adapter makes once for the managed engine; when
another engine is managed, or none, the factory is forgotten.
-/

namespace ParticipantRegistry

inductive StartupError where
  | notStarted
  | alreadyStarted
  | notEntered
  | alreadyEntered
  deriving DecidableEq

def StartupError.message : StartupError → Text
  | .notStarted =>
    "SQLAlchemy adapter not initialised. Call smpexchange.adapters.sqlalchemy.unit_of_work." ++
      "startup() before requesting a unit of work."
  | .alreadyStarted => "SQLAlchemy adapter already initialised. Pass force=True to reconfigure."
  | .notEntered => "Unit of work session not initialised"
  | .alreadyEntered => "Unit of work session already initialised"

/-- The way to a database. To the one in memory there is a single connection that all sessions share;
it is counted which one. To one on disk every session has its own. -/
inductive Engine where
  | memory (storage : Storage) (connection : Nat)
  | file (place : DiskPlace) (readOnly : Bool)

/-- Engines by number, the managed one, and the engine that the factory is bound to. -/
structure Adapter where
  engines : List Engine := []
  managed : Option Nat := none
  factory : Option Nat := none

namespace Adapter

def isStarted (a : Adapter) : Bool := a.managed.isSome

/-- Manages an engine, or none; the factory is made anew when it is asked for. -/
def manage (engine : Option Nat) (a : Adapter) : Adapter :=
  { a with managed := engine, factory := none }

def sessionFactory (a : Adapter) : Except StartupError (Nat × Adapter) :=
  match a.managed with
  | none => .error .notStarted
  | some engine =>
    match a.factory with
    | some bound => .ok (bound, a)
    | none => .ok (engine, { a with factory := some engine })

def start (engine : Engine) (a : Adapter) : Adapter :=
  { a with engines := a.engines ++ [engine] }.manage (some a.engines.length)

/-- Gives up the connections of an engine; what was kept in memory is lost. -/
def dispose : Engine → Engine
  | .memory _ connection => .memory (.holding {}) (connection + 1)
  | .file place readOnly => .file place readOnly

def shutdown (a : Adapter) : Adapter :=
  match a.managed with
  | none => a.manage none
  | some i => { a with engines := a.engines.modify i dispose }.manage none

end Adapter

/-- What a unit of work has of its session between entering and leaving. -/
structure OpenSession where
  pending : List NewUser := []
  transaction : Transaction := .idle
  /-- The database on disk with the changes that its own connection has not committed. -/
  changed : Option Database := none
  connection : Nat := 0
  deriving DecidableEq

structure WorkUnit where
  engine : Nat
  directoryIntegration : Bool := true
  session : Option OpenSession := none
  deriving DecidableEq

/-- The databases that units of work reach: those of the adapter and those on disk. -/
structure Databases where
  adapter : Adapter
  disk : Disk
  /-- The places of databases that a session has changed and not yet committed. -/
  locks : List DiskPlace := []

namespace Databases

/-- What a session finds at the other end of an engine: the database, why it refuses every statement,
and why it refuses every change. -/
structure Reach where
  storage : Storage
  refusal : Option DatabaseError := none
  barrier : Option DatabaseError := none

/-- What a session sees through an engine. On disk it sees its own changes, and what others have
committed while it has made none. -/
def reach (d : Databases) (engine : Nat) (session : OpenSession) : Reach :=
  match d.adapter.engines[engine]? with
  | none => { storage := .holding {} }
  | some (.memory storage connection) =>
    let isCutOff := session.transaction = .begun ∧ session.connection ≠ connection
    { storage, refusal := if isCutOff then some .connectionClosed else none }
  | some (.file place readOnly) =>
    let barrier : Option DatabaseError :=
      if readOnly then some .readOnly
      else if session.changed.isNone && d.locks.contains place then some .locked
      else none
    match d.disk.databaseAt place with
    | .ok committed => { storage := ⟨session.changed.getD committed, committed⟩, barrier }
    | .error error => { storage := .holding {}, refusal := some error, barrier }

def connectionOf (d : Databases) (engine : Nat) : Nat :=
  match d.adapter.engines[engine]? with
  | some (.memory _ connection) => connection
  | _ => 0

def keep (engine : Nat) (before : OpenSession) (s : Session) (d : Databases) :
    OpenSession × Databases :=
  let connection := if s.isCutOff then before.connection else d.connectionOf engine
  let session : OpenSession := { pending := s.pending, transaction := s.transaction, connection }
  match d.adapter.engines[engine]? with
  | none => (session, d)
  | some (.memory _ connection) =>
    let engines := d.adapter.engines.set engine (.memory s.storage connection)
    (session, { d with adapter := { d.adapter with engines } })
  | some (.file place _) =>
    let { current, committed } := s.storage
    let changed := if current = committed then none else some current
    let disk :=
      if committed = (d.reach engine before).storage.committed then d.disk
      else d.disk.saveDatabase place committed
    let others := if before.changed.isSome then d.locks.erase place else d.locks
    let locks := if changed.isSome then place :: others else others
    ({ session with changed }, { d with disk, locks })

def longestPath : Nat := 504

def openFile (disk : Disk) (path : Text) (access : Access) :
    Except DatabaseError (DiskPlace × Disk) := do
  let place := (Path.read path).placeFrom disk.workingDirectory
  let isMissing := !disk.isFile place
  if longestPath < FileName.size (Path.ofPlace place).toText ||
      place.any (FileName.longestName < FileName.size ·) ||
      !disk.takesFile place || (isMissing && !access.mayCreate) then
    throw .cannotOpen
  return (place, if isMissing then disk.saveDatabase place {} else disk)

def upgradeFile (disk : Disk) (place : DiskPlace) (readOnly : Bool) : Except DatabaseError Disk := do
  let db ← disk.databaseAt place
  let upgraded ← db.upgrade
  if upgraded = db then return disk
  if readOnly then throw .readOnly
  return disk.saveDatabase place upgraded

def open? (disk : Disk) : Location → Except DatabaseError (Engine × Disk)
  | .memory readOnly => do
    if readOnly then throw .readOnly
    return (.memory (.holding (← Database.upgrade {})) 0, disk)
  | .file path access => do
    let (place, disk) ← openFile disk path access
    let disk ← upgradeFile disk place access.readOnly
    return (.file place access.readOnly, disk)
  | .unclear => throw .cannotOpen

def start (location : Location) (d : Databases) : Except DatabaseError Databases := do
  let (engine, disk) ← open? d.disk location
  return { d with adapter := d.adapter.start engine, disk }

def shutdown (d : Databases) : Databases := { d with adapter := d.adapter.shutdown }

end Databases

namespace WorkUnit

def new (directoryIntegration : Bool) (a : Adapter) : Except StartupError (WorkUnit × Adapter) := do
  let (engine, a) ← a.sessionFactory
  return ({ engine, directoryIntegration }, a)

def enter (u : WorkUnit) : Except StartupError WorkUnit :=
  match u.session with
  | some _ => .error .alreadyEntered
  | none => .ok { u with session := some {} }

def opened (u : WorkUnit) : Except StartupError OpenSession :=
  match u.session with
  | some session => .ok session
  | none => .error .notEntered

def sessionOn (u : WorkUnit) (session : OpenSession) (d : Databases) : Session :=
  let { storage, refusal, barrier } := d.reach u.engine session
  { storage, refusal, barrier
    pending := session.pending
    transaction := session.transaction
    directoryIntegration := u.directoryIntegration }

def use {β : Type} (u : WorkUnit) (d : Databases) (work : Session → β × Session) :
    Except StartupError (β × WorkUnit × Databases) := do
  let session ← u.opened
  let (answer, s) := work (u.sessionOn session d)
  let (session, d) := d.keep u.engine session s
  return (answer, { u with session := some session }, d)

/-- Leaves a unit of work; what its session has not committed is undone. When that fails, the unit
stays entered. -/
def leave (u : WorkUnit) (d : Databases) :
    Except StartupError (Except CallError Unit × WorkUnit × Databases) := do
  let (answer, u, d) ← u.use d (Session.rollback ·)
  match answer with
  | .ok () => return (.ok (), { u with session := none }, d)
  | .error e => return (.error e, u, d)

end WorkUnit

end ParticipantRegistry
