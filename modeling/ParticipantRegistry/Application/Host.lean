import ParticipantRegistry.Application.Task

/-!
# The host

The application runs on a host with environment variables, a disk and databases. Everything that it
does in a database is done within a unit of work, which undoes what was not committed.
-/

namespace ParticipantRegistry

structure Host where
  surroundings : Surroundings
  databases : Databases

namespace Host

variable {α : Type}

def disk (h : Host) : Disk := h.databases.disk

def setDisk (disk : Disk) (h : Host) : Host := { h with databases := { h.databases with disk } }

def policy (given : Option Policy) : Task Host Policy := do
  match given with
  | some policy => return policy
  | none => Task.ofExcept .configuration (← Task.content).surroundings.environment.policy

def databaseAddress : Task Host Text := do
  let h ← Task.content
  let (address, disk) ←
    Task.ofExcept .directory (h.surroundings.databaseAddress none h.disk)
  Task.setContent (h.setDisk disk)
  return address

/-- Starts the adapter on a database, the one from the settings if no address is given. -/
def startup (address : Json) (force : Bool) : Task Host Unit := do
  let h ← Task.content
  if h.databases.adapter.isStarted && !force then throw (.startup .alreadyStarted)
  let address ← if address.isGiven then pure address else Json.string <$> databaseAddress
  match address with
  | .string address =>
    let location ← Task.ofExcept .address (Location.read address)
    let h ← Task.content
    let databases ← Task.ofExcept (.call <| .fault <| .database ·) (h.databases.start location)
    Task.setContent { h with databases }
  | _ => throw (.address .malformed)

def shutdown : Task Host Unit := do
  let h ← Task.content
  Task.setContent { h with databases := h.databases.shutdown }

/-- Makes a unit of work. Without a choice of its own for directory integration it follows the policy,
and the adapter is started if it is not. -/
def newUnit (own : Option Bool) (policy : Policy) : Task Host WorkUnit := do
  if own.isNone && !(← Task.content).databases.adapter.isStarted then startup .null false
  let h ← Task.content
  let (unit, adapter) ←
    Task.ofExcept .startup
      (WorkUnit.new (own.getD policy.directoryIntegration) h.databases.adapter)
  Task.setContent { h with databases := { h.databases with adapter } }
  return unit

def inUnit (unit : WorkUnit) (work : Task Session α) : Task Host (Except Failure α × WorkUnit) := do
  let d ← get
  let work (s : Session) : (Except Failure α × List Occurrence) × Session :=
    let (answer, after) := work ⟨s, d.journal⟩
    ((answer, after.journal), after.content)
  let ((answer, journal), unit, databases) ←
    Task.ofExcept .startup (unit.use d.content.databases work)
  set (⟨{ d.content with databases }, journal⟩ : Desk Host)
  return (answer, unit)

def leave (unit : WorkUnit) : Task Host (Except CallError Unit × WorkUnit) := do
  let h ← Task.content
  let (answer, unit, databases) ← Task.ofExcept .startup (unit.leave h.databases)
  Task.setContent { h with databases }
  return (answer, unit)

/-- Enters a unit of work, does a piece of work in its session and leaves it, whatever came of it. -/
def within (unit : WorkUnit) (work : Task Session α) : Task Host α := do
  let unit ← Task.ofExcept .startup unit.enter
  let (answer, unit) ← inUnit unit work
  let (left, _) ← leave unit
  Task.ofExcept .call left
  Task.ofExcept id answer

def withUnit (own : Option Bool) (policy : Policy) (work : Task Session α) : Task Host α := do
  within (← newUnit own policy) work

def loadDocument (path : Path) : Task Host ParsedBatch := do
  Task.tellEvents [.documentOpened path.toText]
  let content ← Task.ofExcept .file ((← Task.content).disk.contentAt path)
  let (sightings, result) := Document.load path.toText content
  Task.tellEvents (sightings.map .sighted)
  Task.ofExcept .load result

def putFile (path : Path) (content : Octets) : Task Host Unit := do
  let h ← Task.content
  let disk ← Task.ofExcept .file (h.disk.putFile path content)
  Task.setContent (h.setDisk disk)

/-- Writes a document. The file is made anew before a text without an encoded form is refused. -/
def writeDocument (document : ExportDocument) (path : Path) : Task Host Unit := do
  match Document.fileText document with
  | .error error =>
    if error = .notUnicode then putFile path []
    throw (.unwritable error)
  | .ok text =>
    putFile path (Utf8.encode text)
    Task.tellEvents
      [.documentWritten document.serviceGroups.length document.businessCards.length path.toText]

end Host

end ParticipantRegistry
