import ParticipantRegistry.Application.Host

/-!
# The life cycle of units of work

A site is a host with the units of work that were made on it. Its adapter is started, on the database at
an address or on an engine that was made elsewhere, and shut down, while units are made, entered, worked
in and exited in any order. A unit outlives the engine that is managed when it is made: it keeps its own.

Entering makes a session for the unit, and repositories over the session. Exiting gives both up. A step
may fail, and what it had done until then stays; a failure raised inside an entered unit is told to the
exit, which may end it there or let it go on.
-/

namespace ParticipantRegistry

namespace Databases

/-- Brings the database of an engine to the current schema, in a transaction. In memory it is one of the
connection that all sessions share: what they have changed is committed with it, or undone with it. -/
def upgradeEngine (number : Nat) (d : Databases) : Except DatabaseError Unit × Databases :=
  match d.adapter.engines[number]? with
  | none => (.error .cannotOpen, d)
  | some (.memory storage connection) =>
    let (answer, storage) : Except DatabaseError Unit × Storage :=
      match storage.current.upgrade with
      | .ok db => (.ok (), .holding db)
      | .error error => (.error error, storage.rollback)
    let engines := d.adapter.engines.set number (.memory storage connection)
    (answer, { d with adapter := { d.adapter with engines } })
  | some (.file place readOnly) =>
    match open? d.disk (.file (Path.ofPlace place).toText { mayCreate := !readOnly, readOnly }) with
    | .ok (_, disk) => (.ok (), { d with disk })
    | .error error => (.error error, d)

end Databases

/-- What the adapter is started on: an engine that is there already, or the database at an address, the
one from the settings if no address is given. -/
inductive StartTarget where
  | engine (number : Nat)
  | address (address : Json)

namespace Host

def adopt (number : Nat) (force : Bool) : Task Host Unit := do
  let h ← Task.content
  if h.databases.adapter.isStarted && !force then throw (.startup .alreadyStarted)
  let (answer, databases) := h.databases.upgradeEngine number
  Task.setContent { h with databases }
  Task.ofExcept (.call <| .fault <| .database ·) answer
  let adapter := databases.adapter.manage (some number)
  Task.setContent { h with databases := { databases with adapter } }

def startOn : StartTarget → Bool → Task Host Unit
  | .engine number, force => adopt number force
  | .address address, force => startup address force

end Host

/-- A unit of work with what it holds while it is entered: a session, and repositories over a session.
Sessions are told apart by number, in the order in which they were made. -/
structure Holder where
  unit : WorkUnit
  session : Option Nat := none
  repositories : Option Nat := none

structure Site where
  host : Host
  holders : List Holder := []
  sessions : Nat := 0

/-- What is asked of a site. Engines and units of work go by number. -/
inductive LifeStep where
  | make (engine : Engine)
  | start (target : StartTarget) (force : Bool)
  | stop
  | construct (directoryIntegration : Bool)
  | enter (unit : Nat)
  | work (unit : Nat) (task : Task Session Unit)
  | exit (unit : Nat) (raised : Option Failure)

inductive LifeReply where
  | done
  /-- The unit was exited; a failure that was raised in it ends there or goes on. -/
  | exited (swallows : Bool)
  deriving DecidableEq

namespace Site

variable {α : Type}

def adapter (s : Site) : Adapter := s.host.databases.adapter

def onHost (task : Task Host α) : Task Site α := fun d =>
  let (answer, done) := task ⟨d.content.host, d.journal⟩
  (answer, ⟨{ d.content with host := done.content }, done.journal⟩)

def make (engine : Engine) : Task Host Unit := do
  let h ← Task.content
  let engines := h.databases.adapter.engines ++ [engine]
  Task.setContent { h with
    databases := { h.databases with adapter := { h.databases.adapter with engines } } }

def holder (unit : Nat) : Task Site Holder := do
  match (← Task.content).holders[unit]? with
  | some holder => return holder
  | none => throw (.startup .notEntered)

def putHolder (unit : Nat) (holder : Holder) : Task Site Unit := do
  let s ← Task.content
  Task.setContent { s with holders := s.holders.set unit holder }

def construct (directoryIntegration : Bool) : Task Site Unit := do
  let unit ← onHost (Host.newUnit (some directoryIntegration) {})
  let s ← Task.content
  Task.setContent { s with holders := s.holders ++ [{ unit }] }

/-- Makes a session, which is given up at once if the unit of work has one. -/
def enter (unit : Nat) : Task Site Unit := do
  let held ← holder unit
  let s ← Task.content
  Task.setContent { s with sessions := s.sessions + 1 }
  let entered ← Task.ofExcept .startup held.unit.enter
  putHolder unit { unit := entered, session := some s.sessions, repositories := some s.sessions }

def work (unit : Nat) (task : Task Session α) : Task Site α := do
  let held ← holder unit
  let (answer, used) ← onHost (Host.inUnit held.unit task)
  putHolder unit { held with unit := used }
  Task.ofExcept id answer

/-- Gives up what a unit of work holds. When that fails, the unit stays entered. -/
def release (unit : Nat) : Task Site Unit := do
  let held ← holder unit
  let (answer, left) ← onHost (Host.leave held.unit)
  putHolder unit { held with unit := left }
  Task.ofExcept .call answer
  putHolder unit { unit := left }

/-- Exits a unit of work, after a failure with a rollback first. No failure ends there. -/
def exit (unit : Nat) (raised : Option Failure) : Task Site Bool := do
  if raised.isSome then work unit (Task.call Session.rollback)
  release unit
  return false

def perform : LifeStep → Task Site LifeReply
  | .make engine => do
    onHost (make engine)
    return .done
  | .start target force => do
    onHost (Host.startOn target force)
    return .done
  | .stop => do
    onHost Host.shutdown
    return .done
  | .construct directoryIntegration => do
    construct directoryIntegration
    return .done
  | .enter unit => do
    enter unit
    return .done
  | .work unit task => do
    work unit task
    return .done
  | .exit unit raised => return .exited (← exit unit raised)

end Site

/-- A step that was made, with its answer. -/
structure LifeTurn where
  step : LifeStep
  answer : Except Failure LifeReply

namespace Site

def performAll : List LifeStep → Desk Site → List LifeTurn × Desk Site
  | [], d => ([], d)
  | step :: steps, d =>
    let (answer, d) := perform step d
    let (turns, d) := performAll steps d
    (⟨step, answer⟩ :: turns, d)

def fresh (surroundings : Surroundings) (disk : Disk) : Site :=
  { host := { surroundings, databases := { adapter := {}, disk } } }

end Site

end ParticipantRegistry
