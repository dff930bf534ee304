import ParticipantRegistry.Relational.Cell
import ParticipantRegistry.Relational.Database

/-!
# Sessions

A session works on a database in transactions. Users that are added to it are pending until the next
statement sends them to the database; all changes last when they are committed and are undone by a
rollback. When pending changes cannot be stored, the transaction is undone and the session refuses
everything until it is rolled back. It does so too once a statement has found its connection closed;
the next transaction has a new one.

`Session.atomic` carries out a piece of work as one transaction: it is committed as a whole or has
not happened.
-/

namespace ParticipantRegistry

/-- A database as the open transaction sees it, and as it was last committed. -/
structure Storage where
  current : Database
  committed : Database
  deriving DecidableEq

namespace Storage

def holding (db : Database) : Storage := ⟨db, db⟩

def commit (s : Storage) : Storage := ⟨s.current, s.current⟩

def rollback (s : Storage) : Storage := ⟨s.committed, s.committed⟩

end Storage

/-- A user as it is added, by values of any type; the database refuses one without id or name. -/
structure NewUser where
  id : Json
  displayName : Json
  deriving DecidableEq

inductive Registration where
  | register (participantId : Text)
  | deregister (participantId : Text)
  deriving DecidableEq

/-- The outside that participants are registered with: it rejects some of them and keeps the
registrations that it carried out. -/
structure Registrar where
  rejected : List Text := []
  done : List Registration := []
  deriving DecidableEq

/-- How far a session has come in a transaction. -/
inductive Transaction where
  /-- Nothing was asked of the database since the last commit or rollback. -/
  | idle
  | begun
  | failed
  /-- A statement found the connection closed. -/
  | lost
  /-- A commit was begun that could not be made. -/
  | prepared
  deriving DecidableEq

structure Session where
  storage : Storage
  pending : List NewUser := []
  transaction : Transaction := .idle
  refusal : Option DatabaseError := none
  /-- Why the database refuses every change, if it does. -/
  barrier : Option DatabaseError := none
  directoryIntegration : Bool := true
  registrar : Option Registrar := none
  deriving DecidableEq

namespace Session

variable {α ρ κ : Type}

def refuse (error : DatabaseError) : Call Session α := throw (.fault (.database error))

def ofExcept (result : Except Fault α) : Call Session α :=
  match result with
  | .ok a => return a
  | .error fault => throw (.fault fault)

def isCutOff (s : Session) : Bool := s.refusal = some .connectionClosed

def reconnected (s : Session) : Session :=
  { s with refusal := if s.isCutOff then none else s.refusal }

/-- Undoes everything since the last commit; an idle session has nothing in the database to undo. -/
def rolledBack (s : Session) : Session :=
  { s.reconnected with
    storage := if s.transaction = .begun ∧ !s.isCutOff then s.storage.rollback else s.storage
    pending := []
    transaction := .idle }

/-- Ends the transaction without a commit. On a closed connection nothing is left to undo, which is
told. -/
def rollback : Call Session Unit := do
  let s ← get
  set s.rolledBack
  if s.isCutOff then refuse .connectionClosed

def ensureUsable : Call Session Unit := do
  match (← get).transaction with
  | .failed | .lost => refuse .rollbackPending
  | .prepared => refuse .commitPending
  | .idle | .begun => return

def begun (s : Session) : Session := { s with transaction := .begun }

/-- Refuses a statement that the database will not carry out. One that finds the connection closed
loses the transaction. -/
def ensureConnected : Call Session Unit := do
  match (← get).refusal with
  | some error =>
    if error = .connectionClosed then
      modify fun s => { s.reconnected with transaction := .lost }
    refuse error
  | none => return

def rowsOf (place : Place ρ) : Call Session (List ρ) := do
  ensureConnected
  match place.rows (← get).storage.current with
  | some rows => return rows
  | none => refuse .missingTable

def ensureWritable : Call Session Unit := do
  if let some error := (← get).barrier then refuse error

def setRows (place : Place ρ) (rows : List ρ) : Call Session Unit := do
  ensureWritable
  modify fun s =>
    { s with storage := { s.storage with current := place.put rows s.storage.current } }

def bind (values : List Text) : Call Session Unit := do
  if !values.all Text.isUnicode then throw (.fault .notUnicode)

def failed (s : Session) : Session := { s.rolledBack with transaction := .failed }

/-- Sends changes to the database. When that fails, everything since the last commit is undone. -/
def sending (work : Call Session Unit) : Call Session Unit := fun s =>
  match work s.begun with
  | (.ok (), s) => (.ok (), s)
  | (.error e, s) => (.error e, s.failed)

def insertUser (user : NewUser) : Call Session Unit := do
  let rows ← rowsOf .users
  let id ← ofExcept (Cell.ofJson user.id)
  let displayName ← ofExcept (Cell.ofJson user.displayName)
  ensureWritable
  match id, displayName with
  | some id, some displayName =>
    if Table.hasKey id rows then refuse .constraint
    setRows .users (rows ++ [⟨id, displayName⟩])
  | _, _ => refuse .constraint

def flush : Call Session Unit := do
  let s ← get
  if s.pending ≠ [] then
    if s.transaction = .lost then
      set s.failed
      refuse .rollbackPending
    ensureUsable
    sending (s.pending.forM insertUser)
    modify fun s => { s with pending := [] }

def store [Keyed ρ κ] [DecidableEq κ] (place : Place ρ) (row : ρ) (values : List Text) :
    Call Session Unit :=
  sending do
    let rows ← rowsOf place
    bind values
    setRows place (Table.put row rows)

def remove (place : Place ρ) (doomed : ρ → Bool) : Call Session Unit := do
  let rows ← rowsOf place
  setRows place (rows.filter fun row => !doomed row)

/-- The rows of a table for a statement with the given texts in it. Pending users are sent first. -/
def select (place : Place ρ) (values : List Text) : Call Session (List ρ) := do
  flush
  ensureUsable
  modify begun
  let rows ← rowsOf place
  bind values
  return rows

def selectKey [Keyed ρ κ] [DecidableEq κ] (place : Place ρ) (k : κ) (values : List Text) :
    Call Session (Option ρ) :=
  return Table.find? k (← select place values)

def selectBy [Keyed ρ Text] (place : Place ρ) (name : Text) (value : Json) :
    Call Session (Option ρ) := do
  let value ← ofExcept (Cell.keyOf name value)
  let rows ← select place []
  match ← ofExcept (Cell.ofJson value) with
  | some k => return Table.find? k rows
  | none => return none

def committed (s : Session) : Session :=
  { s with
    storage := if s.transaction = .begun then s.storage.commit else s.storage
    transaction := .idle }

def refuseCommit (error : DatabaseError) : Call Session α := do
  modify fun s => { s.reconnected with transaction := .prepared }
  refuse error

def commit : Call Session Unit := do
  let transaction := (← get).transaction
  if transaction = .failed ∨ transaction = .prepared then refuse .rollbackPending
  flush
  let s ← get
  if s.transaction = .lost then refuseCommit .rollbackPending
  if s.isCutOff then refuseCommit .connectionClosed
  set s.committed

/-- Carries out a piece of work and commits it. An error of storage or database undoes it; a database
error becomes a failed statement of the given action. -/
def atomic (action : Text) (work : Call Session α) : Call Session α := fun s =>
  let whole : Call Session α := do
    let a ← work
    commit
    return a
  match whole s with
  | (.error (.storage e), s) => (.error (.storage e), s.rolledBack)
  | (.error (.fault (.database e)), s) => (.error (.storage (.statement action e)), s.rolledBack)
  | outcome => outcome

def addUser (user : NewUser) : Call Session Unit :=
  modify fun s => { s with pending := s.pending ++ [user] }

def lookupUser (id : Text) : Call Session (Option User) := selectKey .users id [id]

def userBy (id : Json) : Call Session (Option User) := selectBy .users "id" id

def storeUser (user : NewUser) : Call Session Unit := fun s =>
  let whole : Call Session Unit := do
    addUser user
    commit
  match whole s with
  | (.error (.fault (.database e)), s) => (.error (.fault (.database e)), s.rolledBack)
  | outcome => outcome

end Session

end ParticipantRegistry
