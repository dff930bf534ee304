import ParticipantRegistry.Exchange.Journal

/-!
# Runs

An import or export is a run over the content of a registry. On its way it makes registry calls,
appends to the action log and adds events to the journal. A run ends early only with an error that it
does not contain; what it has shown until then stays. It does not begin when one of its arguments is left
out.
-/

namespace ParticipantRegistry

structure PreconditionError where
  argument : Text
  deriving DecidableEq

def PreconditionError.message (e : PreconditionError) : Text := e.argument ++ " must not be None"

def require {α : Type} (value : Option α) (argument : Text) : Except PreconditionError α :=
  match value with
  | some a => .ok a
  | none => .error ⟨argument⟩

/-- How far a run has come. -/
structure Progress (σ : Type) where
  registry : σ
  log : ActionLog := .named .null
  events : List Event := []

abbrev Run (σ α : Type) := ExceptT CallError (StateM (Progress σ)) α

namespace Run

variable {σ α : Type}

def emit (event : Event) : Run σ Unit :=
  modify fun p => { p with events := p.events ++ [event] }

def append (r : ActionRecord) : Run σ Unit :=
  modify fun p =>
    { p with log := p.log.add r, events := p.events ++ [.action p.log.correlationId.display r] }

def record (key : Option Text) (note : Note) (cause : Option Cause := none) : Run σ Unit :=
  append ⟨.ofText? key, note, cause⟩

def log : Run σ ActionLog := return (← get).log

/-- What the registry itself tells about an answer: a statement that the database refused. -/
def answerEvents : Except CallError α → List Event
  | .error (.storage (.statement action cause)) => [.statementFailed action cause]
  | _ => []

def call (c : Call σ α) : Run σ α := fun p =>
  match c p.registry with
  | (answer, registry) =>
    (answer, { p with registry, events := p.events ++ answerEvents answer })

/-- Makes a registry call and contains its storage error. -/
def attempt (c : Call σ α) : Run σ (Except StorageError α) := fun p =>
  match call c p with
  | (.ok a, p) => (.ok (.ok a), p)
  | (.error (.storage e), p) => (.ok (.error e), p)
  | (.error (.fault f), p) => (.error (.fault f), p)

end Run

end ParticipantRegistry
