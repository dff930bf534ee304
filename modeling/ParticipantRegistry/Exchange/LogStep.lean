import ParticipantRegistry.Exchange.Journal
import ParticipantRegistry.Exchange.View

/-!
# Steps on an action log

A step appends a record to an action log or asks for some of its records. It is given by a name and
arguments of any type.
-/

namespace ParticipantRegistry

inductive LogStepError where
  | severity (error : UnknownName)
  | empty (error : EmptyMessage)
  | noIndex
  | outOfRange
  deriving DecidableEq

def LogStepError.message : LogStepError → Text
  | .severity error => error.message
  | .empty error => error.message
  | .noIndex => "an index has to be an integer"
  | .outOfRange => "there is no record at the index"

namespace ActionLog

/-- The position that a value stands for; a truth value counts as 1 or 0. -/
def indexOf? : Json → Option Int
  | .int i => some i
  | .bool b => some (if b then 1 else 0)
  | _ => none

def readSeverity (value : Json) : Except LogStepError Severity :=
  (Severity.read value).mapError .severity

def recordOf (severity key message cause : Json) : Except LogStepError ActionRecord := do
  let cause : Option Cause :=
    if cause = .null then none else some (.storage (.unavailable cause.display))
  return ⟨key, .other (← readSeverity severity) message, cause⟩

def append (r : ActionRecord) (log : ActionLog) : Except LogStepError ActionLog :=
  (log.record r).mapError .empty

def ask (toJson : ActionRecord → Json) (name : Text) (argument : Json) (log : ActionLog) :
    Except LogStepError Json :=
  let all (rs : List ActionRecord) : Json := .array (rs.map toJson)
  if name = "get" then
    match indexOf? argument with
    | none => .error .noIndex
    | some index =>
      match log.get? index with
      | some r => .ok (toJson r)
      | none => .error .outOfRange
  else if name = "by_severity" then
    (readSeverity argument).map fun severity => all (log.bySeverity severity)
  else if name = "for_key" then .ok (all (log.forKey argument))
  else if name = "has_error" then .ok (.bool log.hasError)
  else if name = "len" then .ok (.ofNat log.records.length)
  else .ok (all log.records)

def step (toJson : ActionRecord → Json) (name : Text) (arguments : List Json) (log : ActionLog) :
    Except LogStepError Json × ActionLog × List Event :=
  let argument (i : Nat) : Json := arguments[i]?.getD .null
  if name = "record" then
    let outcome := do
      let r ← recordOf (argument 0) (argument 1) (argument 2) (argument 3)
      return (r, ← log.append r)
    match outcome with
    | .ok (r, log') => (.ok (toJson r), log', [.action log.correlationId.display r])
    | .error e => (.error e, log, [])
  else (log.ask toJson name (argument 0), log, [])

end ActionLog

end ParticipantRegistry
