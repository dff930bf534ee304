import ParticipantRegistry.Document.Element
import ParticipantRegistry.Json.Alike
import ParticipantRegistry.Json.Members
import ParticipantRegistry.Registry.Basic

/-!
# The action log

Every decision and every failure of an import becomes one record of its action log. A record says
what was noted (`Note`), about which participant, and what caused it. How severe a record is follows
from its note.
-/

namespace ParticipantRegistry

open Document (RecordError)

inductive Level where
  | debug
  | info
  | warning
  | error
  | critical
  deriving DecidableEq

namespace Level

def number : Level → Nat
  | .debug => 10
  | .info => 20
  | .warning => 30
  | .error => 40
  | .critical => 50

def name : Level → Text
  | .debug => "DEBUG"
  | .info => "INFO"
  | .warning => "WARNING"
  | .error => "ERROR"
  | .critical => "CRITICAL"

end Level

/-- Severities, ordered by the attention that they ask for. -/
inductive Severity where
  | success
  | info
  | warning
  | error
  | fatal
  deriving DecidableEq

namespace Severity

def all : List Severity := [.success, .info, .warning, .error, .fatal]

def name : Severity → Text
  | .success => "success"
  | .info => "info"
  | .warning => "warning"
  | .error => "error"
  | .fatal => "fatal"

def read (value : Json) : Except UnknownName Severity :=
  UnknownName.read "Severity" all name value

def rank (severity : Severity) : Nat := all.idxOf severity

def isError (severity : Severity) : Bool := Severity.error.rank ≤ severity.rank

def level : Severity → Level
  | .success | .info => .info
  | .warning => .warning
  | .error => .error
  | .fatal => .critical

end Severity

/-- What an action record says. -/
inductive Note where
  | other (severity : Severity) (value : Json)
  | groupUnreadable (index : Nat)
  | ownerReplaced (ownerId defaultOwnerId : Text)
  | groupIgnored
  | groupRepeated (index : Nat)
  | groupStaged (overwrite : Bool)
  | endpointsRead (count : Nat)
  | redirectsRead (count : Nat)
  | cardUnreadable (index : Nat)
  | cardWithoutGroup (index : Nat)
  | cardIgnored
  | cardRepeated
  | cardStaged (overwrite : Bool)
  | nothingToImport (cardsToo : Bool)
  | aborted
  | proceeding
  | succeeded (mutation : Mutation)
  | failed (mutation : Mutation)
  | cardRetracted
  | cardAlreadyDeleted
  deriving DecidableEq

namespace Note

def severity : Note → Severity
  | .other severity _ => severity
  | .groupUnreadable _ | .groupRepeated _ | .cardUnreadable _ | .cardWithoutGroup _ | .cardRepeated
  | .aborted | .failed _ => .error
  | .ownerReplaced _ _ | .groupIgnored | .cardIgnored | .nothingToImport _ => .warning
  | .groupStaged _ | .endpointsRead _ | .redirectsRead _ | .cardStaged _ | .proceeding
  | .cardRetracted => .info
  | .succeeded _ | .cardAlreadyDeleted => .success

def successMessage : Mutation → Text
  | .deleteGroup .. => "Successfully deleted service group"
  | .createGroup .. => "Successfully created service group"
  | .mergeEndpoint .. => "Successfully created endpoint"
  | .upsertRedirect .. => "Successfully created redirect"
  | .deleteBusinessCard .. => "Successfully deleted business card"
  | .upsertBusinessCard .. => "Successfully created business card"

def failureMessage : Mutation → Text
  | .deleteGroup .. => "Failed to delete service group"
  | .createGroup .. => "Error creating the new service group"
  | .mergeEndpoint .. => "Error creating the new endpoint"
  | .upsertRedirect .. => "Error creating the new redirect"
  | .deleteBusinessCard .. => "Failed to delete business card"
  | .upsertBusinessCard .. => "Failed to create business card"

def verb (overwrite : Bool) : Text := if overwrite then "overwrite" else "import"

def message : Note → Text
  | .other _ value => value.display
  | .groupUnreadable index =>
    "Error parsing the service group at index " ++ Text.ofNat index ++
      ". Ignoring this service group."
  | .ownerReplaced ownerId defaultOwnerId =>
    "Failed to resolve stored owner '" ++ ownerId ++ "' - using default owner '" ++
      defaultOwnerId ++ "'"
  | .groupIgnored => "Ignoring already existing service group"
  | .groupRepeated index =>
    "The service group at index " ++ Text.ofNat index ++
      " is already contained in the batch. Will overwrite the previous definition."
  | .groupStaged overwrite => "Will " ++ verb overwrite ++ " service group"
  | .endpointsRead count => "Read " ++ Text.ofNat count ++ " endpoints of service group"
  | .redirectsRead count => "Read " ++ Text.ofNat count ++ " redirects of service group"
  | .cardUnreadable index => "Failed to read business card at index " ++ Text.ofNat index
  | .cardWithoutGroup index =>
    "Business card at index " ++ Text.ofNat index ++ " belongs to an unknown service group"
  | .cardIgnored => "Ignoring already existing business card"
  | .cardRepeated =>
    "The business card is already contained in the batch. Will overwrite the previous definition."
  | .cardStaged overwrite => "Will " ++ verb overwrite ++ " business card"
  | .nothingToImport cardsToo =>
    if cardsToo then "Found neither a service group nor a business card to import."
    else "Found no service group to import."
  | .aborted => "Nothing will be imported because of the previous errors."
  | .proceeding => "Import is performed!"
  | .succeeded mutation => successMessage mutation
  | .failed mutation => failureMessage mutation
  | .cardRetracted =>
    "Business card is not created because its service group could not be created"
  | .cardAlreadyDeleted => "Business card was already deleted together with its service group"

def shown : Note → Json
  | .other _ value => value
  | note => .string note.message

def isEmpty (note : Note) : Bool := !note.shown.isGiven

end Note

/-- The error behind an action record. -/
inductive Cause where
  | record (error : RecordError)
  | storage (error : StorageError)
  deriving DecidableEq

def Cause.message : Cause → Text
  | .record error => error.message
  | .storage error => error.message

/-- A record and what it is about: a participant, or any other value. -/
structure ActionRecord where
  key : Json
  note : Note
  cause : Option Cause
  deriving DecidableEq

namespace ActionRecord

def severity (r : ActionRecord) : Severity := r.note.severity

def message (r : ActionRecord) : Text := r.note.message

def isError (r : ActionRecord) : Bool := r.severity.isError

def hasKey (r : ActionRecord) : Bool := r.key.isGiven

def hasCause (r : ActionRecord) : Bool := r.cause.isSome

end ActionRecord

structure EmptyMessage where
  deriving DecidableEq

def EmptyMessage.message (_ : EmptyMessage) : Text := "Action record message must not be empty"

/-- The records of one run, oldest first. A run is told from others by a value of any kind. -/
structure ActionLog where
  correlationId : Json
  records : List ActionRecord
  deriving DecidableEq

namespace ActionLog

def generatedId : Text := "00000000"

def named (correlationId : Json) : ActionLog :=
  ⟨if correlationId.isGiven then correlationId else .string generatedId, []⟩

def add (r : ActionRecord) (log : ActionLog) : ActionLog :=
  { log with records := log.records ++ [r] }

def record (r : ActionRecord) (log : ActionLog) : Except EmptyMessage ActionLog :=
  if r.note.isEmpty then .error {} else .ok (log.add r)

def hasError (log : ActionLog) : Bool := log.records.any ActionRecord.isError

def bySeverity (severity : Severity) (log : ActionLog) : List ActionRecord :=
  log.records.filter (·.severity = severity)

/-- The records about a value alike to the given one. -/
def forKey (key : Json) (log : ActionLog) : List ActionRecord :=
  log.records.filter fun r => r.key.alike key

/-- The record at an index; a negative one counts from the end. -/
def get? (index : Int) (log : ActionLog) : Option ActionRecord :=
  let i := if index < 0 then index + log.records.length else index
  if i < 0 then none else log.records[i.toNat]?

end ActionLog

end ParticipantRegistry
