import ParticipantRegistry.Exchange.PlanOutcome

/-!
# The journal

What an exchange prints on its way is a list of events. `Event.notices` renders them: every
event becomes one notice with a level, a channel and a message. An object with unmodeled keys is told
with those of its keys that were not told before, and not at all if there are none.
-/

namespace ParticipantRegistry

open Document (RecordError Sighting)

inductive Channel where
  | actionLog
  | reading
  | importing
  | committing
  | exporting
  | elements
  | documents
  | registry
  | application
  | commandLine
  deriving DecidableEq

def Channel.name : Channel → Text
  | .actionLog => "domain.exchange.action_log"
  | .reading => "domain.exchange.reader"
  | .importing => "domain.exchange.engine"
  | .committing => "domain.exchange.commit"
  | .exporting => "domain.exchange.export"
  | .elements => "adapters.exchange.schema"
  | .documents => "adapters.exchange.document"
  | .registry => "adapters.sqlalchemy.repositories"
  | .application => "app"
  | .commandLine => "ui.cli"

structure Notice (κ : Type) where
  level : Level
  channel : Channel
  message : Text
  cause : Option κ
  deriving DecidableEq

def Notice.mapCause {κ ι : Type} (f : κ → ι) (n : Notice κ) : Notice ι :=
  ⟨n.level, n.channel, n.message, n.cause.map f⟩

structure StagedCounts where
  groups : Nat
  groupDeletions : Nat
  businessCards : Nat
  businessCardDeletions : Nat
  deriving DecidableEq

def StagedBatch.counts (batch : StagedBatch) : StagedCounts where
  groups := batch.groups.length
  groupDeletions := batch.groupDeletions.length
  businessCards := batch.businessCards.length
  businessCardDeletions := batch.businessCardDeletions.length

structure CommitCounts where
  deleted : Nat
  created : Nat
  failed : Nat
  endpoints : Nat
  redirects : Nat
  businessCards : Nat
  deriving DecidableEq

inductive Lookup where
  | endpoints
  | redirects
  | businessCard
  deriving DecidableEq

def Lookup.failureMessage : Lookup → Text
  | .endpoints => "Failed to read endpoints, exporting none"
  | .redirects => "Failed to read redirects, exporting none"
  | .businessCard => "Failed to read business card, skipping it"

inductive Event where
  | action (runId : Text) (record : ActionRecord)
  | sighted (sighting : Sighting)
  | statementFailed (action : Text) (cause : DatabaseError)
  | importStarted (overwrite : Bool)
  | staged (counts : StagedCounts)
  | committed (counts : CommitCounts)
  | importFinished (outcome : PlanOutcome) (records : Nat) (hasError : Bool)
  | exportStarted (groups : Nat) (withCards : Bool)
  | lookupFailed (what : Lookup) (participantId : Text) (cause : StorageError)
  | exportFinished
  | documentOpened (path : Text)
  | documentWritten (groups cards : Nat) (path : Text)
  deriving DecidableEq

/-- The error behind an event. -/
inductive Trouble where
  | record (error : RecordError)
  | storage (error : StorageError)
  | database (error : DatabaseError)
  deriving DecidableEq

def Cause.trouble : Cause → Trouble
  | .record error => .record error
  | .storage error => .storage error

def truthName (b : Bool) : Text := if b then "True" else "False"

def ActionRecord.line (runId : Text) (r : ActionRecord) : Text :=
  let about : Text := if r.hasKey then "[" ++ r.key.display ++ "] " else []
  "[SG-IMPORT-" ++ runId ++ "] " ++ about ++ r.message

def StagedCounts.line (c : StagedCounts) : Text :=
  "Staged " ++ Text.ofNat c.groups ++ " service groups (" ++ Text.ofNat c.groupDeletions ++
    " deletions) and " ++ Text.ofNat c.businessCards ++ " business cards (" ++
    Text.ofNat c.businessCardDeletions ++ " deletions)"

def CommitCounts.line (c : CommitCounts) : Text :=
  "Commit finished: deleted=" ++ Text.ofNat c.deleted ++ ", created=" ++ Text.ofNat c.created ++
    ", failed=" ++ Text.ofNat c.failed ++ ", endpoints=" ++ Text.ofNat c.endpoints ++
    ", redirects=" ++ Text.ofNat c.redirects ++ ", business_cards=" ++ Text.ofNat c.businessCards

namespace Sighting

/-- An object as it is told: with those of its names that were not told before. -/
def fresh (told : List Text) (sighting : Sighting) : Sighting :=
  { sighting with names := sighting.names.filter fun name => !told.contains name }

def line (sighting : Sighting) : Text :=
  "Exchange " ++ sighting.kind.name ++ ": unmodeled keys: " ++
    List.intercalate ", " (Text.sort sighting.names)

end Sighting

namespace Event

def notice : Event → Notice Trouble
  | .action runId r =>
    ⟨r.severity.level, .actionLog, r.line runId, r.cause.map Cause.trouble⟩
  | .sighted sighting => ⟨.warning, .elements, Sighting.line sighting, none⟩
  | .statementFailed what cause => ⟨.debug, .registry, what ++ " failed", some (.database cause)⟩
  | .importStarted overwrite =>
    let state : Text := if overwrite then "enabled" else "disabled"
    ⟨.info, .importing, "Starting import of service groups, overwrite is " ++ state, none⟩
  | .staged counts => ⟨.debug, .reading, counts.line, none⟩
  | .committed counts => ⟨.info, .committing, counts.line, none⟩
  | .importFinished outcome records hasError =>
    ⟨.info, .importing,
      "Finished import (" ++ outcome.name ++ "): " ++ Text.ofNat records ++ " records, errors=" ++
        truthName hasError, none⟩
  | .exportStarted groups withCards =>
    let cards : Text := if withCards then "incl." else "excl."
    ⟨.info, .exporting,
      "Start creating service group export data for " ++ Text.ofNat groups ++ " entries - " ++
        cards ++ " business cards", none⟩
  | .lookupFailed what participantId cause =>
    ⟨.warning, .exporting, "[" ++ participantId ++ "] " ++ what.failureMessage,
      some (.storage cause)⟩
  | .exportFinished =>
    ⟨.debug, .exporting, "Finished creating service group export data", none⟩
  | .documentOpened path => ⟨.info, .documents, "Reading exchange document " ++ path, none⟩
  | .documentWritten groups cards path =>
    ⟨.info, .documents,
      "Wrote " ++ Text.ofNat groups ++ " service groups and " ++ Text.ofNat cards ++
        " business cards to " ++ path, none⟩

def tell (told : List Text) : Event → Option (Notice Trouble) × List Text
  | .sighted sighting =>
    let fresh := Sighting.fresh told sighting
    if fresh.names = [] then (none, told)
    else (some (notice (.sighted fresh)), told ++ fresh.names)
  | event => (some event.notice, told)

end Event

/-- The notices of a list of events, where `tell` renders one of them after some keys have been
told. -/
def noticesOf {ε κ : Type} (tell : List Text → ε → Option (Notice κ) × List Text) :
    List Text → List ε → List (Notice κ)
  | _, [] => []
  | told, event :: events =>
    let (notice?, told) := tell told event
    notice?.toList ++ noticesOf tell told events

def Event.notices (events : List Event) : List (Notice Trouble) := noticesOf tell [] events

end ParticipantRegistry
