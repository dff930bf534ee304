import ParticipantRegistry.Application.Failure
import ParticipantRegistry.Exchange.Run

/-!
# Tasks

A task of the application works on some content, notes what it has to tell, and ends with a value or
a failure. What was done and told before a failure stays.
-/

namespace ParticipantRegistry

/-- What a task tells. -/
inductive Occurrence where
  | exchange (event : Event)
  | importDone (path : Text) (records : Nat) (hasError : Bool)
  | cardsSkipped
  | userStored (id : Text)
  | argumentsRefused (failure : Failure)
  | commandFailed (command : Text) (failure : Failure)
  | importSummary (counts : List (Severity × Nat))
  | importHadErrors (path : Text)
  | exportSummary (groups cards : Nat)
  | userSummary (id : Text)
  deriving DecidableEq

namespace Occurrence

def countText (c : Severity × Nat) : Text := c.1.name ++ "=" ++ Text.ofNat c.2

def ofApplication (level : Level) (message : Text) : Notice Failure :=
  ⟨level, .application, message, none⟩

def ofCommandLine (level : Level) (message : Text) (failure : Option Failure) : Notice Failure :=
  ⟨level, .commandLine, message, failure⟩

/-- The notice of an occurrence after some unmodeled keys have been told, and those told after it. -/
def tell (told : List Text) : Occurrence → Option (Notice Failure) × List Text
  | .exchange event =>
    let (notice?, told) := event.tell told
    (notice?.map (Notice.mapCause Failure.ofTrouble), told)
  | .importDone path records hasError =>
    (some (ofApplication .info
      ("Finished import of " ++ path ++ ": records=" ++ Text.ofNat records ++ ", errors=" ++
        truthName hasError)), told)
  | .cardsSkipped =>
    (some (ofApplication .warning
      "Directory integration is disabled, exporting no business cards"), told)
  | .userStored id => (some (ofApplication .info ("Created user " ++ id)), told)
  | .argumentsRefused failure =>
    (some (ofCommandLine .error "CLI validation error" (some failure)), told)
  | .commandFailed command failure =>
    (some (ofCommandLine .error ("Fatal error during " ++ command) (some failure)), told)
  | .importSummary counts =>
    (some (ofCommandLine .info
      ("Import finished: " ++ List.intercalate ", " (counts.map countText)) none), told)
  | .importHadErrors path =>
    (some (ofCommandLine .error ("Import of " ++ path ++ " finished with errors") none), told)
  | .exportSummary groups cards =>
    (some (ofCommandLine .info
      ("Exported " ++ Text.ofNat groups ++ " service groups and " ++ Text.ofNat cards ++
        " business cards") none), told)
  | .userSummary id => (some (ofCommandLine .info ("Created user " ++ id) none), told)

def notices (occurrences : List Occurrence) : List (Notice Failure) := noticesOf tell [] occurrences

end Occurrence

/-- What a task works on, and what it has told so far. -/
structure Desk (σ : Type) where
  content : σ
  journal : List Occurrence := []

abbrev Task (σ α : Type) := ExceptT Failure (StateM (Desk σ)) α

namespace Task

variable {σ α : Type}

def tell (occurrence : Occurrence) : Task σ Unit :=
  modify fun d => { d with journal := d.journal ++ [occurrence] }

def tellEvents (events : List Event) : Task σ Unit :=
  modify fun d => { d with journal := d.journal ++ events.map .exchange }

def content : Task σ σ := return (← get).content

def setContent (content : σ) : Task σ Unit := modify fun d => { d with content }

def ofExcept {ε : Type} (failure : ε → Failure) (result : Except ε α) : Task σ α :=
  match result with
  | .ok a => return a
  | .error e => throw (failure e)

def call (c : Call σ α) : Task σ α := fun d =>
  let (answer, content) := c d.content
  let d : Desk σ := ⟨content, d.journal ++ (Run.answerEvents answer).map .exchange⟩
  match answer with
  | .ok a => (.ok a, d)
  | .error e => (.error (.call e), d)

def exchange (log : ActionLog) (run : Run σ α) : Task σ (α × ActionLog) := fun d =>
  let (answer, p) := run { registry := d.content, log }
  let d : Desk σ := ⟨p.registry, d.journal ++ p.events.map .exchange⟩
  match answer with
  | .ok a => (.ok (a, p.log), d)
  | .error e => (.error (.call e), d)

end Task

end ParticipantRegistry
