import ParticipantRegistry.Exchange.Commit
import ParticipantRegistry.Exchange.Reading

/-!
# Importing a batch

An import reads its batch, decides once whether anything may be written, and then commits. All that
happened to single records is told by the action log.
-/

namespace ParticipantRegistry

open Document (ElementReader)

namespace Run

variable {σ : Type}

def plan (batch : StagedBatch) : Run σ PlanOutcome := do
  let outcome := PlanOutcome.decide batch (← log).hasError
  record none (outcome.note batch)
  return outcome

variable [Registry σ]

/-- The part of an import that writes nothing. -/
def prepare (reader : ElementReader) (request : ImportRequest) (batch : ParsedBatch) :
    Run σ (StagedBatch × PlanOutcome) := do
  emit (.importStarted request.overwriteExisting)
  let staged ← readBatch reader request batch
  let outcome ← plan staged
  return (staged, outcome)

/-- The part of an import that follows the decision. -/
def complete (staged : StagedBatch) (outcome : PlanOutcome) : Run σ Unit := do
  if outcome = .proceed then
    let _ ← commit staged
  let finished ← log
  emit (.importFinished outcome finished.records.length finished.hasError)

def importBatch (reader : ElementReader) (request : ImportRequest) (batch : ParsedBatch) :
    Run σ Unit := do
  let (staged, outcome) ← prepare reader request batch
  complete staged outcome

end Run

/-- Everything that an import is given; what is left out is `none`. -/
structure ImportArguments (σ : Type) where
  batch : Option ParsedBatch
  overwriteExisting : Option Bool
  defaultOwner : Option User
  existingGroupKeys : Option (List Text)
  existingBusinessCardKeys : Option (List Text)
  registry : Option σ
  reader : Option ElementReader
  correlationId : Json

structure ImportTask (σ : Type) where
  batch : ParsedBatch
  request : ImportRequest
  reader : ElementReader
  start : Progress σ

def ImportArguments.task {σ : Type} (arguments : ImportArguments σ) :
    Except PreconditionError (ImportTask σ) := do
  let batch ← require arguments.batch "batch"
  let overwriteExisting ← require arguments.overwriteExisting "overwrite_existing"
  let defaultOwner ← require arguments.defaultOwner "default_owner"
  let existingGroupKeys ← require arguments.existingGroupKeys "existing_group_keys"
  let existingBusinessCardKeys ←
    require arguments.existingBusinessCardKeys "existing_business_card_keys"
  let registry ← require arguments.registry "registry"
  let reader ← require arguments.reader "translator"
  return {
    batch
    request := { defaultOwner, overwriteExisting, existingGroupKeys, existingBusinessCardKeys }
    reader
    start := { registry, log := ActionLog.named arguments.correlationId } }

def ImportTask.run {σ : Type} [Registry σ] (task : ImportTask σ) :
    Except CallError Unit × Progress σ :=
  Run.importBatch task.reader task.request task.batch task.start

end ParticipantRegistry
