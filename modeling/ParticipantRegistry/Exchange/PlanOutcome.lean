import ParticipantRegistry.Exchange.ActionLog
import ParticipantRegistry.Exchange.Staging

/-!
# The plan

Before anything is written it is decided once whether a staged batch is committed at all: an empty
one is not, and any error that was recorded so far stops the whole batch.
-/

namespace ParticipantRegistry

inductive PlanOutcome where
  | proceed
  | nothingToImport
  | aborted
  deriving DecidableEq

namespace PlanOutcome

def name : PlanOutcome → Text
  | .proceed => "proceed"
  | .nothingToImport => "nothing_to_import"
  | .aborted => "aborted"

def read (value : Json) : Except UnknownName PlanOutcome :=
  UnknownName.read "PlanOutcome" [proceed, nothingToImport, aborted] name value

/-- The decision on a batch whose reading recorded an error or none. -/
def decide (batch : StagedBatch) (hasError : Bool) : PlanOutcome :=
  if batch.isEmpty then .nothingToImport else if hasError then .aborted else .proceed

theorem decide_eq_proceed_iff (batch : StagedBatch) (hasError : Bool) :
    decide batch hasError = .proceed ↔ batch.isEmpty = false ∧ hasError = false := by
  cases h : batch.isEmpty <;> cases hasError <;> simp [decide, h]

def note (batch : StagedBatch) : PlanOutcome → Note
  | .proceed => .proceeding
  | .nothingToImport => .nothingToImport batch.directoryIntegration
  | .aborted => .aborted

end PlanOutcome

end ParticipantRegistry
