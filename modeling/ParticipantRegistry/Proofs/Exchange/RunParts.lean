import ParticipantRegistry.Exchange.Export
import ParticipantRegistry.Exchange.Import

/-!
# What runs inherit from their parts

All that follows the reading of a batch is put together from attempts at registry calls, action records
and events, and so is an export. A property that runs have whenever their parts have it is one of these
runs if it is one of the parts.
-/

namespace ParticipantRegistry.Run

variable {σ : Type}

/-- A property of runs that a run has if its parts have it. -/
structure Inherited (P : (α : Type) → Run σ α → Prop) : Prop where
  pure {α : Type} (a : α) : P α (pure a)
  bind {α β : Type} {run : Run σ α} {next : α → Run σ β} (hrun : P α run)
    (hnext : ∀ a, P β (next a)) : P β (run >>= next)
  get : P (Progress σ) get
  emit (event : Event) (h : ∀ sighting, event ≠ .sighted sighting) : P Unit (emit event)
  record (key : Option Text) (note : Note) (cause : Option Cause) : P Unit (record key note cause)
  attempt {α : Type} (c : Call σ α) : P (Except StorageError α) (attempt c)

namespace Inherited

variable {P : (α : Type) → Run σ α → Prop} {α β ι : Type} (h : Inherited P)

include h

theorem forM {step : ι → Run σ Unit} (hstep : ∀ i, P Unit (step i)) (items : List ι) :
    P Unit (items.forM step) := by
  induction items with
  | nil => exact h.pure ()
  | cons i items ih => exact h.bind (hstep i) fun _ => ih

theorem mapM {step : ι → Run σ β} (hstep : ∀ i, P β (step i)) (items : List ι) :
    P (List β) (items.mapM step) := by
  induction items with
  | nil => exact h.pure []
  | cons i items ih =>
    rw [List.mapM_cons]
    exact h.bind (hstep i) fun _ => h.bind ih fun _ => h.pure _

theorem count {step : ι → Run σ Bool} (hstep : ∀ i, P Bool (step i)) (items : List ι) :
    P Nat (count step items) := by
  induction items with
  | nil => exact h.pure 0
  | cons i items ih => exact h.bind (hstep i) fun _ => h.bind ih fun _ => h.pure _

theorem recordAll (key : Text) (notes : List Note) : P Unit (recordAll key notes) :=
  h.forM (fun _ => h.record _ _ _) notes

theorem log : P ActionLog log := h.bind h.get fun _ => h.pure _

theorem lookup (what : Lookup) (participantId : Text) (fallback : α) (c : Call σ α) :
    P α (lookup what participantId fallback c) := by
  refine h.bind (h.attempt c) fun reply => ?_
  cases reply with
  | ok a => exact h.pure a
  | error e => exact h.bind (h.emit _ nofun) fun _ => h.pure _

theorem plan (staged : StagedBatch) : P PlanOutcome (plan staged) :=
  h.bind h.log fun _ => h.bind (h.record _ _ _) fun _ => h.pure _

variable [Registry σ]

theorem mutate (participantId : Text) (mutation : Mutation) : P Bool (mutate participantId mutation) := by
  refine h.bind (h.attempt _) fun reply => ?_
  match reply with
  | .ok true => exact h.bind (h.record _ _ _) fun _ => h.pure _
  | .ok false => exact h.bind (h.record _ _ _) fun _ => h.pure _
  | .error e => exact h.bind (h.record _ _ _) fun _ => h.pure _

theorem deleteGroups (groups : List ServiceGroup) : P (List Text) (deleteGroups groups) := by
  induction groups with
  | nil => exact h.pure []
  | cons group groups ih => exact h.bind (h.mutate _ _) fun _ => h.bind ih fun _ => h.pure _

theorem createGroups (groups : List StagedGroup) :
    P (List (Text × ServiceGroup) × List Text) (createGroups groups) := by
  induction groups with
  | nil => exact h.pure _
  | cons staged groups ih =>
    refine h.bind (h.attempt _) fun reply => ?_
    cases reply with
    | ok group => exact h.bind (h.record _ _ _) fun _ => h.bind ih fun _ => h.pure _
    | error e => exact h.bind (h.record _ _ _) fun _ => h.bind ih fun _ => h.pure _

theorem createChildren (created : List Text) (groups : List StagedGroup) :
    P (Nat × Nat) (createChildren created groups) := by
  induction groups with
  | nil => exact h.pure _
  | cons staged groups ih =>
    rw [Run.createChildren]
    split
    · exact h.bind (h.count (fun _ => h.mutate _ _) _) fun _ =>
        h.bind (h.count (fun _ => h.mutate _ _) _) fun _ => h.bind ih fun _ => h.pure _
    · exact ih

theorem deleteCard (deletedGroups : List Text) (card : BusinessCard) :
    P Bool (deleteCard deletedGroups card) := by
  refine h.bind (h.attempt _) fun reply => ?_
  match reply with
  | .ok true => exact h.bind (h.record _ _ _) fun _ => h.pure _
  | .ok false => exact h.bind (h.record _ _ _) fun _ => h.pure _
  | .error e => exact h.bind (h.record _ _ _) fun _ => h.pure _

theorem commit (staged : StagedBatch) : P CommitReport (commit staged) :=
  h.bind (h.deleteGroups _) fun deleted => h.bind (h.createGroups _) fun _ =>
    h.bind (h.createChildren _ _) fun _ => h.bind (h.forM (fun _ => h.record _ _ _) _) fun _ =>
      h.bind (h.count (h.deleteCard deleted) _) fun _ =>
        h.bind (h.count (fun _ => h.mutate _ _) _) fun _ =>
          h.bind (h.emit _ nofun) fun _ => h.pure _

theorem complete (staged : StagedBatch) (outcome : PlanOutcome) : P Unit (complete staged outcome) := by
  have hfinish : P Unit (do
      let finished ← Run.log
      Run.emit (.importFinished outcome finished.records.length finished.hasError)) :=
    h.bind h.log fun _ => h.emit _ nofun
  rw [Run.complete]
  split
  · exact h.bind (h.commit staged) fun _ => hfinish
  · exact hfinish

theorem exportGroups (groups : List ServiceGroup) (withCards : Bool) :
    P ExportDocument (exportGroups groups withCards) := by
  have hgroup (group : ServiceGroup) : P ExportedGroup (exportGroup group) :=
    h.bind (h.lookup _ _ _ _) fun _ => h.bind (h.lookup _ _ _ _) fun _ => h.pure _
  have hfinish (serviceGroups : List ExportedGroup) (cards : List (Option BusinessCard)) :
      P ExportDocument (do
        Run.emit .exportFinished
        return ⟨serviceGroups, cards.filterMap id⟩) := h.bind (h.emit _ nofun) fun _ => h.pure _
  refine h.bind (h.emit _ nofun) fun _ => h.bind (h.mapM hgroup _) fun serviceGroups => ?_
  cases withCards with
  | true => exact h.bind (h.mapM (fun _ => h.lookup _ _ _ _) _) fun _ => hfinish _ _
  | false => exact hfinish serviceGroups []

end Inherited

end ParticipantRegistry.Run
