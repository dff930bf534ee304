import ParticipantRegistry.Proofs.Exchange.RunParts
import ParticipantRegistry.Proofs.Registry.Dialogue

/-!
# What ends an import or export early

An import attempts every mutation, and an export every lookup, so a storage error never ends them. Only
a fault does, and for an import a storage error where a user is looked up, which no database gives.
-/

namespace ParticipantRegistry

namespace Run

variable {σ α β ι : Type}

/-- The run ends early with nothing but a fault. -/
def Contains (run : Run σ α) : Prop :=
  ∀ (p q : Progress σ) (e : CallError), run p = (.error e, q) → ∃ fault, e = .fault fault

theorem contains_pure (a : α) : Contains (pure a : Run σ α) := by
  intro p q e h
  cases h

theorem Contains.bind {run : Run σ α} {next : α → Run σ β} (hrun : Contains run)
    (hnext : ∀ a, Contains (next a)) : Contains (run >>= next) := by
  intro p q e h
  change ExceptT.bindCont next (run p).1 (run p).2 = _ at h
  cases hr : run p with
  | mk outcome p' =>
    rw [hr] at h
    cases outcome with
    | ok a => exact hnext a p' q e h
    | error _ =>
      cases h
      exact hrun p _ _ hr

theorem contains_get : Contains (get : Run σ (Progress σ)) := by
  intro p q e h
  cases h

theorem contains_emit (event : Event) : Contains (emit event : Run σ Unit) := by
  intro p q e h
  cases h

theorem contains_record (key : Option Text) (note : Note) (cause : Option Cause) :
    Contains (record key note cause : Run σ Unit) := by
  intro p q e h
  cases h

theorem contains_attempt (c : Call σ α) : Contains (attempt c) := by
  intro p q e h
  rw [attempt] at h
  split at h
  · cases h
  · cases h
  · cases h
    exact ⟨_, rfl⟩

theorem contains_call {c : Call σ α}
    (hc : ∀ (s s' : σ) (e : CallError), c s = (.error e, s') → ∃ fault, e = .fault fault) :
    Contains (call c) := by
  intro p q e h
  rw [call] at h
  cases hr : c p.registry with
  | mk answer s =>
    rw [hr] at h
    cases h
    exact hc _ _ _ hr

theorem contains_foldlM {step : β → ι → Run σ β} (h : ∀ b i, Contains (step b i)) (items : List ι)
    (b : β) : Contains (items.foldlM step b) := by
  induction items generalizing b with
  | nil => exact contains_pure b
  | cons i items ih => exact (h b i).bind fun b => ih b

theorem contains_inherited : Inherited (σ := σ) fun _ run => Contains run where
  pure := contains_pure
  bind := Contains.bind
  get := contains_get
  emit event _ := contains_emit event
  record := contains_record
  attempt := contains_attempt

variable [Registry σ]

theorem contains_exportGroups (groups : List ServiceGroup) (withCards : Bool) :
    Contains (exportGroups groups withCards : Run σ ExportDocument) :=
  contains_inherited.exportGroups groups withCards

/-- Looking up a user ends in nothing but a fault. -/
def LooksUpUsers (σ : Type) [Registry σ] : Prop :=
  ∀ (id : Text) (s s' : σ) (e : CallError),
    Registry.lookupUser id s = (.error e, s') → ∃ fault, e = .fault fault

variable (hlookup : LooksUpUsers σ)

include hlookup in
theorem contains_resolve (defaultOwner : User) (inquiry : Document.Inquiry α) :
    Contains (resolve defaultOwner inquiry : Run σ _) := by
  induction inquiry with
  | done result => exact contains_pure _
  | askUser id next ih =>
    rw [resolve]
    refine (contains_call (hlookup id)).bind fun user? => ?_
    cases user? with
    | some user => exact ih user
    | none => exact (ih defaultOwner).bind fun _ => contains_pure _

omit [Registry σ] in
theorem contains_emitSightings (sightings : List Document.Sighting) :
    Contains (emitSightings sightings : Run σ Unit) :=
  contains_inherited.forM (fun _ => contains_emit _) sightings

include hlookup in
theorem contains_readGroup (reader : Document.ElementReader) (request : ImportRequest)
    (batch : StagedBatch) (element : Json × Nat) :
    Contains (readGroup reader request batch element : Run σ StagedBatch) := by
  refine (contains_emitSightings _).bind fun _ => (contains_resolve hlookup _ _).bind fun answer => ?_
  match answer with
  | (.error e, _) => exact (contains_record _ _ _).bind fun _ => contains_pure _
  | (.ok record, unresolved) =>
    exact (contains_inherited.recordAll _ _).bind fun _ => (contains_inherited.recordAll _ _).bind fun _ =>
      contains_pure _

omit [Registry σ] in
theorem contains_readCard (reader : Document.ElementReader) (request : ImportRequest)
    (batch : StagedBatch) (element : Json × Nat) :
    Contains (readCard reader request batch element : Run σ StagedBatch) := by
  refine (contains_emitSightings _).bind fun _ => ?_
  cases (reader.businessCard element.1).2 with
  | error e => exact (contains_record _ _ _).bind fun _ => contains_pure _
  | ok card => exact (contains_inherited.recordAll _ _).bind fun _ => contains_pure _

include hlookup in
theorem contains_readBatch (reader : Document.ElementReader) (request : ImportRequest)
    (batch : ParsedBatch) : Contains (readBatch reader request batch : Run σ StagedBatch) := by
  refine contains_get.bind fun p => ?_
  refine (contains_foldlM (contains_readGroup hlookup reader request) _ _).bind fun staged => ?_
  have hfinish (staged : StagedBatch) : Contains (do
      emit (.staged staged.counts)
      return staged : Run σ StagedBatch) := (contains_emit _).bind fun _ => contains_pure _
  cases Registry.directoryIntegration p.registry with
  | true =>
    exact (contains_foldlM (contains_readCard reader request) _ _).bind fun _ => hfinish _
  | false => exact hfinish staged

include hlookup in
theorem contains_importBatch (reader : Document.ElementReader) (request : ImportRequest)
    (batch : ParsedBatch) : Contains (importBatch reader request batch : Run σ Unit) := by
  exact ((contains_emit _).bind fun _ => (contains_readBatch hlookup reader request batch).bind
    fun staged => (contains_inherited.plan staged).bind fun _ => contains_pure _).bind fun answer =>
      contains_inherited.complete answer.1 answer.2

end Run

end ParticipantRegistry
