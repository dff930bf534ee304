import ParticipantRegistry.Proofs.Document.BuiltObjects
import ParticipantRegistry.Proofs.Exchange.RunParts

/-!
# What imports inspect

An element is inspected once when it is read, as a group or as a card. What is sighted in it is told at
once, before anything is asked of the registry, and nothing else is sighted, whatever comes of the reading
or the commit. So an import sights what its inspections do, in the order of the batch, and where it ends
early it has made the first of them.
-/

namespace ParticipantRegistry

open Document (ElementKind Sighting)

def Event.sighting? : Event → Option Sighting
  | .sighted sighting => some sighting
  | _ => none

/-- A state that tells what has been sighted so far. -/
class Watched (τ : Type) where
  sighted : τ → List Sighting

open Watched (sighted)

instance {σ : Type} : Watched (Progress σ) := ⟨fun p => p.events.filterMap Event.sighting?⟩

section Inspects

variable {ε τ α β ι : Type} [Watched τ]

/-- However the work ends, it inspects values in the given order: all of them, unless it ends early. -/
def Inspects (values : List (ElementKind × Json)) (work : ExceptT ε (StateM τ) α) (t : τ) : Prop :=
  ∃ made, made <+: values ∧ (∀ a, (work t).1 = .ok a → made = values) ∧
    sighted (work t).2 = sighted t ++ made.flatMap fun v => (v.1.check v.2).sightings

variable {work : ExceptT ε (StateM τ) α} {next : α → ExceptT ε (StateM τ) β} {t : τ}
  {values values' : List (ElementKind × Json)}

theorem Inspects.of_sighted
    (h : sighted (work t).2 = sighted t ++ values.flatMap fun v => (v.1.check v.2).sightings) :
    Inspects values work t := ⟨values, List.prefix_refl _, fun _ _ => rfl, h⟩

theorem inspects_nil_iff : Inspects [] work t ↔ sighted (work t).2 = sighted t := by
  constructor
  · rintro ⟨made, hmade, -, h⟩
    rw [List.prefix_nil.mp hmade, List.flatMap_nil, List.append_nil] at h
    exact h
  · intro h
    exact ⟨[], List.prefix_refl _, fun _ _ => rfl, h.trans (List.append_nil _).symm⟩

theorem Inspects.of_fails (h : Inspects [] work t) (hfails : ∀ a, (work t).1 ≠ .ok a) :
    Inspects values work t :=
  ⟨[], List.nil_prefix, fun a ha => absurd ha (hfails a),
    (inspects_nil_iff.mp h).trans (List.append_nil _).symm⟩

theorem Inspects.bind (hwork : Inspects values work t)
    (hnext : ∀ a t', work t = (.ok a, t') → Inspects values' (next a) t') :
    Inspects (values ++ values') (work >>= next) t := by
  obtain ⟨made, hmade, hwhole, hsighted⟩ := hwork
  have hrun : (work >>= next) t = ExceptT.bindCont next (work t).1 (work t).2 := rfl
  rw [Inspects, hrun]
  rcases hdone : work t with ⟨_ | a, t'⟩
  · rw [hdone] at hsighted
    exact ⟨made, hmade.trans (List.prefix_append _ _), nofun, hsighted⟩
  · rw [hdone] at hsighted hwhole
    obtain rfl := hwhole a rfl
    obtain ⟨made', hmade', hwhole', hsighted'⟩ := hnext a t' hdone
    refine ⟨made ++ made', (List.prefix_append_right_inj made).mpr hmade', fun b hb => ?_, ?_⟩
    · rw [hwhole' b hb]
    · rw [List.flatMap_append, ← List.append_assoc, ← hsighted]
      exact hsighted'

theorem Inspects.nil_bind (hwork : Inspects [] work t)
    (hnext : ∀ a t', work t = (.ok a, t') → Inspects values (next a) t') :
    Inspects values (work >>= next) t := hwork.bind hnext

theorem Inspects.bind_nil (hwork : Inspects values work t)
    (hnext : ∀ a t', work t = (.ok a, t') → Inspects [] (next a) t') :
    Inspects values (work >>= next) t :=
  List.append_nil values ▸ hwork.bind hnext

theorem inspects_pure (a : α) : Inspects [] (pure a : ExceptT ε (StateM τ) α) t :=
  inspects_nil_iff.mpr rfl

theorem inspects_foldlM {kind : ElementKind} {step : β → Json × Nat → ExceptT ε (StateM τ) β}
    (h : ∀ b element t, Inspects [(kind, element.1)] (step b element) t) (items : List Json)
    (index : Nat) (b : β) (t : τ) :
    Inspects (items.map (kind, ·)) ((items.zipIdx index).foldlM step b) t := by
  induction items generalizing index b t with
  | nil => exact inspects_pure b
  | cons item items ih =>
    rw [List.zipIdx_cons, List.foldlM_cons]
    exact (h b (item, index) t).bind fun b t' _ => ih (index + 1) b t'

end Inspects

namespace Run

variable {σ α β : Type}

def Sights (run : Run σ α) (sightings : List Sighting) : Prop :=
  ∀ p, sighted (run p).2 = sighted p ++ sightings

theorem sights_pure (a : α) : Sights (pure a : Run σ α) [] := fun _ => (List.append_nil _).symm

theorem Sights.bind {run : Run σ α} {next : α → Run σ β} {sightings : List Sighting}
    (hrun : Sights run sightings) (hnext : ∀ a, Sights (next a) []) :
    Sights (run >>= next) sightings := by
  intro p
  have hp := hrun p
  change sighted (ExceptT.bindCont next (run p).1 (run p).2).2 = _
  rcases hdone : run p with ⟨_ | a, p'⟩
  · rw [hdone] at hp
    exact hp
  · rw [hdone] at hp
    exact (hnext a p').trans ((List.append_nil _).trans hp)

theorem sighted_append (p : Progress σ) (registry : σ) (log : ActionLog) (events : List Event) :
    sighted (Progress.mk registry log (p.events ++ events)) =
      sighted p ++ events.filterMap Event.sighting? := List.filterMap_append

theorem sights_emit (event : Event) (h : ∀ sighting, event ≠ .sighted sighting) :
    Sights (emit event : Run σ Unit) [] := by
  intro p
  refine (sighted_append p p.registry p.log [event]).trans ?_
  cases event with
  | sighted sighting => exact absurd rfl (h sighting)
  | _ => rfl

theorem sights_record (key : Option Text) (note : Note) (cause : Option Cause) :
    Sights (record key note cause : Run σ Unit) [] := fun p =>
  sighted_append p p.registry (p.log.add ⟨.ofText? key, note, cause⟩)
    [.action p.log.correlationId.display ⟨.ofText? key, note, cause⟩]

theorem answerEvents_sighted (answer : Except CallError α) :
    (answerEvents answer).filterMap Event.sighting? = [] := by
  unfold answerEvents
  split <;> rfl

theorem sights_call (c : Call σ α) : Sights (call c) [] := by
  intro p
  refine (sighted_append p (c p.registry).2 p.log (answerEvents (c p.registry).1)).trans ?_
  rw [answerEvents_sighted]

theorem sights_attempt (c : Call σ α) : Sights (attempt c) [] := by
  intro p
  rw [← sights_call c p, attempt]
  rcases call c p with ⟨(_ | _) | _, p'⟩ <;> rfl

theorem sights_inherited : Inherited (σ := σ) fun _ run => Sights run [] where
  pure := sights_pure
  bind := Sights.bind
  get _ := (List.append_nil _).symm
  emit := sights_emit
  record := sights_record
  attempt := sights_attempt

theorem sights_emitSightings (sightings : List Sighting) :
    Sights (emitSightings sightings : Run σ Unit) sightings := by
  induction sightings with
  | nil => exact sights_pure ()
  | cons s sightings ih =>
    intro p
    refine (ih { p with events := p.events ++ [.sighted s] }).trans ?_
    rw [sighted_append p p.registry p.log [.sighted s], List.append_assoc]
    rfl

variable [Registry σ]

theorem sights_resolve (defaultOwner : User) (inquiry : Document.Inquiry α) :
    Sights (resolve defaultOwner inquiry : Run σ _) [] := by
  induction inquiry with
  | done result => exact sights_pure _
  | askUser id next ih =>
    rw [resolve]
    refine (sights_call _).bind fun user? => ?_
    cases user? with
    | some user => exact ih user
    | none => exact (ih defaultOwner).bind fun _ => sights_pure _

/-- A group element is inspected as a service group, whether or not it gives a group. -/
theorem sights_readGroup (request : ImportRequest) (batch : StagedBatch) (element : Json × Nat) :
    Sights (readGroup Document.elementReader request batch element : Run σ StagedBatch)
      (ElementKind.serviceGroup.check element.1).sightings := by
  refine (sights_emitSightings _).bind fun _ => (sights_resolve _ _).bind fun answer => ?_
  match answer with
  | (.error e, _) => exact (sights_record _ _ _).bind fun _ => sights_pure _
  | (.ok record, unresolved) =>
    exact (sights_inherited.recordAll _ _).bind fun _ =>
      (sights_inherited.recordAll _ _).bind fun _ => sights_pure _

omit [Registry σ] in
theorem sights_readCard (request : ImportRequest) (batch : StagedBatch) (element : Json × Nat) :
    Sights (readCard Document.elementReader request batch element : Run σ StagedBatch)
      (ElementKind.businessCard.check element.1).sightings := by
  refine (sights_emitSightings _).bind fun _ => ?_
  cases (Document.elementReader.businessCard element.1).2 with
  | error e => exact (sights_record _ _ _).bind fun _ => sights_pure _
  | ok card => exact (sights_inherited.recordAll _ _).bind fun _ => sights_pure _

end Run

/-- The elements of a batch by their kinds, in the order of an import: the cards come last, if they are
taken. -/
def ParsedBatch.elements (batch : ParsedBatch) (takesCards : Bool) : List (ElementKind × Json) :=
  batch.serviceGroups.map (ElementKind.serviceGroup, ·) ++
    (if takesCards then batch.businessCards else []).map (ElementKind.businessCard, ·)

namespace Run

variable {σ α : Type}

theorem Sights.inspects {run : Run σ α} (h : Sights run []) (p : Progress σ) : Inspects [] run p :=
  inspects_nil_iff.mpr ((h p).trans (List.append_nil _))

theorem Sights.inspects_value {run : Run σ α} {v : ElementKind × Json}
    (h : Sights run (v.1.check v.2).sightings) (p : Progress σ) : Inspects [v] run p :=
  .of_sighted ((h p).trans (by rw [List.flatMap_singleton]))

variable [Registry σ]

theorem inspects_readBatch (request : ImportRequest) (batch : ParsedBatch) (p : Progress σ) :
    Inspects (batch.elements (Registry.directoryIntegration p.registry))
      (readBatch Document.elementReader request batch : Run σ StagedBatch) p := by
  have hfinish (staged : StagedBatch) : Sights (do
      emit (.staged staged.counts)
      return staged : Run σ StagedBatch) [] :=
    sights_inherited.bind (sights_emit _ nofun) fun _ => sights_pure _
  have hgroups := inspects_foldlM fun b element t =>
    Sights.inspects_value (v := (.serviceGroup, element.1)) (sights_readGroup (σ := σ) request b element) t
  have hcards := inspects_foldlM fun b element t =>
    Sights.inspects_value (v := (.businessCard, element.1)) (sights_readCard (σ := σ) request b element) t
  refine (sights_inherited.get.inspects p).nil_bind fun _ _ hget => ?_
  cases hget
  refine (hgroups batch.serviceGroups 0 _ p).bind fun staged p' _ => ?_
  cases Registry.directoryIntegration p.registry with
  | true =>
    exact (hcards batch.businessCards 0 _ p').bind_nil fun _ p' _ => (hfinish _).inspects p'
  | false => exact (hfinish staged).inspects p'

/-- An import inspects the elements of its batch, and nothing more is sighted after that. -/
theorem inspects_importBatch (request : ImportRequest) (batch : ParsedBatch) (p : Progress σ) :
    Inspects (batch.elements (Registry.directoryIntegration p.registry))
      (importBatch Document.elementReader request batch : Run σ Unit) p := by
  have hprepare : Inspects (batch.elements (Registry.directoryIntegration p.registry))
      (prepare Document.elementReader request batch : Run σ _) p := by
    have hstart : Sights (emit (.importStarted request.overwriteExisting) : Run σ Unit) [] :=
      sights_emit _ nofun
    refine (hstart.inspects p).nil_bind fun _ p' hstarted => ?_
    cases hstarted
    have hplan (staged : StagedBatch) : Sights (do
        let outcome ← plan staged
        return (staged, outcome) : Run σ _) [] :=
      sights_inherited.bind (sights_inherited.plan staged) fun _ => sights_pure _
    let started : Progress σ :=
      { p with events := p.events ++ [.importStarted request.overwriteExisting] }
    exact (inspects_readBatch request batch started).bind_nil fun staged p' _ =>
      (hplan staged).inspects p'
  have hcomplete (answer : StagedBatch × PlanOutcome) :
      Sights (complete answer.1 answer.2 : Run σ Unit) [] := sights_inherited.complete _ _
  exact hprepare.bind_nil fun answer p' _ => (hcomplete answer).inspects p'

end Run

end ParticipantRegistry
