import ParticipantRegistry.Exchange.Export
import ParticipantRegistry.Proofs.Exchange.CommitTrace
import ParticipantRegistry.Proofs.Exchange.Readings

/-!
# Runs that mirror one another

Two registries whose contents are related may be asked the same. A call mirrors another one if both come
to the same: they answer with related values, are refused, or end with the same fault, and the contents
stay related. An import or export over one registry mirrors that over the other if the calls do that it
makes; the action logs then differ at most in the errors behind the records.
-/

namespace ParticipantRegistry

variable {σ τ α β γ δ ι : Type}

/-- Both calls come to the same. -/
inductive Matches (R : σ → τ → Prop) (V : α → β → Prop) :
    Except CallError α × σ → Except CallError β × τ → Prop
  | answered {a : α} {b : β} {s : σ} {t : τ} (value : V a b) (content : R s t) :
      Matches R V (.ok a, s) (.ok b, t)
  | refused {e e' : StorageError} {s : σ} {t : τ} (content : R s t) :
      Matches R V (.error (.storage e), s) (.error (.storage e'), t)
  | faulted {fault : Fault} {s : σ} {t : τ} (content : R s t) :
      Matches R V (.error (.fault fault), s) (.error (.fault fault), t)

/-- Wherever the contents are related, the calls come to the same. -/
def Call.Mirrors (R : σ → τ → Prop) (V : α → β → Prop) (c : Call σ α) (c' : Call τ β) : Prop :=
  ∀ s t, R s t → Matches R V (c s) (c' t)

variable {R : σ → τ → Prop} {V : α → β → Prop} {W : γ → δ → Prop}

theorem Matches.bind {c : Call σ α} {c' : Call τ β} {next : α → Call σ γ} {next' : β → Call τ δ}
    {s : σ} {t : τ} (hc : Matches R V (c s) (c' t))
    (hn : ∀ a b s' t', c' t = (.ok b, t') → V a b → R s' t' → Matches R W (next a s') (next' b t')) :
    Matches R W ((c >>= next) s) ((c' >>= next') t) := by
  cases hs : c s with
  | mk answer s' =>
    cases ht : c' t with
    | mk answer' t' =>
      rw [hs, ht] at hc
      cases hc with
      | answered value content =>
        rw [Call.bind_of_ok hs, Call.bind_of_ok ht]
        exact hn _ _ _ _ ht value content
      | refused content =>
        rw [Call.bind_of_error hs, Call.bind_of_error ht]
        exact .refused content
      | faulted content =>
        rw [Call.bind_of_error hs, Call.bind_of_error ht]
        exact .faulted content

theorem Matches.of_map {c : Call σ α} {c' : Call τ β} {f : α → γ} {g : β → δ} {s : σ} {t : τ}
    (h : Matches R W ((c >>= fun a => pure (f a)) s) ((c' >>= fun b => pure (g b)) t))
    (hv : ∀ a b s' t', c s = (.ok a, s') → c' t = (.ok b, t') → W (f a) (g b) → V a b) :
    Matches R V (c s) (c' t) := by
  cases hs : c s with
  | mk answer s' =>
    cases ht : c' t with
    | mk answer' t' =>
      cases answer with
      | ok a =>
        rw [Call.bind_of_ok hs] at h
        cases answer' with
        | ok b =>
          rw [Call.bind_of_ok ht] at h
          cases h with
          | answered value content => exact .answered (hv a b s' t' hs ht value) content
        | error e =>
          rw [Call.bind_of_error ht] at h
          cases h
      | error e =>
        rw [Call.bind_of_error hs] at h
        cases answer' with
        | ok b =>
          rw [Call.bind_of_ok ht] at h
          cases h
        | error e' =>
          rw [Call.bind_of_error ht] at h
          cases h with
          | refused content => exact .refused content
          | faulted content => exact .faulted content

theorem Matches.content {x : Except CallError α × σ} {y : Except CallError β × τ}
    (h : Matches R V x y) : R x.2 y.2 := by
  cases h <;> assumption

theorem Matches.imp {S : σ → τ → Prop} {V' : α → β → Prop} {x : Except CallError α × σ}
    {y : Except CallError β × τ} (h : Matches R V x y) (hs : R x.2 y.2 → S x.2 y.2)
    (hv : ∀ a b, V a b → V' a b) : Matches S V' x y := by
  cases h with
  | answered value content => exact .answered (hv _ _ value) (hs content)
  | refused content => exact .refused (hs content)
  | faulted content => exact .faulted (hs content)

namespace Call

theorem mirrors_pure {a : α} {b : β} (h : V a b) :
    Mirrors R V (pure a : Call σ α) (pure b : Call τ β) :=
  fun _ _ hr => .answered h hr

theorem Mirrors.bind {c : Call σ α} {c' : Call τ β} {next : α → Call σ γ} {next' : β → Call τ δ}
    (hc : Mirrors R V c c') (hn : ∀ a b, V a b → Mirrors R W (next a) (next' b)) :
    Mirrors R W (c >>= next) (c' >>= next') :=
  fun s t hr => (hc s t hr).bind fun a b s' t' _ hv hr' => hn a b hv s' t' hr'

theorem mirrors_get : Mirrors R R (get : Call σ σ) (get : Call τ τ) :=
  fun _ _ hr => .answered hr hr

theorem mirrors_forM {step : ι → Call σ Unit} {step' : ι → Call τ Unit} {items : List ι}
    (h : ∀ i ∈ items, Mirrors R (fun _ _ => True) (step i) (step' i)) :
    Mirrors R (fun _ _ => True) (items.forM step) (items.forM step') := by
  induction items with
  | nil => exact mirrors_pure trivial
  | cons i items ih =>
    obtain ⟨hi, hitems⟩ := List.forall_mem_cons.mp h
    exact hi.bind fun _ _ _ => ih hitems

theorem mirrors_foldlM {step : γ → ι → Call σ γ} {step' : γ → ι → Call τ γ} {items : List ι}
    (h : ∀ c, ∀ i ∈ items, Mirrors R Eq (step c i) (step' c i)) (c : γ) :
    Mirrors R Eq (items.foldlM step c) (items.foldlM step' c) := by
  induction items generalizing c with
  | nil => exact mirrors_pure rfl
  | cons i items ih =>
    refine (h c i List.mem_cons_self).bind fun b _ hb => ?_
    cases hb
    exact ih (fun c i hi => h c i (List.mem_cons_of_mem _ hi)) b

theorem mirrors_mapM {step : ι → Call σ γ} {step' : ι → Call τ γ} {items : List ι}
    (h : ∀ i ∈ items, Mirrors R Eq (step i) (step' i)) :
    Mirrors R Eq (items.mapM step) (items.mapM step') := by
  induction items with
  | nil => exact mirrors_pure rfl
  | cons i items ih =>
    obtain ⟨hi, hitems⟩ := List.forall_mem_cons.mp h
    rw [List.mapM_cons, List.mapM_cons]
    refine hi.bind fun a _ ha => (ih hitems).bind fun as _ has => ?_
    cases ha
    cases has
    exact mirrors_pure rfl

end Call

def ActionRecord.outline (r : ActionRecord) : Json × Note := (r.key, r.note)

def ActionLog.outlines (log : ActionLog) : List (Json × Note) := log.records.map ActionRecord.outline

theorem ActionLog.hasError_of_outlines {log log' : ActionLog} (h : log.outlines = log'.outlines) :
    log.hasError = log'.hasError := by
  have houtline (log : ActionLog) : log.hasError = log.outlines.any (·.2.severity.isError) := by
    rw [outlines, List.any_map]
    rfl
  rw [houtline, houtline, h]

/-- Two runs have come equally far over related contents. -/
structure Progress.Mirrors (R : σ → τ → Prop) (p : Progress σ) (q : Progress τ) : Prop where
  registry : R p.registry q.registry
  outlines : p.log.outlines = q.log.outlines

namespace Run

open Call (Mirrors mirrors_pure mirrors_get mirrors_forM mirrors_foldlM mirrors_mapM)

theorem mirrors_emit (event event' : Event) :
    Mirrors (Progress.Mirrors R) (fun _ _ => True) (emit event) (emit event') :=
  fun _ _ hr => .answered trivial ⟨hr.registry, hr.outlines⟩

theorem mirrors_record (key : Option Text) (note : Note) (cause cause' : Option Cause) :
    Mirrors (Progress.Mirrors R) (fun _ _ => True) (record key note cause)
      (record key note cause') := by
  intro p q hr
  refine .answered trivial ⟨hr.registry, ?_⟩
  have houtlines := hr.outlines
  simp only [ActionLog.outlines, ActionLog.add, List.map_append] at houtlines ⊢
  rw [houtlines]
  rfl

theorem mirrors_call {c : Call σ α} {c' : Call τ β} (h : Mirrors R V c c') :
    Mirrors (Progress.Mirrors R) V (call c) (call c') := by
  intro p q hr
  have hc := h _ _ hr.registry
  cases hs : c p.registry with
  | mk answer s =>
    cases ht : c' q.registry with
    | mk answer' t =>
      rw [hs, ht] at hc
      rw [call, call, hs, ht]
      cases hc with
      | answered value content => exact .answered value ⟨content, hr.outlines⟩
      | refused content => exact .refused ⟨content, hr.outlines⟩
      | faulted content => exact .faulted ⟨content, hr.outlines⟩

/-- Both attempts succeed, with related values, or none does. -/
inductive Likewise (V : α → β → Prop) : Except StorageError α → Except StorageError β → Prop
  | ok {a : α} {b : β} (value : V a b) : Likewise V (.ok a) (.ok b)
  | error (e e' : StorageError) : Likewise V (.error e) (.error e')

theorem mirrors_attempt {c : Call σ α} {c' : Call τ β} (h : Mirrors R V c c') :
    Mirrors (Progress.Mirrors R) (Likewise V) (attempt c) (attempt c') := by
  intro p q hr
  have hc := mirrors_call h p q hr
  cases hs : call c p with
  | mk answer p' =>
    cases ht : call c' q with
    | mk answer' q' =>
      rw [hs, ht] at hc
      rw [attempt, attempt, hs, ht]
      cases hc with
      | answered value content => exact .answered (.ok value) content
      | refused content => exact .answered (.error _ _) content
      | faulted content => exact .faulted content

section Commit

variable [Registry σ] [Registry τ]

/-- Both registries are asked for the mutation alike. -/
def Shared (R : σ → τ → Prop) (mutation : Mutation) : Prop :=
  Mirrors R Eq (mutation.perform : Call σ Bool) (mutation.perform : Call τ Bool)

theorem mirrors_mutate (participantId : Text) {mutation : Mutation} (h : Shared R mutation) :
    Mirrors (Progress.Mirrors R) Eq (mutate participantId mutation : Run σ Bool)
      (mutate participantId mutation : Run τ Bool) := by
  refine (mirrors_attempt h).bind fun reply reply' hreply => ?_
  cases hreply with
  | @ok changed _ value =>
    cases value
    cases changed with
    | true => exact (mirrors_record _ _ _ _).bind fun _ _ _ => mirrors_pure rfl
    | false => exact (mirrors_record _ _ _ _).bind fun _ _ _ => mirrors_pure rfl
  | error e e' => exact (mirrors_record _ _ _ _).bind fun _ _ _ => mirrors_pure rfl

omit [Registry σ] [Registry τ] in
theorem mirrors_count {step : ι → Run σ Bool} {step' : ι → Run τ Bool} {items : List ι}
    (h : ∀ i ∈ items, Mirrors (Progress.Mirrors R) Eq (step i) (step' i)) :
    Mirrors (Progress.Mirrors R) Eq (count step items) (count step' items) := by
  induction items with
  | nil => exact mirrors_pure rfl
  | cons i items ih =>
    obtain ⟨hi, hitems⟩ := List.forall_mem_cons.mp h
    refine hi.bind fun changed _ hchanged => (ih hitems).bind fun rest _ hrest => ?_
    cases hchanged
    cases hrest
    exact mirrors_pure rfl

theorem mirrors_deleteGroups {groups : List ServiceGroup}
    (h : ∀ group ∈ groups, Shared R group.deletion.mutation) :
    Mirrors (Progress.Mirrors R) Eq (deleteGroups groups : Run σ (List Text))
      (deleteGroups groups : Run τ (List Text)) := by
  induction groups with
  | nil => exact mirrors_pure rfl
  | cons group groups ih =>
    obtain ⟨hgroup, hgroups⟩ := List.forall_mem_cons.mp h
    refine (mirrors_mutate _ hgroup).bind fun deleted _ hdeleted =>
      (ih hgroups).bind fun rest _ hrest => ?_
    cases hdeleted
    cases hrest
    exact mirrors_pure rfl

theorem mirrors_createGroup {group : ServiceGroup} {register : Bool}
    (h : Shared R (.createGroup group register)) :
    Mirrors R (fun _ _ => True) (Registry.createGroup group register : Call σ ServiceGroup)
      (Registry.createGroup group register : Call τ ServiceGroup) :=
  fun s t hr => (h s t hr).of_map fun _ _ _ _ _ _ _ => trivial

theorem mirrors_createGroups {groups : List StagedGroup}
    (h : ∀ g ∈ groups, Shared R g.creation.mutation) :
    Mirrors (Progress.Mirrors R) (fun a b => a.1.map (·.1) = b.1.map (·.1) ∧ a.2 = b.2)
      (createGroups groups : Run σ (List (Text × ServiceGroup) × List Text))
      (createGroups groups : Run τ (List (Text × ServiceGroup) × List Text)) := by
  induction groups with
  | nil => exact mirrors_pure ⟨rfl, rfl⟩
  | cons g groups ih =>
    obtain ⟨hg, hgroups⟩ := List.forall_mem_cons.mp h
    refine (mirrors_attempt (mirrors_createGroup hg)).bind fun reply reply' hreply => ?_
    cases hreply with
    | ok =>
      refine (mirrors_record _ _ _ _).bind fun _ _ _ => (ih hgroups).bind fun a b hab => ?_
      exact mirrors_pure ⟨congrArg (g.participantId :: ·) hab.1, hab.2⟩
    | error =>
      refine (mirrors_record _ _ _ _).bind fun _ _ _ => (ih hgroups).bind fun a b hab => ?_
      exact mirrors_pure ⟨hab.1, congrArg (g.participantId :: ·) hab.2⟩

theorem mirrors_createChildren (created : List Text) {groups : List StagedGroup}
    (h : ∀ g ∈ groups, ∀ r ∈ g.children, Shared R r.mutation) :
    Mirrors (Progress.Mirrors R) Eq (createChildren created groups : Run σ (Nat × Nat))
      (createChildren created groups : Run τ (Nat × Nat)) := by
  induction groups with
  | nil => exact mirrors_pure rfl
  | cons g groups ih =>
    obtain ⟨hg, hgroups⟩ := List.forall_mem_cons.mp h
    simp only [StagedGroup.children, StagedGroup.merges, StagedGroup.upserts,
      List.forall_mem_append, List.forall_mem_map] at hg
    rw [createChildren, createChildren]
    split
    · refine (mirrors_count fun e he => mirrors_mutate _ (hg.1 e he)).bind fun merged _ hm => ?_
      refine (mirrors_count fun r hr => mirrors_mutate _ (hg.2 r hr)).bind fun upserted _ hu => ?_
      refine (ih hgroups).bind fun more _ hmore => ?_
      cases hm
      cases hu
      cases hmore
      exact mirrors_pure rfl
    · exact ih hgroups

theorem mirrors_deleteCard (deletedGroups : List Text) {card : BusinessCard}
    (h : Shared R card.deletion.mutation) :
    Mirrors (Progress.Mirrors R) Eq (deleteCard deletedGroups card : Run σ Bool)
      (deleteCard deletedGroups card : Run τ Bool) := by
  refine (mirrors_attempt h).bind fun reply reply' hreply => ?_
  cases hreply with
  | @ok changed _ value =>
    cases value
    cases changed with
    | true => exact (mirrors_record _ _ _ _).bind fun _ _ _ => mirrors_pure rfl
    | false => exact (mirrors_record _ _ _ _).bind fun _ _ _ => mirrors_pure rfl
  | error e e' => exact (mirrors_record _ _ _ _).bind fun _ _ _ => mirrors_pure rfl

theorem mirrors_commit {staged : StagedBatch} (h : ∀ r ∈ staged.requests, Shared R r.mutation) :
    Mirrors (Progress.Mirrors R) (fun _ _ => True) (commit staged : Run σ CommitReport)
      (commit staged : Run τ CommitReport) := by
  simp only [StagedBatch.requests, List.forall_mem_append, List.forall_mem_map,
    List.forall_mem_flatMap] at h
  obtain ⟨⟨⟨⟨hdeletions, hcreations⟩, hchildren⟩, hcardDeletions⟩, hcards⟩ := h
  refine (mirrors_deleteGroups hdeletions).bind fun deleted _ hdeleted => ?_
  cases hdeleted
  refine (mirrors_createGroups hcreations).bind fun a b hab => ?_
  obtain ⟨created, failed⟩ := a
  obtain ⟨created', failed'⟩ := b
  obtain ⟨hcreated, rfl⟩ : created.map (·.1) = created'.map (·.1) ∧ failed = failed' := hab
  simp only [hcreated]
  refine (mirrors_createChildren _ hchildren).bind fun _ _ _ => ?_
  refine (mirrors_forM fun _ _ => mirrors_record _ _ _ _).bind fun _ _ _ => ?_
  refine (mirrors_count fun card hcard => mirrors_deleteCard deleted (hcardDeletions card hcard)).bind
    fun _ _ _ => ?_
  refine (mirrors_count fun card hcard =>
    mirrors_mutate _ (hcards card (List.mem_of_mem_filter hcard))).bind fun _ _ _ => ?_
  exact (mirrors_emit _ _).bind fun _ _ _ => mirrors_pure trivial

end Commit

section Import

variable [Registry σ] [Registry τ]

/-- An inquiry asks only for ids with a property. -/
inductive Asks (P : Text → Prop) : Document.Inquiry α → Prop
  | done (result : Except Document.RecordError α) : Asks P (.done result)
  | askUser {id : Text} {next : User → Document.Inquiry α} (asked : P id)
      (later : ∀ user, Asks P (next user)) : Asks P (.askUser id next)

/-- Users whose ids have a property are looked up alike, and both registries take cards or none
does. -/
structure Consistent (R : σ → τ → Prop) (P : Text → Prop) : Prop where
  lookup : ∀ id, P id → Mirrors R Eq (Registry.lookupUser id : Call σ (Option User))
    (Registry.lookupUser id : Call τ (Option User))
  directoryIntegration : ∀ s t, R s t →
    Registry.directoryIntegration s = Registry.directoryIntegration t

variable {P : Text → Prop} (hR : Consistent R P)

include hR

theorem mirrors_resolve (defaultOwner : User) {inquiry : Document.Inquiry α} (h : Asks P inquiry) :
    Mirrors (Progress.Mirrors R) Eq (resolve defaultOwner inquiry : Run σ _)
      (resolve defaultOwner inquiry : Run τ _) := by
  induction h with
  | done result => exact mirrors_pure rfl
  | askUser asked later ih =>
    rw [resolve, resolve]
    refine (mirrors_call (hR.lookup _ asked)).bind fun user? _ huser => ?_
    cases huser
    cases user? with
    | some user => exact ih user
    | none =>
      refine (ih defaultOwner).bind fun answer _ hanswer => ?_
      cases hanswer
      exact mirrors_pure rfl

omit hR [Registry σ] [Registry τ] in
theorem mirrors_emitSightings (sightings : List Document.Sighting) :
    Mirrors (Progress.Mirrors R) (fun _ _ => True) (emitSightings sightings)
      (emitSightings sightings) :=
  mirrors_forM fun _ _ => mirrors_emit _ _

omit hR [Registry σ] [Registry τ] in
theorem mirrors_recordAll (key : Text) (notes : List Note) :
    Mirrors (Progress.Mirrors R) (fun _ _ => True) (recordAll key notes) (recordAll key notes) :=
  mirrors_forM fun _ _ => mirrors_record _ _ _ _

theorem mirrors_readGroup {reader : Document.ElementReader} (request : ImportRequest)
    (batch : StagedBatch) {element : Json × Nat} (h : Asks P (reader.serviceGroup element.1).2) :
    Mirrors (Progress.Mirrors R) Eq (readGroup reader request batch element : Run σ StagedBatch)
      (readGroup reader request batch element : Run τ StagedBatch) := by
  refine (mirrors_emitSightings _).bind fun _ _ _ => ?_
  refine (mirrors_resolve hR _ h).bind fun answer _ hanswer => ?_
  cases hanswer
  match answer with
  | (.error e, _) => exact (mirrors_record _ _ _ _).bind fun _ _ _ => mirrors_pure rfl
  | (.ok record, unresolved) =>
    exact (mirrors_recordAll _ _).bind fun _ _ _ => (mirrors_recordAll _ _).bind fun _ _ _ =>
      mirrors_pure rfl

omit hR [Registry σ] [Registry τ] in
theorem mirrors_readCard (reader : Document.ElementReader) (request : ImportRequest)
    (batch : StagedBatch) (element : Json × Nat) :
    Mirrors (Progress.Mirrors R) Eq (readCard reader request batch element)
      (readCard reader request batch element) := by
  refine (mirrors_emitSightings _).bind fun _ _ _ => ?_
  cases (reader.businessCard element.1).2 with
  | error e => exact (mirrors_record _ _ _ _).bind fun _ _ _ => mirrors_pure rfl
  | ok card => exact (mirrors_recordAll _ _).bind fun _ _ _ => mirrors_pure rfl

theorem mirrors_readBatch {reader : Document.ElementReader} (request : ImportRequest)
    {batch : ParsedBatch} (h : ∀ e ∈ batch.serviceGroups, Asks P (reader.serviceGroup e).2) :
    Mirrors (Progress.Mirrors R) Eq (readBatch reader request batch : Run σ StagedBatch)
      (readBatch reader request batch : Run τ StagedBatch) := by
  refine mirrors_get.bind fun p q hpq => ?_
  rw [hR.directoryIntegration _ _ hpq.registry]
  refine (mirrors_foldlM (fun staged e he => ?_) _).bind fun staged _ hstaged => ?_
  · exact mirrors_readGroup hR request staged (h e.1 (List.fst_mem_of_mem_zipIdx he))
  · cases hstaged
    have hfinish (staged : StagedBatch) : Mirrors (Progress.Mirrors R) Eq
        (do emit (.staged staged.counts); return staged : Run σ StagedBatch)
        (do emit (.staged staged.counts); return staged : Run τ StagedBatch) :=
      (mirrors_emit _ _).bind fun _ _ _ => mirrors_pure rfl
    cases Registry.directoryIntegration q.registry with
    | true =>
      refine (mirrors_foldlM (fun staged e _ => mirrors_readCard reader request staged e) _).bind
        fun staged _ hstaged => ?_
      cases hstaged
      exact hfinish staged
    | false => exact hfinish staged

omit hR [Registry σ] [Registry τ] in
theorem mirrors_log : Mirrors (Progress.Mirrors R) (fun l l' => l.outlines = l'.outlines)
    (log : Run σ ActionLog) (log : Run τ ActionLog) :=
  mirrors_get.bind fun _ _ hpq => mirrors_pure hpq.outlines

omit hR [Registry σ] [Registry τ] in
theorem mirrors_plan (staged : StagedBatch) :
    Mirrors (Progress.Mirrors R) Eq (plan staged : Run σ PlanOutcome)
      (plan staged : Run τ PlanOutcome) := by
  refine mirrors_log.bind fun l l' hl => ?_
  rw [ActionLog.hasError_of_outlines hl]
  exact (mirrors_record _ _ _ _).bind fun _ _ _ => mirrors_pure rfl

theorem mirrors_prepare {reader : Document.ElementReader} (request : ImportRequest)
    {batch : ParsedBatch} (h : ∀ e ∈ batch.serviceGroups, Asks P (reader.serviceGroup e).2) :
    Mirrors (Progress.Mirrors R) Eq (prepare reader request batch : Run σ _)
      (prepare reader request batch : Run τ _) := by
  refine (mirrors_emit _ _).bind fun _ _ _ => (mirrors_readBatch hR request h).bind
    fun staged _ hstaged => ?_
  cases hstaged
  refine (mirrors_plan staged).bind fun outcome _ houtcome => ?_
  cases houtcome
  exact mirrors_pure rfl

omit hR in
theorem mirrors_complete {staged : StagedBatch} {outcome : PlanOutcome}
    (h : outcome = .proceed → ∀ r ∈ staged.requests, Shared R r.mutation) :
    Mirrors (Progress.Mirrors R) (fun _ _ => True) (complete staged outcome : Run σ Unit)
      (complete staged outcome : Run τ Unit) := by
  have hfinish : Mirrors (Progress.Mirrors R) (fun _ _ => True)
      (do
        let finished ← log
        emit (.importFinished outcome finished.records.length finished.hasError) : Run σ Unit)
      (do
        let finished ← log
        emit (.importFinished outcome finished.records.length finished.hasError) : Run τ Unit) :=
    mirrors_log.bind fun _ _ _ => mirrors_emit _ _
  rw [complete, complete]
  split
  · next houtcome => exact (mirrors_commit (h houtcome)).bind fun _ _ _ => hfinish
  · exact hfinish

/-- An import over one registry mirrors that over another one, if what it stages there is shared. -/
theorem matches_importBatch {reader : Document.ElementReader} {request : ImportRequest}
    {batch : ParsedBatch} (h : ∀ e ∈ batch.serviceGroups, Asks P (reader.serviceGroup e).2)
    {p : Progress σ} {q : Progress τ} (hpq : p.Mirrors R q)
    (hshared : ∀ (staged : StagedBatch) (q' : Progress τ),
      prepare reader request batch q = (.ok (staged, .proceed), q') →
        ∀ r ∈ staged.requests, Shared R r.mutation) :
    Matches (Progress.Mirrors R) (fun _ _ => True) (importBatch reader request batch p)
      (importBatch reader request batch q) := by
  refine (mirrors_prepare hR request h p q hpq).bind fun a b p' q' hq' hab hpq' => ?_
  cases hab
  obtain ⟨staged, outcome⟩ := a
  refine mirrors_complete (fun houtcome => ?_) p' q' hpq'
  exact hshared staged q' (houtcome ▸ hq')

end Import

section Export

variable [Registry σ] [Registry τ]

omit [Registry σ] [Registry τ] in
theorem mirrors_lookup (what : Lookup) (participantId : Text) (fallback : γ) {c : Call σ γ}
    {c' : Call τ γ} (h : Mirrors R Eq c c') :
    Mirrors (Progress.Mirrors R) Eq (lookup what participantId fallback c)
      (lookup what participantId fallback c') := by
  refine (mirrors_attempt h).bind fun reply reply' hreply => ?_
  cases hreply with
  | ok value => exact mirrors_pure value
  | error => exact (mirrors_emit _ _).bind fun _ _ _ => mirrors_pure rfl

/-- What belongs to a participant is looked up alike. -/
structure Listed (R : σ → τ → Prop) (participantId : Text) : Prop where
  endpoints : Mirrors R Eq (Registry.endpoints participantId : Call σ (List Endpoint))
    (Registry.endpoints participantId : Call τ (List Endpoint))
  redirects : Mirrors R Eq (Registry.redirects participantId : Call σ (List Redirect))
    (Registry.redirects participantId : Call τ (List Redirect))
  businessCard : Mirrors R Eq (Registry.businessCard? participantId : Call σ (Option BusinessCard))
    (Registry.businessCard? participantId : Call τ (Option BusinessCard))

theorem mirrors_exportGroups {groups groups' : List ServiceGroup} (withCards : Bool)
    (hsame : groups.mergeSort ServiceGroup.le = groups'.mergeSort ServiceGroup.le)
    (h : ∀ group ∈ groups', Listed R group.participantId) :
    Mirrors (Progress.Mirrors R) Eq (exportGroups groups withCards : Run σ ExportDocument)
      (exportGroups groups' withCards : Run τ ExportDocument) := by
  rw [exportGroups, exportGroups, hsame]
  have h : ∀ group ∈ groups'.mergeSort ServiceGroup.le, Listed R group.participantId :=
    fun group hgroup => h group ((List.mergeSort_perm groups' _).mem_iff.mp hgroup)
  refine (mirrors_emit _ _).bind fun _ _ _ => (mirrors_mapM fun group hgroup => ?_).bind
    fun exported _ hexported => ?_
  · refine (mirrors_lookup _ _ _ (h group hgroup).endpoints).bind fun endpoints _ he => ?_
    refine (mirrors_lookup _ _ _ (h group hgroup).redirects).bind fun redirects _ hr => ?_
    cases he
    cases hr
    exact mirrors_pure rfl
  · cases hexported
    have hfinish (cards : List (Option BusinessCard)) : Mirrors (Progress.Mirrors R) Eq
        (do emit .exportFinished; return ⟨exported, cards.filterMap id⟩ : Run σ ExportDocument)
        (do emit .exportFinished; return ⟨exported, cards.filterMap id⟩ : Run τ ExportDocument) :=
      (mirrors_emit _ _).bind fun _ _ _ => mirrors_pure rfl
    cases withCards with
    | true =>
      refine (mirrors_mapM fun group hgroup =>
        mirrors_lookup _ _ _ (h group hgroup).businessCard).bind fun cards _ hcards => ?_
      cases hcards
      exact hfinish cards
    | false => exact hfinish []

end Export

end Run

end ParticipantRegistry
