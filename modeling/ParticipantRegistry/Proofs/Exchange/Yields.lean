import ParticipantRegistry.Exchange.Run

/-!
# What runs yield

A run that comes to its end returns a value, leaves some content of the registry behind and appends
records to the action log. `Run.Yields` tells all three of a run that starts on given content, whatever
log it goes on with; what else the run shows is left open. Runs are followed through sequencing.
-/

namespace ParticipantRegistry.Run

variable {σ α β : Type}

/-- Started on content `s`, the run returns `a`, appends `records` to the log and leaves `s'`. -/
def Yields (run : Run σ α) (s : σ) (a : α) (records : List ActionRecord) (s' : σ) : Prop :=
  ∀ p : Progress σ, p.registry = s → ∃ events : List Event,
    run p = (.ok a, ⟨s', { p.log with records := p.log.records ++ records }, p.events ++ events⟩)

theorem yields_pure (a : α) (s : σ) : Yields (pure a) s a [] s := by
  intro p hp
  exact ⟨[], by simp [← hp]; rfl⟩

theorem Yields.bind {run : Run σ α} {next : α → Run σ β} {s s' s'' : σ} {a : α} {b : β}
    {records more : List ActionRecord} (hrun : Yields run s a records s')
    (hnext : Yields (next a) s' b more s'') :
    Yields (run >>= next) s b (records ++ more) s'' := by
  intro p hp
  obtain ⟨events, h⟩ := hrun p hp
  obtain ⟨events', h'⟩ := hnext (run p).2 (by rw [h])
  refine ⟨events ++ events', ?_⟩
  change ExceptT.bindCont next (run p).1 (run p).2 = _
  rw [h] at h' ⊢
  simpa only [ExceptT.bindCont, List.append_assoc] using h'

theorem Yields.bind_silent {run : Run σ α} {next : α → Run σ β} {s s' s'' : σ} {a : α} {b : β}
    {records : List ActionRecord} (hrun : Yields run s a [] s')
    (hnext : Yields (next a) s' b records s'') : Yields (run >>= next) s b records s'' :=
  hrun.bind hnext

theorem Yields.then_silent {run : Run σ α} {next : α → Run σ β} {s s' s'' : σ} {a : α} {b : β}
    {records : List ActionRecord} (hrun : Yields run s a records s')
    (hnext : Yields (next a) s' b [] s'') : Yields (run >>= next) s b records s'' := by
  have h := hrun.bind hnext
  rwa [List.append_nil] at h

theorem Yields.bind_pure {run : Run σ α} {next : α → Run σ β} {s s' : σ} {a : α} {b : β}
    {records : List ActionRecord} (hrun : Yields run s a records s') (hnext : next a = pure b) :
    Yields (run >>= next) s b records s' :=
  hrun.then_silent (hnext ▸ yields_pure b s')

theorem Yields.of_get {next : Progress σ → Run σ β} {s s' : σ} {b : β}
    {records : List ActionRecord}
    (h : ∀ p : Progress σ, p.registry = s → Yields (next p) s b records s') :
    Yields (get >>= next) s b records s' :=
  fun p hp => h p hp p hp

theorem yields_emit (event : Event) (s : σ) : Yields (emit event) s () [] s := by
  intro p hp
  refine ⟨[event], ?_⟩
  rw [← hp, List.append_nil]
  rfl

theorem yields_record (key : Option Text) (note : Note) (cause : Option Cause) (s : σ) :
    Yields (record key note cause) s () [⟨.ofText? key, note, cause⟩] s := by
  intro p hp
  refine ⟨[.action p.log.correlationId.display ⟨.ofText? key, note, cause⟩], ?_⟩
  rw [← hp]
  rfl

theorem yields_call {c : Call σ α} {s s' : σ} {a : α} (h : c s = (.ok a, s')) :
    Yields (call c) s a [] s' := by
  intro p hp
  refine ⟨answerEvents (.ok a : Except CallError α), ?_⟩
  subst hp
  simp only [call, h, List.append_nil]

/-- A call that answers, or fails with a storage error, does not end a run that attempts it. -/
theorem yields_attempt {c : Call σ α} {s s' : σ} {reply : Except StorageError α}
    (h : c s = (reply.mapError .storage, s')) : Yields (attempt c) s reply [] s' := by
  intro p hp
  subst hp
  cases reply with
  | ok a =>
    have hanswer : c p.registry = (.ok a, s') := h
    exact ⟨answerEvents (.ok a : Except CallError α), by
      simp only [attempt, call, hanswer, List.append_nil]⟩
  | error e =>
    have hanswer : c p.registry = (.error (.storage e), s') := h
    exact ⟨answerEvents (.error (.storage e) : Except CallError α), by
      simp only [attempt, call, hanswer, List.append_nil]⟩

theorem yields_forM {ι : Type} {step : ι → Run σ Unit} {line : ι → ActionRecord} {s : σ}
    (h : ∀ i, Yields (step i) s () [line i] s) (items : List ι) :
    Yields (items.forM step) s () (items.map line) s := by
  induction items with
  | nil => exact yields_pure () s
  | cons i items ih => exact (h i).bind ih

theorem yields_forM_silent {ι : Type} {step : ι → Run σ Unit} {s : σ}
    (h : ∀ i, Yields (step i) s () [] s) (items : List ι) : Yields (items.forM step) s () [] s := by
  induction items with
  | nil => exact yields_pure () s
  | cons i items ih => exact (h i).bind ih

end ParticipantRegistry.Run
