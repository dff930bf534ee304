import ParticipantRegistry.Proofs.Exchange.Mirroring
import ParticipantRegistry.Registry.Invocation

/-!
# Imports as calls in turn

All that an import does to a registry it does by calls. So its content ends as calls in turn leave it,
and whatever calls preserve, an import preserves.
-/

namespace ParticipantRegistry

variable {σ α β : Type}

namespace Call

variable {R : σ → σ → Prop} {call : Call σ α} {s : σ}

theorem bind_pure_snd (call : Call σ α) (f : α → β) (s : σ) :
    ((call >>= fun a => pure (f a)) s).2 = (call s).2 := by
  cases h : call s with
  | mk outcome s' =>
    cases outcome with
    | ok a =>
      rw [bind_of_ok h]
      rfl
    | error e => rw [bind_of_error h]

theorem matches_self (h : R (call s).2 (call s).2) : Matches R Eq (call s) (call s) := by
  cases hcall : call s with
  | mk outcome s' =>
    rw [hcall] at h
    match outcome with
    | .ok a => exact .answered rfl h
    | .error (.storage e) => exact .refused h
    | .error (.fault fault) => exact .faulted h

end Call

namespace Invocation

variable [Registry σ]

def runAll (calls : List Invocation) (s : σ) : σ := calls.foldl (fun s i => (i.answer s).2) s

theorem runAll_append (calls : List Invocation) (i : Invocation) (s : σ) :
    runAll (calls ++ [i]) s = (i.answer (runAll calls s)).2 := by
  rw [runAll, List.foldl_append]
  rfl

theorem answer_mutate (mutation : Mutation) (s : σ) :
    ((Invocation.mutate mutation).answer s).2 = (mutation.perform s).2 := by
  cases mutation with
  | deleteGroup participantId deprovision => exact Call.bind_pure_snd _ _ s
  | createGroup group register =>
    exact (Call.bind_pure_snd _ _ s).trans (Call.bind_pure_snd _ _ s).symm
  | mergeEndpoint endpoint => exact Call.bind_pure_snd _ _ s
  | upsertRedirect redirect =>
    exact (Call.bind_pure_snd _ _ s).trans (Call.bind_pure_snd _ _ s).symm
  | deleteBusinessCard card => exact Call.bind_pure_snd _ _ s
  | upsertBusinessCard card =>
    exact (Call.bind_pure_snd _ _ s).trans (Call.bind_pure_snd _ _ s).symm

end Invocation

namespace Run

variable [Registry σ]

/-- The same content, which calls in turn have made of another one. -/
def MadeOf (start s t : σ) : Prop := s = t ∧ ∃ calls, t = Invocation.runAll calls start

theorem MadeOf.answer {start s t : σ} (h : MadeOf start s t) (i : Invocation) :
    MadeOf start (i.answer s).2 (i.answer s).2 := by
  obtain ⟨rfl, calls, rfl⟩ := h
  exact ⟨rfl, calls ++ [i], (Invocation.runAll_append calls i start).symm⟩

theorem madeOf_mutation (start : σ) (mutation : Mutation) : Shared (MadeOf start) mutation := by
  intro s t h
  have hanswer := h.answer (.mutate mutation)
  rw [Invocation.answer_mutate] at hanswer
  obtain ⟨rfl, -⟩ := h
  exact Call.matches_self hanswer

theorem madeOf_consistent (start : σ) : Consistent (MadeOf start) fun _ => True where
  lookup id _ s t h := by
    have hanswer := h.answer (.lookupUser id)
    rw [Invocation.answer, Call.bind_pure_snd] at hanswer
    obtain ⟨rfl, -⟩ := h
    exact Call.matches_self hanswer
  directoryIntegration s t h := by rw [h.1]

theorem asks_anything (inquiry : Document.Inquiry α) : Asks (fun _ => True) inquiry := by
  induction inquiry with
  | done result => exact .done result
  | askUser id next ih => exact .askUser trivial ih

/-- However an import ends, calls in turn have made its content. -/
theorem importBatch_runAll (reader : Document.ElementReader) (request : ImportRequest)
    (batch : ParsedBatch) (p : Progress σ) :
    ∃ calls, (importBatch reader request batch p).2.registry =
      Invocation.runAll calls p.registry := by
  have hruns : Matches (Progress.Mirrors (MadeOf p.registry)) (fun _ _ => True)
      (importBatch reader request batch p) (importBatch reader request batch p) :=
    matches_importBatch (madeOf_consistent p.registry) (fun _ _ => asks_anything _)
      ⟨⟨rfl, [], rfl⟩, rfl⟩ fun _ _ _ r _ => madeOf_mutation _ r.mutation
  exact hruns.content.registry.2

end Run

end ParticipantRegistry
