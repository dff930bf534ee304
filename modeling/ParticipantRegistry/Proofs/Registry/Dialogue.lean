import ParticipantRegistry.Registry.Basic

/-!
# Dialogues with a registry

In a dialogue a registry is asked for mutations on behalf of participants, one after another, and
replies to each: something was changed, nothing was, or the request was refused with a storage error.
A traced registry replies like the one inside and notes the mutations in turn.
-/

namespace ParticipantRegistry

def Mutation.operation : Mutation → Operation
  | .deleteGroup .. => .deleteGroup
  | .createGroup .. => .createGroup
  | .mergeEndpoint _ => .mergeEndpoint
  | .upsertRedirect _ => .upsertRedirect
  | .deleteBusinessCard _ => .deleteBusinessCard
  | .upsertBusinessCard _ => .upsertBusinessCard

/-- A mutation that is asked for on behalf of a participant. -/
structure Request where
  participantId : Text
  mutation : Mutation
  deriving DecidableEq

/-- Whether anything was changed, or why the request was refused. -/
abbrev Reply := Except StorageError Bool

namespace Reply

def isChange : Reply → Bool
  | .ok changed => changed
  | .error _ => false

def isRefusal : Reply → Bool
  | .ok _ => false
  | .error _ => true

theorem eq_of_mapError {reply reply' : Reply}
    (h : reply.mapError CallError.storage = reply'.mapError CallError.storage) : reply = reply' := by
  cases reply <;> cases reply' <;> cases h <;> rfl

end Reply

/-- A request with its reply. -/
structure Turn extends Request where
  reply : Reply

namespace Turn

def isChange (turn : Turn) : Bool := turn.reply.isChange

def isRefusal (turn : Turn) : Bool := turn.reply.isRefusal

theorem isRefusal_of_isChange {t : Turn} (h : t.isChange = true) : t.isRefusal = false := by
  obtain ⟨request, reply⟩ := t
  match reply with
  | .ok _ => rfl

end Turn

namespace Call

variable {σ α β : Type} {call : Call σ α} {next : α → Call σ β} {s s' : σ}

theorem bind_of_ok {a : α} (h : call s = (.ok a, s')) : (call >>= next) s = next a s' := by
  change ExceptT.bindCont next (call s).1 (call s).2 = _
  rw [h]
  rfl

theorem bind_of_error {e : CallError} (h : call s = (.error e, s')) :
    (call >>= next) s = (.error e, s') := by
  change ExceptT.bindCont next (call s).1 (call s).2 = _
  rw [h]
  rfl

theorem ok_of_bind {b : β} {s'' : σ} (h : (call >>= next) s = (.ok b, s'')) :
    ∃ a s', call s = (.ok a, s') ∧ next a s' = (.ok b, s'') := by
  cases hcall : call s with
  | mk outcome s' =>
    cases outcome with
    | ok a =>
      rw [bind_of_ok hcall] at h
      exact ⟨a, s', rfl, h⟩
    | error e =>
      rw [bind_of_error hcall] at h
      cases h

end Call

section

variable {σ : Type} [Registry σ]

/-- A registry that starts with content `s` replies to some requests in turn and is left with `s'`. -/
inductive Dialogue : σ → List Turn → σ → Prop
  | nil (s : σ) : Dialogue s [] s
  | cons {s s' s'' : σ} {turn : Turn} {turns : List Turn}
      (first : turn.mutation.perform s = (turn.reply.mapError .storage, s'))
      (rest : Dialogue s' turns s'') : Dialogue s (turn :: turns) s''

theorem Dialogue.append {s s' s'' : σ} {turns more : List Turn} (h : Dialogue s turns s')
    (h' : Dialogue s' more s'') : Dialogue s (turns ++ more) s'' := by
  induction h with
  | nil => exact h'
  | cons first _ ih => exact .cons first (ih h')

theorem Dialogue.of_append {s s' : σ} {turns more : List Turn} (h : Dialogue s (turns ++ more) s') :
    ∃ s₁, Dialogue s turns s₁ ∧ Dialogue s₁ more s' := by
  induction turns generalizing s with
  | nil => exact ⟨s, .nil s, h⟩
  | cons turn turns ih =>
    cases h with
    | cons first rest =>
      obtain ⟨s₁, hturns, hmore⟩ := ih rest
      exact ⟨s₁, .cons first hturns, hmore⟩

theorem Dialogue.unique {s s₁ s₂ : σ} {turns turns' : List Turn} (h : Dialogue s turns s₁)
    (h' : Dialogue s turns' s₂) (hr : turns.map Turn.toRequest = turns'.map Turn.toRequest) :
    turns = turns' ∧ s₁ = s₂ := by
  induction h generalizing turns' with
  | nil s =>
    cases h' with
    | nil => exact ⟨rfl, rfl⟩
    | cons => cases hr
  | @cons s t s₁ turn turns first rest ih =>
    cases h' with
    | nil => cases hr
    | @cons _ t' _ turn' turns' first' rest' =>
      obtain ⟨hrequest, hrequests⟩ := List.cons.inj hr
      obtain ⟨request, reply⟩ := turn
      obtain ⟨request', reply'⟩ := turn'
      cases hrequest
      obtain ⟨hreply, rfl⟩ := Prod.mk.inj (first.symm.trans first')
      obtain rfl : reply = reply' := Reply.eq_of_mapError hreply
      obtain ⟨rfl, rfl⟩ := ih rest' hrequests
      exact ⟨rfl, rfl⟩

/-- On any content the mutation answers or fails with a storage error. -/
def Mutation.Contained (σ : Type) [Registry σ] (mutation : Mutation) : Prop :=
  ∀ s : σ, ∃ (reply : Reply) (s' : σ),
    mutation.perform s = (reply.mapError .storage, s')

theorem Dialogue.exists_of_contained {requests : List Request}
    (hc : ∀ r ∈ requests, r.mutation.Contained σ) (s : σ) :
    ∃ (turns : List Turn) (s' : σ), Dialogue s turns s' ∧ turns.map Turn.toRequest = requests := by
  induction requests generalizing s with
  | nil => exact ⟨[], s, .nil s, rfl⟩
  | cons r requests ih =>
    obtain ⟨hr, hrequests⟩ := List.forall_mem_cons.mp hc
    obtain ⟨reply, t, ht⟩ := hr s
    obtain ⟨turns, s', hd, hturns⟩ := ih hrequests t
    exact ⟨⟨r, reply⟩ :: turns, s', .cons ht hd, congrArg (r :: ·) hturns⟩

theorem Mutation.createGroup_cases {group : ServiceGroup} {register : Bool} {s s' : σ}
    {reply : Reply}
    (h : (Mutation.createGroup group register).perform s = (reply.mapError .storage, s')) :
    (∃ created, Registry.createGroup group register s = (.ok created, s') ∧ reply = .ok true) ∨
      ∃ e, Registry.createGroup group register s = (.error (.storage e), s') ∧ reply = .error e := by
  obtain ⟨answer, t, hcreate⟩ : ∃ answer t, Registry.createGroup group register s = (answer, t) :=
    ⟨_, _, rfl⟩
  cases answer with
  | ok created =>
    rw [perform, Call.bind_of_ok hcreate] at h
    obtain ⟨hreply, rfl⟩ := Prod.mk.inj h
    cases reply with
    | ok changed => exact .inl ⟨created, hcreate, by cases hreply; rfl⟩
    | error e => cases hreply
  | error e =>
    rw [perform, Call.bind_of_error hcreate] at h
    obtain ⟨hreply, rfl⟩ := Prod.mk.inj h
    cases reply with
    | ok changed => cases hreply
    | error e' => exact .inr ⟨e', by cases hreply; exact hcreate, rfl⟩

end

namespace Traced

variable {σ : Type} [Registry σ]

omit [Registry σ] in
private theorem noting_bind {α : Type} (mutation : Mutation) (call : Call σ α) (f : α → Bool)
    (s : Traced σ) :
    (noting mutation call >>= fun a => pure (f a)) s =
      (((call >>= fun a => pure (f a)) s.content).1,
        ⟨((call >>= fun a => pure (f a)) s.content).2, s.calls ++ [mutation]⟩) := by
  obtain ⟨answer, t, h⟩ : ∃ answer t, call s.content = (answer, t) := ⟨_, _, rfl⟩
  have hnoting : noting mutation call s = (answer, ⟨t, s.calls ++ [mutation]⟩) := by
    rw [noting, h]
  cases answer with
  | ok a =>
    rw [Call.bind_of_ok h, Call.bind_of_ok hnoting]
    rfl
  | error e => rw [Call.bind_of_error h, Call.bind_of_error hnoting]

theorem perform_eq (mutation : Mutation) (s : Traced σ) :
    mutation.perform s =
      ((mutation.perform s.content).1, ⟨(mutation.perform s.content).2, s.calls ++ [mutation]⟩) := by
  cases mutation with
  | createGroup group register => exact noting_bind _ (Registry.createGroup group register) _ s
  | upsertRedirect redirect => exact noting_bind _ (Registry.upsertRedirect redirect) Option.isSome s
  | upsertBusinessCard card =>
    exact noting_bind _ (Registry.upsertBusinessCard card) Option.isSome s
  | _ => rfl

theorem dialogue_iff {s s' : Traced σ} {turns : List Turn} :
    Dialogue s turns s' ↔
      Dialogue s.content turns s'.content ∧ s'.calls = s.calls ++ turns.map (·.mutation) := by
  induction turns generalizing s with
  | nil =>
    constructor
    · intro h
      cases h
      exact ⟨.nil _, by simp⟩
    · rintro ⟨h, hcalls⟩
      obtain ⟨content, calls⟩ := s'
      cases h
      simp only [List.map_nil, List.append_nil] at hcalls
      subst hcalls
      exact .nil s
  | cons turn turns ih =>
    constructor
    · intro h
      cases h with
      | cons first rest =>
        rw [perform_eq] at first
        obtain ⟨hreply, rfl⟩ := Prod.mk.inj first
        obtain ⟨hrest, hcalls⟩ := ih.mp rest
        exact ⟨.cons (Prod.ext hreply rfl) hrest, by simpa using hcalls⟩
    · rintro ⟨h, hcalls⟩
      cases h with
      | @cons _ t _ _ _ first rest =>
        have hnext : Dialogue (⟨t, s.calls ++ [turn.mutation]⟩ : Traced σ) turns s' :=
          ih.mpr ⟨rest, by simpa using hcalls⟩
        exact .cons (by rw [perform_eq, first]) hnext

theorem contained {mutation : Mutation} (h : mutation.Contained σ) :
    mutation.Contained (Traced σ) := by
  intro s
  obtain ⟨reply, t, ht⟩ := h s.content
  exact ⟨reply, ⟨t, s.calls ++ [mutation]⟩, by rw [perform_eq, ht]⟩

end Traced

/-- The replies to come; when there are none left, every mutation is answered with a change. -/
structure Script where
  replies : List Reply

namespace Script

def next : Call Script Bool := fun s =>
  match s.replies with
  | [] => (.ok true, s)
  | reply :: replies => (reply.mapError .storage, ⟨replies⟩)

instance : Registry Script where
  lookupUser _ := return none
  groupExists _ := return false
  deleteGroup _ _ := next
  createGroup group _ := next >>= fun _ => pure group
  mergeEndpoint _ := next
  upsertRedirect redirect := next >>= fun changed => pure (if changed then some redirect else none)
  businessCard? _ := return none
  deleteBusinessCard _ := next
  upsertBusinessCard card := next >>= fun changed => pure (if changed then some card else none)
  directoryIntegration _ := true
  serviceGroups := return []
  endpoints _ := return []
  redirects _ := return []
  serviceGroupKeys := return []
  businessCardKeys := return []

private theorem next_cases (s : Script) :
    (∃ changed s', next s = (.ok changed, s')) ∨ ∃ e s', next s = (.error (.storage e), s') := by
  obtain ⟨replies⟩ := s
  match replies with
  | [] => exact .inl ⟨true, _, rfl⟩
  | .ok changed :: _ => exact .inl ⟨changed, _, rfl⟩
  | .error e :: _ => exact .inr ⟨e, _, rfl⟩

theorem contained (mutation : Mutation) : mutation.Contained Script := by
  intro s
  rcases next_cases s with ⟨changed, s', h⟩ | ⟨e, s', h⟩
  · cases mutation with
    | createGroup => exact ⟨.ok true, s', Call.bind_of_ok (Call.bind_of_ok h)⟩
    | upsertRedirect r => exact ⟨.ok _, s', Call.bind_of_ok (Call.bind_of_ok h)⟩
    | upsertBusinessCard c => exact ⟨.ok _, s', Call.bind_of_ok (Call.bind_of_ok h)⟩
    | _ => exact ⟨.ok changed, s', h⟩
  · refine ⟨.error e, s', ?_⟩
    cases mutation with
    | createGroup => exact Call.bind_of_error (Call.bind_of_error h)
    | upsertRedirect r => exact Call.bind_of_error (Call.bind_of_error h)
    | upsertBusinessCard c => exact Call.bind_of_error (Call.bind_of_error h)
    | _ => exact h

end Script

end ParticipantRegistry
