import ParticipantRegistry.Proofs.Exchange.ImportCalls

/-!
# Answers of calls

Every call of a registry has its own type of answer. Two registries agree on calls in turn if each call
comes to the same over both, and their contents are related after each. What is listed is compared
without regard to the order.
-/

namespace ParticipantRegistry

variable {σ τ : Type}

namespace Mutation

def Answer : Mutation → Type
  | .deleteGroup .. => Bool
  | .createGroup .. => ServiceGroup
  | .mergeEndpoint _ => Bool
  | .upsertRedirect _ => Option Redirect
  | .deleteBusinessCard _ => Bool
  | .upsertBusinessCard _ => Option BusinessCard

def ask [Registry σ] : (mutation : Mutation) → Call σ mutation.Answer
  | .deleteGroup participantId deprovision => Registry.deleteGroup participantId deprovision
  | .createGroup group register => Registry.createGroup group register
  | .mergeEndpoint endpoint => Registry.mergeEndpoint endpoint
  | .upsertRedirect redirect => Registry.upsertRedirect redirect
  | .deleteBusinessCard card => Registry.deleteBusinessCard card
  | .upsertBusinessCard card => Registry.upsertBusinessCard card

def shown : (mutation : Mutation) → mutation.Answer → Json
  | .deleteGroup .., changed => .bool changed
  | .createGroup .., group => group.toJson
  | .mergeEndpoint _, changed => .bool changed
  | .upsertRedirect _, redirect? => Invocation.optional Redirect.toJson redirect?
  | .deleteBusinessCard _, changed => .bool changed
  | .upsertBusinessCard _, card? => Invocation.optional BusinessCard.toJson card?

end Mutation

namespace Invocation

def Answer : Invocation → Type
  | .lookupUser _ => Option User
  | .groupExists _ => Bool
  | .businessCard _ => Option BusinessCard
  | .directoryIntegration => Bool
  | .serviceGroups => List ServiceGroup
  | .endpoints _ => List Endpoint
  | .redirects _ => List Redirect
  | .serviceGroupKeys => List Text
  | .businessCardKeys => List Text
  | .mutate mutation => mutation.Answer

def ask [Registry σ] : (i : Invocation) → Call σ i.Answer
  | .lookupUser id => Registry.lookupUser id
  | .groupExists participantId => Registry.groupExists participantId
  | .businessCard participantId => Registry.businessCard? participantId
  | .directoryIntegration => return Registry.directoryIntegration (← get)
  | .serviceGroups => Registry.serviceGroups
  | .endpoints participantId => Registry.endpoints participantId
  | .redirects participantId => Registry.redirects participantId
  | .serviceGroupKeys => Registry.serviceGroupKeys
  | .businessCardKeys => Registry.businessCardKeys
  | .mutate mutation => mutation.ask

def shown : (i : Invocation) → i.Answer → Json
  | .lookupUser _, user? => optional User.toJson user?
  | .groupExists _, present => .bool present
  | .businessCard _, card? => optional BusinessCard.toJson card?
  | .directoryIntegration, takes => .bool takes
  | .serviceGroups, groups => listed ServiceGroup.toJson groups
  | .endpoints _, es => listed Endpoint.toJson (es.mergeSort Endpoint.le)
  | .redirects _, rs => listed Redirect.toJson (rs.mergeSort Redirect.le)
  | .serviceGroupKeys, keys => Json.ofTexts (Text.sort keys)
  | .businessCardKeys, keys => Json.ofTexts (Text.sort keys)
  | .mutate mutation, answer => mutation.shown answer

theorem answer_eq [Registry σ] (i : Invocation) :
    (i.answer : Call σ Json) = i.ask >>= fun a => pure (i.shown a) := by
  cases i with
  | mutate mutation => cases mutation <;> rfl
  | _ => rfl

/-- Whether two answers are the same, lists but for their order. -/
def Alike : (i : Invocation) → i.Answer → i.Answer → Prop
  | .lookupUser _, a, b => a = b
  | .groupExists _, a, b => a = b
  | .businessCard _, a, b => a = b
  | .directoryIntegration, a, b => a = b
  | .serviceGroups, a, b => List.Perm a b
  | .endpoints _, a, b => List.Perm a b
  | .redirects _, a, b => List.Perm a b
  | .serviceGroupKeys, a, b => List.Perm a b
  | .businessCardKeys, a, b => List.Perm a b
  | .mutate _, a, b => a = b

end Invocation

/-- A group that is created and a redirect or card that is stored is the one that is given. -/
structure Registry.Echoes [Registry σ] (s : σ) : Prop where
  createGroup : ∀ {group created : ServiceGroup} {register : Bool} {s' : σ},
    Registry.createGroup group register s = (.ok created, s') → created = group
  upsertRedirect : ∀ {redirect : Redirect} {stored? : Option Redirect} {s' : σ},
    Registry.upsertRedirect redirect s = (.ok stored?, s') → ∀ stored ∈ stored?, stored = redirect
  upsertBusinessCard : ∀ {card : BusinessCard} {stored? : Option BusinessCard} {s' : σ},
    Registry.upsertBusinessCard card s = (.ok stored?, s') → ∀ stored ∈ stored?, stored = card

private theorem eq_of_isSome {α : Type} {a b : Option α} {c : α} (h : a.isSome = b.isSome)
    (ha : ∀ x ∈ a, x = c) (hb : ∀ x ∈ b, x = c) : a = b := by
  cases a with
  | none => exact (Option.not_isSome_iff_eq_none.mp (by simp [← h])).symm
  | some x =>
    cases b with
    | none => cases h
    | some y => rw [ha x rfl, hb y rfl]

theorem Mutation.matches_ask [Registry σ] [Registry τ] {R : σ → τ → Prop} {s : σ} {t : τ}
    (hs : Registry.Echoes s) (ht : Registry.Echoes t) {mutation : Mutation}
    (h : Matches R Eq (mutation.perform s) (mutation.perform t)) :
    Matches R Eq (mutation.ask s) (mutation.ask t) := by
  cases mutation with
  | deleteGroup => exact h
  | createGroup group register =>
    refine Matches.of_map h fun a b _ _ ha hb _ => ?_
    exact (hs.createGroup ha).trans (ht.createGroup hb).symm
  | mergeEndpoint => exact h
  | upsertRedirect redirect =>
    refine Matches.of_map h fun a b _ _ ha hb hab => ?_
    exact eq_of_isSome hab (hs.upsertRedirect ha) (ht.upsertRedirect hb)
  | deleteBusinessCard => exact h
  | upsertBusinessCard card =>
    refine Matches.of_map h fun a b _ _ ha hb hab => ?_
    exact eq_of_isSome hab (hs.upsertBusinessCard ha) (ht.upsertBusinessCard hb)

namespace Invocation

variable [Registry σ] [Registry τ] {R : σ → τ → Prop}

theorem snd_answer (i : Invocation) (s : σ) : (i.answer s).2 = (i.ask s).2 := by
  rw [answer_eq, Call.bind_pure_snd]

/-- Calls in turn come to the same over both registries, and the contents are related after each. -/
def Agree (R : σ → τ → Prop) : List Invocation → σ → τ → Prop
  | [], s, t => R s t
  | i :: calls, s, t =>
    Matches R i.Alike (i.ask s) (i.ask t) ∧ Agree R calls (i.ask s).2 (i.ask t).2

theorem Agree.mono {S : σ → τ → Prop} (hrs : ∀ s t, R s t → S s t) {calls : List Invocation} {s : σ}
    {t : τ} (h : Agree R calls s t) : Agree S calls s t := by
  induction calls generalizing s t with
  | nil => exact hrs s t h
  | cons i calls ih => exact ⟨h.1.imp (hrs _ _) fun _ _ => id, ih h.2⟩

theorem agree_of_step {P : Invocation → Prop}
    (hstep : ∀ i, P i → ∀ s t, R s t → Matches R i.Alike (i.ask s) (i.ask t))
    {calls : List Invocation} (hcalls : ∀ i ∈ calls, P i) {s : σ} {t : τ} (h : R s t) :
    Agree R calls s t ∧ R (runAll calls s) (runAll calls t) := by
  induction calls generalizing s t with
  | nil => exact ⟨h, h⟩
  | cons i calls ih =>
    obtain ⟨hi, hcalls⟩ := List.forall_mem_cons.mp hcalls
    have hfirst := hstep i hi s t h
    obtain ⟨hagree, hend⟩ := ih hcalls hfirst.content
    rw [← snd_answer, ← snd_answer] at hend
    exact ⟨⟨hfirst, hagree⟩, hend⟩

end Invocation

end ParticipantRegistry
