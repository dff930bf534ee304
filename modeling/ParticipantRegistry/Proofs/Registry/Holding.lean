import ParticipantRegistry.Proofs.Registry.Dialogue
import ParticipantRegistry.Proofs.Registry.Table
import ParticipantRegistry.Registry.Keyed

/-!
# Holdings

What a store holds of one participant is the participant's holding. A mutation is answered from the
holding of its own participant and what is told to go wrong for it, and it changes no other holding.
So a dialogue with a store falls apart into what it says about each participant.
-/

namespace ParticipantRegistry

/-- All that is stored of one participant. -/
structure Holding where
  group : Option ServiceGroup := none
  endpoints : List Endpoint := []
  redirects : List Redirect := []
  card : Option BusinessCard := none
  deriving DecidableEq

/-- What is told to go wrong for one participant. -/
structure Hindrance where
  failing : Operation → Bool
  unchanging : Operation → Bool

def Hindrance.Clear (hindrance : Hindrance) : Prop :=
  ∀ mutation : Mutation, hindrance.failing mutation.operation = false ∧
    hindrance.unchanging mutation.operation = false

namespace Mutation

def check : Mutation → Except BlankField Unit
  | .createGroup group _ => group.check
  | .upsertBusinessCard card => card.check
  | _ => .ok ()

def answer (mutation : Mutation) (hindrance : Hindrance) (h : Holding) : Reply :=
  if hindrance.failing mutation.operation then
    .error (.failed mutation.operation mutation.participantId)
  else
    match mutation with
    | .createGroup group _ =>
      if h.group.isSome then .error (.present group.participantId) else .ok true
    | .deleteBusinessCard _ => .ok (!hindrance.unchanging .deleteBusinessCard && h.card.isSome)
    | mutation => .ok (!hindrance.unchanging mutation.operation && h.group.isSome)

theorem answer_isChange (hindrance : Hindrance) (mutation : Mutation) (h : Holding) :
    (mutation.answer hindrance h).isChange = (!hindrance.failing mutation.operation &&
      match mutation with
      | .createGroup .. => h.group.isNone
      | .deleteBusinessCard _ =>
        !hindrance.unchanging mutation.operation && h.card.isSome
      | _ => !hindrance.unchanging mutation.operation && h.group.isSome) := by
  unfold answer
  cases hindrance.failing mutation.operation with
  | true => rfl
  | false =>
    cases mutation with
    | createGroup group register => cases h.group <;> rfl
    | _ => rfl

theorem answer_createGroup (hindrance : Hindrance) (group : ServiceGroup) (register : Bool)
    (h : Holding) :
    ((Mutation.createGroup group register).answer hindrance h).isRefusal =
      !((Mutation.createGroup group register).answer hindrance h).isChange := by
  cases hf : hindrance.failing .createGroup <;> cases hg : h.group <;>
    simp [answer, operation, Reply.isChange, Reply.isRefusal, hf, hg]

def effect : Mutation → Holding → Holding
  | .deleteGroup .., _ => {}
  | .createGroup group _, h => { h with group := some group }
  | .mergeEndpoint endpoint, h => { h with endpoints := Table.put endpoint h.endpoints }
  | .upsertRedirect redirect, h => { h with redirects := Table.put redirect h.redirects }
  | .deleteBusinessCard _, h => { h with card := none }
  | .upsertBusinessCard card, h => { h with card := some card }

def carryOut : Mutation → Store → Store
  | .deleteGroup participantId _, s => s.withoutGroup participantId
  | .createGroup group _, s => { s with groups := Table.put group s.groups }
  | .mergeEndpoint endpoint, s => { s with endpoints := Table.put endpoint s.endpoints }
  | .upsertRedirect redirect, s => { s with redirects := Table.put redirect s.redirects }
  | .deleteBusinessCard card, s =>
    { s with businessCards := Table.erase card.participantId s.businessCards }
  | .upsertBusinessCard card, s => { s with businessCards := Table.put card s.businessCards }

end Mutation

namespace Store

def holding (participantId : Text) (s : Store) : Holding where
  group := Table.find? participantId s.groups
  endpoints := s.endpoints.filter (·.participantId = participantId)
  redirects := s.redirects.filter (·.participantId = participantId)
  card := Table.find? participantId s.businessCards

def hindrance (participantId : Text) (s : Store) : Hindrance where
  failing operation := s.failing.contains ⟨operation, participantId⟩
  unchanging operation := s.unchanging.contains ⟨operation, participantId⟩

/-- The store without what it holds of participants. -/
def bare (s : Store) : Store :=
  { s with groups := [], endpoints := [], redirects := [], businessCards := [] }

theorem hindrance_of_bare {s s' : Store} (h : s'.bare = s.bare) (participantId : Text) :
    s'.hindrance participantId = s.hindrance participantId := by
  change s'.bare.hindrance participantId = s.bare.hindrance participantId
  rw [h]

theorem frame_of_bare {s s' : Store} (h : s'.bare = s.bare) :
    s'.users = s.users ∧ s'.directoryIntegration = s.directoryIntegration := by
  have husers := congrArg users h
  have hdirectory := congrArg Store.directoryIntegration h
  exact ⟨husers, hdirectory⟩

theorem hasGroup_eq (participantId : Text) (s : Store) :
    s.hasGroup participantId = (s.holding participantId).group.isSome :=
  Table.hasKey_eq_isSome _ _

theorem find?_endpoints (k : EndpointKey) (s : Store) :
    Table.find? k s.endpoints = Table.find? k (s.holding k.participantId).endpoints :=
  (Table.find?_filter (fun j : EndpointKey => decide (j.participantId = k.participantId))
    (decide_eq_true rfl) s.endpoints).symm

theorem find?_redirects (k : RedirectKey) (s : Store) :
    Table.find? k s.redirects = Table.find? k (s.holding k.participantId).redirects :=
  (Table.find?_filter (fun j : RedirectKey => decide (j.participantId = k.participantId))
    (decide_eq_true rfl) s.redirects).symm

theorem tryOut_bind {α : Type} (operation : Operation) (participantId : Text) (s : Store)
    (next : Bool → Call Store α) :
    (tryOut operation participantId >>= next) s =
      if (s.hindrance participantId).failing operation then
        (.error (.storage (.failed operation participantId)), s)
      else next (!(s.hindrance participantId).unchanging operation) s := by
  have hget : (get : Call Store Store) s = (.ok s, s) := rfl
  have ht : tryOut operation participantId s =
      if (s.hindrance participantId).failing operation then
        (.error (.storage (.failed operation participantId)), s)
      else (.ok (!(s.hindrance participantId).unchanging operation), s) := by
    rw [tryOut, Call.bind_of_ok hget]
    change _ = if s.failing.contains ⟨operation, participantId⟩ = true then _ else _
    cases s.failing.contains ⟨operation, participantId⟩ <;> rfl
  cases hf : (s.hindrance participantId).failing operation with
  | true =>
    rw [hf] at ht
    exact Call.bind_of_error ht
  | false =>
    rw [hf] at ht
    exact Call.bind_of_ok ht

theorem guarded_eq {α : Type} (operation : Operation) (participantId : Text) (unchanged : α)
    (act : Call Store α) (s : Store) :
    (do
      if !(← tryOut operation participantId) then return unchanged
      if !(← get).hasGroup participantId then return unchanged
      act : Call Store α) s =
      if (s.hindrance participantId).failing operation then
        (.error (.storage (.failed operation participantId)), s)
      else if !(s.hindrance participantId).unchanging operation && s.hasGroup participantId then act s
      else (.ok unchanged, s) := by
  rw [tryOut_bind]
  congr 1
  cases (s.hindrance participantId).unchanging operation with
  | true => rfl
  | false =>
    change (if (!s.hasGroup participantId) = true then (pure unchanged : Call Store α) else act) s = _
    cases s.hasGroup participantId <;> rfl

theorem createGroup_eq (group : ServiceGroup) (s : Store) (hc : group.check = .ok ()) :
    createGroup group s =
      if (s.hindrance group.participantId).failing .createGroup then
        (.error (.storage (.failed .createGroup group.participantId)), s)
      else if s.hasGroup group.participantId then
        (.error (.storage (.present group.participantId)), s)
      else (.ok group, { s with groups := Table.put group s.groups }) := by
  rw [createGroup, tryOut_bind]
  congr 1
  simp only [hc]
  change (if s.hasGroup group.participantId = true then
    (throw (.storage (.present group.participantId)) >>= _ : Call Store ServiceGroup) else _) s = _
  cases s.hasGroup group.participantId <;> rfl

theorem createGroup_blank {group : ServiceGroup} {field : BlankField}
    (hc : group.check = .error field) (s : Store) :
    createGroup group s =
      if (s.hindrance group.participantId).failing .createGroup then
        (.error (.storage (.failed .createGroup group.participantId)), s)
      else if s.hasGroup group.participantId then
        (.error (.storage (.present group.participantId)), s)
      else (.error (.fault (.blank field)), s) := by
  rw [createGroup, tryOut_bind]
  congr 1
  simp only [hc]
  change (if s.hasGroup group.participantId = true then
    (throw (.storage (.present group.participantId)) >>= _ : Call Store ServiceGroup) else _) s = _
  cases s.hasGroup group.participantId <;> rfl

theorem upsertBusinessCard_eq (card : BusinessCard) (s : Store) (hc : card.check = .ok ()) :
    upsertBusinessCard card s =
      if (s.hindrance card.participantId).failing .upsertBusinessCard then
        (.error (.storage (.failed .upsertBusinessCard card.participantId)), s)
      else if !(s.hindrance card.participantId).unchanging .upsertBusinessCard &&
          s.hasGroup card.participantId then
        (.ok (some card), { s with businessCards := Table.put card s.businessCards })
      else (.ok none, s) := by
  have h : upsertBusinessCard card s = _ :=
    guarded_eq .upsertBusinessCard card.participantId none _ s
  simp only [hc] at h
  exact h

theorem upsertBusinessCard_blank {card : BusinessCard} {field : BlankField}
    (hc : card.check = .error field) (s : Store) :
    upsertBusinessCard card s =
      if (s.hindrance card.participantId).failing .upsertBusinessCard then
        (.error (.storage (.failed .upsertBusinessCard card.participantId)), s)
      else if !(s.hindrance card.participantId).unchanging .upsertBusinessCard &&
          s.hasGroup card.participantId then
        (.error (.fault (.blank field)), s)
      else (.ok none, s) := by
  have h : upsertBusinessCard card s = _ :=
    guarded_eq .upsertBusinessCard card.participantId none _ s
  simp only [hc] at h
  exact h

private theorem deleteBusinessCard_eq (card : BusinessCard) (s : Store) :
    deleteBusinessCard card s =
      if (s.hindrance card.participantId).failing .deleteBusinessCard then
        (.error (.storage (.failed .deleteBusinessCard card.participantId)), s)
      else if !(s.hindrance card.participantId).unchanging .deleteBusinessCard &&
          (s.holding card.participantId).card.isSome then
        (.ok true, { s with businessCards := Table.erase card.participantId s.businessCards })
      else (.ok false, s) := by
  rw [deleteBusinessCard, tryOut_bind, holding, ← Table.hasKey_eq_isSome]
  congr 1
  cases (s.hindrance card.participantId).unchanging .deleteBusinessCard with
  | true => rfl
  | false =>
    change ((.ok (Table.hasKey card.participantId s.businessCards) : Except CallError Bool),
      { s with businessCards := Table.erase card.participantId s.businessCards }) = _
    cases hk : Table.hasKey card.participantId s.businessCards with
    | true => rfl
    | false =>
      rw [Table.erase_of_not_mem]
      · rfl
      · rw [← Table.hasKey_iff, hk]
        exact Bool.false_ne_true

private theorem reply_of_guarded (failing opened : Bool) (e : StorageError) (s s' : Store) :
    (if failing then (.error (.storage e), s) else if opened then (.ok true, s') else (.ok false, s) :
      Except CallError Bool × Store) =
      let reply : Reply := if failing then .error e else .ok opened
      (reply.mapError .storage, if reply.isChange then s' else s) := by
  cases failing <;> cases opened <;> rfl

private theorem isSome_of_guarded {α : Type} {call : Call Store (Option α)} {failing opened : Bool}
    {e : StorageError} {a : α} {s s' : Store}
    (h : call s = if failing then (.error (.storage e), s) else if opened then (.ok (some a), s')
      else (.ok none, s)) :
    (call >>= fun a => pure a.isSome) s =
      if failing then (.error (.storage e), s) else if opened then (.ok true, s')
      else (.ok false, s) := by
  cases failing
  · cases opened
    · exact Call.bind_of_ok h
    · exact Call.bind_of_ok h
  · exact Call.bind_of_error h

private theorem reply_of_created {α : Type} {call : Call Store α} {failing present : Bool}
    {e e' : StorageError} {a : α} {s s' : Store}
    (h : call s = if failing then (.error (.storage e), s) else if present then
      (.error (.storage e'), s) else (.ok a, s')) :
    (call >>= fun _ => pure true) s =
      let reply : Reply := if failing then .error e else if present then .error e' else .ok true
      (reply.mapError .storage, if reply.isChange then s' else s) := by
  cases failing
  · cases present
    · exact Call.bind_of_ok h
    · exact Call.bind_of_error h
  · exact Call.bind_of_error h

/-- A store answers from the holding of the participant, and only a change touches it. -/
theorem perform_eq (mutation : Mutation) (s : Store) (hc : mutation.check = .ok ()) :
    let reply := mutation.answer (s.hindrance mutation.participantId)
      (s.holding mutation.participantId)
    mutation.perform s =
      (reply.mapError .storage, if reply.isChange then mutation.carryOut s else s) := by
  cases mutation with
  | deleteGroup participantId deprovision =>
    have h : deleteGroup participantId s = _ := guarded_eq .deleteGroup participantId false _ s
    rw [hasGroup_eq] at h
    exact h.trans (reply_of_guarded _ _ _ _ _)
  | createGroup group register =>
    have h := createGroup_eq group s hc
    rw [hasGroup_eq] at h
    exact reply_of_created h
  | mergeEndpoint endpoint =>
    have h : mergeEndpoint endpoint s = _ :=
      guarded_eq .mergeEndpoint endpoint.participantId false _ s
    rw [hasGroup_eq] at h
    exact h.trans (reply_of_guarded _ _ _ _ _)
  | upsertRedirect redirect =>
    have h : upsertRedirect redirect s = _ :=
      guarded_eq .upsertRedirect redirect.participantId none _ s
    rw [hasGroup_eq] at h
    exact (isSome_of_guarded h).trans (reply_of_guarded _ _ _ _ _)
  | deleteBusinessCard card =>
    exact (deleteBusinessCard_eq card s).trans (reply_of_guarded _ _ _ _ _)
  | upsertBusinessCard card =>
    have h := upsertBusinessCard_eq card s hc
    rw [hasGroup_eq] at h
    exact (isSome_of_guarded h).trans (reply_of_guarded _ _ _ _ _)

theorem contained_of_check {mutation : Mutation} (hc : mutation.check = .ok ()) :
    mutation.Contained Store :=
  fun s => ⟨_, _, perform_eq mutation s hc⟩

theorem carryOut_bare (mutation : Mutation) (s : Store) : (mutation.carryOut s).bare = s.bare := by
  cases mutation <;> rfl

private theorem filter_filter_ne {α : Type} (f : α → Text) (k participantId : Text)
    (rows : List α) :
    (rows.filter fun row => f row ≠ k).filter (fun row => f row = participantId) =
      if k = participantId then [] else rows.filter fun row => f row = participantId := by
  rw [List.filter_filter]
  by_cases hk : k = participantId
  · rw [if_pos hk, List.filter_eq_nil_iff]
    intro row _
    simp [hk]
  · rw [if_neg hk]
    apply List.filter_congr
    intro row _
    by_cases hr : f row = participantId
    · simp [hr, Ne.symm hk]
    · simp [hr]

/-- A mutation has its effect on the holding of its own participant and on no other. -/
theorem carryOut_holding (mutation : Mutation) (s : Store) (participantId : Text) :
    (mutation.carryOut s).holding participantId =
      if mutation.participantId = participantId then mutation.effect (s.holding participantId)
      else s.holding participantId := by
  cases mutation with
  | deleteGroup k deprovision =>
    have he := filter_filter_ne Endpoint.participantId k participantId s.endpoints
    have hr := filter_filter_ne Redirect.participantId k participantId s.redirects
    simp only [Mutation.carryOut, withoutGroup, holding, Table.find?_erase, he, hr,
      Mutation.participantId, Mutation.effect]
    by_cases hk : k = participantId <;> simp [hk]
  | createGroup group register =>
    simp only [Mutation.carryOut, holding, Table.find?_put, Mutation.participantId, Mutation.effect]
    by_cases hk : group.participantId = participantId <;> simp [key, hk]
  | mergeEndpoint endpoint =>
    have he := Table.filter_put (fun k : EndpointKey => decide (k.participantId = participantId))
      endpoint s.endpoints
    simp only [key] at he
    simp only [Mutation.carryOut, holding, he, Mutation.participantId, Mutation.effect]
    by_cases hk : endpoint.participantId = participantId <;> simp [hk]
  | upsertRedirect redirect =>
    have hr := Table.filter_put (fun k : RedirectKey => decide (k.participantId = participantId))
      redirect s.redirects
    simp only [key] at hr
    simp only [Mutation.carryOut, holding, hr, Mutation.participantId, Mutation.effect]
    by_cases hk : redirect.participantId = participantId <;> simp [hk]
  | deleteBusinessCard card =>
    simp only [Mutation.carryOut, holding, Table.find?_erase, Mutation.participantId,
      Mutation.effect]
    by_cases hk : card.participantId = participantId <;> simp [hk]
  | upsertBusinessCard card =>
    simp only [Mutation.carryOut, holding, Table.find?_put, Mutation.participantId, Mutation.effect]
    by_cases hk : card.participantId = participantId <;> simp [key, hk]

end Store

def Turn.applied (turn : Turn) (h : Holding) : Holding :=
  if turn.isChange then turn.mutation.effect h else h

def Holding.after (turns : List Turn) (h : Holding) : Holding :=
  turns.foldl (fun h t => t.applied h) h

namespace Holding

theorem after_append (turns more : List Turn) (h : Holding) :
    h.after (turns ++ more) = (h.after turns).after more := List.foldl_append

theorem after_of_changes {turns : List Turn} (hchange : ∀ t ∈ turns, t.isChange = true)
    (h : Holding) :
    h.after turns = (turns.map Turn.toRequest).foldl (fun h r => r.mutation.effect h) h := by
  induction turns generalizing h with
  | nil => rfl
  | cons t turns ih =>
    obtain ⟨ht, hturns⟩ := List.forall_mem_cons.mp hchange
    rw [after, List.foldl_cons, ← after, ih hturns, Turn.applied, if_pos ht]
    rfl

end Holding

/-- A dialogue about one participant, told by its holding alone. -/
inductive Holding.Dialogue (hindrance : Hindrance) : Holding → List Turn → Holding → Prop
  | nil (h : Holding) : Dialogue hindrance h [] h
  | cons {h h' : Holding} {turn : Turn} {turns : List Turn}
      (first : turn.reply = turn.mutation.answer hindrance h)
      (rest : Dialogue hindrance (turn.applied h) turns h') :
      Dialogue hindrance h (turn :: turns) h'

namespace Holding.Dialogue

variable {hindrance : Hindrance} {h h' : Holding} {turns : List Turn}

theorem of_nil (hd : Holding.Dialogue hindrance h [] h') : h' = h := by
  cases hd
  rfl

theorem of_append {more : List Turn} (hd : Holding.Dialogue hindrance h (turns ++ more) h') :
    ∃ h₁, Holding.Dialogue hindrance h turns h₁ ∧ Holding.Dialogue hindrance h₁ more h' := by
  induction turns generalizing h with
  | nil => exact ⟨h, .nil h, hd⟩
  | cons turn turns ih =>
    cases hd with
    | cons first rest =>
      obtain ⟨h₁, hturns, hmore⟩ := ih rest
      exact ⟨h₁, .cons first hturns, hmore⟩

theorem of_option {ι : Type} {item : Option ι} {request : ι → Request}
    (hd : Holding.Dialogue hindrance h turns h')
    (hr : turns.map Turn.toRequest = item.toList.map request) :
    turns = item.toList.map (fun i => ⟨request i, (request i).mutation.answer hindrance h⟩) ∧
      h' = turns.foldl (fun h t => t.applied h) h := by
  cases item with
  | none =>
    obtain rfl := List.map_eq_nil_iff.mp hr
    cases hd
    exact ⟨rfl, rfl⟩
  | some i =>
    obtain ⟨t, ht, hrequest⟩ := List.map_eq_singleton_iff.mp hr
    subst ht
    cases hd with
    | cons first rest =>
      cases rest
      obtain ⟨request', reply⟩ := t
      cases hrequest
      have hreply : reply = (request i).mutation.answer hindrance h := first
      subst hreply
      exact ⟨rfl, rfl⟩

theorem eq_after (hd : Holding.Dialogue hindrance h turns h') : h' = h.after turns := by
  induction hd with
  | nil h => rfl
  | cons first rest ih => exact ih

theorem of_changes (hd : Holding.Dialogue hindrance h turns h')
    (hchange : ∀ t ∈ turns, t.isChange = true) :
    h' = (turns.map Turn.toRequest).foldl (fun h r => r.mutation.effect h) h :=
  hd.eq_after.trans (after_of_changes hchange h)

end Holding.Dialogue

/-- A dialogue with a store is, for each participant, what it says about the participant. -/
theorem Store.dialogue_holding {s s' : Store} {turns : List Turn} (hd : Dialogue s turns s')
    (hc : ∀ t ∈ turns, t.mutation.check = .ok ()) :
    s'.bare = s.bare ∧ ∀ participantId, Holding.Dialogue (s.hindrance participantId)
      (s.holding participantId) (turns.filter fun t => t.mutation.participantId = participantId)
      (s'.holding participantId) := by
  induction hd with
  | nil s => exact ⟨rfl, fun _ => .nil _⟩
  | @cons s t s' turn turns first rest ih =>
    obtain ⟨hbare, hrest⟩ := ih fun t ht => hc t (by simp [ht])
    rw [perform_eq turn.mutation s (hc turn (by simp))] at first
    obtain ⟨hreply, ht⟩ := Prod.mk.inj first
    have hr := (Reply.eq_of_mapError hreply).symm
    rw [← hr] at ht
    have ht' : t.bare = s.bare := by
      rw [← ht]
      split
      · exact carryOut_bare _ _
      · rfl
    refine ⟨hbare.trans ht', fun participantId => ?_⟩
    have hnext := hrest participantId
    rw [hindrance_of_bare ht'] at hnext
    have happly : t.holding participantId =
        if turn.mutation.participantId = participantId then turn.applied (s.holding participantId)
        else s.holding participantId := by
      rw [← ht, Turn.applied, Turn.isChange]
      cases turn.reply.isChange
      · simp
      · simp [carryOut_holding]
    by_cases hk : turn.mutation.participantId = participantId
    · rw [happly, if_pos hk] at hnext
      rw [List.filter_cons, if_pos (decide_eq_true hk)]
      exact .cons (hk ▸ hr) hnext
    · rw [happly, if_neg hk] at hnext
      rw [List.filter_cons, if_neg (by simpa using hk)]
      exact hnext

end ParticipantRegistry
