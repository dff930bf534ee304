import ParticipantRegistry.Proofs.Registry.Dialogue
import ParticipantRegistry.Proofs.Registry.Table
import ParticipantRegistry.Relational.SessionRegistry

/-!
# Statements of a session

What a statement of a session answers depends on the tables that are there, and all that is left of one
that reads is that the transaction has begun. What is changed in a transaction is gone once it is
rolled back.
-/

namespace ParticipantRegistry

namespace Session

variable {α β ρ κ : Type} {s : Session}

/-- All that was asked of the database is done or undone. -/
structure Settled (s : Session) : Prop where
  pending : s.pending = []
  storage : s.storage.current = s.storage.committed

/-- A transaction has begun in which the database carries out statements. -/
structure Open (s : Session) : Prop where
  pending : s.pending = []
  transaction : s.transaction = .begun
  refusal : s.refusal = none

def isUsable (s : Session) : Bool := s.transaction = .idle || s.transaction = .begun

/-- What is left of a session after a statement that changes nothing. -/
def touched (s : Session) : Session :=
  if s.isUsable then
    if s.isCutOff then { s.reconnected with transaction := .lost } else s.begun
  else s

def found (place : Place ρ) (values : List Text) (s : Session) : Except Fault (List ρ) :=
  if s.isUsable then
    match s.refusal, place.rows s.storage.current with
    | some e, _ => .error (.database e)
    | none, none => .error (.database .missingTable)
    | none, some rows => if values.all Text.isUnicode then .ok rows else .error .notUnicode
  else if s.transaction = .prepared then .error (.database .commitPending)
  else .error (.database .rollbackPending)

theorem ensureConnected_eq (s : Session) :
    ensureConnected s =
      match s.refusal with
      | some e => (.error (.fault (.database e)),
          if s.isCutOff then { s.reconnected with transaction := .lost } else s)
      | none => (.ok (), s) := by
  obtain ⟨storage, pending, transaction, refusal, barrier, directoryIntegration, registrar⟩ := s
  cases refusal with
  | none => rfl
  | some e => cases e <;> rfl

theorem rowsOf_eq (place : Place ρ) (h : s.refusal = none) :
    rowsOf place s =
      match place.rows s.storage.current with
      | none => (.error (.fault (.database .missingTable)), s)
      | some rows => (.ok rows, s) := by
  have hconnected := ensureConnected_eq s
  have hget : (get : Call Session Session) s = (.ok s, s) := rfl
  rw [h] at hconnected
  rw [rowsOf, Call.bind_of_ok hconnected, Call.bind_of_ok hget]
  cases place.rows s.storage.current <;> rfl

theorem flush_eq (h : s.pending = []) : flush s = (.ok (), s) := by
  have hget : (get : Call Session Session) s = (.ok s, s) := rfl
  rw [flush, Call.bind_of_ok hget, if_neg (fun hn => hn h)]
  rfl

theorem bind_eq (values : List Text) (s : Session) :
    bind values s =
      if values.all Text.isUnicode then (.ok (), s) else (.error (.fault .notUnicode), s) := by
  rw [bind]
  cases values.all Text.isUnicode <;> rfl

theorem ensureUsable_eq (s : Session) :
    ensureUsable s =
      if s.isUsable then (.ok (), s)
      else if s.transaction = .prepared then (.error (.fault (.database .commitPending)), s)
      else (.error (.fault (.database .rollbackPending)), s) := by
  obtain ⟨storage, pending, transaction, refusal, barrier, directoryIntegration, registrar⟩ := s
  cases transaction <;> rfl

theorem touched_of_connected (h : s.refusal = none) : s.begun.touched = s.begun := by
  rw [touched, begun, isCutOff, h]
  rfl

theorem select_begun_eq (place : Place ρ) (values : List Text) (s : Session) :
    (rowsOf place >>= fun rows => bind values >>= fun _ => pure rows) s.begun =
      ((s.begun.found place values).mapError .fault, s.begun.touched) := by
  cases hr : s.refusal with
  | some e =>
    have hrows : rowsOf place s.begun = (.error (.fault (.database e)), s.begun.touched) := by
      have hconnected := ensureConnected_eq s.begun
      rw [show s.begun.refusal = some e from hr] at hconnected
      exact Call.bind_of_error hconnected
    rw [Call.bind_of_error hrows, found, show s.begun.refusal = some e from hr]
    rfl
  | none =>
    have hrows := rowsOf_eq place (s := s.begun) hr
    rw [touched_of_connected hr, found, show s.begun.refusal = none from hr]
    cases hp : place.rows s.begun.storage.current with
    | none =>
      rw [hp] at hrows
      exact Call.bind_of_error hrows
    | some rows =>
      rw [hp] at hrows
      rw [Call.bind_of_ok hrows]
      have hbind := bind_eq values s.begun
      cases hv : values.all Text.isUnicode with
      | true =>
        rw [hv] at hbind
        exact Call.bind_of_ok hbind
      | false =>
        rw [hv] at hbind
        exact Call.bind_of_error hbind

theorem begun_of_isUsable (h : s.isUsable = true) (place : Place ρ) (values : List Text) :
    s.begun.found place values = s.found place values ∧ s.begun.touched = s.touched := by
  rw [found, found, touched, touched, h]
  exact ⟨rfl, rfl⟩

theorem select_eq (place : Place ρ) (values : List Text) (h : s.pending = []) :
    select place values s = ((s.found place values).mapError .fault, s.touched) := by
  rw [select, Call.bind_of_ok (flush_eq h)]
  have husable := ensureUsable_eq s
  cases hu : s.isUsable with
  | true =>
    have hbegun : (modify begun : Call Session Unit) s = (.ok (), s.begun) := rfl
    obtain ⟨hfound, htouched⟩ := begun_of_isUsable hu place values
    rw [hu] at husable
    rw [Call.bind_of_ok husable, Call.bind_of_ok hbegun, select_begun_eq, hfound, htouched]
  | false =>
    rw [hu] at husable
    rw [found, touched, hu]
    by_cases hp : s.transaction = .prepared
    · simp only [hp, if_true, Bool.false_eq_true, if_false] at husable ⊢
      exact Call.bind_of_error husable
    · simp only [hp, Bool.false_eq_true, if_false] at husable ⊢
      exact Call.bind_of_error husable

theorem Settled.begun (h : s.Settled) : s.begun.Settled := ⟨h.pending, h.storage⟩

theorem Settled.touched (h : s.Settled) : s.touched.Settled := by
  rw [Session.touched]
  split
  · split
    · exact ⟨h.pending, h.storage⟩
    · exact h.begun
  · exact h

theorem Settled.rolledBack_eq (h : s.Settled) :
    s.rolledBack = { s.reconnected with transaction := .idle } := by
  have hstorage : s.storage.rollback = s.storage := by
    rw [Storage.rollback, ← h.storage]
    exact congrArg (Storage.mk s.storage.current) h.storage
  rw [Session.rolledBack, hstorage, ite_self, ← h.pending]
  rfl

theorem Settled.rolledBack (h : s.Settled) : s.rolledBack.Settled := by
  rw [h.rolledBack_eq]
  exact ⟨h.pending, h.storage⟩

theorem Settled.rolledBack_touched (h : s.Settled) : s.touched.rolledBack = s.rolledBack := by
  rw [h.touched.rolledBack_eq, h.rolledBack_eq, Session.touched]
  split
  · split
    · next hc => simp [reconnected, isCutOff]
    · rfl
  · rfl

theorem rolledBack_failed (s : Session) : s.failed.rolledBack = s.rolledBack := by
  obtain ⟨storage, pending, transaction, refusal, barrier, directoryIntegration, registrar⟩ := s
  cases refusal with
  | none => cases transaction <;> rfl
  | some e => cases e <;> cases transaction <;> rfl

theorem rolledBack_rolledBack (s : Session) : s.rolledBack.rolledBack = s.rolledBack := by
  obtain ⟨storage, pending, transaction, refusal, barrier, directoryIntegration, registrar⟩ := s
  cases refusal with
  | none => cases transaction <;> rfl
  | some e => cases e <;> cases transaction <;> rfl

theorem Settled.failed (h : s.Settled) : s.failed.Settled :=
  ⟨h.rolledBack.pending, h.rolledBack.storage⟩

theorem found_ok {place : Place ρ} {values : List Text} {rows : List ρ}
    (h : s.found place values = .ok rows) : s.isUsable = true ∧ s.refusal = none := by
  rw [found] at h
  split at h
  · next hu =>
    refine ⟨hu, ?_⟩
    split at h
    · cases h
    · cases h
    · assumption
  · split at h <;> cases h

theorem Settled.opens (h : s.Settled) (hu : s.isUsable = true) (hr : s.refusal = none) :
    s.touched = s.begun ∧ s.begun.Open := by
  rw [Session.touched, hu, isCutOff, hr]
  exact ⟨rfl, h.pending, rfl, hr⟩

theorem Open.rolledBack_eq (h : s.Open) :
    s.rolledBack = { s with storage := s.storage.rollback, transaction := .idle } := by
  rw [rolledBack, reconnected, isCutOff, h.transaction, h.refusal, ← h.pending]
  rfl

theorem Open.touched (h : s.Open) : s.touched = s := by
  rw [Session.touched, isUsable, isCutOff, h.transaction, h.refusal]
  change s.begun = s
  rw [begun, ← h.transaction]

/-- In an open transaction the call changes nothing, and it fails at most with a fault. -/
def Quiet (call : Call Session α) : Prop :=
  ∀ s : Session, s.Open → ∃ outcome : Except Fault α, call s = (outcome.mapError .fault, s)

/-- The call is a statement that changes nothing, and what it does with the answer. -/
def Looks (call : Call Session α) : Prop :=
  ∀ s : Session, s.Settled → ∃ outcome : Except Fault α,
    call s = (outcome.mapError .fault, s.touched) ∧
      ∀ a, outcome = .ok a → s.isUsable = true ∧ s.refusal = none

theorem quiet_pure (a : α) : Quiet (pure a) := fun _ _ => ⟨.ok a, rfl⟩

theorem quiet_fault (fault : Fault) : Quiet (throw (.fault fault) : Call Session α) :=
  fun _ _ => ⟨.error fault, rfl⟩

theorem looks_select (place : Place ρ) (values : List Text) : Looks (select place values) :=
  fun _ h => ⟨_, select_eq place values h.pending, fun _ => found_ok⟩

theorem Looks.bind {call : Call Session α} {next : α → Call Session β} (hc : Looks call)
    (hn : ∀ a, Quiet (next a)) : Looks (call >>= next) := by
  intro s h
  obtain ⟨outcome, hcall, hopen⟩ := hc s h
  cases outcome with
  | error fault => exact ⟨.error fault, Call.bind_of_error hcall, nofun⟩
  | ok a =>
    obtain ⟨hu, hr⟩ := hopen a rfl
    obtain ⟨htouched, hbegun⟩ := h.opens hu hr
    obtain ⟨outcome, hnext⟩ := hn a s.begun hbegun
    refine ⟨outcome, ?_, fun _ _ => ⟨hu, hr⟩⟩
    rw [Call.bind_of_ok hcall, htouched]
    exact hnext

theorem Quiet.bind {call : Call Session α} {next : α → Call Session β} (hc : Quiet call)
    (hn : ∀ a, Quiet (next a)) : Quiet (call >>= next) := by
  intro s h
  obtain ⟨outcome, hcall⟩ := hc s h
  cases outcome with
  | error fault => exact ⟨.error fault, Call.bind_of_error hcall⟩
  | ok a =>
    obtain ⟨outcome, hnext⟩ := hn a s h
    exact ⟨outcome, (Call.bind_of_ok hcall).trans hnext⟩

/-- How something that changes the database in an open transaction may end: in an open transaction with
some property; with an error of database or storage, so that a rollback undoes everything; or with the
transaction undone because a text has no encoded form. -/
inductive Alters (s : Session) (post : Session → Prop) : Except CallError α × Session → Prop
  | done {a : α} {s' : Session} (opened : s'.Open) (holds : post s') : Alters s post (.ok a, s')
  | refused {d : DatabaseError} {s' : Session} (undone : s'.rolledBack = s.rolledBack) :
      Alters s post (.error (.fault (.database d)), s')
  | rejected {e : StorageError} {s' : Session} (undone : s'.rolledBack = s.rolledBack) :
      Alters s post (.error (.storage e), s')
  | unencoded : Alters s post (.error (.fault .notUnicode), s.failed)

def Undoes (s s' : Session) : Prop := s'.rolledBack = s.rolledBack

theorem Alters.bind {call : Call Session α} {next : α → Call Session β} {post : Session → Prop}
    (hc : Alters s s.Undoes (call s))
    (hn : ∀ (a : α) (s' : Session), s'.Open → s.Undoes s' → Alters s' post (next a s')) :
    Alters s post ((call >>= next) s) := by
  cases hcall : call s with
  | mk outcome s₁ =>
    rw [hcall] at hc
    cases hc with
    | @done a _ opened holds =>
      rw [Call.bind_of_ok hcall]
      have hnext := hn a s₁ opened holds
      cases hresult : next a s₁ with
      | mk outcome s₂ =>
        rw [hresult] at hnext
        cases hnext with
        | done opened holds => exact .done opened holds
        | refused undone => exact .refused (undone.trans holds)
        | rejected undone => exact .rejected (undone.trans holds)
        | unencoded =>
          have hfailed : s₁.failed = s.failed := by rw [failed, failed, holds]
          rw [hfailed]
          exact .unencoded
    | refused undone =>
      rw [Call.bind_of_error hcall]
      exact .refused undone
    | rejected undone =>
      rw [Call.bind_of_error hcall]
      exact .rejected undone
    | unencoded =>
      rw [Call.bind_of_error hcall]
      exact .unencoded

theorem Alters.mono {post post' : Session → Prop} {result : Except CallError α × Session}
    (h : Alters s post result) (hp : ∀ s', post s' → post' s') : Alters s post' result := by
  cases h with
  | done opened holds => exact .done opened (hp _ holds)
  | refused undone => exact .refused undone
  | rejected undone => exact .rejected undone
  | unencoded => exact .unencoded

theorem Alters.andThen {call : Call Session α} {next : α → Call Session β}
    (hc : Alters s s.Undoes (call s))
    (hn : ∀ (a : α) (s' : Session), s'.Open → Alters s' s'.Undoes (next a s')) :
    Alters s s.Undoes ((call >>= next) s) :=
  hc.bind fun a s' ho hundone => (hn a s' ho).mono fun _ h => h.trans hundone

theorem Alters.map {call : Call Session α} {post : Session → Prop} (hc : Alters s post (call s))
    (f : α → β) : Alters s post ((call >>= fun a => pure (f a)) s) := by
  cases hresult : call s with
  | mk outcome s' =>
    rw [hresult] at hc
    cases hc with
    | done opened holds =>
      rw [Call.bind_of_ok hresult]
      exact .done opened holds
    | refused undone =>
      rw [Call.bind_of_error hresult]
      exact .refused undone
    | rejected undone =>
      rw [Call.bind_of_error hresult]
      exact .rejected undone
    | unencoded =>
      rw [Call.bind_of_error hresult]
      exact .unencoded

def written (place : Place ρ) (rows : List ρ) (s : Session) : Session :=
  { s with storage := { s.storage with current := place.put rows s.storage.current } }

theorem setRows_eq (place : Place ρ) (rows : List ρ) (s : Session) :
    setRows place rows s =
      match s.barrier with
      | some d => (.error (.fault (.database d)), s)
      | none => (.ok (), s.written place rows) := by
  obtain ⟨storage, pending, transaction, refusal, barrier, directoryIntegration, registrar⟩ := s
  cases barrier <;> rfl

theorem Open.written (h : s.Open) (place : Place ρ) (rows : List ρ) : (s.written place rows).Open :=
  ⟨h.pending, h.transaction, h.refusal⟩

theorem alters_setRows (place : Place ρ) (rows : List ρ) (h : s.Open) :
    Alters s s.Undoes (setRows place rows s) := by
  rw [setRows_eq]
  cases hb : s.barrier with
  | some d => exact .refused rfl
  | none =>
    refine .done (h.written place rows) ?_
    rw [Undoes, (h.written place rows).rolledBack_eq, h.rolledBack_eq]
    rfl

theorem alters_remove (place : Place ρ) (doomed : ρ → Bool) (h : s.Open) :
    Alters s s.Undoes (remove place doomed s) := by
  have hrows := rowsOf_eq place h.refusal
  rw [remove]
  cases hp : place.rows s.storage.current with
  | none =>
    rw [hp] at hrows
    rw [Call.bind_of_error hrows]
    exact .refused rfl
  | some rows =>
    rw [hp] at hrows
    rw [Call.bind_of_ok hrows]
    exact alters_setRows place _ h

/-- When changes cannot be sent, the transaction is undone at once. -/
theorem alters_sending {work : Call Session Unit} (h : s.Open)
    (hw : work s = (.error (.fault .notUnicode), s) ∨ Alters s s.Undoes (work s)) :
    Alters s s.Undoes (sending work s) := by
  have hbegun : s.begun = s := by rw [begun, ← h.transaction]
  rw [sending, hbegun]
  rcases hw with hw | hw
  · rw [hw]
    exact .unencoded
  · cases hresult : work s with
    | mk outcome s' =>
      rw [hresult] at hw
      cases hw with
      | done opened holds => exact .done opened holds
      | refused undone => exact .refused ((rolledBack_failed s').trans undone)
      | rejected undone => exact .rejected ((rolledBack_failed s').trans undone)
      | unencoded =>
        have hagain : s.failed.failed = s.failed := by rw [failed, rolledBack_failed, ← failed]
        change Alters s _ (.error (.fault .notUnicode), s.failed.failed)
        rw [hagain]
        exact .unencoded

theorem alters_store [Keyed ρ κ] [DecidableEq κ] (place : Place ρ) (row : ρ) (values : List Text)
    (h : s.Open) : Alters s s.Undoes (store place row values s) := by
  refine alters_sending h ?_
  have hrows := rowsOf_eq place h.refusal
  cases hp : place.rows s.storage.current with
  | none =>
    rw [hp] at hrows
    rw [Call.bind_of_error hrows]
    exact .inr (.refused rfl)
  | some rows =>
    rw [hp] at hrows
    rw [Call.bind_of_ok hrows]
    have hbind := bind_eq values s
    cases hv : values.all Text.isUnicode with
    | true =>
      rw [hv] at hbind
      rw [Call.bind_of_ok hbind]
      exact .inr (alters_setRows place _ h)
    | false =>
      rw [hv] at hbind
      exact .inl (Call.bind_of_error hbind)

theorem alters_storeOver [Keyed ρ κ] [DecidableEq κ] [DecidableEq ρ] (place : Place ρ)
    (stored? : Option ρ) (row : ρ) (values : List Text) (h : s.Open) :
    Alters s s.Undoes (storeOver place stored? row values s) := by
  rw [storeOver]
  split
  · exact alters_store place row values h
  · exact .done h rfl

theorem endpointOver_find? (endpoint : Endpoint) (rows : List Endpoint) :
    endpointOver endpoint (Table.find? (key endpoint) rows) = endpoint := by
  cases h : Table.find? (key endpoint) rows with
  | none => rfl
  | some stored =>
    have hkey := Table.key_of_find? h
    simp only [key, EndpointKey.mk.injEq] at hkey
    simp only [endpointOver, hkey]

theorem redirectOver_find? (redirect : Redirect) (rows : List Redirect) :
    redirectOver redirect (Table.find? (key redirect) rows) = redirect := by
  cases h : Table.find? (key redirect) rows with
  | none => rfl
  | some stored =>
    have hkey := Table.key_of_find? h
    simp only [key, RedirectKey.mk.injEq] at hkey
    simp only [redirectOver, hkey]

theorem announce_eq (participantId : Text) (registration : Registration) (s : Session) :
    announce participantId registration s =
      match s.registrar with
      | none => (.ok (), s)
      | some registrar =>
        if registrar.rejected.contains participantId then
          (.error (.storage (.registration participantId)), s)
        else
          (.ok (), { s with
            registrar := some { registrar with done := registrar.done ++ [registration] } }) := by
  obtain ⟨storage, pending, transaction, refusal, barrier, directoryIntegration, registrar⟩ := s
  cases registrar with
  | none => rfl
  | some registrar =>
    change (if registrar.rejected.contains participantId then
      (throw (.storage (.registration participantId)) >>= _ : Call Session Unit) else _) _ = _
    cases hc : registrar.rejected.contains participantId <;> simp only [hc] <;> rfl

theorem alters_announce (participantId : Text) (registration : Registration) (h : s.Open) :
    Alters s (fun _ => True) (announce participantId registration s) := by
  rw [announce_eq]
  split
  · exact .done h trivial
  · split
    · exact .rejected rfl
    · exact .done ⟨h.pending, h.transaction, h.refusal⟩ trivial

/-- How the work of a transaction may end: it fails before anything is changed, or as changes do. -/
inductive Works (s : Session) : Except CallError α × Session → Prop
  | faulted {fault : Fault} : Works s (.error (.fault fault), s.touched)
  | altered {result : Except CallError α × Session} (h : Alters s (fun _ => True) result) :
      Works s result

/-- How a call that is one transaction may end: the changes are made for good; the session is rolled
back after an error of storage; or, after a fault that is none of the database, it is left as it is
after a statement that changes nothing, or refuses what comes because a text has no encoded form. -/
inductive Concluded (s : Session) : Except CallError α × Session → Prop
  | made {a : α} {s' : Session} (settled : s'.Settled) : Concluded s (.ok a, s')
  | rejected {e : StorageError} : Concluded s (.error (.storage e), s.rolledBack)
  | faulted {fault : Fault} (h : ∀ d, fault ≠ .database d) :
      Concluded s (.error (.fault fault), s.touched)
  | unencoded : Concluded s (.error (.fault .notUnicode), s.failed)

theorem Looks.works {call : Call Session α} {next : α → Call Session β} (hc : Looks call)
    (hs : s.Settled)
    (hn : ∀ a, s.begun.Settled → s.begun.Open → Works s.begun (next a s.begun)) :
    Works s ((call >>= next) s) := by
  obtain ⟨outcome, hcall, hopen⟩ := hc s hs
  cases outcome with
  | error fault =>
    rw [Call.bind_of_error hcall]
    exact .faulted
  | ok a =>
    obtain ⟨hu, hr⟩ := hopen a rfl
    obtain ⟨htouched, hbegun⟩ := hs.opens hu hr
    have hundo : s.begun.rolledBack = s.rolledBack := htouched ▸ hs.rolledBack_touched
    have hnext := hn a hs.begun hbegun
    rw [Call.bind_of_ok hcall, htouched]
    cases hresult : next a s.begun with
    | mk outcome s' =>
      rw [hresult] at hnext
      cases hnext with
      | faulted =>
        rw [hbegun.touched, ← htouched]
        exact .faulted
      | altered h =>
        cases h with
        | done opened holds => exact .altered (.done opened holds)
        | refused undone => exact .altered (.refused (undone.trans hundo))
        | rejected undone => exact .altered (.rejected (undone.trans hundo))
        | unencoded =>
          rw [failed, hundo]
          exact .altered .unencoded

theorem Open.commit_eq (h : s.Open) : commit s = (.ok (), s.committed) := by
  obtain ⟨storage, pending, transaction, refusal, barrier, directoryIntegration, registrar⟩ := s
  obtain ⟨rfl, rfl, rfl⟩ := h
  rfl

theorem Open.settled_committed (h : s.Open) : s.committed.Settled := by
  refine ⟨h.pending, ?_⟩
  rw [committed, h.transaction]
  rfl

theorem atomic_of_ok (action : Text) {work : Call Session α} {a : α} {s' : Session}
    (h : work s = (.ok a, s')) (ho : s'.Open) : atomic action work s = (.ok a, s'.committed) := by
  have hwhole : (work >>= fun a => commit >>= fun _ => pure a : Call Session α) s =
      (.ok a, s'.committed) := by
    rw [Call.bind_of_ok h]
    exact Call.bind_of_ok ho.commit_eq
  rw [atomic]
  simp only [hwhole]

theorem atomic_of_error (action : Text) {work : Call Session α} {e : CallError} {s' : Session}
    (h : work s = (.error e, s')) :
    atomic action work s =
      match e with
      | .storage e => (.error (.storage e), s'.rolledBack)
      | .fault (.database d) => (.error (.storage (.statement action d)), s'.rolledBack)
      | e => (.error e, s') := by
  have hwhole : (work >>= fun a => commit >>= fun _ => pure a : Call Session α) s =
      (.error e, s') := Call.bind_of_error h
  rw [atomic]
  simp only [hwhole]
  cases e with
  | storage e => rfl
  | fault fault => cases fault <;> rfl

theorem atomic_concluded (action : Text) {work : Call Session α} (hs : s.Settled)
    (hw : Works s (work s)) : Concluded s (atomic action work s) := by
  cases hresult : work s with
  | mk outcome s' =>
    rw [hresult] at hw
    cases hw with
    | @faulted fault =>
      rw [atomic_of_error action hresult]
      cases fault with
      | database d =>
        simp only [hs.rolledBack_touched]
        exact .rejected
      | _ => exact .faulted nofun
    | altered h =>
      cases h with
      | done opened holds =>
        rw [atomic_of_ok action hresult opened]
        exact .made opened.settled_committed
      | refused undone =>
        rw [atomic_of_error action hresult]
        simp only [undone]
        exact .rejected
      | rejected undone =>
        rw [atomic_of_error action hresult]
        simp only [undone]
        exact .rejected
      | unencoded =>
        rw [atomic_of_error action hresult]
        exact .unencoded

end Session
end ParticipantRegistry
