import Mathlib.Control.Monad.Basic
import ParticipantRegistry.Proofs.Exchange.Containment
import ParticipantRegistry.Proofs.Relational.Statements
import ParticipantRegistry.Registry.Invocation

/-!
# Which errors a session tells

A call that changes the registry turns an error of the database into a storage error and takes
everything back. A call that only reads does not: there the error of the database goes on to whoever
asked. Neither does one that finds a text without an encoded form, or a stored card that cannot be
read.
-/

namespace ParticipantRegistry

namespace Session

variable {α β ρ κ : Type} {s : Session}

theorem looks_selectKey [Keyed ρ κ] [DecidableEq κ] (place : Place ρ) (k : κ) (values : List Text) :
    Looks (selectKey place k values) :=
  (looks_select place values).bind fun _ => quiet_pure _

theorem looks_lookupUser (id : Text) : Looks (lookupUser id) := looks_selectKey _ _ _

theorem looks_findGroup (participantId : Text) : Looks (findGroup participantId) :=
  looks_selectKey _ _ _

theorem quiet_cardOf (row : CardRow) : Quiet (cardOf row) := by
  rw [cardOf]
  cases StoredEntities.decode row.entities with
  | ok entities => exact quiet_pure _
  | error e => exact quiet_fault _

theorem looks_findCard (participantId : Text) : Looks (findCard participantId) :=
  (looks_selectKey _ _ _).bind fun row? => by
    cases row? with
    | none => exact quiet_pure none
    | some row => exact (quiet_cardOf row).bind fun _ => quiet_pure _

theorem works_pure (a : α) (h : s.Open) : Works s ((pure a : Call Session α) s) :=
  .altered (.done h trivial)

theorem works_fault (fault : Fault) (h : s.Open) :
    Works s ((throw (.fault fault) : Call Session α) s) := by
  have hworks : Works s ((.error (.fault fault), s.touched) : Except CallError α × Session) :=
    .faulted
  rwa [h.touched] at hworks

theorem Alters.works_map {call : Call Session α} (h : Alters s s.Undoes (call s)) (f : α → β) :
    Works s ((call >>= fun a => pure (f a)) s) := by
  refine .altered (h.bind fun a s' ho _ => ?_)
  exact .done ho trivial

theorem alters_announcing (told : Bool) (participantId : Text) (registration : Registration) (a : α)
    (h : s.Open) :
    Alters s (fun _ => True)
      ((do
        if told then announce participantId registration
        return a : Call Session α) s) := by
  cases told with
  | true => exact (alters_announce participantId registration h).map fun _ => a
  | false => exact .done h trivial

theorem alters_removeGroup (participantId : Text) (h : s.Open) :
    Alters s s.Undoes (removeGroup participantId s) :=
  (alters_remove _ _ h).andThen fun _ _ h => (alters_remove _ _ h).andThen fun _ _ h =>
    (alters_remove _ _ h).andThen fun _ _ h => alters_remove _ _ h

theorem concluded_deleteGroup (participantId : Text) (deprovision : Bool) (hs : s.Settled) :
    Concluded s (deleteGroup participantId deprovision s) := by
  refine atomic_concluded _ hs ((looks_findGroup participantId).works hs fun group? _ ho => ?_)
  cases group? with
  | none => exact works_pure false ho
  | some group =>
    exact .altered ((alters_removeGroup participantId ho).bind fun _ s' ho _ =>
      alters_announcing deprovision participantId _ true ho)

theorem concluded_createGroup (group : ServiceGroup) (register : Bool) (hs : s.Settled) :
    Concluded s (createGroup group register s) := by
  refine atomic_concluded _ hs ((looks_lookupUser group.ownerId).works hs fun owner? hs ho => ?_)
  cases owner? with
  | none => exact .altered (.rejected rfl)
  | some owner =>
    refine (looks_findGroup group.participantId).works hs fun group? hs ho => ?_
    cases group? with
    | some stored => exact .altered (.rejected rfl)
    | none =>
      cases group.check with
      | error field => exact works_fault (.blank field) ho
      | ok => exact .altered ((alters_store _ _ _ ho).bind fun _ _ ho _ =>
          alters_announcing register group.participantId _ group ho)

theorem concluded_mergeEndpoint (endpoint : Endpoint) (hs : s.Settled) :
    Concluded s (mergeEndpoint endpoint s) := by
  refine atomic_concluded _ hs ((looks_findGroup _).works hs fun group? hs ho => ?_)
  cases group? with
  | none => exact works_pure false ho
  | some group =>
    exact (looks_selectKey _ _ _).works hs fun _ _ ho =>
      Alters.works_map (alters_storeOver _ _ _ _ ho) fun _ => true

theorem concluded_upsertRedirect (redirect : Redirect) (hs : s.Settled) :
    Concluded s (upsertRedirect redirect s) := by
  refine atomic_concluded _ hs ((looks_findGroup _).works hs fun group? hs ho => ?_)
  cases group? with
  | none => exact works_pure none ho
  | some group =>
    exact (looks_selectKey _ _ _).works hs fun stored? _ ho =>
      Alters.works_map (alters_storeOver _ _ _ _ ho) fun _ => some (redirectOver redirect stored?)

theorem concluded_deleteBusinessCard (card : BusinessCard) (hs : s.Settled) :
    Concluded s (deleteBusinessCard card s) := by
  refine atomic_concluded _ hs ((looks_findCard card.participantId).works hs fun card? _ ho => ?_)
  cases card? with
  | none => exact works_pure false ho
  | some stored => exact Alters.works_map (alters_remove _ _ ho) fun _ => true

theorem concluded_upsertBusinessCard (card : BusinessCard) (hs : s.Settled) :
    Concluded s (upsertBusinessCard card s) := by
  refine atomic_concluded _ hs ((looks_findGroup _).works hs fun group? hs ho => ?_)
  cases group? with
  | none => exact works_pure none ho
  | some group =>
    refine (looks_findCard _).works hs fun card? _ ho => ?_
    have hstore : Works s.begun.begun ((do storeCard card; return some card) s.begun.begun) :=
      Alters.works_map (alters_store _ _ _ ho) fun _ => some card
    cases card? with
    | some stored =>
      change Works s.begun.begun ((if !stored.holdsAlike card.entities then
        storeCard card >>= fun _ => pure (some card) else pure (some card)) s.begun.begun)
      cases stored.holdsAlike card.entities with
      | true => exact works_pure (some card) ho
      | false => exact hstore
    | none =>
      cases card.check with
      | error field => exact works_fault (.blank field) ho
      | ok => exact hstore

theorem Concluded.map {call : Call Session α} (hc : Concluded s (call s)) (f : α → β) :
    Concluded s ((call >>= fun a => pure (f a)) s) := by
  cases hresult : call s with
  | mk outcome s' =>
    rw [hresult] at hc
    cases hc with
    | made settled =>
      rw [Call.bind_of_ok hresult]
      exact .made settled
    | rejected =>
      rw [Call.bind_of_error hresult]
      exact .rejected
    | faulted h =>
      rw [Call.bind_of_error hresult]
      exact .faulted h
    | unencoded =>
      rw [Call.bind_of_error hresult]
      exact .unencoded

theorem concluded_mutation (mutation : Mutation) (hs : s.Settled) :
    Concluded s (Invocation.answerMutation mutation s) := by
  cases mutation with
  | deleteGroup participantId deprovision => exact (concluded_deleteGroup _ _ hs).map _
  | createGroup group register => exact (concluded_createGroup _ _ hs).map _
  | mergeEndpoint endpoint => exact (concluded_mergeEndpoint _ hs).map _
  | upsertRedirect redirect => exact (concluded_upsertRedirect _ hs).map _
  | deleteBusinessCard card => exact (concluded_deleteBusinessCard _ hs).map _
  | upsertBusinessCard card => exact (concluded_upsertBusinessCard _ hs).map _

end Session

def Invocation.isMutation : Invocation → Bool
  | .mutate _ => true
  | _ => false

def Invocation.table : Invocation → Option TableName
  | .lookupUser _ => some .users
  | .groupExists _ | .serviceGroups | .serviceGroupKeys => some .groups
  | .endpoints _ => some .endpoints
  | .redirects _ => some .redirects
  | .businessCard _ | .businessCardKeys => some .businessCards
  | .directoryIntegration | .mutate _ => none

namespace Session

variable {α β ρ κ : Type} {s t : Session}

theorem looks_answer {i : Invocation} (hi : i.isMutation = false) (hd : i ≠ .directoryIntegration) :
    Looks (i.answer : Call Session Json) := by
  cases i with
  | lookupUser id => exact (looks_lookupUser id).bind fun _ => quiet_pure _
  | groupExists participantId =>
    exact ((looks_findGroup participantId).bind fun _ => quiet_pure _).bind fun _ => quiet_pure _
  | businessCard participantId => exact (looks_findCard participantId).bind fun _ => quiet_pure _
  | directoryIntegration => exact absurd rfl hd
  | serviceGroups =>
    exact ((looks_select _ _).bind fun _ => quiet_pure _).bind fun _ => quiet_pure _
  | endpoints participantId =>
    exact ((looks_select _ _).bind fun _ => quiet_pure _).bind fun _ => quiet_pure _
  | redirects participantId =>
    exact ((looks_select _ _).bind fun _ => quiet_pure _).bind fun _ => quiet_pure _
  | serviceGroupKeys =>
    exact ((looks_select _ _).bind fun _ => quiet_pure _).bind fun _ => quiet_pure _
  | businessCardKeys =>
    exact ((looks_select _ _).bind fun _ => quiet_pure _).bind fun _ => quiet_pure _
  | mutate mutation => cases hi

/-- It makes no difference to the call whether the transaction has begun. -/
def FromBegun (call : Call Session α) : Prop :=
  ∀ s : Session, s.Settled → s.isUsable = true → call s.begun = call s

theorem fromBegun_select (place : Place ρ) (values : List Text) :
    FromBegun (select place values) := by
  intro s hs hu
  obtain ⟨hfound, htouched⟩ := begun_of_isUsable hu place values
  rw [select_eq place values hs.pending, select_eq place values hs.begun.pending, hfound, htouched]

theorem FromBegun.bind {call : Call Session α} (hc : FromBegun call) (next : α → Call Session β) :
    FromBegun (call >>= next) := by
  intro s hs hu
  change ExceptT.bindCont next (call s.begun).1 (call s.begun).2 = _
  rw [hc s hs hu]
  rfl

theorem FromBegun.atomic {work : Call Session α} (hw : FromBegun work) (action : Text) :
    FromBegun (atomic action work) := by
  intro s hs hu
  rw [Session.atomic, Session.atomic]
  simp only [hw.bind _ s hs hu]

theorem fromBegun_findGroup (participantId : Text) : FromBegun (findGroup participantId) :=
  (fromBegun_select _ _).bind _

theorem fromBegun_mutation (mutation : Mutation) :
    FromBegun (Invocation.answerMutation mutation : Call Session Json) := by
  cases mutation with
  | deleteGroup participantId deprovision =>
    exact (((fromBegun_findGroup _).bind _).atomic _).bind _
  | createGroup group register =>
    exact ((((fromBegun_select _ _).bind _).bind _).atomic _).bind _
  | mergeEndpoint endpoint => exact (((fromBegun_findGroup _).bind _).atomic _).bind _
  | upsertRedirect redirect => exact (((fromBegun_findGroup _).bind _).atomic _).bind _
  | deleteBusinessCard card =>
    exact ((((((fromBegun_select _ _).bind _).bind _).bind _)).atomic _).bind _
  | upsertBusinessCard card => exact (((fromBegun_findGroup _).bind _).atomic _).bind _

theorem fromBegun_answer {i : Invocation} (hd : i ≠ .directoryIntegration) :
    FromBegun (i.answer : Call Session Json) := by
  cases i with
  | directoryIntegration => exact absurd rfl hd
  | mutate mutation => exact fromBegun_mutation mutation
  | lookupUser id => exact ((fromBegun_select _ _).bind _).bind _
  | groupExists participantId => exact ((fromBegun_findGroup _).bind _).bind _
  | businessCard participantId => exact (((fromBegun_select _ _).bind _).bind _).bind _
  | _ => exact ((fromBegun_select _ _).bind _).bind _

def answers : List Invocation → Session → List (Except CallError Json)
  | [], _ => []
  | i :: later, s => (i.answer s).1 :: answers later (i.answer s).2

theorem answers_congr (hs : s.Settled) (ht : t.Settled) (hus : s.isUsable = true)
    (hut : t.isUsable = true) (h : t.begun = s.begun) (later : List Invocation) :
    t.answers later = s.answers later := by
  induction later with
  | nil => rfl
  | cons i later ih =>
    by_cases hd : i = .directoryIntegration
    · subst hd
      have hanswer := congrArg Session.directoryIntegration h
      change t.directoryIntegration = s.directoryIntegration at hanswer
      change (.ok (.bool t.directoryIntegration) :: t.answers later : List (Except CallError Json)) =
        .ok (.bool s.directoryIntegration) :: s.answers later
      rw [hanswer, ih]
    · have hsame : i.answer t = i.answer s := by
        rw [← fromBegun_answer hd t ht hut, h, fromBegun_answer hd s hs hus]
      rw [answers, answers, hsame]

/-- After a call that failed and left the session usable, later calls are answered as if it had not been
made. -/
theorem answers_touched (hs : s.Settled) (hu : s.isUsable = true) (hc : s.isCutOff = false)
    (later : List Invocation) : s.touched.answers later = s.answers later := by
  have htouched : s.touched = s.begun := by
    rw [touched, hu, hc]
    rfl
  rw [htouched]
  exact answers_congr hs hs.begun hu rfl rfl later

theorem answers_rolledBack (hs : s.Settled) (hu : s.isUsable = true) (hc : s.isCutOff = false)
    (later : List Invocation) : s.rolledBack.answers later = s.answers later := by
  have hbegun : s.rolledBack.begun = s.begun := by
    rw [hs.rolledBack_eq, reconnected, hc]
    rfl
  refine answers_congr hs hs.rolledBack hu ?_ hbegun later
  rw [hs.rolledBack_eq]
  rfl

/-- What a failed call leaves of a session, and which errors it fails with. -/
structure Failed (s : Session) (i : Invocation) (e : CallError) (s' : Session) : Prop where
  settled : s'.Settled
  undone : s'.rolledBack = s.rolledBack
  /-- Storage errors are told by the calls that change something, and the session is rolled back. -/
  storage : ∀ cause, e = .storage cause → i.isMutation = true ∧ s' = s.rolledBack
  /-- Errors of the database are told by the calls that only read. -/
  database : ∀ d, e = .fault (.database d) → i.isMutation = false
  /-- If statements could be sent before, the session goes on as if the call had not been made, unless a
  text that was to be stored has no encoded form: then it refuses what comes until a rollback. -/
  later : s.isUsable = true → s.isCutOff = false → (∀ later, s'.answers later = s.answers later) ∨
    i.isMutation = true ∧ e = .fault .notUnicode ∧ s' = s.failed

theorem concluded_answer (hs : s.Settled) {i : Invocation} (hi : i.isMutation = true) :
    Concluded s (i.answer s) := by
  cases i with
  | mutate mutation => exact concluded_mutation mutation hs
  | _ => cases hi

theorem answer_settled (hs : s.Settled) (i : Invocation) : (i.answer s).2.Settled := by
  cases hi : i.isMutation with
  | true =>
    have hc := concluded_answer hs hi
    cases hresult : i.answer s with
    | mk outcome s' =>
      rw [hresult] at hc
      cases hc with
      | made settled => exact settled
      | rejected => exact hs.rolledBack
      | faulted h => exact hs.touched
      | unencoded => exact hs.failed
  | false =>
    by_cases hd : i = .directoryIntegration
    · subst hd
      exact hs
    · obtain ⟨outcome, hanswer, -⟩ := looks_answer hi hd s hs
      rw [hanswer]
      exact hs.touched

theorem answer_failed (hs : s.Settled) {i : Invocation} {e : CallError} {s' : Session}
    (h : i.answer s = (.error e, s')) : s.Failed i e s' := by
  cases hi : i.isMutation with
  | true =>
    have hc := concluded_answer hs hi
    rw [h] at hc
    cases hc with
    | rejected =>
      exact ⟨hs.rolledBack, rolledBack_rolledBack s, fun _ _ => ⟨hi, rfl⟩, nofun,
        fun hu hc => .inl (answers_rolledBack hs hu hc)⟩
    | faulted hf =>
      refine ⟨hs.touched, hs.rolledBack_touched, nofun, fun d hd => ?_,
        fun hu hc => .inl (answers_touched hs hu hc)⟩
      cases hd
      exact absurd rfl (hf d)
    | unencoded =>
      exact ⟨hs.failed, rolledBack_failed s, nofun, nofun, fun _ _ => .inr ⟨hi, rfl, rfl⟩⟩
  | false =>
    by_cases hd : i = .directoryIntegration
    · subst hd
      cases h
    · obtain ⟨outcome, hanswer, -⟩ := looks_answer hi hd s hs
      rw [hanswer] at h
      cases outcome with
      | ok a => cases h
      | error fault =>
        cases h
        exact ⟨hs.touched, hs.rolledBack_touched, nofun, fun _ _ => hi,
          fun hu hc => .inl (answers_touched hs hu hc)⟩

def Faults (call : Call Session α) : Prop :=
  ∀ (s s' : Session) (e : CallError), call s = (.error e, s') → ∃ fault, e = .fault fault

theorem faults_pure (a : α) : Faults (pure a) := by
  intro s s' e h
  cases h

theorem faults_get : Faults (get : Call Session Session) := by
  intro s s' e h
  cases h

theorem faults_set (t : Session) : Faults (set t : Call Session PUnit) := by
  intro s s' e h
  cases h

theorem faults_modify (f : Session → Session) : Faults (modify f : Call Session PUnit) := by
  intro s s' e h
  cases h

theorem faults_fault (fault : Fault) : Faults (throw (.fault fault) : Call Session α) := by
  intro s s' e h
  cases h
  exact ⟨fault, rfl⟩

theorem faults_ofExcept (result : Except Fault α) : Faults (ofExcept result) := by
  cases result with
  | ok a => exact faults_pure a
  | error fault => exact faults_fault fault

theorem Faults.bind {call : Call Session α} {next : α → Call Session β} (hc : Faults call)
    (hn : ∀ a, Faults (next a)) : Faults (call >>= next) := by
  intro s s' e h
  cases hresult : call s with
  | mk outcome t =>
    cases outcome with
    | ok a =>
      rw [Call.bind_of_ok hresult] at h
      exact hn a t s' e h
    | error _ =>
      rw [Call.bind_of_error hresult] at h
      cases h
      exact hc _ _ _ hresult

theorem faults_sending {work : Call Session Unit} (hw : Faults work) : Faults (sending work) := by
  intro s s' e h
  rw [sending] at h
  cases hresult : work s.begun with
  | mk outcome t =>
    rw [hresult] at h
    cases outcome with
    | ok a => cases h
    | error _ =>
      cases h
      exact hw _ _ _ hresult

theorem faults_ensureUsable : Faults ensureUsable := by
  intro s s' e h
  rw [ensureUsable_eq] at h
  split at h
  · cases h
  · split at h <;> cases h <;> exact ⟨_, rfl⟩

theorem faults_rowsOf (place : Place ρ) : Faults (rowsOf place) := by
  have hconnected : Faults ensureConnected := by
    intro s s' e h
    rw [ensureConnected_eq] at h
    split at h <;> cases h
    exact ⟨_, rfl⟩
  refine hconnected.bind fun _ => faults_get.bind fun s => ?_
  cases place.rows s.storage.current with
  | some rows => exact faults_pure rows
  | none => exact faults_fault _

theorem faults_setRows (place : Place ρ) (rows : List ρ) : Faults (setRows place rows) := by
  intro s s' e h
  rw [setRows_eq] at h
  split at h <;> cases h
  exact ⟨_, rfl⟩

theorem faults_insertUser (user : NewUser) : Faults (insertUser user) := by
  have hwritable : Faults ensureWritable := by
    refine faults_get.bind fun s => ?_
    cases s.barrier with
    | some d => exact faults_fault _
    | none => exact faults_pure _
  refine (faults_rowsOf _).bind fun rows => (faults_ofExcept _).bind fun id => ?_
  refine (faults_ofExcept _).bind fun displayName => hwritable.bind fun _ => ?_
  cases id with
  | none => exact faults_fault _
  | some id =>
    cases displayName with
    | none => exact faults_fault _
    | some displayName =>
      have hinsert := faults_setRows Place.users (rows ++ [⟨id, displayName⟩])
      dsimp only
      split
      · exact (faults_fault _).bind fun _ => hinsert
      · exact hinsert

theorem faults_flush : Faults flush := by
  have hsend (users : List NewUser) : Faults (users.forM insertUser) := by
    induction users with
    | nil => exact faults_pure _
    | cons user users ih => exact (faults_insertUser user).bind fun _ => ih
  have hall (s : Session) : Faults (do
      ensureUsable
      sending (s.pending.forM insertUser)
      modify fun s => { s with pending := [] } : Call Session Unit) :=
    faults_ensureUsable.bind fun _ => (faults_sending (hsend _)).bind fun _ => faults_modify _
  refine faults_get.bind fun s => ?_
  split
  · split
    · exact (faults_set _).bind fun _ => (faults_fault _).bind fun _ => hall s
    · exact hall s
  · exact faults_pure _

theorem faults_select (place : Place ρ) (values : List Text) : Faults (select place values) := by
  refine faults_flush.bind fun _ => faults_ensureUsable.bind fun _ => (faults_modify _).bind fun _ => ?_
  refine (faults_rowsOf place).bind fun rows => ?_
  refine Faults.bind ?_ fun _ => faults_pure rows
  intro s s' e h
  rw [bind_eq] at h
  split at h <;> cases h
  exact ⟨_, rfl⟩

theorem looksUpUsers : Run.LooksUpUsers Session :=
  fun id => (faults_select .users [id]).bind fun _ => faults_pure _

def Misses (s : Session) (call : Call Session α) : Prop :=
  ∃ s' : Session, call s = (.error (.fault (.database .missingTable)), s')

theorem Misses.bind {call : Call Session α} (h : s.Misses call) (next : α → Call Session β) :
    s.Misses (call >>= next) := by
  obtain ⟨s', h⟩ := h
  exact ⟨s', Call.bind_of_error h⟩

theorem answer_missing (hs : s.Settled) (hu : s.isUsable = true) (hr : s.refusal = none)
    {i : Invocation} {table : TableName} (hi : i.table = some table)
    (ht : s.storage.current.has table = false) : s.Misses (i.answer : Call Session Json) := by
  have hselect {ρ : Type} (place : Place ρ) (values : List Text)
      (hp : (place.rows s.storage.current).isSome = false) : s.Misses (select place values) := by
    rw [Option.isSome_eq_false_iff, Option.isNone_iff_eq_none] at hp
    refine ⟨s.touched, ?_⟩
    rw [select_eq place values hs.pending, found, hu, hr, hp]
    rfl
  cases i with
  | directoryIntegration => cases hi
  | mutate mutation => cases hi
  | lookupUser id =>
    cases hi
    exact ((hselect .users _ ht).bind _).bind _
  | groupExists participantId =>
    cases hi
    exact (((hselect .groups _ ht).bind _).bind _).bind _
  | businessCard participantId =>
    cases hi
    exact (((hselect .businessCards _ ht).bind _).bind _).bind _
  | serviceGroups =>
    cases hi
    exact ((hselect .groups _ ht).bind _).bind _
  | endpoints participantId =>
    cases hi
    exact ((hselect .endpoints _ ht).bind _).bind _
  | redirects participantId =>
    cases hi
    exact ((hselect .redirects _ ht).bind _).bind _
  | serviceGroupKeys =>
    cases hi
    exact ((hselect .groups _ ht).bind _).bind _
  | businessCardKeys =>
    cases hi
    exact ((hselect .businessCards _ ht).bind _).bind _

/-- A call that fails has not been made, and unless it leaves a text without an encoded form in the way,
later calls are answered as if it had not been. But only the calls that change something tell of it by
a storage error; a call that reads, on a missing table for one, is stopped by the database itself. So
imports and exports, which go on after a storage error, are ended by a fault. -/
theorem storage_errors_surface (s : Session) (hs : s.Settled) :
    (∀ i : Invocation, (i.answer s).2.Settled) ∧
    (∀ (i : Invocation) (e : CallError) (s' : Session), i.answer s = (.error e, s') →
      s.Failed i e s') ∧
    (∀ (i : Invocation) (table : TableName), i.table = some table →
      s.storage.current.has table = false → s.isUsable = true → s.refusal = none →
      s.Misses (i.answer : Call Session Json)) ∧
    (∀ (task : ImportTask Session) (e : CallError) (q : Progress Session),
      task.run = (.error e, q) → ∃ fault, e = .fault fault) ∧
    ∀ (groups : List ServiceGroup) (withCards : Bool) (p q : Progress Session) (e : CallError),
      Run.exportGroups groups withCards p = (.error e, q) → ∃ fault, e = .fault fault := by
  refine ⟨answer_settled hs, fun i e s' h => answer_failed hs h,
    fun i table hi ht hu hr => answer_missing hs hu hr hi ht, fun task e q h => ?_,
    fun groups withCards p q e h => Run.contains_exportGroups groups withCards p q e h⟩
  exact Run.contains_importBatch looksUpUsers task.reader task.request task.batch task.start q e h

theorem storage_errors_surface_fresh :
    let s : Session := { storage := .holding Database.fresh, transaction := .idle }
    let i : Invocation := .mutate (.createGroup ⟨"a", "u", none⟩ true)
    s.Settled ∧ ∃ e, i.answer s = (.error (.storage e), s.rolledBack) ∧
      ∀ later, s.rolledBack.answers later = s.answers later := by
  intro s i
  have hs : s.Settled := ⟨rfl, rfl⟩
  obtain ⟨-, hfailed, -⟩ := storage_errors_surface s hs
  have hanswer : i.answer s = (.error (.storage (.unknownOwner (.string "u"))), s.rolledBack) := rfl
  refine ⟨hs, _, hanswer, ?_⟩
  rcases (hfailed i _ _ hanswer).later rfl rfl with h | h
  · exact h
  · cases h.2.1

/-- Where the table of endpoints is missing, listing them fails with an error of the database, and an
export is ended by it; where the table of users is missing, an import is. -/
theorem storage_errors_escape :
    let db : Database := { Database.fresh with groups := some [⟨"a", "u", none⟩] }
    let s : Session := { storage := .holding (db.drop .endpoints) }
    let t : Session := { storage := .holding (db.drop .users) }
    let missing : CallError := .fault (.database .missingTable)
    let element : Json := .object [("participant_id", .string "a"), ("owner_id", .string "u")]
    s.Settled ∧ (Invocation.answer (.endpoints "a") s).1 = .error missing ∧
      (Run.exportGroups [⟨"a", "u", none⟩] false { registry := s }).1 = .error missing ∧
      t.Settled ∧
      (⟨⟨[element], []⟩, { defaultOwner := ⟨"u", "U"⟩ }, Document.elementReader,
        { registry := t }⟩ : ImportTask Session).run.1 = .error missing := by
  refine ⟨⟨rfl, rfl⟩, rfl, ?_, ⟨rfl, rfl⟩, ?_⟩
  · rw [Run.exportGroups, List.mergeSort_singleton]
    rfl
  · decide +kernel

end Session

end ParticipantRegistry
