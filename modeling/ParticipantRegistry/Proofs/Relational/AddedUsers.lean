import ParticipantRegistry.Proofs.Relational.Rewrites

/-!
# Users that are added for good

A user is sent to the database and committed in one transaction. The row is stored under a new id, or
what is stored stays as it was, whatever stands in the way: an id that is taken, a value that no cell
takes, a missing table or a closed connection.
-/

namespace ParticipantRegistry

namespace Session

variable {α : Type} {s s' : Session}

/-- The call changes nothing, or fails and leaves nothing to undo. -/
def Inert (call : Call Session α) : Prop :=
  ∀ s : Session, (∃ a, call s = (.ok a, s)) ∨
    ∃ fault s', call s = (.error (.fault fault), s') ∧ s'.rolledBack = s.rolledBack

theorem inert_ofExcept (result : Except Fault α) : Inert (ofExcept result) := by
  intro s
  cases result with
  | ok a => exact .inl ⟨a, rfl⟩
  | error fault => exact .inr ⟨fault, s, rfl, rfl⟩

theorem inert_ensureWritable : Inert ensureWritable := by
  rintro ⟨storage, pending, transaction, refusal, barrier, directoryIntegration, registrar⟩
  cases barrier with
  | none => exact .inl ⟨(), rfl⟩
  | some d => exact .inr ⟨.database d, _, rfl, rfl⟩

/-- A closed connection is found by a statement: nothing is left to undo. -/
theorem rolledBack_lost (h : s.isCutOff = true) :
    { s.reconnected with transaction := .lost }.rolledBack = s.rolledBack := by
  rw [isCutOff, decide_eq_true_iff] at h
  simp [rolledBack, reconnected, isCutOff, h]

theorem inert_ensureConnected : Inert ensureConnected := by
  intro s
  have hconnected := ensureConnected_eq s
  cases hr : s.refusal with
  | none =>
    rw [hr] at hconnected
    exact .inl ⟨(), hconnected⟩
  | some d =>
    rw [hr] at hconnected
    refine .inr ⟨.database d, _, hconnected, ?_⟩
    split
    · next hc => exact rolledBack_lost hc
    · rfl

theorem inert_rowsOf {ρ : Type} (place : Place ρ) : Inert (rowsOf place) := by
  intro s
  cases hr : s.refusal with
  | none =>
    have hrows := rowsOf_eq place hr
    split at hrows
    · exact .inr ⟨_, s, hrows, rfl⟩
    · exact .inl ⟨_, hrows⟩
  | some d =>
    rcases inert_ensureConnected s with ⟨_, hconnected⟩ | ⟨fault, s', hconnected, hundone⟩
    · rw [ensureConnected_eq, hr] at hconnected
      cases hconnected
    · exact .inr ⟨fault, s', Call.bind_of_error hconnected, hundone⟩

theorem refusal_of_rowsOf {ρ : Type} {place : Place ρ} {rows : List ρ}
    (h : rowsOf place s = (.ok rows, s')) : s.refusal = none := by
  cases hr : s.refusal with
  | none => rfl
  | some d =>
    have hconnected := ensureConnected_eq s
    rw [hr] at hconnected
    rw [rowsOf, Call.bind_of_error hconnected] at h
    cases h

/-- How inserting a user may end. -/
inductive Inserts (s : Session) : Except CallError Unit × Session → Prop
  | inserted {user : User} (isNew : s.storage.current.hasUser user.id = false)
      (refusal : s.refusal = none) :
      Inserts s (.ok (), s.written .users (s.storage.current.users.getD [] ++ [user]))
  | refused {fault : Fault} {s' : Session} (undone : s'.rolledBack = s.rolledBack) :
      Inserts s (.error (.fault fault), s')

theorem Inert.inserts_bind {call : Call Session α} {next : α → Call Session Unit} (hc : Inert call)
    (hn : ∀ a, call s = (.ok a, s) → Inserts s (next a s)) : Inserts s ((call >>= next) s) := by
  rcases hc s with ⟨a, hcall⟩ | ⟨fault, s', hcall, hundone⟩
  · rw [Call.bind_of_ok hcall]
    exact hn a hcall
  · rw [Call.bind_of_error hcall]
    exact .refused hundone

theorem inserts_insertUser (user : NewUser) (s : Session) : Inserts s (insertUser user s) := by
  refine (inert_rowsOf .users).inserts_bind fun rows hrows => ?_
  refine (inert_ofExcept _).inserts_bind fun id? _ => ?_
  refine (inert_ofExcept _).inserts_bind fun displayName? _ => ?_
  refine inert_ensureWritable.inserts_bind fun _ _ => ?_
  match id?, displayName? with
  | none, _ => exact .refused rfl
  | some _, none => exact .refused rfl
  | some id, some displayName =>
    have hr := refusal_of_rowsOf hrows
    obtain ⟨hp, -⟩ := rowsOf_ok hr hrows
    change s.storage.current.users = some rows at hp
    dsimp only
    split
    · exact .refused rfl
    · next hkey =>
      have hnew : s.storage.current.hasUser id = false := by
        rw [Database.hasUser, hp]
        exact Bool.not_eq_true _ ▸ hkey
      have hinserted : Inserts s (.ok (),
          s.written .users (s.storage.current.users.getD [] ++ [⟨id, displayName⟩])) :=
        .inserted hnew hr
      rw [hp] at hinserted
      rw [setRows_eq]
      split
      · exact .refused rfl
      · exact hinserted

/-- Nothing is left to do or undo, and what is stored is as it was. -/
structure Keeps (s s' : Session) : Prop where
  settled : s'.Settled
  storage : s'.storage = s.storage

theorem keeps_rolledBack (h : s.storage.current = s.storage.committed) : s.Keeps s.rolledBack := by
  have hrollback : s.storage.rollback = s.storage := by
    rw [Storage.rollback, ← h]
    exact congrArg (Storage.mk s.storage.current) h
  have hstorage : s.rolledBack.storage = s.storage := by
    rw [rolledBack, hrollback, ite_self]
  refine ⟨⟨rfl, ?_⟩, hstorage⟩
  rw [hstorage]
  exact h

theorem Keeps.failed (h : s.Keeps s'.rolledBack) : s.Keeps s'.failed :=
  ⟨⟨h.settled.pending, h.settled.storage⟩, h.storage⟩

/-- How sending a pending user, or committing it, may end. -/
inductive Sends (s : Session) : Except CallError Unit × Session → Prop
  | sent {user : User} {s' : Session} (isNew : s.storage.current.hasUser user.id = false)
      (opened : s'.Open) (current : s'.storage.current = { s.storage.current with
        users := some (s.storage.current.users.getD [] ++ [user]) }) : Sends s (.ok (), s')
  | refused {fault : Fault} {s' : Session} (undone : s.Keeps s'.rolledBack)
      (kept : (∀ d, fault ≠ .database d) → s.Keeps s') : Sends s (.error (.fault fault), s')

theorem Sends.of_database {d : DatabaseError} (h : s.Keeps s'.rolledBack) :
    Sends s (.error (.fault (.database d)), s') :=
  .refused h fun hd => absurd rfl (hd d)

theorem sends_sending {user : NewUser} (hp : s.pending = [user])
    (h : s.storage.current = s.storage.committed) :
    Sends s ((sending (s.pending.forM insertUser) >>= fun _ =>
      modify fun s => { s with pending := [] }) s) := by
  have hkept : s.Keeps s.begun.rolledBack := by
    have hbegun := keeps_rolledBack (s := s.begun) h
    exact ⟨hbegun.settled, hbegun.storage⟩
  have hinserts := inserts_insertUser user s.begun
  rw [hp]
  cases hinsert : insertUser user s.begun with
  | mk outcome s' =>
    rw [hinsert] at hinserts
    cases hinserts with
    | @inserted u isNew refusal =>
      have hsend : sending ([user].forM insertUser) s = (.ok (), s.begun.written .users
          (s.storage.current.users.getD [] ++ [u])) := by
        have hwork : [user].forM insertUser s.begun = _ := Call.bind_of_ok hinsert
        rw [sending, hwork]
        rfl
      rw [Call.bind_of_ok hsend]
      exact .sent isNew ⟨rfl, rfl, refusal⟩ rfl
    | @refused fault _ undone =>
      have hsend : sending ([user].forM insertUser) s = (.error (.fault fault), s'.failed) := by
        have hwork : [user].forM insertUser s.begun = _ := Call.bind_of_error hinsert
        rw [sending, hwork]
      have hfailed : s.Keeps s'.rolledBack := undone ▸ hkept
      rw [Call.bind_of_error hsend]
      refine .refused ?_ fun _ => hfailed.failed
      rw [rolledBack_failed]
      exact hfailed

theorem sends_flush {user : NewUser} (hp : s.pending = [user])
    (h : s.storage.current = s.storage.committed) : Sends s (flush s) := by
  have hget : (get : Call Session Session) s = (.ok s, s) := rfl
  have hpending : s.pending ≠ [] := by
    rw [hp]
    exact List.cons_ne_nil _ _
  rw [flush, Call.bind_of_ok hget, if_pos hpending]
  split
  · have hset : (set s.failed : Call Session PUnit) s = (.ok (), s.failed) := rfl
    have hrefuse : (refuse .rollbackPending : Call Session Unit) s.failed =
      (.error (.fault (.database .rollbackPending)), s.failed) := rfl
    rw [Call.bind_of_ok hset, Call.bind_of_error hrefuse]
    refine .of_database ?_
    rw [rolledBack_failed]
    exact keeps_rolledBack h
  · have husable := ensureUsable_eq s
    dsimp only
    split at husable
    · rw [Call.bind_of_ok husable]
      exact sends_sending hp h
    · split at husable
      · rw [Call.bind_of_error husable]
        exact .of_database (keeps_rolledBack h)
      · rw [Call.bind_of_error husable]
        exact .of_database (keeps_rolledBack h)

/-- What adding a user for good leaves of the database. -/
inductive Adds (s : Session) : Session → Prop
  | added {user : User} {s' : Session} (isNew : s.storage.current.hasUser user.id = false)
      (settled : s'.Settled)
      (current : s'.storage.current = { s.storage.current with
        users := some (s.storage.current.users.getD [] ++ [user]) }) : Adds s s'
  | kept {s' : Session} (kept : s.Keeps s') : Adds s s'

theorem Open.current_committed (ho : s.Open) : s.committed.storage.current = s.storage.current := by
  rw [committed, ho.transaction]
  rfl

theorem commit_pending {user : NewUser} (hp : s.pending = [user])
    (h : s.storage.current = s.storage.committed) :
    (∃ s', commit s = (.ok (), s') ∧ s.Adds s') ∨
    ∃ fault s', commit s = (.error (.fault fault), s') ∧ s.Keeps s'.rolledBack ∧
      ((∀ d, fault ≠ .database d) → s.Keeps s') := by
  have hget : (get : Call Session Session) s = (.ok s, s) := rfl
  rw [commit, Call.bind_of_ok hget]
  dsimp only
  split
  · have hrefuse : (refuse .rollbackPending : Call Session Unit) s =
      (.error (.fault (.database .rollbackPending)), s) := rfl
    rw [Call.bind_of_error hrefuse]
    exact .inr ⟨_, s, rfl, keeps_rolledBack h, fun hd => absurd rfl (hd .rollbackPending)⟩
  · have hsends := sends_flush hp h
    cases hflush : flush s with
    | mk outcome s₁ =>
      rw [hflush] at hsends
      cases hsends with
      | sent isNew opened current =>
        have hsettled := opened.settled_committed
        have hcurrent := opened.current_committed.trans current
        refine .inl ⟨s₁.committed, ?_, .added isNew hsettled hcurrent⟩
        rw [Call.bind_of_ok hflush]
        obtain ⟨storage, pending, transaction, refusal, barrier, directoryIntegration, registrar⟩ := s₁
        obtain ⟨rfl, rfl, rfl⟩ := opened
        rfl
      | refused undone kept =>
        rw [Call.bind_of_error hflush]
        exact .inr ⟨_, s₁, rfl, undone, kept⟩

/-- A user is added for good under a new id, or what is stored is as it was. -/
theorem adds_storeUser (hs : s.Settled) (user : NewUser) : s.Adds (storeUser user s).2 := by
  have hadd : addUser user s = (.ok (), { s with pending := s.pending ++ [user] }) := rfl
  rw [hs.pending, List.nil_append] at hadd
  have hwhole : (addUser user >>= fun _ => commit) s = commit { s with pending := [user] } :=
    Call.bind_of_ok hadd
  rw [storeUser, hwhole]
  rcases commit_pending (s := { s with pending := [user] }) rfl hs.storage with
    ⟨s', hcommit, hadds⟩ | ⟨fault, s', hcommit, undone, kept⟩
  · rw [hcommit]
    cases hadds with
    | added isNew settled current => exact .added isNew settled current
    | kept kept => exact .kept ⟨kept.settled, kept.storage⟩
  · rw [hcommit]
    cases fault with
    | database d => exact .kept ⟨undone.settled, undone.storage⟩
    | _ =>
      have hkept := kept nofun
      exact .kept ⟨hkept.settled, hkept.storage⟩

theorem commit_new_user {user : User} {rows : List User} (hs : s.isUsable = true)
    (hr : s.refusal = none) (hb : s.barrier = none) (hrows : s.storage.current.users = some rows)
    (hid : user.id.isUnicode = true) (hname : user.displayName.isUnicode = true)
    (hnew : Table.hasKey user.id rows = false) :
    commit { s with pending := [⟨.string user.id, .string user.displayName⟩] } =
      (.ok (), { s.begun.written .users (rows ++ [user]) with pending := [] }.committed) := by
  obtain ⟨storage, _, transaction, refusal, barrier, directoryIntegration, registrar⟩ := s
  obtain rfl : refusal = none := hr
  obtain rfl : barrier = none := hb
  let entry : NewUser := ⟨.string user.id, .string user.displayName⟩
  let sent : Session :=
    { storage, pending := [entry], transaction := .begun, directoryIntegration, registrar }
  have hread : rowsOf .users sent = (.ok rows, sent) := by
    have hread := rowsOf_eq .users (s := sent) rfl
    rwa [show Place.users.rows sent.storage.current = some rows from hrows] at hread
  have hwrite : (if Table.hasKey user.id rows then refuse .constraint else
      setRows .users (rows ++ [user]) : Call Session Unit) sent =
        (.ok (), sent.written .users (rows ++ [user])) := by
    rw [hnew]
    rfl
  have hinsert : insertUser entry sent = (.ok (), sent.written .users (rows ++ [user])) := by
    rw [insertUser, Call.bind_of_ok hread]
    simp only [entry, Cell.ofJson_string hid, Cell.ofJson_string hname]
    exact hwrite
  let before : Session :=
    { storage, pending := [entry], transaction, directoryIntegration, registrar }
  have hsend : sending ([entry].forM insertUser) before =
      (.ok (), sent.written .users (rows ++ [user])) := by
    have hwork : [entry].forM insertUser before.begun = _ := Call.bind_of_ok hinsert
    rw [sending, hwork]
    rfl
  have hflush : flush before =
      (.ok (), { sent.written .users (rows ++ [user]) with pending := [] }) := by
    cases transaction with
    | idle => exact Call.bind_of_ok hsend
    | begun => exact Call.bind_of_ok hsend
    | _ => cases hs
  cases transaction with
  | idle => exact Call.bind_of_ok hflush
  | begun => exact Call.bind_of_ok hflush
  | _ => cases hs

end Session

end ParticipantRegistry
