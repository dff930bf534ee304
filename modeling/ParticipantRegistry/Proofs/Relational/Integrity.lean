import ParticipantRegistry.Proofs.Exchange.ImportCalls
import ParticipantRegistry.Proofs.Relational.Atomicity

/-!
# Rows that refer to rows

The database does not see to it that rows refer to rows that are there; the calls of a session do. An
endpoint, redirect or card is stored only under a group that is there, a group only for a user that is
there, and a group takes all that belongs to it along when it is deleted. What fails leaves the rows as
they are. So a database that has only been used by sessions stays coherent.
-/

namespace ParticipantRegistry

namespace Table

variable {α κ ρ ι : Type} [Keyed α κ] [DecidableEq κ] {others : List α} {rows : List ρ} {f : ρ → κ}

theorem hasKey_put (k : κ) (record : α) (others : List α) :
    hasKey k (put record others) = (decide (key record = k) || hasKey k others) := by
  rw [hasKey_eq_isSome, find?_put, hasKey_eq_isSome]
  by_cases hk : key record = k <;> simp [hk]

theorem hasKey_erase (k j : κ) (others : List α) :
    hasKey k (erase j others) = (decide (k ≠ j) && hasKey k others) := by
  rw [hasKey_eq_isSome, find?_erase, hasKey_eq_isSome]
  by_cases hk : j = k
  · simp [hk]
  · simp [hk, Ne.symm hk]

def Refers (f : ρ → κ) (rows : List ρ) (others : List α) : Prop :=
  ∀ row ∈ rows, hasKey (f row) others = true

theorem Refers.put [Keyed ρ ι] [DecidableEq ι] (h : Refers f rows others) {record : ρ}
    (hrecord : hasKey (f record) others = true) : Refers f (put record rows) others := by
  intro row hrow
  rcases mem_of_mem_put hrow with rfl | hrow
  · exact hrecord
  · exact h row hrow

theorem Refers.filter (h : Refers f rows others) (p : ρ → Bool) :
    Refers f (rows.filter p) others :=
  fun row hrow => h row (List.mem_of_mem_filter hrow)

/-- Rows of which a table becomes larger can be referred to as before. -/
theorem Refers.put_other (h : Refers f rows others) (record : α) :
    Refers f rows (Table.put record others) := by
  intro row hrow
  rw [hasKey_put, h row hrow, Bool.or_true]

theorem Refers.append_other (h : Refers f rows others) (more : List α) :
    Refers f rows (others ++ more) := by
  intro row hrow
  rw [hasKey, List.any_append, ← hasKey, h row hrow, Bool.true_or]

theorem Refers.erase_other (h : Refers f rows others) (k : κ) :
    Refers f (rows.filter (f · ≠ k)) (erase k others) := by
  intro row hrow
  obtain ⟨hmem, hne⟩ := List.mem_filter.mp hrow
  rw [hasKey_erase, h row hmem, hne, Bool.and_true]

theorem nodup_keys_append {record : α} (hn : (keys others).Nodup)
    (h : hasKey (key record) others = false) : (keys (others ++ [record])).Nodup := by
  rw [keys, List.map_append, List.nodup_append]
  refine ⟨hn, List.nodup_singleton _, fun a ha b hb => ?_⟩
  rw [List.map_singleton, List.mem_singleton] at hb
  rintro rfl
  rw [hb] at ha
  rw [(hasKey_iff _ _).mpr ha] at h
  cases h

end Table

namespace Database

/-- Every table is there, the rows of no table share a key, and every row refers to one that is there:
endpoints, redirects and cards to the group of their participant, and groups to their owner. -/
structure Coherent (db : Database) : Prop where
  complete : ∀ table, db.has table = true
  users : (Table.keys (db.users.getD [])).Nodup
  groups : (Table.keys (db.groups.getD [])).Nodup
  endpoints : (Table.keys (db.endpoints.getD [])).Nodup
  redirects : (Table.keys (db.redirects.getD [])).Nodup
  businessCards : (Table.keys (db.businessCards.getD [])).Nodup
  owners : Table.Refers ServiceGroup.ownerId (db.groups.getD []) (db.users.getD [])
  groupOfEndpoint : Table.Refers Endpoint.participantId (db.endpoints.getD []) (db.groups.getD [])
  groupOfRedirect : Table.Refers Redirect.participantId (db.redirects.getD []) (db.groups.getD [])
  groupOfCard : Table.Refers CardRow.participantId (db.businessCards.getD []) (db.groups.getD [])

theorem coherent_fresh : fresh.Coherent where
  complete table := by cases table <;> rfl
  users := List.nodup_nil
  groups := List.nodup_nil
  endpoints := List.nodup_nil
  redirects := List.nodup_nil
  businessCards := List.nodup_nil
  owners := nofun
  groupOfEndpoint := nofun
  groupOfRedirect := nofun
  groupOfCard := nofun

variable {db : Database}

theorem Coherent.exists_rows (h : db.Coherent) : ∃ users groups endpoints redirects businessCards,
    db = ⟨some users, some groups, some endpoints, some redirects, some businessCards,
      db.upgraded⟩ :=
  Complete.exists_rows h.complete

theorem Coherent.withUser (h : db.Coherent) {user : User} (hnew : db.hasUser user.id = false) :
    { db with users := some (db.users.getD [] ++ [user]) }.Coherent := by
  obtain ⟨users, groups, endpoints, redirects, cards, hdb⟩ := h.exists_rows
  generalize db.upgraded = upgraded at hdb
  subst hdb
  exact { h with
    complete := fun table => by cases table <;> rfl
    users := Table.nodup_keys_append h.users hnew
    owners := h.owners.append_other [user] }

end Database

theorem Mutation.Rewrites.coherent {db db' : Database} {mutation : Mutation}
    (hm : mutation.Rewrites db db') (h : db.Coherent) : db'.Coherent := by
  obtain ⟨users, groups, endpoints, redirects, cards, hdb⟩ := h.exists_rows
  generalize db.upgraded = upgraded at hdb
  subst hdb
  cases hm with
  | deleteGroup participantId deprovision =>
    exact {
      complete := fun table => by cases table <;> rfl
      users := h.users
      groups := Table.nodup_keys_filter _ groups h.groups
      endpoints := Table.nodup_keys_filter _ endpoints h.endpoints
      redirects := Table.nodup_keys_filter _ redirects h.redirects
      businessCards := Table.nodup_keys_filter _ cards h.businessCards
      owners := h.owners.filter _
      groupOfEndpoint := h.groupOfEndpoint.erase_other participantId
      groupOfRedirect := h.groupOfRedirect.erase_other participantId
      groupOfCard := h.groupOfCard.erase_other participantId }
  | createGroup group register owner absent =>
    exact { h with
      complete := fun table => by cases table <;> rfl
      groups := Table.nodup_keys_put group groups h.groups
      owners := h.owners.put owner
      groupOfEndpoint := h.groupOfEndpoint.put_other group
      groupOfRedirect := h.groupOfRedirect.put_other group
      groupOfCard := h.groupOfCard.put_other group }
  | mergeEndpoint endpoint group =>
    exact { h with
      complete := fun table => by cases table <;> rfl
      endpoints := Table.nodup_keys_put endpoint endpoints h.endpoints
      groupOfEndpoint := h.groupOfEndpoint.put group }
  | upsertRedirect redirect group =>
    exact { h with
      complete := fun table => by cases table <;> rfl
      redirects := Table.nodup_keys_put redirect redirects h.redirects
      groupOfRedirect := h.groupOfRedirect.put group }
  | deleteBusinessCard card =>
    exact { h with
      complete := fun table => by cases table <;> rfl
      businessCards := Table.nodup_keys_filter _ cards h.businessCards
      groupOfCard := h.groupOfCard.filter _ }
  | upsertBusinessCard card row hkey group =>
    exact { h with
      complete := fun table => by cases table <;> rfl
      businessCards := Table.nodup_keys_put row cards h.businessCards
      groupOfCard := h.groupOfCard.put (hkey ▸ group) }
  | keepBusinessCard card group => exact h

namespace Session

variable {s s' : Session}

/-- What is stored is coherent, and nothing is left to do or undo. -/
structure Sound (s : Session) : Prop where
  settled : s.Settled
  coherent : s.storage.current.Coherent

theorem Sound.of_keeps (h : s.Sound) (hk : s.Keeps s') : s'.Sound :=
  ⟨hk.settled, hk.storage ▸ h.coherent⟩

theorem Sound.ends (h : s.Sound) {mutation : Mutation} {changed : Bool}
    (he : s.Ends mutation changed s') : s'.storage.current.Coherent := by
  cases he with
  | idle => exact h.coherent
  | done rewrites => exact rewrites.coherent h.coherent

theorem Sound.mutate (h : s.Sound) (mutation : Mutation) :
    ((Invocation.mutate mutation).answer s).2.Sound := by
  refine ⟨answer_settled h.settled _, ?_⟩
  have hconcludes := concludes_answer h.settled mutation
  cases hanswer : (Invocation.mutate mutation).answer s with
  | mk outcome s' =>
    rw [hanswer] at hconcludes
    cases hconcludes with
    | returned ends => exact h.ends ends
    | failed kept => exact (h.of_keeps kept).coherent

theorem Sound.answer (h : s.Sound) (i : Invocation) : (i.answer s).2.Sound := by
  cases hi : i.isMutation with
  | true =>
    cases i with
    | mutate mutation => exact h.mutate mutation
    | _ => cases hi
  | false =>
    by_cases hd : i = .directoryIntegration
    · subst hd
      exact h
    · obtain ⟨outcome, hanswer, -⟩ := looks_answer hi hd s h.settled
      rw [hanswer]
      exact h.of_keeps h.settled.keeps_touched

theorem Sound.runAll (h : s.Sound) (calls : List Invocation) : (Invocation.runAll calls s).Sound := by
  induction calls generalizing s with
  | nil => exact h
  | cons i calls ih => exact ih (h.answer i)

theorem Sound.storeUser (h : s.Sound) (user : NewUser) : (storeUser user s).2.Sound := by
  cases adds_storeUser h.settled user with
  | added isNew settled current =>
    refine ⟨settled, ?_⟩
    rw [current]
    exact h.coherent.withUser isNew
  | kept kept => exact h.of_keeps kept

theorem Sound.importBatch (h : s.Sound) (reader : Document.ElementReader) (request : ImportRequest)
    (batch : ParsedBatch) (log : ActionLog) :
    (Run.importBatch reader request batch { registry := s, log }).2.registry.Sound := by
  obtain ⟨calls, hcalls⟩ := Run.importBatch_runAll reader request batch { registry := s, log }
  rw [hcalls]
  exact h.runAll calls

inductive Step where
  | addUser (user : NewUser)
  | call (invocation : Invocation)
  | importBatch (reader : Document.ElementReader) (request : ImportRequest) (batch : ParsedBatch)
      (log : ActionLog)
  | rollback
  /-- From now on the database refuses something or no longer does, and the registrar is another one. -/
  | meet (refusal barrier : Option DatabaseError) (registrar : Option Registrar)

namespace Step

def carryOut : Step → Session → Session
  | .addUser user, s => (Session.storeUser user s).2
  | .call i, s => (i.answer s).2
  | .importBatch reader request batch log, s =>
    (Run.importBatch reader request batch { registry := s, log }).2.registry
  | .rollback, s => s.rolledBack
  | .meet refusal barrier registrar, s => { s with refusal, barrier, registrar }

def carryOutAll (steps : List Step) (s : Session) : Session :=
  steps.foldl (fun s step => step.carryOut s) s

end Step

theorem Sound.carryOut (h : s.Sound) (step : Step) : (step.carryOut s).Sound := by
  cases step with
  | addUser user => exact h.storeUser user
  | call i => exact h.answer i
  | importBatch reader request batch log => exact h.importBatch reader request batch log
  | rollback => exact h.of_keeps (keeps_rolledBack h.settled.storage)
  | meet refusal barrier registrar => exact ⟨⟨h.settled.pending, h.settled.storage⟩, h.coherent⟩

theorem Sound.carryOutAll (h : s.Sound) (steps : List Step) : (Step.carryOutAll steps s).Sound := by
  induction steps generalizing s with
  | nil => exact h
  | cons step steps ih => exact ih (h.carryOut step)

/-- Whatever is done with a session on a new database, and whether it succeeds or fails: all is done or
undone afterwards, and what is stored is coherent. -/
theorem rows_stay_coherent (directoryIntegration : Bool) (registrar : Option Registrar)
    (steps : List Step) :
    let s := Step.carryOutAll steps
      { storage := .holding Database.fresh, directoryIntegration, registrar }
    s.storage.current = s.storage.committed ∧ s.storage.current.Coherent := by
  have hsound : Sound { storage := .holding Database.fresh, directoryIntegration, registrar } :=
    ⟨⟨rfl, rfl⟩, Database.coherent_fresh⟩
  have hsteps := hsound.carryOutAll steps
  exact ⟨hsteps.settled.storage, hsteps.coherent⟩

end Session

end ParticipantRegistry
