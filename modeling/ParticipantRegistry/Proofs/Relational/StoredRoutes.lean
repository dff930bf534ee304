import ParticipantRegistry.Proofs.Exchange.Routing
import ParticipantRegistry.Proofs.Relational.Integrity

/-!
# Groups and routes in a database

The rows of a participant in the tables of groups, endpoints and redirects are told by a holding without
a card. A dialogue with a session makes of these rows what its turns make of the holding; an import that
reads its batch in a session asks the rows of users and leaves all rows as they are.
-/

namespace ParticipantRegistry

open Document (ElementReader GroupRecord Inquiry)

namespace Database

variable {db db' : Database}

def routing (participantId : Text) (db : Database) : Holding where
  group := Table.find? participantId (db.groups.getD [])
  endpoints := (db.endpoints.getD []).filter (·.participantId = participantId)
  redirects := (db.redirects.getD []).filter (·.participantId = participantId)

def ownerOf (defaultOwner : User) (id : Text) (db : Database) : User :=
  (Table.find? id (db.users.getD [])).getD defaultOwner

/-- Every endpoint and every redirect belongs to a stored group. -/
structure Rooted (db : Database) : Prop where
  endpoints : Table.Refers Endpoint.participantId (db.endpoints.getD []) (db.groups.getD [])
  redirects : Table.Refers Redirect.participantId (db.redirects.getD []) (db.groups.getD [])

/-- The store with the groups and routes of a database, and without cards. -/
def routes (db : Database) : Store where
  groups := db.groups.getD []
  endpoints := db.endpoints.getD []
  redirects := db.redirects.getD []

theorem routes_holding (participantId : Text) (db : Database) :
    db.routes.holding participantId = db.routing participantId := rfl

theorem Rooted.routing (h : db.Rooted) (participantId : Text) : (db.routing participantId).Owned := by
  have howned : db.routes.Owned := ⟨h.endpoints, h.redirects, nofun⟩
  exact howned.holding participantId

end Database

theorem Mutation.Rewrites.routes {db db' : Database} {mutation : Mutation}
    (hm : mutation.Rewrites db db') (h : db.Complete) :
    db'.Complete ∧ db'.routes = { mutation.carryOut db.routes with businessCards := [] } := by
  obtain ⟨users, groups, endpoints, redirects, cards, hdb⟩ := h.exists_rows
  generalize db.upgraded = upgraded at hdb
  subst hdb
  cases hm <;> exact ⟨fun table => by cases table <;> rfl, rfl⟩

theorem Mutation.Rewrites.routing {db db' : Database} {mutation : Mutation}
    (hm : mutation.Rewrites db db') (h : db.Complete) (participantId : Text) :
    db'.routing participantId =
      if mutation.participantId = participantId then
        (mutation.effect (db.routing participantId)).routing
      else db.routing participantId := by
  have hroutes := (hm.routes h).2
  have hholding : db'.routing participantId =
      ((mutation.carryOut db.routes).holding participantId).routing := by
    rw [← Database.routes_holding, hroutes]
    rfl
  rw [hholding, Store.carryOut_holding, Database.routes_holding]
  split <;> rfl

namespace Session

variable {α : Type} {s s' : Session}

/-- Nothing is left to do or undo, and the database carries out statements. -/
structure Resting (s : Session) : Prop extends Settled s where
  refusal : s.refusal = none

theorem Resting.begun (h : s.Resting) : s.begun.Resting := ⟨h.toSettled.begun, h.refusal⟩

theorem Resting.isCutOff (h : s.Resting) : s.isCutOff = false := by
  rw [Session.isCutOff, h.refusal]
  rfl

theorem Resting.rolledBack (h : s.Resting) : s.rolledBack.Resting := by
  refine ⟨h.toSettled.rolledBack, ?_⟩
  rw [h.toSettled.rolledBack_eq, reconnected, h.isCutOff]
  exact h.refusal

theorem perform_ok {mutation : Mutation} {changed : Bool} (hp : s.pending = [])
    (h : mutation.perform s = (.ok changed, s')) : s.Ends mutation changed s' := by
  cases mutation with
  | deleteGroup participantId deprovision => exact deleteGroup_ok hp h
  | createGroup group register =>
    obtain ⟨created, s₁, hcreate, hreturn⟩ := Call.ok_of_bind h
    cases hreturn
    exact (createGroup_ok hp hcreate).2
  | mergeEndpoint endpoint => exact mergeEndpoint_ok hp h
  | upsertRedirect redirect =>
    obtain ⟨stored?, s₁, hupsert, hreturn⟩ := Call.ok_of_bind h
    cases hreturn
    exact (upsertRedirect_ok hp hupsert).2
  | deleteBusinessCard card => exact deleteBusinessCard_ok hp h
  | upsertBusinessCard card =>
    obtain ⟨stored?, s₁, hupsert, hreturn⟩ := Call.ok_of_bind h
    cases hreturn
    exact (upsertBusinessCard_ok hp hupsert).2

theorem concluded_perform (mutation : Mutation) (hs : s.Settled) : Concluded s (mutation.perform s) := by
  cases mutation with
  | deleteGroup participantId deprovision => exact concluded_deleteGroup _ _ hs
  | createGroup group register => exact (concluded_createGroup group register hs).map _
  | mergeEndpoint endpoint => exact concluded_mergeEndpoint _ hs
  | upsertRedirect redirect => exact (concluded_upsertRedirect redirect hs).map _
  | deleteBusinessCard card => exact concluded_deleteBusinessCard _ hs
  | upsertBusinessCard card => exact (concluded_upsertBusinessCard card hs).map _

theorem Resting.perform (h : s.Resting) {mutation : Mutation} {reply : Reply}
    (hp : mutation.perform s = (reply.mapError .storage, s')) :
    s'.Resting ∧ if reply.isChange then mutation.Rewrites s.storage.current s'.storage.current
      else s'.storage.current = s.storage.current := by
  have hconcluded := concluded_perform mutation h.toSettled
  rw [hp] at hconcluded
  cases reply with
  | error e =>
    cases hconcluded
    exact ⟨h.rolledBack, congrArg Storage.current (keeps_rolledBack h.storage).storage⟩
  | ok changed =>
    obtain ⟨settled⟩ := hconcluded
    cases perform_ok h.pending hp with
    | idle => exact ⟨⟨settled, h.refusal⟩, rfl⟩
    | done rewrites => exact ⟨⟨settled, h.refusal⟩, rewrites⟩

theorem Resting.turn (h : s.Resting) (hc : s.storage.current.Complete) {turn : Turn}
    (hp : turn.mutation.perform s = (turn.reply.mapError .storage, s')) :
    s'.Resting ∧ s'.storage.current.Complete ∧ ∀ participantId,
      s'.storage.current.routing participantId =
        if turn.mutation.participantId = participantId then
          (turn.applied (s.storage.current.routing participantId)).routing
        else s.storage.current.routing participantId := by
  obtain ⟨hs', hleft⟩ := h.perform hp
  by_cases hchange : turn.reply.isChange = true
  · rw [if_pos hchange] at hleft
    refine ⟨hs', (hleft.routes hc).1, fun participantId => ?_⟩
    rw [hleft.routing hc, Turn.applied, Turn.isChange, if_pos hchange]
  · rw [if_neg hchange] at hleft
    rw [hleft]
    refine ⟨hs', hc, fun participantId => ?_⟩
    rw [Turn.applied, Turn.isChange, if_neg hchange]
    split <;> rfl

/-- A dialogue makes of the rows of a participant what its turns make of a holding. -/
theorem Resting.dialogue {turns : List Turn} (h : s.Resting) (hc : s.storage.current.Complete)
    (hd : Dialogue s turns s') :
    s'.Resting ∧ s'.storage.current.Complete ∧ ∀ participantId,
      s'.storage.current.routing participantId =
        ((s.storage.current.routing participantId).after
          (turns.filter fun t => t.mutation.participantId = participantId)).routing := by
  induction hd with
  | nil s => exact ⟨h, hc, fun _ => rfl⟩
  | @cons s t s' turn turns first rest ih =>
    obtain ⟨ht, htables, hturn⟩ := h.turn hc first
    obtain ⟨hs', hc', hrows⟩ := ih ht htables
    refine ⟨hs', hc', fun participantId => ?_⟩
    rw [hrows, hturn, List.filter_cons]
    by_cases hk : turn.mutation.participantId = participantId
    · rw [if_pos hk, if_pos (decide_eq_true hk), Holding.after_cons]
      exact Holding.routing_after _ rfl
    · rw [if_neg hk, if_neg (by simpa using hk)]

theorem Resting.lookupUser (h : s.Resting) {id : Text} {user? : Option User}
    (hasked : Registry.lookupUser id s = (.ok user?, s')) :
    s' = s.begun ∧ user? = Table.find? id (s.storage.current.users.getD []) := by
  obtain ⟨rows, hrows, rfl, rfl, -⟩ := selectKey_ok h.pending hasked
  change s.storage.current.users = some rows at hrows
  rw [hrows]
  exact ⟨rfl, rfl⟩

theorem Resting.consults (h : s.Resting) {defaultOwner : User} {inquiry : Inquiry α}
    {reading : Reading α} (hc : Consults defaultOwner inquiry s reading s') :
    s'.Resting ∧ s'.storage = s.storage ∧
      reading.1 = (inquiry.run fun id => s.storage.current.ownerOf defaultOwner id).2 := by
  induction hc with
  | done result s => exact ⟨h, rfl, rfl⟩
  | known asked rest ih =>
    obtain ⟨rfl, huser⟩ := h.lookupUser asked
    obtain ⟨hs', hstorage, hreading⟩ := ih h.begun
    refine ⟨hs', hstorage, hreading.trans ?_⟩
    rw [Inquiry.run, Database.ownerOf, ← huser]
    rfl
  | unknown asked rest ih =>
    obtain ⟨rfl, huser⟩ := h.lookupUser asked
    obtain ⟨hs', hstorage, hreading⟩ := ih h.begun
    refine ⟨hs', hstorage, hreading.trans ?_⟩
    rw [Inquiry.run, Database.ownerOf, ← huser]
    rfl

theorem Resting.reads (h : s.Resting) {reader : ElementReader} {defaultOwner : User}
    {elements : List Json} {readings : List (Reading GroupRecord)}
    (hr : Reads reader defaultOwner elements s readings s') :
    s'.Resting ∧ s'.storage = s.storage ∧ readings.map (·.1) = elements.map fun e =>
      ((reader.serviceGroup e).2.run fun id => s.storage.current.ownerOf defaultOwner id).2 := by
  induction hr with
  | nil s => exact ⟨h, rfl, rfl⟩
  | cons first rest ih =>
    obtain ⟨ht, hstorage, hreading⟩ := h.consults first
    obtain ⟨hs', hstorage', hreadings⟩ := ih ht
    refine ⟨hs', hstorage'.trans hstorage, ?_⟩
    rw [List.map_cons, List.map_cons, hreading, hreadings, hstorage]

end Session

end ParticipantRegistry
