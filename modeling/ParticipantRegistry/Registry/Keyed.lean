import ParticipantRegistry.Registry.Basic
import ParticipantRegistry.Text.TitleCase

/-!
# The registry in memory

A `Store` keeps every kind of record in a table. For trials it can be told to fail an operation for
some participants, or to answer that the operation changed nothing without carrying it out.
-/

namespace ParticipantRegistry

/-- An operation that goes wrong for a participant. -/
structure Trial where
  operation : Operation
  participantId : Text
  deriving DecidableEq

def Trial.of (operation : Text) (participantIds : List Text) : List Trial :=
  match Operation.ofText? operation with
  | some operation => participantIds.map fun participantId => ⟨operation, participantId⟩
  | none => []

structure Store where
  users : List User := []
  groups : List ServiceGroup := []
  endpoints : List Endpoint := []
  redirects : List Redirect := []
  businessCards : List BusinessCard := []
  directoryIntegration : Bool := true
  failing : List Trial := []
  unchanging : List Trial := []
  deriving DecidableEq

namespace Store

/-- Fails if the operation is to fail for the participant; else tells whether it is to be carried
out. -/
def tryOut (operation : Operation) (participantId : Text) : Call Store Bool := do
  let store ← get
  if store.failing.contains ⟨operation, participantId⟩ then
    throw (.storage (.failed operation participantId))
  return !store.unchanging.contains ⟨operation, participantId⟩

/-- A user without a name is called by the id. -/
def addUser (id name : Text) (store : Store) : User × Store :=
  let user : User := ⟨id, if name = [] then id.titled else name⟩
  (user, { store with users := Table.put user store.users })

def seed (group : ServiceGroup) (endpoints : List Endpoint) (redirects : List Redirect)
    (card? : Option BusinessCard) (store : Store) : Store :=
  { store with
    groups := Table.put group store.groups
    endpoints := Table.putAll endpoints store.endpoints
    redirects := Table.putAll redirects store.redirects
    businessCards := Table.putAll card?.toList store.businessCards }

def hasGroup (participantId : Text) (store : Store) : Bool := Table.hasKey participantId store.groups

def withoutGroup (participantId : Text) (store : Store) : Store :=
  { store with
    groups := Table.erase participantId store.groups
    endpoints := store.endpoints.filter (·.participantId ≠ participantId)
    redirects := store.redirects.filter (·.participantId ≠ participantId)
    businessCards := Table.erase participantId store.businessCards }

def deleteGroup (participantId : Text) : Call Store Bool := do
  if !(← tryOut .deleteGroup participantId) then return false
  if !(← get).hasGroup participantId then return false
  modify (·.withoutGroup participantId)
  return true

def createGroup (group : ServiceGroup) : Call Store ServiceGroup := do
  let _ ← tryOut .createGroup group.participantId
  if (← get).hasGroup group.participantId then throw (.storage (.present group.participantId))
  match group.check with
  | .error field => throw (.fault (.blank field))
  | .ok () =>
    modify fun store => { store with groups := Table.put group store.groups }
    return group

def mergeEndpoint (endpoint : Endpoint) : Call Store Bool := do
  if !(← tryOut .mergeEndpoint endpoint.participantId) then return false
  if !(← get).hasGroup endpoint.participantId then return false
  modify fun store => { store with endpoints := Table.put endpoint store.endpoints }
  return true

def upsertRedirect (redirect : Redirect) : Call Store (Option Redirect) := do
  if !(← tryOut .upsertRedirect redirect.participantId) then return none
  if !(← get).hasGroup redirect.participantId then return none
  modify fun store => { store with redirects := Table.put redirect store.redirects }
  return some redirect

def businessCard? (participantId : Text) : Call Store (Option BusinessCard) := do
  let _ ← tryOut .getBusinessCard participantId
  return Table.find? participantId (← get).businessCards

def deleteBusinessCard (card : BusinessCard) : Call Store Bool := do
  if !(← tryOut .deleteBusinessCard card.participantId) then return false
  let present := Table.hasKey card.participantId (← get).businessCards
  modify fun store =>
    { store with businessCards := Table.erase card.participantId store.businessCards }
  return present

def upsertBusinessCard (card : BusinessCard) : Call Store (Option BusinessCard) := do
  if !(← tryOut .upsertBusinessCard card.participantId) then return none
  if !(← get).hasGroup card.participantId then return none
  match card.check with
  | .error field => throw (.fault (.blank field))
  | .ok () =>
    modify fun store => { store with businessCards := Table.put card store.businessCards }
    return some card

def endpointsOf (participantId : Text) : Call Store (List Endpoint) := do
  let _ ← tryOut .listEndpoints participantId
  return (← get).endpoints.filter (·.participantId = participantId)

def redirectsOf (participantId : Text) : Call Store (List Redirect) := do
  let _ ← tryOut .listRedirects participantId
  return (← get).redirects.filter (·.participantId = participantId)

instance : Registry Store where
  lookupUser id := return Table.find? id (← get).users
  groupExists participantId := return (← get).hasGroup participantId
  deleteGroup participantId _ := deleteGroup participantId
  createGroup group _ := createGroup group
  mergeEndpoint := mergeEndpoint
  upsertRedirect := upsertRedirect
  businessCard? := businessCard?
  deleteBusinessCard := deleteBusinessCard
  upsertBusinessCard := upsertBusinessCard
  directoryIntegration store := store.directoryIntegration
  serviceGroups := return (← get).groups
  endpoints := endpointsOf
  redirects := redirectsOf
  serviceGroupKeys := return Table.keys (← get).groups
  businessCardKeys := return Table.keys (← get).businessCards

end Store

end ParticipantRegistry
