import ParticipantRegistry.Registry.Invocation
import ParticipantRegistry.Relational.SessionRegistry

/-!
# Calls with values of any type

The registry in a database can be called by name with any JSON values in place of the arguments. A key
may be any value that stands for one, and the extension of a group any value that a cell can hold.
Endpoints, redirects and cards cannot be given in this way, nor the entities of a card: a card can
only be stored without any.
-/

namespace ParticipantRegistry

inductive LooseCallError where
  | unknown
  | notACall
  | arguments
  | notARecord
  deriving DecidableEq

namespace Session

def groupBy (participantId : Json) : Call Session (Option ServiceGroup) :=
  selectBy .groups "participant_id" participantId

def cardBy (participantId : Json) : Call Session (Option BusinessCard) := do
  match ← selectBy .businessCards "participant_id" participantId with
  | some row => return some (← cardOf row)
  | none => return none

def rowsBy {ρ : Type} (place : Place ρ) (owner : ρ → Text) (participantId : Json) :
    Call Session (List ρ) := do
  let rows ← select place []
  match ← ofExcept (Cell.ofJson participantId) with
  | some p => return rows.filter (owner · = p)
  | none => return []

def deleteGroupBy (participantId : Json) (deprovision : Bool) : Call Session Bool :=
  atomic ("Deleting service group " ++ participantId.display) do
    match ← groupBy participantId with
    | none => return false
    | some group =>
      let _ ← ofExcept (Cell.ofJson participantId)
      removeGroup group.participantId
      if deprovision then announce group.participantId (.deregister group.participantId)
      return true

def ensureNaming (name : Text) (value : Json) : Call Session Unit :=
  ofExcept ((Form.checkNaming name value).mapError fun e =>
    match e with
    | .blank field => .blank field
    | _ => .notText)

def insertGroup (participantId ownerId extension : Json) : Call Session Unit :=
  sending do
    let rows ← rowsOf .groups
    let participantId ← ofExcept (Cell.ofJson participantId)
    let ownerId ← ofExcept (Cell.ofJson ownerId)
    let extension ← ofExcept (Cell.ofJson extension)
    match participantId, ownerId with
    | some participantId, some ownerId =>
      setRows .groups (Table.put ⟨participantId, ownerId, extension⟩ rows)
    | _, _ => refuse .constraint

def createGroupBy (ownerId participantId extension : Json) (register : Bool) :
    Call Session Json :=
  atomic ("Creating service group " ++ participantId.display) do
    if (← userBy ownerId).isNone then throw (.storage (.unknownOwner ownerId))
    if (← groupBy participantId).isSome then throw (.storage (.alreadyStored participantId))
    ensureNaming "participant_id" participantId
    ensureNaming "owner_id" ownerId
    insertGroup participantId ownerId extension
    if register then announce participantId.text (.register participantId.text)
    return .object
      [("participant_id", participantId), ("owner_id", ownerId), ("extension", extension)]

def upsertCardBy (participantId entities : Json) : Call Session Json :=
  atomic ("Storing business card " ++ participantId.display) do
    match ← groupBy participantId with
    | none => return .null
    | some group =>
      let stored ← cardBy participantId
      let some parts := entities.parts? | throw (.fault .unsuitable)
      if stored.isNone then ensureNaming "participant_id" participantId
      if parts ≠ [] then sending (refuse .unstorable)
      let card : BusinessCard := ⟨group.participantId, []⟩
      if !stored.any fun stored => stored.holdsAlike [] then storeCard card
      return card.toJson

end Session

namespace LooseCall

open Invocation (optional listed)

/-- What has a name in the registry but is no call. -/
def attributes : List Text := ["session", "_directory_integration", "_registrar"]

def recordCalls : List Text := ["merge_endpoint", "upsert_redirect", "delete_business_card"]

def ofArguments (call : Text) (arguments : Json.Members) :
    Except LooseCallError (Call Session Json) :=
  let participantId := arguments.get "participant_id"
  if recordCalls.contains call then .error .notARecord
  else if call = "lookup_user" then
    .ok do return optional User.toJson (← Session.userBy (arguments.get "user_id"))
  else if call = "group_exists" then
    .ok do return .bool (← Session.groupBy participantId).isSome
  else if call = "get_business_card" then
    .ok do return optional BusinessCard.toJson (← Session.cardBy participantId)
  else if call = "list_endpoints" then
    .ok do
      let rows ← Session.rowsBy .endpoints (·.participantId) participantId
      return listed Endpoint.toJson (rows.mergeSort Endpoint.le)
  else if call = "list_redirects" then
    .ok do
      let rows ← Session.rowsBy .redirects (·.participantId) participantId
      return listed Redirect.toJson (rows.mergeSort Redirect.le)
  else if call = "delete_group" then
    .ok do
      return .bool
        (← Session.deleteGroupBy participantId (arguments.get "deprovision").isGiven)
  else if call = "create_group" then
    .ok
      (Session.createGroupBy (arguments.get "owner_id") participantId (arguments.get "extension")
        (arguments.get "register").isGiven)
  else if call = "upsert_business_card" then
    .ok (Session.upsertCardBy participantId (arguments.get "entities"))
  else ((Invocation.read call arguments).map Invocation.answer).mapError fun _ => .unknown

def read (call : Text) (values : List Json) (named : Json.Members) :
    Except LooseCallError (Call Session Json) := do
  if attributes.contains call then throw .notACall
  match Signature.find? call with
  | none => throw .unknown
  | some signature =>
    ofArguments call (← (signature.bind values named).mapError fun _ => .arguments)

end LooseCall

end ParticipantRegistry
