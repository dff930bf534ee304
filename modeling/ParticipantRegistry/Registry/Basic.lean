import ParticipantRegistry.Json.Display
import ParticipantRegistry.Participant.Card
import ParticipantRegistry.Participant.Routing
import ParticipantRegistry.Registry.StoredEntities

/-!
# The registry

A registry stores users, service groups with their endpoints and redirects, and business cards. Its
calls are told by the class `Registry` for any type of content: a call answers or fails, and leaves
some content behind. A call that could not be carried out fails with a `StorageError`; an exchange
goes on after it. Any other `Fault` ends what is going on.
-/

namespace ParticipantRegistry

inductive DatabaseError where
  | missingTable
  | tableExists
  | cannotOpen
  | notADatabase
  | constraint
  | readOnly
  | locked
  | connectionClosed
  /-- A value that no statement can carry. -/
  | unbindable
  /-- A value that a column does not take. -/
  | unstorable
  /-- A value that is no key of a table. -/
  | wrongKey
  | rollbackPending
  /-- A commit of the transaction was begun and did not succeed. -/
  | commitPending
  deriving DecidableEq

def DatabaseError.message : DatabaseError → Text
  | .missingTable => "no such table"
  | .tableExists => "table already exists"
  | .cannotOpen => "unable to open database file"
  | .notADatabase => "file is not a database"
  | .constraint => "constraint failed"
  | .readOnly => "attempt to write a readonly database"
  | .locked => "database is locked"
  | .connectionClosed => "the connection is closed"
  | .unbindable => "a value has a type that no statement can carry"
  | .unstorable => "a value has a type that the column does not take"
  | .wrongKey => "a value is no key of the table"
  | .rollbackPending => "the transaction has been rolled back"
  | .commitPending => "a commit of the transaction has begun"

inductive Operation where
  | deleteGroup
  | createGroup
  | mergeEndpoint
  | upsertRedirect
  | getBusinessCard
  | deleteBusinessCard
  | upsertBusinessCard
  | listEndpoints
  | listRedirects
  deriving DecidableEq

def Operation.name : Operation → Text
  | .deleteGroup => "delete_group"
  | .createGroup => "create_group"
  | .mergeEndpoint => "merge_endpoint"
  | .upsertRedirect => "upsert_redirect"
  | .getBusinessCard => "get_business_card"
  | .deleteBusinessCard => "delete_business_card"
  | .upsertBusinessCard => "upsert_business_card"
  | .listEndpoints => "list_endpoints"
  | .listRedirects => "list_redirects"

namespace Operation

def all : List Operation :=
  [.deleteGroup, .createGroup, .mergeEndpoint, .upsertRedirect, .getBusinessCard,
    .deleteBusinessCard, .upsertBusinessCard, .listEndpoints, .listRedirects]

def ofText? (t : Text) : Option Operation := all.find? (·.name = t)

end Operation

inductive StorageError where
  | unavailable (reason : Text)
  | failed (operation : Operation) (participantId : Text)
  | present (participantId : Text)
  | unknownOwner (ownerId : Json)
  | alreadyStored (participantId : Json)
  | registration (participantId : Text)
  | statement (action : Text) (cause : DatabaseError)
  deriving DecidableEq

def StorageError.message : StorageError → Text
  | .unavailable reason => reason
  | .failed operation participantId => operation.name ++ " failed for " ++ participantId
  | .present participantId => "Service group " ++ participantId ++ " already exists"
  | .unknownOwner ownerId => "Unknown owner " ++ ownerId.quoted
  | .alreadyStored participantId => "Service group " ++ participantId.quoted ++ " already exists"
  | .registration participantId => "Locator rejected " ++ participantId
  | .statement action _ => action ++ " failed"

/-- What no caller of a registry contains. -/
inductive Fault where
  | blank (field : BlankField)
  | database (error : DatabaseError)
  | notUnicode
  | tooLarge
  /-- A value of another type than the one that is asked for. -/
  | unsuitable
  | notText
  | stored (error : StoredEntityError)
  | noDefaultOwner
  deriving DecidableEq

def Fault.message : Fault → Text
  | .blank field => field.message
  | .database error => error.message
  | .notUnicode => "surrogates not allowed"
  | .tooLarge => "an integer is too large for the database"
  | .unsuitable => "a value has another type than the one that is asked for"
  | .notText => "a value has to be a text"
  | .stored error => error.message
  | .noDefaultOwner => "there is no default owner"

inductive CallError where
  | storage (error : StorageError)
  | fault (fault : Fault)
  deriving DecidableEq

def CallError.message : CallError → Text
  | .storage e => e.message
  | .fault e => e.message

abbrev Call (σ α : Type) := ExceptT CallError (StateM σ) α

class Registry (σ : Type) where
  lookupUser : Text → Call σ (Option User)
  groupExists : Text → Call σ Bool
  /-- Deletes a group with everything that belongs to it; tells whether there was one. -/
  deleteGroup (participantId : Text) (deprovision : Bool) : Call σ Bool
  createGroup (group : ServiceGroup) (register : Bool) : Call σ ServiceGroup
  mergeEndpoint : Endpoint → Call σ Bool
  upsertRedirect : Redirect → Call σ (Option Redirect)
  businessCard? : Text → Call σ (Option BusinessCard)
  deleteBusinessCard : BusinessCard → Call σ Bool
  upsertBusinessCard : BusinessCard → Call σ (Option BusinessCard)
  directoryIntegration : σ → Bool
  serviceGroups : Call σ (List ServiceGroup)
  endpoints : Text → Call σ (List Endpoint)
  redirects : Text → Call σ (List Redirect)
  serviceGroupKeys : Call σ (List Text)
  businessCardKeys : Call σ (List Text)

inductive Mutation where
  | deleteGroup (participantId : Text) (deprovision : Bool)
  | createGroup (group : ServiceGroup) (register : Bool)
  | mergeEndpoint (endpoint : Endpoint)
  | upsertRedirect (redirect : Redirect)
  | deleteBusinessCard (card : BusinessCard)
  | upsertBusinessCard (card : BusinessCard)
  deriving DecidableEq

namespace Mutation

def participantId : Mutation → Text
  | .deleteGroup participantId _ => participantId
  | .createGroup group _ => group.participantId
  | .mergeEndpoint endpoint => endpoint.participantId
  | .upsertRedirect redirect => redirect.participantId
  | .deleteBusinessCard card => card.participantId
  | .upsertBusinessCard card => card.participantId

/-- Makes the call and tells whether the registry reports a change. -/
def perform {σ : Type} [Registry σ] : Mutation → Call σ Bool
  | .deleteGroup participantId deprovision => Registry.deleteGroup participantId deprovision
  | .createGroup group register => do
    let _ ← Registry.createGroup group register
    return true
  | .mergeEndpoint endpoint => Registry.mergeEndpoint endpoint
  | .upsertRedirect redirect => return (← Registry.upsertRedirect redirect).isSome
  | .deleteBusinessCard card => Registry.deleteBusinessCard card
  | .upsertBusinessCard card => return (← Registry.upsertBusinessCard card).isSome

end Mutation

/-- Content of a registry together with the mutations it was asked for, oldest first. -/
structure Traced (σ : Type) where
  content : σ
  calls : List Mutation

namespace Traced

variable {σ α : Type}

def inside (call : Call σ α) : Call (Traced σ) α := fun s =>
  match call s.content with
  | (answer, content) => (answer, ⟨content, s.calls⟩)

def noting (mutation : Mutation) (call : Call σ α) : Call (Traced σ) α := fun s =>
  match call s.content with
  | (answer, content) => (answer, ⟨content, s.calls ++ [mutation]⟩)

instance [Registry σ] : Registry (Traced σ) where
  lookupUser id := inside (Registry.lookupUser id)
  groupExists participantId := inside (Registry.groupExists participantId)
  deleteGroup participantId deprovision :=
    noting (.deleteGroup participantId deprovision) (Registry.deleteGroup participantId deprovision)
  createGroup group register :=
    noting (.createGroup group register) (Registry.createGroup group register)
  mergeEndpoint endpoint := noting (.mergeEndpoint endpoint) (Registry.mergeEndpoint endpoint)
  upsertRedirect redirect := noting (.upsertRedirect redirect) (Registry.upsertRedirect redirect)
  businessCard? participantId := inside (Registry.businessCard? participantId)
  deleteBusinessCard card := noting (.deleteBusinessCard card) (Registry.deleteBusinessCard card)
  upsertBusinessCard card := noting (.upsertBusinessCard card) (Registry.upsertBusinessCard card)
  directoryIntegration s := Registry.directoryIntegration s.content
  serviceGroups := inside Registry.serviceGroups
  endpoints participantId := inside (Registry.endpoints participantId)
  redirects participantId := inside (Registry.redirects participantId)
  serviceGroupKeys := inside Registry.serviceGroupKeys
  businessCardKeys := inside Registry.businessCardKeys

end Traced

namespace Table

variable {α κ : Type} [Keyed α κ] [DecidableEq κ]

def find? (k : κ) (rows : List α) : Option α := rows.find? fun row => key row = k

def hasKey (k : κ) (rows : List α) : Bool := rows.any fun row => key row = k

def put (record : α) : List α → List α
  | [] => [record]
  | row :: rows => if key row = key record then record :: rows else row :: put record rows

def putAll (records rows : List α) : List α := records.foldl (fun rows r => put r rows) rows

def erase (k : κ) (rows : List α) : List α := rows.filter fun row => key row ≠ k

/-- Stores a record at the end, in place of any earlier one with its key. -/
def putLast (record : α) (rows : List α) : List α := erase (key record) rows ++ [record]

def keys (rows : List α) : List κ := rows.map key

end Table

end ParticipantRegistry
