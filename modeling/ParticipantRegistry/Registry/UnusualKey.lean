import ParticipantRegistry.Registry.Invocation
import ParticipantRegistry.Registry.Keyed

/-!
# Keys that are no texts

The registry in memory can be asked for a key that is no text. No record has such a key, so the call
finds nothing, and no record can be made with it: the registry stays as it is. Arrays and objects
cannot even be looked up.
-/

namespace ParticipantRegistry

/-- What a call with an unusual key comes to. -/
structure UnusualCall where
  listed : Option Json
  answer : Except CallError Json

namespace UnusualCall

def canBeKey : Json → Bool
  | .array _ | .object _ => false
  | _ => true

/-- A key that is no text names no record. -/
def refusal (name : Text) (key : Json) : Fault :=
  match Form.checkNaming name key with
  | .error (.blank field) => .blank field
  | _ => .notText

def emptyAnswer (call : Text) (key : Json) : Except CallError Json :=
  if call = "create_group" then .error (.fault (refusal "participant_id" key))
  else if call = "group_exists" || call = "delete_group" then .ok (.bool false)
  else if call = "list_endpoints" || call = "list_redirects" then .ok (.array [])
  else .ok .null

def listing? (call : Text) (key : Json) (arguments : Json.Members) : Option Json :=
  let flags (name : Text) : List Json :=
    if arguments.has name then [.bool (arguments.get name).isGiven] else []
  if call = "create_group" || call = "delete_group" || call = "upsert_business_card" then
    some (.array ([.string call, key] ++ flags "register" ++ flags "deprovision"))
  else none

def of? (call : Text) (arguments : Json.Members) : Option UnusualCall := do
  let name ← [("user_id" : Text), "participant_id"].find? arguments.has
  let key := arguments.get name
  if key.text?.isSome then none
  else
    let answer := if canBeKey key then emptyAnswer call key else .error (.fault .unsuitable)
    return { listed := listing? call key arguments, answer }

end UnusualCall

namespace Invocation

/-- Gives another reason for which a blank owner is refused, if the owner is not blank but no text. -/
def judgingOwner {σ : Type} (owner : Json) (call : Call σ Json) : Call σ Json := fun s =>
  match call s with
  | (.error (.fault (.blank field)), s) =>
    let isOther := field.name = "owner_id" && owner.isGiven && owner.text?.isNone
    (.error (.fault (if isOther then .notText else .blank field)), s)
  | done => done

end Invocation

namespace Store

/-- Adds a user by values of any type. An id that is no text makes no name, and a user with such an id
is not kept, for it can never be found. -/
def addUserBy (id name : Json) (store : Store) : Except CallError (Json × Store) :=
  match id with
  | .string id =>
    let (user, store) := store.addUser id name.text
    .ok (Json.ofTexts [user.id, user.displayName], store)
  | id =>
    if !name.isGiven then .error (.fault .notText)
    else if !UnusualCall.canBeKey id then .error (.fault .unsuitable)
    else .ok (.array [id, name], store)

end Store

end ParticipantRegistry
