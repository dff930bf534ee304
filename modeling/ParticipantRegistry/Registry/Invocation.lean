import ParticipantRegistry.Json.Members
import ParticipantRegistry.Participant.View
import ParticipantRegistry.Registry.Basic

/-!
# Calls by name

A call of a registry can be given by its name and its arguments as JSON values, some of them by their
place. Its answer is a JSON value again; records are listed in the order of their keys.
-/

namespace ParticipantRegistry

open Json (ofTexts)

inductive Invocation where
  | lookupUser (id : Text)
  | groupExists (participantId : Text)
  | businessCard (participantId : Text)
  | directoryIntegration
  | serviceGroups
  | endpoints (participantId : Text)
  | redirects (participantId : Text)
  | serviceGroupKeys
  | businessCardKeys
  | mutate (mutation : Mutation)
  deriving DecidableEq

/-- The arguments of a call: those that may be given by place, and those that are given by name. -/
structure Signature where
  call : Text
  places : List Text := []
  keywords : List Text := []

namespace Signature

def all : List Signature :=
  [{ call := "lookup_user", places := ["user_id"] },
    { call := "group_exists", places := ["participant_id"] },
    { call := "get_business_card", places := ["participant_id"] },
    { call := "directory_integration_enabled" },
    { call := "list_service_groups" },
    { call := "list_endpoints", places := ["participant_id"] },
    { call := "list_redirects", places := ["participant_id"] },
    { call := "service_group_keys" },
    { call := "business_card_keys" },
    { call := "delete_group", places := ["participant_id"], keywords := ["deprovision"] },
    { call := "create_group", places := ["owner_id", "participant_id", "extension"],
      keywords := ["register"] },
    { call := "merge_endpoint", places := ["endpoint"] },
    { call := "upsert_redirect", places := ["redirect"] },
    { call := "delete_business_card", places := ["card"] },
    { call := "upsert_business_card", places := ["participant_id", "entities"] }]

def find? (call : Text) : Option Signature := all.find? (·.call = call)

def names (s : Signature) : List Text := s.places ++ s.keywords

def bind (s : Signature) (values : List Json) (named : Json.Members) :
    Except FormError Json.Members :=
  let arguments := s.places.zip values ++ named
  let isGivenOnce (name : Text) : Bool := (Json.names arguments).count name = 1
  if values.length ≤ s.places.length ∧ arguments.length = s.names.length ∧
      s.names.all isGivenOnce then .ok arguments
  else .error .otherFields

end Signature

namespace Invocation

def read (call : Text) (arguments : Json.Members) : Except FormError Invocation := do
  let participantId := arguments.text "participant_id"
  if call = "lookup_user" then return .lookupUser (arguments.text "user_id")
  else if call = "group_exists" then return .groupExists participantId
  else if call = "get_business_card" then return .businessCard participantId
  else if call = "directory_integration_enabled" then return .directoryIntegration
  else if call = "list_service_groups" then return .serviceGroups
  else if call = "list_endpoints" then return .endpoints participantId
  else if call = "list_redirects" then return .redirects participantId
  else if call = "service_group_keys" then return .serviceGroupKeys
  else if call = "business_card_keys" then return .businessCardKeys
  else if call = "delete_group" then
    return .mutate (.deleteGroup participantId (arguments.get "deprovision").isGiven)
  else if call = "create_group" then
    let group : ServiceGroup :=
      ⟨participantId, arguments.text "owner_id", arguments.text? "extension"⟩
    return .mutate (.createGroup group (arguments.get "register").isGiven)
  else if call = "merge_endpoint" then
    return .mutate (.mergeEndpoint (← Endpoint.ofJson (arguments.get "endpoint")))
  else if call = "upsert_redirect" then
    return .mutate (.upsertRedirect (← Redirect.ofJson (arguments.get "redirect")))
  else if call = "delete_business_card" then
    return .mutate (.deleteBusinessCard (← BusinessCard.ofJson (arguments.get "card")))
  else if call = "upsert_business_card" then
    let entities ← (arguments.items "entities").mapM BusinessEntity.ofJson
    return .mutate (.upsertBusinessCard ⟨participantId, entities⟩)
  else throw .otherFields

variable {σ : Type} [Registry σ]

def optional {α : Type} (toJson : α → Json) : Option α → Json
  | some a => toJson a
  | none => .null

def listed {α : Type} (toJson : α → Json) (values : List α) : Json := .array (values.map toJson)

def answerMutation : Mutation → Call σ Json
  | .deleteGroup participantId deprovision =>
    return .bool (← Registry.deleteGroup participantId deprovision)
  | .createGroup group register => return (← Registry.createGroup group register).toJson
  | .mergeEndpoint endpoint => return .bool (← Registry.mergeEndpoint endpoint)
  | .upsertRedirect redirect =>
    return optional Redirect.toJson (← Registry.upsertRedirect redirect)
  | .deleteBusinessCard card => return .bool (← Registry.deleteBusinessCard card)
  | .upsertBusinessCard card =>
    return optional BusinessCard.toJson (← Registry.upsertBusinessCard card)

def answer : Invocation → Call σ Json
  | .lookupUser id => return optional User.toJson (← Registry.lookupUser id)
  | .groupExists participantId => return .bool (← Registry.groupExists participantId)
  | .businessCard participantId =>
    return optional BusinessCard.toJson (← Registry.businessCard? participantId)
  | .directoryIntegration => return .bool (Registry.directoryIntegration (← get))
  | .serviceGroups => return listed ServiceGroup.toJson (← Registry.serviceGroups)
  | .endpoints participantId => do
    let endpoints ← Registry.endpoints participantId
    return listed Endpoint.toJson (endpoints.mergeSort Endpoint.le)
  | .redirects participantId => do
    let redirects ← Registry.redirects participantId
    return listed Redirect.toJson (redirects.mergeSort Redirect.le)
  | .serviceGroupKeys => return ofTexts (Text.sort (← Registry.serviceGroupKeys))
  | .businessCardKeys => return ofTexts (Text.sort (← Registry.businessCardKeys))
  | .mutate mutation => answerMutation mutation

end Invocation

end ParticipantRegistry
