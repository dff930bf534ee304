import ParticipantRegistry.Participant.View
import ParticipantRegistry.Registry.Keyed

/-!
# Registries as JSON values

A registry in memory is shown as its tables, and a mutation by its name and what it is about.
-/

namespace ParticipantRegistry

open Json (ofTexts)

def Mutation.toJson : Mutation → Json
  | .deleteGroup participantId deprovision =>
    .array [.string "delete_group", .string participantId, .bool deprovision]
  | .createGroup group register =>
    .array [.string "create_group", .string group.participantId, .bool register]
  | .mergeEndpoint endpoint => .array [.string "merge_endpoint", ofTexts (key endpoint).parts]
  | .upsertRedirect redirect => .array [.string "upsert_redirect", ofTexts (key redirect).parts]
  | .deleteBusinessCard card =>
    .array [.string "delete_business_card", .string card.participantId]
  | .upsertBusinessCard card =>
    .array [.string "upsert_business_card", .string card.participantId]

namespace Store

def toJson (store : Store) : Json :=
  .object
    [("users", .array (store.users.map fun u => ofTexts [u.id, u.displayName])),
      ("groups", .array (store.groups.map ServiceGroup.toJson)),
      ("endpoints", .array (store.endpoints.map Endpoint.toJson)),
      ("redirects", .array (store.redirects.map Redirect.toJson)),
      ("business_cards", .array (store.businessCards.map BusinessCard.toJson))]

end Store

end ParticipantRegistry
