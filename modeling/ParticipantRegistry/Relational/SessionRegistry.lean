import ParticipantRegistry.Relational.Session

/-!
# The registry in a database

Every call that changes something is one transaction, registration with the outside included: a group
that cannot be registered is not created, and one that cannot be taken off the register is not
deleted. Deleting a group removes everything that belongs to it.
-/

namespace ParticipantRegistry

namespace Session

variable {ρ κ : Type}

def announce (participantId : Text) (registration : Registration) : Call Session Unit := do
  match (← get).registrar with
  | none => return
  | some registrar =>
    if registrar.rejected.contains participantId then
      throw (.storage (.registration participantId))
    let registrar := { registrar with done := registrar.done ++ [registration] }
    modify fun s => { s with registrar := some registrar }

def findGroup (participantId : Text) : Call Session (Option ServiceGroup) :=
  selectKey .groups participantId [participantId]

def cardOf (row : CardRow) : Call Session BusinessCard :=
  match StoredEntities.decode row.entities with
  | .ok entities => return ⟨row.participantId, entities⟩
  | .error e => throw (.fault (.stored e))

def findCard (participantId : Text) : Call Session (Option BusinessCard) := do
  match ← selectKey .businessCards participantId [participantId] with
  | some row => return some (← cardOf row)
  | none => return none

def removeGroup (participantId : Text) : Call Session Unit := do
  remove .endpoints (·.participantId = participantId)
  remove .redirects (·.participantId = participantId)
  remove .businessCards (·.participantId = participantId)
  remove .groups (·.participantId = participantId)

def deleteGroup (participantId : Text) (deprovision : Bool) : Call Session Bool :=
  atomic ("Deleting service group " ++ participantId) do
    match ← findGroup participantId with
    | none => return false
    | some _ =>
      removeGroup participantId
      if deprovision then announce participantId (.deregister participantId)
      return true

def createGroup (group : ServiceGroup) (register : Bool) : Call Session ServiceGroup :=
  atomic ("Creating service group " ++ group.participantId) do
    if (← lookupUser group.ownerId).isNone then throw (.storage (.unknownOwner (.string group.ownerId)))
    if (← findGroup group.participantId).isSome then
      throw (.storage (.alreadyStored (.string group.participantId)))
    match group.check with
    | .error field => throw (.fault (.blank field))
    | .ok () =>
      store .groups group ([group.participantId, group.ownerId] ++ group.extension.toList)
      if register then announce group.participantId (.register group.participantId)
      return group

def endpointTexts (e : Endpoint) : List Text :=
  (key e).parts ++ [e.endpointUrl] ++ e.certificate.toList ++ e.serviceDescription.toList ++
    e.technicalContactUrl.toList ++ e.extension.toList

def redirectTexts (r : Redirect) : List Text :=
  (key r).parts ++ [r.targetHref] ++ r.subjectUniqueIdentifier.toList ++ r.certificate.toList ++
    r.extension.toList

/-- The row that is left of a stored endpoint, if there is one: it keeps its key and takes over what
else the endpoint holds. -/
def endpointOver (endpoint : Endpoint) : Option Endpoint → Endpoint
  | none => endpoint
  | some stored =>
    { stored with
      endpointUrl := endpoint.endpointUrl
      certificate := endpoint.certificate
      serviceDescription := endpoint.serviceDescription
      technicalContactUrl := endpoint.technicalContactUrl
      extension := endpoint.extension }

def redirectOver (redirect : Redirect) : Option Redirect → Redirect
  | none => redirect
  | some stored =>
    { stored with
      targetHref := redirect.targetHref
      subjectUniqueIdentifier := redirect.subjectUniqueIdentifier
      certificate := redirect.certificate
      extension := redirect.extension }

def storeOver [Keyed ρ κ] [DecidableEq κ] [DecidableEq ρ] (place : Place ρ) (stored? : Option ρ)
    (row : ρ) (values : List Text) : Call Session Unit := do
  if stored? ≠ some row then store place row values

def mergeEndpoint (endpoint : Endpoint) : Call Session Bool :=
  atomic ("Merging endpoint " ++ Text.quotedTuple (key endpoint).parts) do
    match ← findGroup endpoint.participantId with
    | none => return false
    | some _ =>
      let stored? ← selectKey .endpoints (key endpoint) (key endpoint).parts
      let row := endpointOver endpoint stored?
      storeOver .endpoints stored? row (endpointTexts row)
      return true

def upsertRedirect (redirect : Redirect) : Call Session (Option Redirect) :=
  atomic ("Storing redirect " ++ Text.quotedTuple (key redirect).parts) do
    match ← findGroup redirect.participantId with
    | none => return none
    | some _ =>
      let stored? ← selectKey .redirects (key redirect) (key redirect).parts
      let row := redirectOver redirect stored?
      storeOver .redirects stored? row (redirectTexts row)
      return some row

def deleteBusinessCard (card : BusinessCard) : Call Session Bool :=
  atomic ("Deleting business card " ++ card.participantId) do
    match ← findCard card.participantId with
    | none => return false
    | some _ =>
      remove .businessCards (·.participantId = card.participantId)
      return true

def storeCard (card : BusinessCard) : Call Session Unit :=
  let row : CardRow := ⟨card.participantId, StoredEntities.encode card.entities⟩
  store .businessCards row [row.participantId, row.entities]

/-- Entities that are alike to the stored ones are not written again. -/
def upsertBusinessCard (card : BusinessCard) : Call Session (Option BusinessCard) :=
  atomic ("Storing business card " ++ card.participantId) do
    match ← findGroup card.participantId with
    | none => return none
    | some _ =>
      match ← findCard card.participantId with
      | some stored => if !stored.holdsAlike card.entities then storeCard card
      | none =>
        match card.check with
        | .error field => throw (.fault (.blank field))
        | .ok () => storeCard card
      return some card

def listGroups : Call Session (List ServiceGroup) :=
  return (← select .groups []).mergeSort ServiceGroup.le

def listEndpoints (participantId : Text) : Call Session (List Endpoint) :=
  return (← select .endpoints [participantId]).filter (·.participantId = participantId)

def listRedirects (participantId : Text) : Call Session (List Redirect) :=
  return (← select .redirects [participantId]).filter (·.participantId = participantId)

instance : Registry Session where
  lookupUser := lookupUser
  groupExists participantId := return (← findGroup participantId).isSome
  deleteGroup := deleteGroup
  createGroup := createGroup
  mergeEndpoint := mergeEndpoint
  upsertRedirect := upsertRedirect
  businessCard? := findCard
  deleteBusinessCard := deleteBusinessCard
  upsertBusinessCard := upsertBusinessCard
  directoryIntegration s := s.directoryIntegration
  serviceGroups := listGroups
  endpoints := listEndpoints
  redirects := listRedirects
  serviceGroupKeys := return Table.keys (← select .groups [])
  businessCardKeys := return Table.keys (← select .businessCards [])

end Session

end ParticipantRegistry
