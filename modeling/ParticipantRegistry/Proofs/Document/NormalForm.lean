import ParticipantRegistry.Document.File
import ParticipantRegistry.Proofs.Document.Elements

/-!
# Documents in normal form

A document is in normal form if all its groups and cards are. It is written without problems, its file is
opened again as the elements that were written, and every element is read as the record that it was made
from.
-/

namespace ParticipantRegistry

open Document Document.Checked
open Json (Plain)

def Endpoint.element (e : Endpoint) : EndpointElement where
  documentType := e.documentType
  process := e.process
  transportProfile := e.transportProfile
  endpointUrl := e.endpointUrl
  certificate := e.certificate
  serviceDescription := e.serviceDescription
  technicalContactUrl := e.technicalContactUrl
  extension := e.extension

def Redirect.element (r : Redirect) : RedirectElement where
  documentType := r.documentType
  targetHref := r.targetHref
  subjectUniqueIdentifier := r.subjectUniqueIdentifier
  certificate := r.certificate
  extension := r.extension

theorem Endpoint.map_toEndpoint_element {participantId : Text} {endpoints : List Endpoint}
    (h : ∀ e ∈ endpoints, e.participantId = participantId) :
    (endpoints.map Endpoint.element).map (·.toEndpoint participantId) = endpoints := by
  rw [List.map_map]
  refine (List.map_congr_left fun e he => ?_).trans (List.map_id _)
  exact congrArg e.element.toEndpoint (h e he).symm

theorem Redirect.map_toRedirect_element {participantId : Text} {redirects : List Redirect}
    (h : ∀ r ∈ redirects, r.participantId = participantId) :
    (redirects.map Redirect.element).map (·.toRedirect participantId) = redirects := by
  rw [List.map_map]
  refine (List.map_congr_left fun r hr => ?_).trans (List.map_id _)
  exact congrArg r.element.toRedirect (h r hr).symm

theorem Endpoint.draft_gives (e : Endpoint) : Gives e.draft e.element.fields := by
  refine gives_of_subset ?_ (List.subset_cons_self _ _)
  change List.Nodup (("participant_id" : Text) :: endpointNames)
  decide

theorem Redirect.draft_gives (r : Redirect) : Gives r.draft r.element.fields := by
  refine gives_of_subset ?_ (List.subset_cons_self _ _)
  change List.Nodup (("participant_id" : Text) :: redirectNames)
  decide

namespace ExportedGroup

variable {g : ExportedGroup}

def element (g : ExportedGroup) : GroupElement where
  participantId := g.group.participantId
  ownerId := g.group.ownerId
  extension := g.group.extension
  endpoints := g.endpoints.map Endpoint.element
  redirects := g.redirects.map Redirect.element

def record (g : ExportedGroup) : GroupRecord := ⟨g.group, g.endpoints, g.redirects⟩

/-- A group with its children that the format reads as it is. -/
structure Normal (g : ExportedGroup) : Prop where
  element : g.element.Normal
  checked : g.record.check = .ok ()
  endpoints : ∀ e ∈ g.endpoints, e.participantId = g.group.participantId
  redirects : ∀ r ∈ g.redirects, r.participantId = g.group.participantId

theorem Normal.toRecord (h : g.Normal) {owner : User} (ho : owner.id = g.group.ownerId) :
    g.element.toRecord owner = g.record := by
  have hgroup : (⟨g.group.participantId, owner.id, g.group.extension⟩ : ServiceGroup) = g.group := by
    rw [ho]
  change (⟨⟨g.group.participantId, owner.id, g.group.extension⟩, _, _⟩ : GroupRecord) = _
  rw [hgroup]
  exact congrArg₂ (GroupRecord.mk g.group) (Endpoint.map_toEndpoint_element h.endpoints)
    (Redirect.map_toRedirect_element h.redirects)

theorem Normal.normalGroup (h : g.Normal) : Document.normalGroup g.draft = .ok g.element := by
  have hendpoints : (g.endpoints.map Endpoint.draft).mapM normalEndpoint =
      .ok (g.endpoints.map Endpoint.element) := Json.mapM_eq_ok fun e he => by
    rw [normalEndpoint, (h.element.endpoints _ (List.mem_map_of_mem he)).checkMembers e.draft_gives]
    rfl
  have hredirects : (g.redirects.map Redirect.draft).mapM normalRedirect =
      .ok (g.redirects.map Redirect.element) := Json.mapM_eq_ok fun r hr => by
    rw [normalRedirect, (h.element.redirects _ (List.mem_map_of_mem hr)).checkMembers r.draft_gives]
    rfl
  have hgives : Gives g.group.draft g.element.ownFields := by
    refine gives_of_subset ?_ (List.Subset.refl _)
    change List.Nodup (["participant_id", "owner_id", "extension"] : List Text)
    decide
  rw [Document.normalGroup, draft, hendpoints]
  change (do
    let redirects ← (g.redirects.map Redirect.draft).mapM normalRedirect
    (checkGroupMembers (valid g.element.endpoints) (valid redirects) g.group.draft).result) = _
  rw [hredirects]
  exact congrArg Checked.result (h.element.checkMembers hgives)

theorem Normal.read (h : g.Normal) {users : Text → User}
    (hu : (users g.group.ownerId).id = g.group.ownerId) :
    (readServiceGroup g.element.toJson).2.run users = ([g.group.ownerId], .ok g.record) := by
  rw [readServiceGroup, h.element.check]
  have hrecord := h.toRecord hu
  simp only [valid, Inquiry.run]
  rw [show g.element.ownerId = g.group.ownerId from rfl, hrecord, h.checked]
  rfl

end ExportedGroup

/-- What is found in a country code that has become longer in capitals. -/
def Document.longCountryCode : List Problem := [⟨[.member "country_code"], .tooLong⟩]

theorem BusinessEntity.Taken.normalEntity {e : BusinessEntity} (h : e.Taken) :
    Document.normalEntity (.object e.draft) =
      if e.countryCode.length = 2 then .ok e else .error longCountryCode := by
  have hidentifiers : (e.identifiers.map BusinessIdentifier.pair).mapM normalIdentifier =
      .ok (e.identifiers.map id) := Json.mapM_eq_ok fun i hi =>
    congrArg Checked.result (checkIdentifierMembers_valid (h.identifiers i hi))
  rw [List.map_id] at hidentifiers
  change (do
    let identifiers ← (e.identifiers.map BusinessIdentifier.pair).mapM normalIdentifier
    (checkEntityMembers (valid identifiers) e.draft).result) = _
  rw [hidentifiers]
  have hgives : Gives e.draft e.draft := gives_of_subset (e.nodup_fields _) (List.Subset.refl _)
  change (checkEntityMembers (valid e.identifiers) e.draft).result = _
  rw [h.checkMembers hgives]
  by_cases htwo : e.countryCode.length = 2
  · rw [if_pos htwo, if_pos htwo]
    rfl
  · rw [if_neg htwo, if_neg htwo]
    rfl

theorem BusinessCard.Taken.normalCard {card : BusinessCard} (h : card.Taken) :
    Document.normalCard card.draft =
      if ∀ e ∈ card.entities, e.countryCode.length = 2 then .ok card else .error longCountryCode := by
  have hentities : (card.entities.map fun e : BusinessEntity => Json.object e.draft).mapM normalEntity =
      if ∀ e ∈ card.entities, e.countryCode.length = 2 then .ok (card.entities.map id)
      else .error longCountryCode :=
    Json.mapM_eq_ite fun e he => (h.entities e he).normalEntity
  rw [List.map_id] at hentities
  have hgives : Gives card.draft [("participant_id", .string card.participantId)] := by
    refine gives_of_subset ?_ (List.cons_subset_cons _ (List.nil_subset _))
    change cardNames.Nodup
    decide
  change (do
    let entities ← (card.entities.map fun e : BusinessEntity => Json.object e.draft).mapM normalEntity
    (checkCardMembers (valid entities) card.draft).result) = _
  rw [hentities]
  by_cases htwo : ∀ e ∈ card.entities, e.countryCode.length = 2
  · rw [if_pos htwo, if_pos htwo]
    exact congrArg Checked.result (h.checkMembers hgives)
  · rw [if_neg htwo, if_neg htwo]
    rfl

namespace BusinessCard.Normal

variable {card : BusinessCard}

theorem normalCard (h : card.Normal) : Document.normalCard card.draft = .ok card := by
  rw [h.taken.normalCard, if_pos fun e he => (h.entities e he).countryCode.length]

theorem read (h : card.Normal) : readBusinessCard (cardJson card) = ([], .ok card) := by
  rw [readBusinessCard, h.check]
  simp only [valid, h.checked]

end BusinessCard.Normal

def ParsedBatch.payload (batch : ParsedBatch) : Json :=
  .object [("version", .string formatVersion), ("service_groups", .array batch.serviceGroups),
    ("business_cards", .array batch.businessCards)]

theorem ParsedBatch.parse_payload (batch : ParsedBatch) : parse batch.payload = ([], .ok batch) := by
  have hgives : Gives [("version", .string formatVersion), ("service_groups", .array batch.serviceGroups),
      ("business_cards", .array batch.businessCards)] _ :=
    gives_of_subset (by change envelopeNames.Nodup; decide) (List.Subset.refl _)
  have hanything (values : List Json) : array anything (.array values) = valid values := by
    have h : array anything (.array (values.map id)) = valid (values.map id) :=
      array_valid fun _ _ => rfl
    rwa [List.map_id] at h
  have hversion : checkVersion (.string formatVersion) = valid formatVersion := by
    rw [checkVersion, if_pos rfl]
  have hcheck : checkEnvelope batch.payload = valid batch := by
    refine object_valid (fun _ hn => hn) ?_
    rw [hgives.required hversion (by simp) (by simp),
      hgives.optional (hanything batch.serviceGroups) (.inl (by simp)) (by simp),
      hgives.optional (hanything batch.businessCards) (.inl (by simp)) (by simp)]
    rfl
  rw [parse, hcheck]
  rfl

namespace ExportDocument

variable {document : ExportDocument}

def elements (document : ExportDocument) : ParsedBatch where
  serviceGroups := document.serviceGroups.map (·.element.toJson)
  businessCards := document.businessCards.map cardJson

def text (document : ExportDocument) : Text := Json.write .indented document.elements.payload ++ "\n"

structure Normal (document : ExportDocument) : Prop where
  serviceGroups : ∀ g ∈ document.serviceGroups, g.Normal
  businessCards : ∀ card ∈ document.businessCards, card.Normal

theorem Normal.payload (h : document.Normal) :
    Document.payload document = .ok document.elements.payload := by
  have hgroups : (document.serviceGroups.map ExportedGroup.draft).mapM normalGroup =
      .ok (document.serviceGroups.map ExportedGroup.element) :=
    Json.mapM_eq_ok fun g hg => (h.serviceGroups g hg).normalGroup
  have hcards : (document.businessCards.map BusinessCard.draft).mapM normalCard =
      .ok (document.businessCards.map id) :=
    Json.mapM_eq_ok fun card hcard => (h.businessCards card hcard).normalCard
  rw [List.map_id] at hcards
  rw [Document.payload, Draft.payload, ExportDocument.draft, hgroups, hcards]
  change Except.ok _ = _
  rw [List.map_map]
  rfl

theorem Normal.plain (h : document.Normal) :
    Plain (fun t => t.isUnicode = true) 7 document.elements.payload := by
  have hnames : envelopeNames.all Text.isUnicode = true := rfl
  rw [List.all_eq_true] at hnames
  have hgroups : ∀ e ∈ document.elements.serviceGroups, Plain (fun t => t.isUnicode = true) 5 e := by
    intro item hitem
    obtain ⟨g, hg, rfl⟩ := List.mem_map.mp hitem
    exact (h.serviceGroups g hg).element.plain.mono (by decide) fun _ ht => ht
  have hcards : ∀ e ∈ document.elements.businessCards, Plain (fun t => t.isUnicode = true) 5 e := by
    intro item hitem
    obtain ⟨card, hcard, rfl⟩ := List.mem_map.mp hitem
    exact (h.businessCards card hcard).plain
  refine .object (by change envelopeNames.Nodup; decide)
    (fun m hm => hnames m.1 (List.mem_map_of_mem hm)) ?_
  simp only [List.forall_mem_cons]
  exact ⟨.string 6 (by decide), .array hgroups, .array hcards, nofun⟩

theorem Normal.isUnicode_text (h : document.Normal) : document.text.isUnicode = true := by
  rw [text, Text.isUnicode, List.all_append, Bool.and_eq_true]
  exact ⟨h.plain.isUnicode_write rfl, by decide⟩

theorem Normal.fileText (h : document.Normal) : Document.fileText document = .ok document.text := by
  have hunicode := h.isUnicode_text
  have hpayload := h.payload
  rw [Document.payload] at hpayload
  rw [Document.fileText, Draft.fileText, hpayload]
  change (if document.text.isUnicode then (.ok document.text : Except WriteError Text)
    else .error .notUnicode) = _
  rw [hunicode]
  rfl

theorem Normal.load (h : document.Normal) (path : Text) :
    Document.load path (Utf8.encode document.text) = ([], .ok document.elements) := by
  have hblank : ∀ c ∈ ("\n" : Text), Json.isBlank c = true ∧ c ≠ '\r' :=
    List.forall_mem_singleton.mpr (by decide)
  have hread : Json.read document.text = .ok document.elements.payload :=
    h.plain.read_write rfl (by decide) fun c hc => (hblank c hc).1
  have hlines : document.text.unifyLines = document.text :=
    Text.unifyLines_of_no_return (List.forall_mem_append.mpr
      ⟨h.plain.no_return_write rfl, fun c hc => (hblank c hc).2⟩)
  rw [Document.load, Utf8.decode_encode h.isUnicode_text]
  simp only [hlines, hread, ParsedBatch.parse_payload]
  rfl

end ExportDocument

end ParticipantRegistry
