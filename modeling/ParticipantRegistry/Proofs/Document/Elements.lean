import ParticipantRegistry.Document.Payload
import ParticipantRegistry.Proofs.Registry.StoredCards

/-!
# Records in the form of the format

A record is in normal form if the format reads its texts as they are: the required ones are trimmed and
not empty, a country code consists of two capitals. The element of such a record is written without
problems, and it is read back as the record.
-/

namespace ParticipantRegistry

open Json (Plain ofText?)

namespace Document

open Checked

section Checks

variable {α β : Type} {check : Json → Checked α} {ms fields : Json.Members} {name : Text}
  {value : Json}

theorem under_valid (step : Step) (a : α) : (valid a).under step = valid a := rfl

theorem object_valid {kind : ElementKind} {known : List Text} {check : Json.Members → Checked α}
    {a : α} (hk : ∀ n ∈ Json.names ms, n ∈ known) (h : check ms = valid a) :
    object kind known check (.object ms) = valid a := by
  have hunknown : (Json.names ms).filter (fun n => !known.contains n) = [] := by
    rw [List.filter_eq_nil_iff]
    intro n hn
    simp [hk n hn]
  rw [object]
  simp only [hunknown, h]
  rfl

theorem items_valid {make : β → Json} {f : β → α} {bs : List β}
    (h : ∀ b ∈ bs, check (make b) = valid (f b)) (index : Nat) :
    items check index (bs.map make) = valid (bs.map f) := by
  induction bs generalizing index with
  | nil => rfl
  | cons b bs ih =>
    obtain ⟨hb, hbs⟩ := List.forall_mem_cons.mp h
    rw [List.map_cons, items, hb, ih hbs]
    rfl

theorem array_valid {make : β → Json} {f : β → α} {bs : List β}
    (h : ∀ b ∈ bs, check (make b) = valid (f b)) :
    array check (.array (bs.map make)) = valid (bs.map f) := items_valid h 0

/-- An object gives some fields: every one that has a value is among its members, and the others are
empty or left out. -/
def Gives (ms fields : Json.Members) : Prop :=
  ∀ m ∈ fields, ms.lookup m.1 = some m.2 ∨ m.2 = .null ∧ ms.lookup m.1 = none

theorem Gives.mono {fewer : Json.Members} (h : Gives ms fields) (hs : fewer ⊆ fields) :
    Gives ms fewer := fun m hm => h m (hs hm)

theorem Gives.lookup (h : Gives ms fields) (hn : value ≠ .null) (hm : (name, value) ∈ fields) :
    ms.lookup name = some value := by
  rcases h _ hm with hlookup | ⟨hnull, -⟩
  · exact hlookup
  · exact absurd hnull hn

theorem Gives.required_eq (h : Gives ms fields) (hn : value ≠ .null) (hm : (name, value) ∈ fields) :
    required name check ms = (check value).under (.member name) := by
  simp only [Checked.required, h.lookup hn hm]

theorem Gives.required (h : Gives ms fields) {a : α} (hv : check value = valid a)
    (hn : value ≠ .null) (hm : (name, value) ∈ fields) : required name check ms = valid a := by
  rw [h.required_eq hn hm, hv, under_valid]

/-- A field that is empty may be left out if its default is what it would give. -/
theorem Gives.optional (h : Gives ms fields) {a default : α} (hv : check value = valid a)
    (hn : value ≠ .null ∨ check .null = valid default) (hm : (name, value) ∈ fields) :
    optional name default check ms = valid a := by
  rcases h _ hm with hlookup | ⟨hnull, hlookup⟩
  · simp only [Checked.optional, hlookup, hv, under_valid]
  · rcases hn with hn | hc
    · exact absurd hnull hn
    · rw [← hv, ← hc.symm.trans (congrArg check hnull).symm]
      simp only [Checked.optional, hlookup]

theorem lookup_of_mem (hd : (Json.names ms).Nodup) {m : Text × Json} (hm : m ∈ ms) :
    ms.lookup m.1 = some m.2 := by
  induction ms with
  | nil => cases hm
  | cons first ms ih =>
    obtain ⟨hfirst, hd⟩ := List.nodup_cons.mp hd
    rcases List.mem_cons.mp hm with rfl | hm
    · exact List.lookup_cons_self
    · have hne : m.1 ≠ first.1 := fun he => hfirst (List.mem_map.mpr ⟨m, hm, he⟩)
      rw [List.lookup_cons, beq_false_of_ne hne]
      exact ih hd hm

theorem gives_of_subset (hd : (Json.names ms).Nodup) (hs : fields ⊆ ms) : Gives ms fields :=
  fun _ hm => .inl (lookup_of_mem hd (hs hm))

theorem gives_present (hd : (Json.names fields).Nodup) :
    Gives (fields.filter fun m => m.2 ≠ .null) fields := by
  intro m hm
  by_cases hv : m.2 = .null
  · refine .inr ⟨hv, List.lookup_eq_none_iff.mpr fun n hn => ?_⟩
    obtain ⟨hn, hvalue⟩ := List.mem_filter.mp hn
    rw [bne_iff_ne]
    intro he
    have hlookup := lookup_of_mem hd hn
    rw [← he, lookup_of_mem hd hm, hv] at hlookup
    exact of_decide_eq_true hvalue (Option.some.inj hlookup).symm
  · have hd' := (List.filter_sublist (p := fun m : Text × Json => m.2 ≠ .null)).map Prod.fst |>.nodup hd
    exact .inl (lookup_of_mem hd' (List.mem_filter.mpr ⟨hm, decide_eq_true hv⟩))

end Checks

/-- A required text that is read as it is. -/
structure Trimmed (t : Text) : Prop where
  isUnicode : t.isUnicode = true
  trim : t.trim = t
  filled : t ≠ []

/-- A country code that is read as it is. -/
structure CountryCode (t : Text) : Prop where
  isUnicode : t.isUnicode = true
  trim : t.trim = t
  length : t.length = 2
  upper : t.upper = t

/-- A country code as it is read: two code points that were written in capitals, and these may be more. -/
structure Capitals (t : Text) : Prop where
  isUnicode : t.isUnicode = true
  trim : t.trim = t
  length : 2 ≤ t.length
  upper : t.upper = t

theorem CountryCode.toCapitals {t : Text} (h : CountryCode t) : Capitals t :=
  ⟨h.isUnicode, h.trim, Nat.le_of_eq h.length.symm, h.upper⟩

theorem Capitals.toCountryCode {t : Text} (h : Capitals t) (hlength : t.length = 2) : CountryCode t :=
  ⟨h.isUnicode, h.trim, hlength, h.upper⟩

theorem trimmedText_valid {t : Text} (h : Trimmed t) : trimmedText (.string t) = valid t := by
  rw [trimmedText, h.isUnicode, h.trim, if_neg h.filled]
  rfl

/-- Capitals that have become more than two are not read again. -/
theorem Capitals.check {t : Text} (h : Capitals t) :
    countryCode (.string t) = if t.length = 2 then valid t else flawed .tooLong := by
  have hlength := h.length
  rw [countryCode, h.isUnicode, h.trim, h.upper]
  by_cases htwo : t.length = 2
  · simp [htwo]
  · have hlong : ¬t.length < 2 ∧ 2 < t.length := by omega
    simp [hlong, htwo]

theorem optionalText_valid (t? : Option Text) : optionalText (ofText? t?) = valid t? := by
  cases t? <;> rfl

theorem freeText_valid {v : Json} (h : v.isTextual = true) : freeText v = valid v := by
  rw [Json.eq_ofText?_of_isTextual h, freeText, optionalText_valid]
  rfl

theorem optionalDate_valid (date : Option Date) :
    optionalDate (ofText? (date.map Date.toText)) = valid date := by
  cases date with
  | none => rfl
  | some d =>
    have hread : DocumentDate.read (.string d.toText) = .ok d := DocumentDate.read_toText d
    change optionalDate (.string d.toText) = _
    simp only [optionalDate, hread]

theorem plain_present {fields : Json.Members} {room : Nat} (hd : (Json.names fields).Nodup)
    (hnames : (Json.names fields).all Text.isUnicode = true)
    (hparts : ∀ m ∈ fields, Plain (fun t => t.isUnicode = true) room m.2) :
    Plain (fun t => t.isUnicode = true) (room + 1) (presentMembers fields) :=
  (Plain.object hd (fun m hm => List.all_eq_true.mp hnames m.1 (List.mem_map_of_mem hm)) hparts).filter _

namespace EndpointElement

def fields (e : EndpointElement) : Json.Members :=
  [("document_type", .string e.documentType), ("process", .string e.process),
    ("transport_profile", .string e.transportProfile), ("endpoint_url", .string e.endpointUrl),
    ("certificate", ofText? e.certificate), ("service_description", ofText? e.serviceDescription),
    ("technical_contact_url", ofText? e.technicalContactUrl), ("extension", ofText? e.extension)]

structure Normal (e : EndpointElement) : Prop where
  documentType : Trimmed e.documentType
  process : Trimmed e.process
  transportProfile : Trimmed e.transportProfile
  endpointUrl : Trimmed e.endpointUrl
  certificate : ∀ t ∈ e.certificate, t.isUnicode = true
  serviceDescription : ∀ t ∈ e.serviceDescription, t.isUnicode = true
  technicalContactUrl : ∀ t ∈ e.technicalContactUrl, t.isUnicode = true
  extension : ∀ t ∈ e.extension, t.isUnicode = true

variable {e : EndpointElement}

theorem nodup_fields (e : EndpointElement) : (Json.names e.fields).Nodup := by
  change endpointNames.Nodup
  decide

theorem Normal.checkMembers (h : e.Normal) {ms : Json.Members} (hg : Gives ms e.fields) :
    checkEndpointMembers ms = valid e := by
  have hoptional (t? : Option Text) {name : Text} (hm : (name, ofText? t?) ∈ e.fields) :
      optional name none optionalText ms = valid t? :=
    hg.optional (optionalText_valid t?) (.inr rfl) hm
  rw [checkEndpointMembers,
    hg.required (trimmedText_valid h.documentType) (by simp) (by simp [fields]),
    hg.required (trimmedText_valid h.process) (by simp) (by simp [fields]),
    hg.required (trimmedText_valid h.transportProfile) (by simp) (by simp [fields]),
    hg.required (trimmedText_valid h.endpointUrl) (by simp) (by simp [fields]),
    hoptional e.certificate (by simp [fields]), hoptional e.serviceDescription (by simp [fields]),
    hoptional e.technicalContactUrl (by simp [fields]), hoptional e.extension (by simp [fields])]
  rfl

theorem Normal.check (h : e.Normal) : checkEndpoint e.toJson = valid e :=
  object_valid (fun _ hn => (List.filter_sublist.map _).subset hn)
    (h.checkMembers (gives_present e.nodup_fields))

theorem Normal.plain (h : e.Normal) : Plain (fun t => t.isUnicode = true) 1 e.toJson := by
  refine plain_present e.nodup_fields rfl ?_
  simp only [List.forall_mem_cons]
  exact ⟨.string 0 h.documentType.isUnicode, .string 0 h.process.isUnicode,
    .string 0 h.transportProfile.isUnicode, .string 0 h.endpointUrl.isUnicode,
    .ofText? h.certificate, .ofText? h.serviceDescription, .ofText? h.technicalContactUrl,
    .ofText? h.extension, nofun⟩

end EndpointElement

namespace RedirectElement

def fields (r : RedirectElement) : Json.Members :=
  [("document_type", .string r.documentType), ("target_href", .string r.targetHref),
    ("subject_unique_identifier", ofText? r.subjectUniqueIdentifier),
    ("certificate", ofText? r.certificate), ("extension", ofText? r.extension)]

structure Normal (r : RedirectElement) : Prop where
  documentType : Trimmed r.documentType
  targetHref : Trimmed r.targetHref
  subjectUniqueIdentifier : ∀ t ∈ r.subjectUniqueIdentifier, t.isUnicode = true
  certificate : ∀ t ∈ r.certificate, t.isUnicode = true
  extension : ∀ t ∈ r.extension, t.isUnicode = true

variable {r : RedirectElement}

theorem nodup_fields (r : RedirectElement) : (Json.names r.fields).Nodup := by
  change redirectNames.Nodup
  decide

theorem Normal.checkMembers (h : r.Normal) {ms : Json.Members} (hg : Gives ms r.fields) :
    checkRedirectMembers ms = valid r := by
  have hoptional (t? : Option Text) {name : Text} (hm : (name, ofText? t?) ∈ r.fields) :
      optional name none optionalText ms = valid t? :=
    hg.optional (optionalText_valid t?) (.inr rfl) hm
  rw [checkRedirectMembers,
    hg.required (trimmedText_valid h.documentType) (by simp) (by simp [fields]),
    hg.required (trimmedText_valid h.targetHref) (by simp) (by simp [fields]),
    hoptional r.subjectUniqueIdentifier (by simp [fields]), hoptional r.certificate (by simp [fields]),
    hoptional r.extension (by simp [fields])]
  rfl

theorem Normal.check (h : r.Normal) : checkRedirect r.toJson = valid r :=
  object_valid (fun _ hn => (List.filter_sublist.map _).subset hn)
    (h.checkMembers (gives_present r.nodup_fields))

theorem Normal.plain (h : r.Normal) : Plain (fun t => t.isUnicode = true) 1 r.toJson := by
  refine plain_present r.nodup_fields rfl ?_
  simp only [List.forall_mem_cons]
  exact ⟨.string 0 h.documentType.isUnicode, .string 0 h.targetHref.isUnicode,
    .ofText? h.subjectUniqueIdentifier, .ofText? h.certificate, .ofText? h.extension, nofun⟩

end RedirectElement

namespace GroupElement

def ownFields (g : GroupElement) : Json.Members :=
  [("participant_id", .string g.participantId), ("owner_id", .string g.ownerId),
    ("extension", ofText? g.extension)]

def fields (g : GroupElement) : Json.Members :=
  let children : Json.Members := [("endpoints", .array (g.endpoints.map (·.toJson))),
    ("redirects", .array (g.redirects.map (·.toJson)))]
  g.ownFields ++ children

theorem toJson_eq (g : GroupElement) : g.toJson = presentMembers g.fields := rfl

structure Normal (g : GroupElement) : Prop where
  participantId : Trimmed g.participantId
  ownerId : Trimmed g.ownerId
  extension : ∀ t ∈ g.extension, t.isUnicode = true
  endpoints : ∀ e ∈ g.endpoints, e.Normal
  redirects : ∀ r ∈ g.redirects, r.Normal

variable {g : GroupElement}

theorem nodup_fields (g : GroupElement) : (Json.names g.fields).Nodup := by
  change groupNames.Nodup
  decide

theorem Normal.checkMembers (h : g.Normal) {ms : Json.Members} (hg : Gives ms g.ownFields) :
    checkGroupMembers (valid g.endpoints) (valid g.redirects) ms = valid g := by
  rw [checkGroupMembers,
    hg.required (trimmedText_valid h.participantId) (by simp) (by simp [ownFields]),
    hg.required (trimmedText_valid h.ownerId) (by simp) (by simp [ownFields]),
    hg.optional (optionalText_valid g.extension) (.inr rfl) (by simp [ownFields])]
  rfl

theorem Normal.check (h : g.Normal) : checkGroup g.toJson = valid g := by
  have hg := gives_present g.nodup_fields
  rw [toJson_eq]
  refine object_valid (fun _ hn => (List.filter_sublist.map _).subset hn) ?_
  have hendpoints : array checkEndpoint (.array (g.endpoints.map (·.toJson))) =
      valid (g.endpoints.map id) := array_valid fun e he => (h.endpoints e he).check
  have hredirects : array checkRedirect (.array (g.redirects.map (·.toJson))) =
      valid (g.redirects.map id) := array_valid fun r hr => (h.redirects r hr).check
  rw [List.map_id] at hendpoints hredirects
  rw [hg.optional hendpoints (.inl (by simp)) (by simp [fields]),
    hg.optional hredirects (.inl (by simp)) (by simp [fields])]
  exact h.checkMembers (hg.mono (List.subset_append_left _ _))

theorem Normal.plain (h : g.Normal) : Plain (fun t => t.isUnicode = true) 3 g.toJson := by
  have hendpoints : Plain (fun t => t.isUnicode = true) 2 (.array (g.endpoints.map (·.toJson))) :=
    .array (List.forall_mem_map.mpr fun e he => (h.endpoints e he).plain)
  have hredirects : Plain (fun t => t.isUnicode = true) 2 (.array (g.redirects.map (·.toJson))) :=
    .array (List.forall_mem_map.mpr fun r hr => (h.redirects r hr).plain)
  refine plain_present g.nodup_fields rfl ?_
  simp only [List.forall_mem_cons]
  exact ⟨.string 2 h.participantId.isUnicode, .string 2 h.ownerId.isUnicode,
    .ofText? h.extension, hendpoints, hredirects, nofun⟩

end GroupElement

end Document

open Document Document.Checked

structure BusinessIdentifier.Normal (i : BusinessIdentifier) : Prop where
  scheme : Trimmed i.scheme
  value : Trimmed i.value

namespace BusinessEntity

structure Normal (e : BusinessEntity) : Prop where
  name : Trimmed e.name
  countryCode : CountryCode e.countryCode
  isTextual : e.isTextual = true
  geographicalInformation : ∀ t ∈ e.geographicalInformation.text?, t.isUnicode = true
  identifiers : ∀ i ∈ e.identifiers, i.Normal
  websites : ∀ t ∈ e.websites, t.isUnicode = true
  additionalInformation : ∀ t ∈ e.additionalInformation.text?, t.isUnicode = true

/-- An entity as it is read: in normal form, but its country code may be longer. -/
structure Taken (e : BusinessEntity) : Prop where
  name : Trimmed e.name
  countryCode : Capitals e.countryCode
  isTextual : e.isTextual = true
  geographicalInformation : ∀ t ∈ e.geographicalInformation.text?, t.isUnicode = true
  identifiers : ∀ i ∈ e.identifiers, i.Normal
  websites : ∀ t ∈ e.websites, t.isUnicode = true
  additionalInformation : ∀ t ∈ e.additionalInformation.text?, t.isUnicode = true

variable {e : BusinessEntity}

theorem Normal.taken (h : e.Normal) : e.Taken :=
  { h with countryCode := h.countryCode.toCapitals }

theorem Taken.normal (h : e.Taken) (hlength : e.countryCode.length = 2) : e.Normal :=
  { h with countryCode := h.countryCode.toCountryCode hlength }

theorem Taken.isUnicode (h : e.Taken) : ∀ t ∈ e.texts, t.isUnicode = true := by
  simp only [texts, List.forall_mem_append, List.forall_mem_cons, List.mem_flatMap, Option.mem_toList]
  refine ⟨⟨⟨⟨⟨h.name.isUnicode, h.countryCode.isUnicode, by simp⟩, h.geographicalInformation⟩, ?_⟩,
    h.websites⟩, h.additionalInformation⟩
  rintro t ⟨i, hi, ht⟩
  rcases List.mem_cons.mp ht with rfl | ht
  · exact (h.identifiers i hi).scheme.isUnicode
  · rw [List.mem_singleton.mp ht]
    exact (h.identifiers i hi).value.isUnicode

theorem nodup_fields (identifiers : List Json) (e : BusinessEntity) :
    (Json.names (e.fields identifiers)).Nodup := by
  change entityNames.Nodup
  decide

/-- An entity that was read is accepted again unless its country code has become too long. -/
theorem Taken.checkMembers (h : e.Taken) {ms : Json.Members} {identifiers : List Json}
    (hg : Gives ms (e.fields identifiers)) :
    checkEntityMembers (valid e.identifiers) ms =
      if e.countryCode.length = 2 then valid e
      else (flawed .tooLong).under (.member "country_code") := by
  have htextual := h.isTextual
  rw [BusinessEntity.isTextual, Bool.and_eq_true] at htextual
  have hwebsites : array plainText (.array (e.websites.map .string)) =
      valid (e.websites.map id) := array_valid fun _ _ => rfl
  rw [List.map_id] at hwebsites
  have hfree {v : Json} (hv : v.isTextual = true) {name : Text}
      (hm : (name, v) ∈ e.fields identifiers) : optional name .null freeText ms = valid v :=
    hg.optional (freeText_valid hv) (.inr rfl) hm
  have hcountry : required "country_code" Document.countryCode ms =
      (Document.countryCode (.string e.countryCode)).under (.member "country_code") :=
    hg.required_eq (by simp) (by simp [fields])
  rw [checkEntityMembers, hg.required (trimmedText_valid h.name) (by simp) (by simp [fields]),
    hcountry, h.countryCode.check, hfree htextual.1 (by simp [fields]),
    hg.optional hwebsites (.inl (by simp)) (by simp [fields, Json.ofTexts]),
    hfree htextual.2 (by simp [fields]),
    hg.optional (optionalDate_valid e.registrationDate) (.inr rfl) (by simp [fields])]
  by_cases htwo : e.countryCode.length = 2
  · rw [if_pos htwo, if_pos htwo]
    rfl
  · rw [if_neg htwo, if_neg htwo]
    rfl

theorem Normal.checkMembers (h : e.Normal) {ms : Json.Members} {identifiers : List Json}
    (hg : Gives ms (e.fields identifiers)) :
    checkEntityMembers (valid e.identifiers) ms = valid e := by
  rw [h.taken.checkMembers hg, if_pos h.countryCode.length]

end BusinessEntity

namespace Document

theorem checkIdentifierMembers_valid {i : BusinessIdentifier} (h : i.Normal) :
    checkIdentifierMembers [("scheme", .string i.scheme), ("value", .string i.value)] = valid i := by
  have hg : Gives [("scheme", .string i.scheme), ("value", .string i.value)] _ :=
    gives_of_subset (by change identifierNames.Nodup; decide) (List.Subset.refl _)
  rw [checkIdentifierMembers, hg.required (trimmedText_valid h.scheme) (by simp) (by simp),
    hg.required (trimmedText_valid h.value) (by simp) (by simp)]
  rfl

theorem entityJson_eq (e : BusinessEntity) :
    entityJson e = presentMembers (e.fields (e.identifiers.map identifierJson)) := rfl

theorem checkEntity_valid {e : BusinessEntity} (h : e.Normal) :
    checkEntity (entityJson e) = valid e := by
  have hg := gives_present (e.nodup_fields (e.identifiers.map identifierJson))
  rw [entityJson_eq]
  refine object_valid (fun _ hn => (List.filter_sublist.map _).subset hn) ?_
  have hidentifiers : array checkIdentifier (.array (e.identifiers.map identifierJson)) =
      valid (e.identifiers.map id) :=
    array_valid fun i hi => object_valid (fun _ hn => hn)
      (checkIdentifierMembers_valid (h.identifiers i hi))
  rw [List.map_id] at hidentifiers
  rw [hg.optional hidentifiers (.inl (by simp)) (by simp [BusinessEntity.fields])]
  exact h.checkMembers hg

end Document

/-- A card that the format reads as it is. -/
structure BusinessCard.Normal (card : BusinessCard) : Prop where
  participantId : Trimmed card.participantId
  checked : card.check = .ok ()
  entities : ∀ e ∈ card.entities, e.Normal

/-- A card as it is read. -/
structure BusinessCard.Taken (card : BusinessCard) : Prop where
  participantId : Trimmed card.participantId
  entities : ∀ e ∈ card.entities, e.Taken

namespace BusinessCard.Taken

variable {card : BusinessCard}

theorem isTextual (h : card.Taken) : card.isTextual = true :=
  List.all_eq_true.mpr fun e he => (h.entities e he).isTextual

theorem isUnicode (h : card.Taken) : ∀ t ∈ card.texts, t.isUnicode = true := by
  rw [BusinessCard.texts, List.forall_mem_cons]
  refine ⟨h.participantId.isUnicode, fun t ht => ?_⟩
  obtain ⟨e, he, ht⟩ := List.mem_flatMap.mp ht
  exact (h.entities e he).isUnicode t ht

theorem normal (h : card.Taken) (hchecked : card.check = .ok ())
    (hlength : ∀ e ∈ card.entities, e.countryCode.length = 2) : card.Normal :=
  ⟨h.participantId, hchecked, fun e he => (h.entities e he).normal (hlength e he)⟩

theorem checkMembers (h : card.Taken) {ms : Json.Members}
    (hg : Gives ms [("participant_id", .string card.participantId)]) :
    checkCardMembers (valid card.entities) ms = valid card := by
  rw [checkCardMembers, hg.required (trimmedText_valid h.participantId) (by simp) (by simp)]
  rfl

end BusinessCard.Taken

namespace BusinessCard.Normal

variable {card : BusinessCard}

theorem taken (h : card.Normal) : card.Taken :=
  ⟨h.participantId, fun e he => (h.entities e he).taken⟩

theorem check (h : card.Normal) : checkCard (cardJson card) = valid card := by
  have hg : Gives [("participant_id", .string card.participantId),
      ("entities", .array (card.entities.map entityJson))] _ :=
    gives_of_subset (by change cardNames.Nodup; decide) (List.Subset.refl _)
  have hentities : array checkEntity (.array (card.entities.map entityJson)) =
      valid (card.entities.map id) := array_valid fun e he => checkEntity_valid (h.entities e he)
  rw [List.map_id] at hentities
  refine object_valid (fun _ hn => hn) ?_
  rw [hg.optional hentities (.inl (by simp)) (by simp)]
  exact h.taken.checkMembers (hg.mono (by simp))

theorem plain (h : card.Normal) : Plain (fun t => t.isUnicode = true) 5 (cardJson card) := by
  have hidentifier {i : BusinessIdentifier} (hi : i.Normal) :
      Plain (fun t => t.isUnicode = true) 1 (identifierJson i) := by
    refine .object (by change identifierNames.Nodup; decide) (by simp; decide) ?_
    simp only [List.forall_mem_cons]
    exact ⟨.string 0 hi.scheme.isUnicode, .string 0 hi.value.isUnicode, nofun⟩
  have hentity {e : BusinessEntity} (he : e.Normal) :
      Plain (fun t => t.isUnicode = true) 3 (entityJson e) :=
    (BusinessEntity.plain_fields (fun _ => Text.isUnicode_of_ascii)
      (.of_isTextual he.isTextual he.taken.isUnicode 2) he.taken.isUnicode
      (List.forall_mem_map.mpr fun i hi => hidentifier (he.identifiers i hi))).filter _
  refine .object (by change cardNames.Nodup; decide) (by simp; decide) ?_
  simp only [List.forall_mem_cons]
  exact ⟨.string 4 h.participantId.isUnicode,
    .array (List.forall_mem_map.mpr fun e he => hentity (h.entities e he)), nofun⟩

end BusinessCard.Normal

theorem forM_eq_ok_iff {ε ι : Type} {step : ι → Except ε Unit} {items : List ι} :
    items.forM step = .ok () ↔ ∀ i ∈ items, step i = .ok () := by
  induction items with
  | nil => exact ⟨fun _ => List.forall_mem_nil _, fun _ => rfl⟩
  | cons i items ih =>
    rw [List.forall_mem_cons, ← ih]
    change (step i >>= fun _ => items.forM step) = .ok () ↔ _
    cases hi : step i with
    | ok a => exact (and_iff_right rfl).symm
    | error e => exact ⟨nofun, fun h => nomatch h.1⟩

theorem Document.GroupRecord.check_eq_ok_iff (record : Document.GroupRecord) :
    record.check = .ok () ↔ record.group.check = .ok () ∧
      (∀ e ∈ record.endpoints, e.check = .ok ()) ∧ ∀ r ∈ record.redirects, r.check = .ok () := by
  rw [← forM_eq_ok_iff, ← forM_eq_ok_iff, GroupRecord.check]
  cases record.group.check with
  | error field => exact ⟨nofun, fun h => nomatch h.1⟩
  | ok a =>
    change (record.endpoints.forM Endpoint.check >>= fun _ =>
      record.redirects.forM Redirect.check) = .ok () ↔ _
    cases record.endpoints.forM Endpoint.check with
    | error field => exact ⟨nofun, fun h => nomatch h.2.1⟩
    | ok b => exact ⟨fun h => ⟨rfl, rfl, h⟩, fun h => h.2.2⟩

namespace Document

theorem readServiceGroup_ok {element : Json} {users : Text → User} {record : GroupRecord}
    (h : ((readServiceGroup element).2.run users).2 = .ok record) :
    ∃ parsed, (checkGroup element).result = .ok parsed ∧
      record = parsed.toRecord (users parsed.ownerId) ∧ record.check = .ok () := by
  rw [readServiceGroup] at h
  cases hp : (checkGroup element).result with
  | error problems => simp [hp, Inquiry.run] at h
  | ok parsed =>
    simp only [hp, Inquiry.run] at h
    cases hc : (parsed.toRecord (users parsed.ownerId)).check with
    | ok =>
      simp only [hc, Inquiry.run] at h
      cases h
      exact ⟨parsed, rfl, rfl, hc⟩
    | error field => simp [hc, Inquiry.run] at h

theorem readBusinessCard_ok {element : Json} {card : BusinessCard}
    (h : (readBusinessCard element).2 = .ok card) :
    (checkCard element).result = .ok card ∧ card.check = .ok () := by
  rw [readBusinessCard] at h
  cases hp : (checkCard element).result with
  | error problems => simp [hp] at h
  | ok parsed =>
    simp only [hp] at h
    cases hc : parsed.check with
    | ok =>
      simp only [hc] at h
      cases h
      exact ⟨rfl, hc⟩
    | error field => simp [hc] at h

end Document

end ParticipantRegistry
