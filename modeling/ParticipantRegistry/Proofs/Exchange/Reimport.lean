import ParticipantRegistry.Proofs.Exchange.StoreExport

/-!
# Importing what was exported

The document of a store in normal form is imported without errors into every store with the same users
that holds groups of the first one only, if they are overwritten or there are none. Afterwards both hold
the same records.
-/

namespace ParticipantRegistry

open Document (GroupRecord)

/-- The mutation brings along or removes a record of the store. -/
def Mutation.Concerns (t : Store) : Mutation → Prop
  | .deleteGroup participantId _ => ∃ group ∈ t.groups, group.participantId = participantId
  | .createGroup group _ => group ∈ t.groups
  | .mergeEndpoint endpoint => endpoint ∈ t.endpoints
  | .upsertRedirect redirect => redirect ∈ t.redirects
  | .deleteBusinessCard card => card ∈ t.businessCards
  | .upsertBusinessCard card => card ∈ t.businessCards

namespace Store

variable {s s' t : Store}

theorem sameRecords_of_holding (hs : s.Distinct) (ht : t.Distinct) (husers : s.users = t.users)
    (hgroup : ∀ k, (s.holding k).group = (t.holding k).group)
    (hendpoints : ∀ k, (s.holding k).endpoints.Perm (t.holding k).endpoints)
    (hredirects : ∀ k, (s.holding k).redirects.Perm (t.holding k).redirects)
    (hcard : ∀ k, (s.holding k).card = (t.holding k).card) : s.SameRecords t where
  users := husers
  groups := Table.perm_of_find? hs.groups ht.groups hgroup
  endpoints := Table.perm_of_parts Endpoint.participantId hendpoints
  redirects := Table.perm_of_parts Redirect.participantId hredirects
  businessCards := Table.perm_of_find? hs.businessCards ht.businessCards hcard

theorem Distinct.carryOut (h : t.Distinct) (mutation : Mutation) : (mutation.carryOut t).Distinct := by
  cases mutation with
  | deleteGroup participantId deprovision =>
    exact ⟨Table.nodup_keys_filter _ _ h.groups, Table.nodup_keys_filter _ _ h.endpoints,
      Table.nodup_keys_filter _ _ h.redirects, Table.nodup_keys_filter _ _ h.businessCards⟩
  | createGroup group register => exact { h with groups := Table.nodup_keys_put _ _ h.groups }
  | mergeEndpoint endpoint => exact { h with endpoints := Table.nodup_keys_put _ _ h.endpoints }
  | upsertRedirect redirect => exact { h with redirects := Table.nodup_keys_put _ _ h.redirects }
  | deleteBusinessCard card =>
    exact { h with businessCards := Table.nodup_keys_filter _ _ h.businessCards }
  | upsertBusinessCard card =>
    exact { h with businessCards := Table.nodup_keys_put _ _ h.businessCards }

theorem Distinct.dialogue {turns : List Turn} (hd : Dialogue s turns s')
    (hc : ∀ turn ∈ turns, turn.mutation.check = .ok ()) (h : s.Distinct) : s'.Distinct := by
  induction hd with
  | nil => exact h
  | @cons s s₁ _ turn turns first _ ih =>
    obtain ⟨hturn, hturns⟩ := List.forall_mem_cons.mp hc
    refine ih hturns ?_
    rw [← (Prod.mk.inj ((perform_eq turn.mutation s hturn).symm.trans first)).2]
    split
    · exact h.carryOut _
    · exact h

/-- Nothing is told to go wrong. -/
structure Unhindered (t : Store) : Prop where
  failing : t.failing = []
  unchanging : t.unchanging = []

theorem Unhindered.clear (h : t.Unhindered) (participantId : Text) :
    (t.hindrance participantId).Clear := by
  rw [hindrance, h.failing, h.unchanging]
  exact fun _ => ⟨rfl, rfl⟩

theorem import_settles {request : ImportRequest} {batch : ParsedBatch} {p : Progress Store}
    (howned : p.registry.Owned) (hdistinct : p.registry.Distinct) (hfree : p.registry.Unhindered)
    (hsnapshot : request.Snapshot p.registry) (hlog : p.log.records = [])
    (hread : (p.registry.stage request batch).2.any ActionRecord.isError = false) :
    ∃ q : Progress Store,
      Run.importBatch Document.elementReader request batch p = (.ok (), q) ∧
      q.log.hasError = false ∧ q.registry.bare = p.registry.bare ∧ q.registry.Distinct ∧
      ∀ participantId, q.registry.holding participantId =
        ((p.registry.stage request batch).1.share participantId).intent
          (p.registry.holding participantId) := by
  have hw := p.registry.stage_wellFormed request batch
  have hfits := p.registry.stage_fits hsnapshot batch
  have hends := Store.shows.import_ends request batch p
  simp only [id_eq, hlog, List.nil_append, hread] at hends
  obtain ⟨r, q, -, hrecords, himport, hhalted, hproceeded⟩ := hends
  have hr : r.log.hasError = false := by
    rw [ActionLog.hasError, hrecords, List.any_append, hread, PlanOutcome.decide]
    cases (p.registry.stage request batch).1.isEmpty <;> rfl
  refine ⟨q, himport, ?_⟩
  by_cases houtcome : PlanOutcome.decide (p.registry.stage request batch).1 false = .proceed
  · obtain ⟨turns, hcarry, hd, hq⟩ := hproceeded houtcome
    have hcommit := hcarry.changes hw howned hfits hd fun participantId _ => hfree.clear participantId
    refine ⟨?_, (hcarry.holdings hw hd).1, hdistinct.dialogue hd fun turn hturn => ?_, fun k => ?_⟩
    · rw [ActionLog.hasError, hq, List.any_append, hcommit, ← ActionLog.hasError, hr]
      rfl
    · exact (hw.requests turn.toRequest (hcarry.mem_requests turn hturn)).2
    · exact hcarry.settled hw howned hfits hd hcommit k
  · obtain ⟨hregistry, hsame⟩ := hhalted houtcome
    have hempty : (p.registry.stage request batch).1.isEmpty = true := by
      by_contra hsome
      exact houtcome ((PlanOutcome.decide_eq_proceed_iff _ _).mpr ⟨by simpa using hsome, rfl⟩)
    refine ⟨hsame ▸ hr, by rw [hregistry], by rwa [hregistry], fun k => ?_⟩
    rw [hregistry, StagedBatch.intent_of_isEmpty hempty]

/-- A store with the same users that holds no groups but those of another one, if they are overwritten. -/
structure Receives (held content : Store) (overwriteExisting : Bool) : Prop where
  users : held.users = content.users
  owned : held.Owned
  distinct : held.Distinct
  unhindered : held.Unhindered
  directoryIntegration : held.directoryIntegration = true
  groups : ∀ g ∈ held.groups, content.hasGroup g.participantId = true
  overwrites : overwriteExisting = true ∨ held.groups = []

def records (content : Store) : List GroupRecord := content.document.serviceGroups.map (·.record)

variable {content held : Store} {request : ImportRequest}

theorem records_eq (content : Store) : content.records =
    (content.groups.mergeSort ServiceGroup.le).map fun group => (content.exported group).record :=
  List.map_map

theorem keys_records (content : Store) :
    Table.keys content.records = Table.keys (content.groups.mergeSort ServiceGroup.le) := by
  rw [records_eq, Table.keys, List.map_map]
  rfl

theorem Distinct.sortedGroups (h : content.Distinct) :
    (Table.keys (content.groups.mergeSort ServiceGroup.le)).Nodup :=
  ((List.mergeSort_perm content.groups _).map key).nodup_iff.mpr h.groups

theorem Distinct.records (h : content.Distinct) : (Table.keys content.records).Nodup := by
  rw [keys_records]
  exact h.sortedGroups

theorem Distinct.document_businessCards (h : content.Distinct) :
    (Table.keys content.document.businessCards).Nodup :=
  (Table.keys_filterMap_sublist _ _).nodup h.sortedGroups

theorem Distinct.last?_records (h : content.Distinct) (participantId : Text) :
    Table.last? participantId content.records =
      (Table.find? participantId content.groups).map fun group => (content.exported group).record := by
  rw [records_eq, Table.last?_map (fun group => (content.exported group).record) (fun _ => rfl),
    Table.last?_eq_find? h.sortedGroups]
  exact congrArg (Option.map _)
    (Table.find?_of_perm h.sortedGroups (List.mergeSort_perm content.groups _) participantId)

theorem Normal.last?_businessCards (h : content.Normal) (participantId : Text) :
    Table.last? participantId content.document.businessCards =
      Table.find? participantId content.businessCards := by
  rw [Table.last?_eq_find? h.distinct.document_businessCards]
  refine Table.find?_filterMap_of_keys (fun key hkey => ?_) participantId
  obtain ⟨card, hcard, rfl⟩ := List.mem_map.mp hkey
  have hgroup := h.owned.businessCards card hcard
  rw [hasGroup, Table.hasKey_iff] at hgroup
  exact ((List.mergeSort_perm content.groups _).map Keyed.key).mem_iff.mpr hgroup

theorem Normal.readings (h : content.Normal) (hu : held.users = content.users) (defaultOwner : User) :
    (content.document.elements.serviceGroups.map fun e =>
        held.reading defaultOwner (Document.elementReader.serviceGroup e).2) =
      content.records.map fun record => (.ok record, []) := by
  rw [records, ExportDocument.elements, List.map_map, List.map_map]
  refine List.map_congr_left fun g hg => ?_
  obtain ⟨group, hgroup, rfl⟩ := List.mem_map.mp hg
  have hgroup := mem_sortedGroups.mp hgroup
  have hknown := h.owners group hgroup
  rw [← hu, Table.hasKey_eq_isSome, Option.isSome_iff_exists] at hknown
  obtain ⟨owner, howner⟩ := hknown
  let users (id : Text) : User := (Table.find? id held.users).getD defaultOwner
  have hid : (users group.ownerId).id = group.ownerId := by
    simp only [users, howner]
    exact Table.key_of_find? howner
  have hread := (h.exported hgroup).read hid
  change held.reading defaultOwner (Document.readServiceGroup _).2 = _
  rw [reading, hread]
  change (_, [group.ownerId].filter fun id => !Table.hasKey id held.users) = _
  rw [List.filter_singleton, Table.hasKey_eq_isSome, howner]
  rfl

theorem Normal.results (h : content.Normal) :
    (content.document.elements.businessCards.map fun e => (Document.elementReader.businessCard e).2) =
      content.document.businessCards.map .ok := by
  rw [ExportDocument.elements, List.map_map]
  exact List.map_congr_left fun card hcard =>
    congrArg Prod.snd (h.document.businessCards card hcard).read

theorem successes_map_ok {ε α : Type} (items : List α) :
    successes (items.map (.ok : α → Except ε α)) = items := by
  rw [successes, List.filterMap_map]
  exact List.filterMap_some

namespace Receives

theorem businessCards_nil (h : held.Receives content request.overwriteExisting)
    (hg : held.groups = []) : held.businessCards = [] := by
  refine List.eq_nil_iff_forall_not_mem.mpr fun card hcard => ?_
  have hgroup := h.owned.businessCards card hcard
  rw [hasGroup, hg] at hgroup
  cases hgroup

theorem admits (h : held.Receives content request.overwriteExisting) (hs : request.Snapshot held)
    (record : GroupRecord) : request.admits record = true := by
  rw [ImportRequest.admits]
  rcases h.overwrites with ho | hg
  · rw [ho, Bool.or_true]
  · rw [ImportRequest.hasGroup, hs.groups, hg]
    rfl

theorem admitsCard (h : held.Receives content request.overwriteExisting)
    (hs : request.Snapshot held) (card : BusinessCard) : request.admitsCard card = true := by
  rw [ImportRequest.admitsCard]
  rcases h.overwrites with ho | hg
  · rw [ho, Bool.or_true]
  · rw [ImportRequest.hasBusinessCard, hs.businessCards, h.businessCards_nil hg]
    rfl

theorem stage_eq (hn : content.Normal) (h : held.Receives content request.overwriteExisting) :
    held.stage request content.document.elements =
      stageAll request true (content.records.map fun record => (.ok record, []))
        (content.document.businessCards.map .ok) := by
  rw [stage, h.directoryIntegration, hn.readings h.users, hn.results]

theorem successes_readings (content : Store) :
    successes ((content.records.map fun record =>
      ((.ok record, []) : Reading GroupRecord)).map (·.1)) = content.records := by
  rw [List.map_map]
  exact successes_map_ok content.records

theorem stage_hasError (hn : content.Normal) (h : held.Receives content request.overwriteExisting)
    (hs : request.Snapshot held) :
    (held.stage request content.document.elements).2.any ActionRecord.isError = false := by
  have hkeys : request.admittedKeys content.records = Table.keys content.records := by
    rw [ImportRequest.admittedKeys, List.filter_eq_self.mpr fun record _ => h.admits hs record]
    rfl
  have hcardKeys : request.admittedCardKeys content.document.businessCards =
      Table.keys content.document.businessCards := by
    rw [ImportRequest.admittedCardKeys, List.filter_eq_self.mpr fun card _ => h.admitsCard hs card]
    rfl
  rw [h.stage_eq hn, stageAll_hasError, successes_readings, successes_map_ok, hkeys, hcardKeys]
  refine ⟨List.forall_mem_map.mpr fun record _ => ⟨record, rfl⟩, hn.distinct.records,
    fun _ => ⟨List.forall_mem_map.mpr fun card hcard => ⟨card, rfl, ?_⟩,
      hn.distinct.document_businessCards⟩⟩
  have hstaged : (request.withRecords content.records { directoryIntegration := true }).hasGroup
      card.participantId = true := by
    rw [ImportRequest.hasGroup_withRecords, hkeys, keys_records]
    obtain ⟨group, hgroup, hfind⟩ := List.mem_filterMap.mp hcard
    exact .inl (List.mem_map.mpr ⟨group, hgroup, (Table.key_of_find? hfind).symm⟩)
  rw [ImportRequest.knowsGroup, stageAll_batch, successes_readings, Bool.or_eq_true]
  exact .inr hstaged

theorem intent_holding (hn : content.Normal) (h : held.Receives content request.overwriteExisting)
    (hs : request.Snapshot held) (participantId : Text) :
    let intended := ((held.stage request content.document.elements).1.share participantId).intent
      (held.holding participantId)
    intended.group = (content.holding participantId).group ∧
      intended.endpoints.Perm (content.holding participantId).endpoints ∧
      intended.redirects.Perm (content.holding participantId).redirects ∧
      intended.card = (content.holding participantId).card := by
  have hread := h.stage_hasError hn hs
  rw [h.stage_eq hn] at hread ⊢
  rw [stageAll_intent hread, successes_readings, successes_map_ok, if_pos rfl,
    ImportRequest.intended, List.filter_eq_self.mpr fun record _ => h.admits hs record,
    List.filter_eq_self.mpr fun card _ => h.admitsCard hs card, hn.distinct.last?_records,
    hn.last?_businessCards]
  cases hfind : Table.find? participantId content.groups with
  | some group =>
    have hid : group.participantId = participantId := Table.key_of_find? hfind
    subst hid
    exact ⟨hfind.symm,
      Table.putAll_nil_perm (Table.nodup_keys_filter _ _ hn.distinct.endpoints) (List.mergeSort_perm _ _),
      Table.putAll_nil_perm (Table.nodup_keys_filter _ _ hn.distinct.redirects) (List.mergeSort_perm _ _),
      rfl⟩
  | none =>
    have hcontent : content.holding participantId = {} := hn.owned.holding participantId hfind
    have hheld : held.holding participantId = {} := by
      refine h.owned.holding participantId ((Table.find?_eq_none_iff _ _).mpr fun hmem => ?_)
      obtain ⟨g, hg, rfl⟩ := List.mem_map.mp hmem
      have hgroup : content.hasGroup (key g) = true := h.groups g hg
      rw [hasGroup_eq, hcontent] at hgroup
      cases hgroup
    have hcard : Table.find? participantId content.businessCards = none :=
      congrArg Holding.card hcontent
    rw [hheld, hcontent, hcard]
    exact ⟨rfl, .refl _, .refl _, rfl⟩

theorem requests_concern (hn : content.Normal)
    (h : held.Receives content request.overwriteExisting) :
    ∀ r ∈ (held.stage request content.document.elements).1.requests, r.mutation.Concerns content := by
  rw [h.stage_eq hn]
  refine stageAll_requests request true (fun record hr => ?_) fun card hc => ?_
  · rw [successes_readings, records_eq] at hr
    obtain ⟨group, hgroup, rfl⟩ := List.mem_map.mp hr
    have hgroup := mem_sortedGroups.mp hgroup
    exact ⟨⟨group, hgroup, rfl⟩, fun _ => hgroup, fun e he => (mem_exported_endpoints.mp he).1,
      fun r hr => (mem_exported_redirects.mp hr).1⟩
  · rw [successes_map_ok] at hc
    obtain ⟨group, -, hfind⟩ := List.mem_filterMap.mp hc
    have hcard := List.mem_of_find?_eq_some hfind
    exact ⟨hcard, hcard⟩

/-- The document of a store is imported without errors, and what is held then is what was exported. -/
theorem import_document (hn : content.Normal) {p : Progress Store}
    (h : p.registry.Receives content request.overwriteExisting) (hs : request.Snapshot p.registry)
    (hlog : p.log.records = []) :
    ∃ q : Progress Store,
      Run.importBatch Document.elementReader request content.document.elements p = (.ok (), q) ∧
      q.log.hasError = false ∧ q.registry.bare = p.registry.bare ∧ q.registry.SameRecords content := by
  obtain ⟨q, himport, hq, hbare, hdistinct, hholding⟩ := import_settles h.owned h.distinct
    h.unhindered hs hlog (h.stage_hasError hn hs)
  refine ⟨q, himport, hq, hbare, ?_⟩
  have hintent := h.intent_holding hn hs
  simp only [← hholding] at hintent
  exact sameRecords_of_holding hdistinct hn.distinct ((frame_of_bare hbare).1.trans h.users)
    (fun k => (hintent k).1) (fun k => (hintent k).2.1) (fun k => (hintent k).2.2.1)
    fun k => (hintent k).2.2.2

end Receives

end Store

def Store.plain (t : Store) : Store :=
  { t with directoryIntegration := true, failing := [], unchanging := [] }

namespace Store

variable {t content : Store}

theorem SameRecords.owned (h : t.SameRecords content) (ho : content.Owned) : t.Owned := by
  have hgroup {k : Text} (hk : content.hasGroup k = true) : t.hasGroup k = true := by
    rw [hasGroup, Table.hasKey_iff] at hk ⊢
    exact (h.groups.map key).mem_iff.mpr hk
  exact ⟨fun e he => hgroup (ho.endpoints e (h.endpoints.mem_iff.mp he)),
    fun r hr => hgroup (ho.redirects r (h.redirects.mem_iff.mp hr)),
    fun card hcard => hgroup (ho.businessCards card (h.businessCards.mem_iff.mp hcard))⟩

theorem SameRecords.refl (t : Store) : t.SameRecords t := ⟨rfl, .refl _, .refl _, .refl _, .refl _⟩

theorem SameRecords.plain (h : t.SameRecords content) : t.plain.SameRecords content :=
  ⟨h.users, h.groups, h.endpoints, h.redirects, h.businessCards⟩

theorem SameRecords.receives (h : t.SameRecords content) (hn : content.Normal) :
    t.plain.Receives content true where
  users := h.users
  owned := h.plain.owned hn.owned
  distinct := h.plain.distinct hn.distinct
  unhindered := ⟨rfl, rfl⟩
  directoryIntegration := rfl
  groups g hg := by
    rw [hasGroup, Table.hasKey_iff]
    exact List.mem_map_of_mem (h.groups.mem_iff.mp hg)
  overwrites := .inl rfl

theorem receives_of_users (content : Store) (overwriteExisting : Bool) :
    ({ users := content.users } : Store).plain.Receives content overwriteExisting where
  users := rfl
  owned := ⟨nofun, nofun, nofun⟩
  distinct := ⟨List.nodup_nil, List.nodup_nil, List.nodup_nil, List.nodup_nil⟩
  unhindered := ⟨rfl, rfl⟩
  directoryIntegration := rfl
  groups := nofun
  overwrites := .inr rfl

end Store

end ParticipantRegistry
