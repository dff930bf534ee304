import ParticipantRegistry.Proofs.Document.Encodable
import ParticipantRegistry.Proofs.Document.GroupGrammar
import ParticipantRegistry.Proofs.Exchange.BatchReading
import ParticipantRegistry.Proofs.Exchange.Reimport

/-!
# Owners of imported groups

A group is imported for the user that is found under the owner id of its element once that is trimmed. If
there is none, it is imported for the default owner, and the log tells so. If the owner id is trimmed, the
group that is exported again names the same owner, so that a further import finds the same user.
-/

namespace ParticipantRegistry

open Document (GroupElement GroupRecord HasText checkGroup readServiceGroup)

namespace Document

open Checked

variable {ms : Json.Members}

theorem HasText.eq_trim {name s t : Text} (h : HasText ms name t)
    (hs : ms.lookup name = some (.string s)) : t = s.trim := by
  obtain ⟨s', hs', rfl, -⟩ := h
  rw [hs] at hs'
  cases hs'
  rfl

theorem HasText.unique {name t t' : Text} (h : HasText ms name t) (h' : HasText ms name t') :
    t = t' := by
  obtain ⟨s, hs, rfl, -⟩ := h'
  exact h.eq_trim hs

theorem ensures_hasText (ms : Json.Members) (name : Text) :
    (required name trimmedText ms).Ensures (HasText ms name) := by
  rw [required]
  cases hlookup : ms.lookup name with
  | none => exact (ensures_flawed .missing).under _
  | some v =>
    refine Ensures.under ?_ _
    cases v with
    | string s =>
      simp only [trimmedText]
      split
      · exact ensures_flawed .notUnicode
      · split
        · exact ensures_flawed .tooShort
        · next hfilled => exact ensures_valid ⟨s, hlookup, rfl, hfilled⟩
    | _ => exact ensures_flawed .notText

theorem ensures_named (ms : Json.Members) : (checkGroup (.object ms)).Ensures fun g =>
    HasText ms "participant_id" g.participantId ∧ HasText ms "owner_id" g.ownerId := by
  have hrest {α : Type} (c : Checked α) : c.Ensures fun _ => True := fun _ _ => trivial
  refine ensures_members (.seq (.seq (.seq (.seq (.map (ensures_hasText ms _) ?_)
    (ensures_hasText ms _)) (hrest _)) (hrest _)) (hrest _))
  intro participantId hparticipant ownerId howner _ _ _ _ _ _
  exact ⟨hparticipant, howner⟩

end Document

def Note.isOwnerReplaced : Note → Bool
  | .ownerReplaced _ _ => true
  | _ => false

/-- A record tells that the group of a participant got the default owner. -/
def ActionRecord.replacesOwner (participantId : Text) (r : ActionRecord) : Bool :=
  r.note.isOwnerReplaced && decide (r.key = .string participantId)

def ActionLog.replacesOwner (participantId : Text) (log : ActionLog) : Bool :=
  log.records.any (ActionRecord.replacesOwner participantId)

namespace ImportRequest

variable (request : ImportRequest) (participantId : Text)

theorem groupLines_replacesOwner (earlier : List (Reading GroupRecord)) (index : Nat)
    (reading : Reading GroupRecord) :
    (request.groupLines earlier index reading).any (ActionRecord.replacesOwner participantId) = true ↔
      ∃ record, reading.1 = .ok record ∧ record.group.participantId = participantId ∧
        reading.2 ≠ [] := by
  obtain ⟨result, unresolved⟩ := reading
  cases result with
  | error e => simp [groupLines, ActionRecord.replacesOwner, Note.isOwnerReplaced]
  | ok record =>
    have hkey : (Json.ofText? (some record.group.participantId) = .string participantId) ↔
        record.group.participantId = participantId := ⟨Json.string.inj, congrArg Json.string⟩
    have hunresolved (notes : List Note) (h : notes.any Note.isOwnerReplaced = false) :
        ((unresolved.map fun id => Note.ownerReplaced id request.defaultOwner.id) ++ notes).any
          Note.isOwnerReplaced = true ↔ unresolved ≠ [] := by
      rw [List.any_append, h]
      cases unresolved <;> simp [Note.isOwnerReplaced]
    have hline (notes : List Note) : (notes.map fun note =>
        (⟨.ofText? (some record.group.participantId), note, none⟩ : ActionRecord)).any
          (ActionRecord.replacesOwner participantId) = true ↔
        notes.any Note.isOwnerReplaced = true ∧ record.group.participantId = participantId := by
      simp only [List.any_map, List.any_eq_true, Function.comp_apply, ActionRecord.replacesOwner,
        hkey, Bool.and_eq_true, decide_eq_true_iff]
      tauto
    simp only [groupLines]
    rw [hline, hunresolved _ (by split_ifs <;> rfl)]
    constructor
    · rintro ⟨hsome, hid⟩
      exact ⟨record, rfl, hid, hsome⟩
    · rintro ⟨_, heq, hid, hsome⟩
      cases heq
      exact ⟨hsome, hid⟩

theorem cardLines_replacesOwner (staged : StagedBatch)
    (earlier : List (Except Document.RecordError BusinessCard)) (index : Nat)
    (result : Except Document.RecordError BusinessCard) :
    (request.cardLines staged earlier index result).any (ActionRecord.replacesOwner participantId) =
      false := by
  cases result with
  | error e => rfl
  | ok card =>
    simp only [cardLines]
    split_ifs <;> rfl

end ImportRequest

theorem stageAll_replacesOwner (request : ImportRequest) (directoryIntegration : Bool)
    (readings : List (Reading GroupRecord))
    (results : List (Except Document.RecordError BusinessCard)) (participantId : Text) :
    (stageAll request directoryIntegration readings results).2.any
        (ActionRecord.replacesOwner participantId) = true ↔
      ∃ reading ∈ readings, ∃ record, reading.1 = .ok record ∧
        record.group.participantId = participantId ∧ reading.2 ≠ [] := by
  rw [stageAll_lines, List.any_append, Bool.or_eq_true, or_iff_left ?cards, List.any_flatMap,
    List.any_eq_true]
  case cards =>
    rw [List.any_flatMap, Bool.not_eq_true, List.any_eq_false]
    intro item _
    rw [request.cardLines_replacesOwner]
    exact Bool.false_ne_true
  simp only [request.groupLines_replacesOwner]
  constructor
  · rintro ⟨item, hitem, hreplaced⟩
    exact ⟨item.1, List.fst_mem_of_mem_zipIdx hitem, hreplaced⟩
  · rintro ⟨reading, hreading, hreplaced⟩
    obtain ⟨index, hindex⟩ := List.mem_iff_getElem?.mp hreading
    exact ⟨(reading, index), List.mk_mem_zipIdx_iff_getElem?.mpr hindex, hreplaced⟩

theorem Turn.record_replacesOwner (participantId : Text) (t : Turn) :
    t.record.replacesOwner participantId = false := by
  rw [Turn.record, ActionRecord.replacesOwner, Turn.note]
  split <;> rfl

theorem Turn.cardRecord_replacesOwner (participantId : Text) (deletedGroups : List Text) (t : Turn) :
    (t.cardRecord deletedGroups).replacesOwner participantId = false := by
  rw [Turn.cardRecord]
  split
  · rfl
  · exact t.record_replacesOwner participantId

theorem CommitTurns.records_replacesOwner (turns : CommitTurns) (staged : StagedBatch)
    (participantId : Text) :
    (turns.records staged).any (ActionRecord.replacesOwner participantId) = false := by
  simp only [CommitTurns.records, List.any_append, List.any_map, Function.comp_def,
    Turn.record_replacesOwner, Turn.cardRecord_replacesOwner, Bool.or_eq_false_iff]
  simp [BusinessCard.retraction, ActionRecord.replacesOwner, Note.isOwnerReplaced]

theorem Store.import_replacesOwner {request : ImportRequest} {batch : ParsedBatch}
    {p q : Progress Store} (hlog : p.log.records = [])
    (himport : Run.importBatch Document.elementReader request batch p = (.ok (), q))
    (participantId : Text) :
    q.log.replacesOwner participantId =
      (p.registry.stage request batch).2.any (ActionRecord.replacesOwner participantId) := by
  obtain ⟨r, q', -, hrecords, himport', hhalted, hproceeded⟩ :=
    Store.shows.import_ends request batch p
  obtain rfl : q = q' := (Prod.mk.inj (himport.symm.trans himport')).2
  simp only [id_eq, hlog, List.nil_append] at hrecords hhalted hproceeded
  have hdecision (outcome : PlanOutcome) (staged : StagedBatch) : ActionRecord.replacesOwner
      participantId ⟨.null, outcome.note staged, none⟩ = false := by
    cases outcome <;> rfl
  have hr : r.log.replacesOwner participantId =
      (p.registry.stage request batch).2.any (ActionRecord.replacesOwner participantId) := by
    rw [ActionLog.replacesOwner, hrecords, List.any_append, List.any_cons, hdecision]
    exact Bool.or_false _
  by_cases houtcome : PlanOutcome.decide (p.registry.stage request batch).1
      ((p.registry.stage request batch).2.any ActionRecord.isError) = .proceed
  · obtain ⟨turns, -, -, hq⟩ := hproceeded houtcome
    rw [ActionLog.replacesOwner, hq, List.any_append, turns.records_replacesOwner, Bool.or_false]
    exact hr
  · rw [(hhalted houtcome).2]
    exact hr

theorem Share.Fits.intent_owned {share : Share} {h : Holding} (hf : share.Fits h) (ho : h.Owned) :
    (share.intent h).Owned := by
  intro hnone
  rw [Share.intent] at hnone ⊢
  cases hgroup : share.group with
  | some staged =>
    rw [hgroup] at hnone
    cases hnone
  | none =>
    rw [hgroup] at hnone
    have hcard : share.card = none := by
      rw [← Option.not_isSome_iff_eq_none]
      intro hsome
      have hknown := hf.card hsome
      rw [hgroup, show h.group = none from hnone] at hknown
      cases hknown
    rw [hcard, ho hnone]
    rfl

namespace Store

/-- Records with distinct keys that belong together, and nothing is told to go wrong. -/
structure Intact (t : Store) : Prop where
  owned : t.Owned
  distinct : t.Distinct
  unhindered : t.Unhindered

/-- The batch is read over the store without an error. -/
def Accepts (s : Store) (request : ImportRequest) (batch : ParsedBatch) : Prop :=
  (s.stage request batch).2.any ActionRecord.isError = false

instance (s : Store) (request : ImportRequest) (batch : ParsedBatch) :
    Decidable (s.Accepts request batch) :=
  inferInstanceAs (Decidable (_ = false))

def ownerOf (s : Store) (request : ImportRequest) (ownerId : Text) : User :=
  (Table.find? ownerId s.users).getD request.defaultOwner

theorem ownerOf_id (s : Store) (request : ImportRequest) {ownerId : Text}
    (hknown : Table.hasKey ownerId s.users = true) : (s.ownerOf request ownerId).id = ownerId := by
  rw [Table.hasKey_eq_isSome, Option.isSome_iff_exists] at hknown
  obtain ⟨owner, howner⟩ := hknown
  rw [ownerOf, howner]
  exact Table.key_of_find? howner

def readings (s : Store) (request : ImportRequest) (batch : ParsedBatch) :
    List (Reading GroupRecord) :=
  batch.serviceGroups.map fun e => s.reading request.defaultOwner (readServiceGroup e).2

def recordsOf (s : Store) (request : ImportRequest) (batch : ParsedBatch) : List GroupRecord :=
  successes ((s.readings request batch).map (·.1))

variable {s : Store} {request : ImportRequest} {batch : ParsedBatch} {ms : Json.Members}

/-- In an accepted batch the participants of the records that may be staged are distinct. -/
theorem Accepts.distinct (h : s.Accepts request batch) :
    (Table.keys ((s.recordsOf request batch).filter request.admits)).Nodup :=
  ((stageAll_hasError _ _ _ _).mp h).2.1

theorem Accepts.reading (h : s.Accepts request batch) (he : .object ms ∈ batch.serviceGroups) :
    ∃ parsed : GroupElement, (checkGroup (.object ms)).result = .ok parsed ∧
      (parsed.toRecord (s.ownerOf request parsed.ownerId)).check = .ok () ∧
      (.ok (parsed.toRecord (s.ownerOf request parsed.ownerId)),
          [parsed.ownerId].filter fun id => !Table.hasKey id s.users) ∈ s.readings request batch := by
  obtain ⟨hread, -, -⟩ := (stageAll_hasError _ _ _ _).mp h
  obtain ⟨record, hrecord⟩ := hread _ (List.mem_map_of_mem he)
  have hrecord : ((readServiceGroup (.object ms)).2.run fun id => s.ownerOf request id).2 =
      .ok record := hrecord
  obtain ⟨parsed, hparsed, rfl, hcheck⟩ := Document.readServiceGroup_ok hrecord
  refine ⟨parsed, hparsed, hcheck, List.mem_map.mpr ⟨_, he, Prod.ext hrecord ?_⟩⟩
  have hrun := Document.run_readServiceGroup (.object ms) fun id => s.ownerOf request id
  rw [hparsed] at hrun
  exact congrArg (fun answered => answered.1.filter fun id => !Table.hasKey id s.users) hrun

theorem Accepts.eq_of_admits (h : s.Accepts request batch) {r r' : Reading GroupRecord}
    (hr : r ∈ s.readings request batch) (hr' : r' ∈ s.readings request batch)
    {record record' : GroupRecord} (hrecord : r.1 = .ok record) (hrecord' : r'.1 = .ok record')
    (hsame : record'.group.participantId = record.group.participantId)
    (hadmits : request.admits record = true) : r = r' := by
  let key? (r : Reading GroupRecord) : Option Text :=
    (r.1.toOption.filter request.admits).map (·.group.participantId)
  have hkeys : Table.keys ((s.recordsOf request batch).filter request.admits) =
      (s.readings request batch).filterMap key? := by
    rw [recordsOf, successes, List.filterMap_map, List.filter_filterMap, Table.keys,
      List.map_filterMap]
    rfl
  have hdistinct := h.distinct
  rw [hkeys, List.Nodup, List.pairwise_filterMap] at hdistinct
  have hadmits' : request.admits record' = true := by
    rwa [ImportRequest.admits, hsame, ← ImportRequest.admits]
  have hkey : key? r = some record.group.participantId := by
    simp only [key?, hrecord, Except.toOption, Option.filter_some, hadmits, if_true, Option.map_some]
  have hkey' : key? r' = some record.group.participantId := by
    simp only [key?, hrecord', Except.toOption, Option.filter_some, hadmits', if_true,
      Option.map_some, hsame]
  have hsymm : Std.Symm fun r r' : Reading GroupRecord =>
      ∀ k, key? r = some k → ∀ k', key? r' = some k' → k ≠ k' :=
    ⟨fun _ _ h k hk k' hk' => (h k' hk' k hk).symm⟩
  by_contra hne
  exact hdistinct.forall hr hr' hne _ hkey _ hkey' rfl

theorem Accepts.replacesOwner (h : s.Accepts request batch) {record : GroupRecord}
    {unresolved : List Text} (hr : (.ok record, unresolved) ∈ s.readings request batch)
    (hadmits : request.admits record = true) :
    (s.stage request batch).2.any (ActionRecord.replacesOwner record.group.participantId) = true ↔
      unresolved ≠ [] := by
  rw [stage, stageAll_replacesOwner]
  constructor
  · rintro ⟨r, hr', record', hrecord', hid, hsome⟩
    rwa [← h.eq_of_admits hr hr' rfl hrecord' hid hadmits] at hsome
  · intro hsome
    exact ⟨_, hr, record, rfl, rfl, hsome⟩

theorem Accepts.intent (h : s.Accepts request batch) {record : GroupRecord}
    (hrecord : record ∈ s.recordsOf request batch) (hadmits : request.admits record = true)
    (held : Holding) :
    let intended := ((s.stage request batch).1.share record.group.participantId).intent held
    intended.group = some record.group ∧ intended.endpoints = Table.putAll record.endpoints [] ∧
      intended.redirects = Table.putAll record.redirects [] := by
  intro intended
  have hlast : Table.last? record.group.participantId
      ((s.recordsOf request batch).filter request.admits) = some record := by
    rw [Table.last?_eq_find? h.distinct, Table.find?_eq_some_iff h.distinct]
    exact ⟨List.mem_filter.mpr ⟨hrecord, hadmits⟩, rfl⟩
  have hintended : intended = request.intended (s.recordsOf request batch) _
      record.group.participantId held := stageAll_intent h record.group.participantId held
  rw [hintended, ImportRequest.intended, hlast]
  exact ⟨rfl, rfl, rfl⟩

/-- The store holds a group with its children as it was read, for an owner. -/
structure HoldsRead (t : Store) (parsed : GroupElement) (owner : User) : Prop where
  checked : (parsed.toRecord owner).check = .ok ()
  group : (t.holding parsed.participantId).group = some (parsed.toRecord owner).group
  endpoints : (t.holding parsed.participantId).endpoints =
    Table.putAll (parsed.toRecord owner).endpoints []
  redirects : (t.holding parsed.participantId).redirects =
    Table.putAll (parsed.toRecord owner).redirects []

/-- An accepted batch is imported without errors. The group of every element that may be staged is held
for the user of its owner id, and the log warns about the owner exactly if there is no such user. -/
theorem Intact.import_owners {p : Progress Store} (hp : p.registry.Intact)
    (hsnapshot : request.Snapshot p.registry) (hlog : p.log.records = [])
    (h : p.registry.Accepts request batch) :
    ∃ q : Progress Store,
      Run.importBatch Document.elementReader request batch p = (.ok (), q) ∧
      q.log.hasError = false ∧ q.registry.users = p.registry.users ∧ q.registry.Intact ∧
      ∀ (ms : Json.Members) (parsed : GroupElement), .object ms ∈ batch.serviceGroups →
        (checkGroup (.object ms)).result = .ok parsed →
        (request.overwriteExisting = true ∨ p.registry.hasGroup parsed.participantId = false) →
        q.registry.HoldsRead parsed (p.registry.ownerOf request parsed.ownerId) ∧
        q.log.replacesOwner parsed.participantId = !Table.hasKey parsed.ownerId p.registry.users := by
  obtain ⟨q, himport, herror, hbare, hdistinct, hholding⟩ :=
    import_settles hp.owned hp.distinct hp.unhindered hsnapshot hlog h
  refine ⟨q, himport, herror, (frame_of_bare hbare).1, ⟨?_, hdistinct, ?_⟩, ?_⟩
  · refine owned_of_holding fun participantId => ?_
    rw [hholding]
    exact (stage_fits hsnapshot batch participantId).intent_owned (hp.owned.holding participantId)
  · exact ⟨(congrArg failing hbare).trans hp.unhindered.failing,
      (congrArg unchanging hbare).trans hp.unhindered.unchanging⟩
  intro ms parsed he hparsed hadmitted
  obtain ⟨parsed', hparsed', hcheck, hreading⟩ := h.reading he
  obtain rfl : parsed' = parsed := Except.ok.inj (hparsed'.symm.trans hparsed)
  have hadmits : (!request.hasGroup parsed'.participantId || request.overwriteExisting) = true := by
    rw [hsnapshot.hasGroup_eq, ← hasGroup_eq]
    rcases hadmitted with hoverwrites | hnew
    · rw [hoverwrites, Bool.or_true]
    · rw [hnew]
      rfl
  have hrecord : parsed'.toRecord (p.registry.ownerOf request parsed'.ownerId) ∈
      p.registry.recordsOf request batch := mem_successes.mpr (List.mem_map_of_mem hreading)
  obtain ⟨hgroup, hendpoints, hredirects⟩ :=
    h.intent hrecord hadmits (p.registry.holding parsed'.participantId)
  have hheld := hholding parsed'.participantId
  refine ⟨⟨hcheck, ?_, ?_, ?_⟩, ?_⟩
  · rw [hheld]
    exact hgroup
  · rw [hheld]
    exact hendpoints
  · rw [hheld]
    exact hredirects
  · rw [Bool.eq_iff_iff, import_replacesOwner hlog himport]
    refine (h.replacesOwner hreading hadmits).trans ?_
    rw [List.filter_singleton]
    cases Table.hasKey parsed'.ownerId p.registry.users <;> simp

/-- A group that is exported alone is written to a file from which a batch is loaded. -/
def ExportsTo (t : Store) (group : ServiceGroup) (batch : ParsedBatch) : Prop :=
  ∃ (document : ExportDocument) (p : Progress Store) (text : Text),
    Run.exportGroups [group] false { registry := t } = (.ok document, p) ∧
    Document.fileText document = .ok text ∧
    ∀ path, Document.load path (Utf8.encode text) = ([], .ok batch)

end Store

/-- Imported with overwriting where its owner is known, the batch gives a group as it is, without an error
or a warning about its owner, whoever the default owner is. -/
def ParsedBatch.Restores (batch : ParsedBatch) (group : ServiceGroup) : Prop :=
  ∀ (p : Progress Store) (request : ImportRequest), p.registry.Intact →
    Table.hasKey group.ownerId p.registry.users = true → request.Snapshot p.registry →
    p.log.records = [] → request.overwriteExisting = true →
    ∃ q : Progress Store,
      Run.importBatch Document.elementReader request batch p = (.ok (), q) ∧
      q.log.hasError = false ∧ q.log.replacesOwner group.participantId = false ∧
      (q.registry.holding group.participantId).group = some group

def ExportedGroup.alone (g : ExportedGroup) : ExportDocument := ⟨[g], []⟩

namespace Store

variable {s t : Store} {parsed : GroupElement} {owner : User} {g : ExportedGroup}

theorem HoldsRead.mem_endpoints (h : t.HoldsRead parsed owner) {e : Endpoint}
    (he : e ∈ (t.exported (parsed.toRecord owner).group).endpoints) :
    e ∈ (parsed.toRecord owner).endpoints := by
  obtain ⟨he, hid⟩ := mem_exported_endpoints.mp he
  have hheld : e ∈ (t.holding parsed.participantId).endpoints :=
    List.mem_filter.mpr ⟨he, decide_eq_true hid⟩
  rw [h.endpoints] at hheld
  exact (Table.mem_of_mem_putAll hheld).resolve_right List.not_mem_nil

theorem HoldsRead.mem_redirects (h : t.HoldsRead parsed owner) {r : Redirect}
    (hr : r ∈ (t.exported (parsed.toRecord owner).group).redirects) :
    r ∈ (parsed.toRecord owner).redirects := by
  obtain ⟨hr, hid⟩ := mem_exported_redirects.mp hr
  have hheld : r ∈ (t.holding parsed.participantId).redirects :=
    List.mem_filter.mpr ⟨hr, decide_eq_true hid⟩
  rw [h.redirects] at hheld
  exact (Table.mem_of_mem_putAll hheld).resolve_right List.not_mem_nil

theorem HoldsRead.exported_normal (h : t.HoldsRead parsed owner) (hn : parsed.Normal)
    (hid : owner.id = parsed.ownerId) : (t.exported (parsed.toRecord owner).group).Normal := by
  obtain ⟨hgroup, hendpoints, hredirects⟩ := (Document.GroupRecord.check_eq_ok_iff _).mp h.checked
  have howner : Document.Trimmed owner.id := hid ▸ hn.ownerId
  refine ⟨⟨hn.participantId, howner, hn.extension, ?_, ?_⟩, ?_, ?_, ?_⟩
  · refine List.forall_mem_map.mpr fun e he => ?_
    obtain ⟨element, helement, rfl⟩ := List.mem_map.mp (h.mem_endpoints he)
    exact hn.endpoints element helement
  · refine List.forall_mem_map.mpr fun r hr => ?_
    obtain ⟨element, helement, rfl⟩ := List.mem_map.mp (h.mem_redirects hr)
    exact hn.redirects element helement
  · exact (Document.GroupRecord.check_eq_ok_iff _).mpr ⟨hgroup,
      fun e he => hendpoints e (h.mem_endpoints he), fun r hr => hredirects r (h.mem_redirects hr)⟩
  · exact fun e he => (mem_exported_endpoints.mp he).2
  · exact fun r hr => (mem_exported_redirects.mp hr).2

theorem accepts_alone (hn : g.Normal) (hknown : Table.hasKey g.group.ownerId s.users = true)
    (request : ImportRequest) : s.Accepts request g.alone.elements := by
  have hread : (s.reading request.defaultOwner (readServiceGroup g.element.toJson).2).1 =
      .ok g.record := congrArg Prod.snd (hn.read (s.ownerOf_id request hknown))
  rw [Accepts, stage, stageAll_hasError]
  refine ⟨List.forall_mem_singleton.mpr ⟨g.record, hread⟩, ?_,
    fun _ => ⟨List.forall_mem_nil _, List.nodup_nil⟩⟩
  change (request.admittedKeys (successes
    [(s.reading request.defaultOwner (readServiceGroup g.element.toJson).2).1])).Nodup
  rw [hread]
  exact (List.filter_sublist.map _).nodup (List.nodup_singleton g.record.group.participantId)

theorem exportsTo_alone (hf : t.failing = []) {group : ServiceGroup}
    (hn : (t.exported group).Normal) : t.ExportsTo group (t.exported group).alone.elements := by
  have hdocument : t.listing.document [group] false = (t.exported group).alone := by
    rw [Listing.document, listing_exported hf, List.mergeSort_singleton]
    rfl
  obtain ⟨_, -, hexport⟩ := Run.returns_exportGroups t.lists [group] false t rfl
  rw [hdocument] at hexport
  obtain ⟨events, hexport⟩ := hexport { registry := t } rfl
  have hnormal : (t.exported group).alone.Normal :=
    ⟨List.forall_mem_singleton.mpr hn, List.forall_mem_nil _⟩
  exact ⟨_, _, _, hexport, hnormal.fileText, hnormal.load⟩

theorem restores_alone (hn : g.Normal) : g.alone.elements.Restores g.group := by
  intro p request hp hknown hsnapshot hlog hoverwrites
  obtain ⟨q, himport, herror, -, -, howners⟩ :=
    hp.import_owners hsnapshot hlog (accepts_alone hn hknown request)
  have hparsed : (checkGroup g.element.toJson).result = .ok g.element :=
    congrArg Document.Checked.result hn.element.check
  obtain ⟨hheld, hreplaced⟩ := howners _ _ List.mem_cons_self hparsed (.inl hoverwrites)
  refine ⟨q, himport, herror, ?_, ?_⟩
  · rw [show Table.hasKey g.element.ownerId p.registry.users = true from hknown] at hreplaced
    exact hreplaced
  · have hid : (p.registry.ownerOf request g.element.ownerId).id = g.group.ownerId :=
      p.registry.ownerOf_id request hknown
    have hgroup := hheld.group
    rwa [hn.toRecord hid] at hgroup

end Store

end ParticipantRegistry
