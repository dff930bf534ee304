import ParticipantRegistry.Proofs.Exchange.CardCascade
import ParticipantRegistry.Proofs.Exchange.EndState

/-!
# Groups and their routes

What is held of a participant apart from the card is the group with its endpoints and redirects. It is
told without a look at the cards, of which a registry may hold more than can be read: a commit that
fails in no turn leaves of every participant the group and the routes that were intended.
-/

namespace ParticipantRegistry

open Document (GroupRecord RecordError)

def Holding.routing (h : Holding) : Holding := { h with card := none }

theorem Mutation.effect_routing (mutation : Mutation) (h : Holding) :
    (mutation.effect h.routing).routing = (mutation.effect h).routing := by
  cases mutation <;> rfl

theorem Mutation.IsAboutCard.effect_routing {mutation : Mutation} (hcard : mutation.IsAboutCard)
    (h : Holding) : (mutation.effect h).routing = h.routing := by
  cases mutation with
  | deleteBusinessCard card => rfl
  | upsertBusinessCard card => rfl
  | _ => rcases hcard with hop | hop <;> cases hop

theorem Turn.applied_routing (turn : Turn) (h : Holding) :
    (turn.applied h.routing).routing = (turn.applied h).routing := by
  rw [applied, applied]
  split
  · exact turn.mutation.effect_routing h
  · rfl

namespace Holding

theorem after_cons (turn : Turn) (turns : List Turn) (h : Holding) :
    h.after (turn :: turns) = (turn.applied h).after turns := rfl

/-- What turns make of group and routes does not depend on the card. -/
theorem routing_after (turns : List Turn) {h h' : Holding} (hsame : h'.routing = h.routing) :
    (h'.after turns).routing = (h.after turns).routing := by
  induction turns generalizing h h' with
  | nil => exact hsame
  | cons turn turns ih =>
    rw [after_cons, after_cons]
    apply ih
    rw [← turn.applied_routing h', hsame, turn.applied_routing]

theorem routing_after_of_cards {turns : List Turn} (hcards : ∀ t ∈ turns, t.mutation.IsAboutCard)
    (h : Holding) : (h.after turns).routing = h.routing := by
  induction turns generalizing h with
  | nil => rfl
  | cons turn turns ih =>
    obtain ⟨hturn, hturns⟩ := List.forall_mem_cons.mp hcards
    rw [after_cons, ih hturns, Turn.applied]
    split
    · exact hturn.effect_routing h
    · rfl

end Holding

theorem Turn.forall_mutation {ι : Type} {turns : List Turn} {items : List ι} {request : ι → Request}
    {P : Mutation → Prop} (h : turns.map toRequest = items.map request)
    (hp : ∀ i, P (request i).mutation) : ∀ t ∈ turns, P t.mutation := by
  intro t ht
  obtain ⟨i, hi⟩ := exists_request h ht
  rw [hi]
  exact hp i

theorem Share.CarryOut.routed {share : Share} {turns : CommitTurns} {h : Holding}
    (hcarry : share.CarryOut turns)
    (hdeletion : share.groupDeletion.isSome = (share.group.isSome && h.group.isSome))
    (howned : h.Owned)
    (hchanges : ∀ t ∈ turns.deletions ++ turns.creations ++ turns.children, t.isChange = true) :
    (h.after turns.all).routing = (share.intent h).routing := by
  simp only [List.forall_mem_append] at hchanges
  obtain ⟨⟨hdeleted, hcreated⟩, hstored⟩ := hchanges
  have hcardDeletions : ∀ t ∈ turns.cardDeletions, t.mutation.IsAboutCard :=
    Turn.forall_mutation hcarry.cardDeletions fun card => .inl rfl
  have hcards : ∀ t ∈ turns.cards, t.mutation.IsAboutCard := by
    have hr := hcarry.cards
    split at hr
    · exact Turn.forall_mutation hr fun card => .inr rfl
    · rw [List.map_eq_nil_iff.mp hr]
      exact List.forall_mem_nil _
  have e₃ := hcarry.furnished
    (hcarry.founded (hcarry.cleared hdeletion howned hdeleted) hcreated) hcreated hstored
  rw [CommitTurns.all, Holding.after_append, Holding.routing_after_of_cards hcards,
    Holding.after_append, Holding.routing_after_of_cards hcardDeletions, Holding.after_append,
    Holding.after_append, e₃, Share.intent]
  cases share.group <;> rfl

theorem CommitTurns.CarryOut.routed {turns : CommitTurns} {staged : StagedBatch} {participantId : Text}
    {h : Holding} (hcarry : turns.CarryOut staged) (hw : staged.WellFormed)
    (hdeletion : (staged.share participantId).groupDeletion.isSome =
      ((staged.share participantId).group.isSome && h.group.isSome))
    (howned : h.Owned) (hrecords : (turns.records staged).any ActionRecord.isError = false) :
    (h.after (turns.all.filter fun t => t.mutation.participantId = participantId)).routing =
      ((staged.share participantId).intent h).routing := by
  have habout : turns.all.filter (fun t => t.mutation.participantId = participantId) =
      (turns.about participantId).all := by
    rw [CommitTurns.all_about]
    apply List.filter_congr
    intro t ht
    rw [(hw.requests t.toRequest (hcarry.mem_requests t ht)).1]
  rw [habout]
  apply (hcarry.share hw participantId).routed hdeletion howned
  obtain ⟨hchanges, -⟩ := (turns.records_hasError staged).mp hrecords
  simp only [List.forall_mem_append] at hchanges ⊢
  obtain ⟨⟨⟨hdel, hcre⟩, hchi⟩, -⟩ := hchanges
  exact ⟨⟨fun t ht => hdel t (List.mem_of_mem_filter ht),
    fun t ht => hcre t (List.mem_of_mem_filter ht)⟩,
    fun t ht => hchi t (List.mem_of_mem_filter ht)⟩

/-- The group and the routes of a record. Of several endpoints or redirects with one key the last one
counts. -/
def Document.GroupRecord.routing (record : GroupRecord) : Holding where
  group := some record.group
  endpoints := Table.putAll record.endpoints []
  redirects := Table.putAll record.redirects []

theorem stageAll_deletion (request : ImportRequest) (directoryIntegration : Bool)
    (readings : List (Reading GroupRecord)) (results : List (Except RecordError BusinessCard))
    (participantId : Text) :
    let share := (stageAll request directoryIntegration readings results).1.share participantId
    share.groupDeletion.isSome = (share.group.isSome && request.hasGroup participantId) := by
  intro share
  have hdeletion := request.withRecords_deletion directoryIntegration
    (successes (readings.map (·.1))) participantId
  simp only [share, stageAll_batch]
  split <;> exact hdeletion

theorem ImportRequest.last?_admitted {request : ImportRequest} {records : List GroupRecord}
    (hn : (request.admittedKeys records).Nodup) {record : GroupRecord} (hr : record ∈ records) :
    Table.last? record.group.participantId (records.filter request.admits) =
      if request.admits record then some record else none := by
  have hkeys : (Table.keys (records.filter request.admits)).Nodup := hn
  rw [Table.last?_eq_find? hkeys]
  split
  · next ha => exact (Table.find?_eq_some_iff hkeys).mpr ⟨List.mem_filter.mpr ⟨hr, ha⟩, rfl⟩
  · next ha =>
    rw [Table.find?_eq_none_iff]
    intro hk
    obtain ⟨other, hother, hk⟩ := List.mem_map.mp hk
    -- whether a record is admitted depends on its key alone
    have hadmits := (List.mem_filter.mp hother).2
    rw [admits, show other.group.participantId = record.group.participantId from hk] at hadmits
    exact ha hadmits

theorem ImportRequest.intended_routing {request : ImportRequest} {records : List GroupRecord}
    (hn : (request.admittedKeys records).Nodup) {record : GroupRecord} (hr : record ∈ records)
    (cards : List BusinessCard) (h : Holding) :
    (request.intended records cards record.group.participantId h).routing =
      if request.admits record then record.routing else h.routing := by
  rw [intended, last?_admitted hn hr]
  cases request.admits record <;> rfl

end ParticipantRegistry
