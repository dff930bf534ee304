import ParticipantRegistry.Proofs.Exchange.Restriction
import ParticipantRegistry.Proofs.Registry.Holding

/-!
# One participant's share of a commit

A staged batch falls apart into what it stages for each participant, and the turns of a commit fall
apart likewise: what is done about a participant carries out the participant's share and depends on
the participant's holding alone. Each table of a well-formed batch stages at most one record for a
participant, so a share is followed turn by turn.
-/

namespace ParticipantRegistry

open Document (GroupRecord)

/-- The group has its required texts, and its children belong to it. -/
structure Document.GroupRecord.WellFormed (record : GroupRecord) : Prop where
  checked : record.group.check = .ok ()
  endpoints : ∀ e ∈ record.endpoints, e.participantId = record.group.participantId
  redirects : ∀ r ∈ record.redirects, r.participantId = record.group.participantId

/-- The tables have distinct keys, and their records are such as can be stored. -/
structure StagedBatch.WellFormed (staged : StagedBatch) : Prop where
  groups : (Table.keys staged.groups).Nodup
  groupDeletions : (Table.keys staged.groupDeletions).Nodup
  businessCards : (Table.keys staged.businessCards).Nodup
  businessCardDeletions : (Table.keys staged.businessCardDeletions).Nodup
  records : ∀ g ∈ staged.groups, g.record.WellFormed
  cards : ∀ card ∈ staged.businessCards, card.check = .ok ()

/-- Every request is made on behalf of the participant that its mutation is about, and carries a
record with its required texts. -/
theorem StagedBatch.WellFormed.requests {staged : StagedBatch} (hw : staged.WellFormed) :
    ∀ r ∈ staged.requests, r.mutation.participantId = r.participantId ∧
      r.mutation.check = .ok () := by
  simp only [StagedBatch.requests, List.forall_mem_append, List.forall_mem_map,
    List.forall_mem_flatMap, StagedGroup.children, StagedGroup.merges, StagedGroup.upserts]
  refine ⟨⟨⟨⟨?_, ?_⟩, ?_⟩, ?_⟩, ?_⟩
  · exact fun group _ => ⟨rfl, rfl⟩
  · exact fun g hg => ⟨rfl, (hw.records g hg).checked⟩
  · exact fun g hg => ⟨fun e he => ⟨(hw.records g hg).endpoints e he, rfl⟩,
      fun r hr => ⟨(hw.records g hg).redirects r hr, rfl⟩⟩
  · exact fun card _ => ⟨rfl, rfl⟩
  · exact fun card hcard => ⟨rfl, hw.cards card hcard⟩

namespace StagedBatch

def about (participantId : Text) (staged : StagedBatch) : StagedBatch :=
  { staged with
    groups := staged.groups.filter (·.participantId = participantId)
    groupDeletions := staged.groupDeletions.filter (·.participantId = participantId)
    businessCards := staged.businessCards.filter (·.participantId = participantId)
    businessCardDeletions := staged.businessCardDeletions.filter (·.participantId = participantId) }

theorem WellFormed.about_eq {staged : StagedBatch} (hw : staged.WellFormed) (participantId : Text) :
    staged.about participantId =
      { staged with
        groups := (Table.find? participantId staged.groups).toList
        groupDeletions := (Table.find? participantId staged.groupDeletions).toList
        businessCards := (Table.find? participantId staged.businessCards).toList
        businessCardDeletions := (Table.find? participantId staged.businessCardDeletions).toList } := by
  rw [about, ← Table.filter_key_eq _ _ hw.groups, ← Table.filter_key_eq _ _ hw.groupDeletions,
    ← Table.filter_key_eq _ _ hw.businessCards, ← Table.filter_key_eq _ _ hw.businessCardDeletions]
  rfl

end StagedBatch

namespace CommitTurns

def about (participantId : Text) (turns : CommitTurns) : CommitTurns where
  deletions := turns.deletions.filter (·.participantId = participantId)
  creations := turns.creations.filter (·.participantId = participantId)
  children := turns.children.filter (·.participantId = participantId)
  cardDeletions := turns.cardDeletions.filter (·.participantId = participantId)
  cards := turns.cards.filter (·.participantId = participantId)

theorem all_about (participantId : Text) (turns : CommitTurns) :
    (turns.about participantId).all = turns.all.filter (·.participantId = participantId) :=
  all_restrict (fun k => decide (k = participantId)) turns

theorem isMoot_about (turns : CommitTurns) (t : Turn) :
    t.isMoot (turns.about t.participantId).deletedGroups = t.isMoot turns.deletedGroups :=
  isMoot_restrict (p := fun k => decide (k = t.participantId)) turns (decide_eq_true rfl)

theorem CarryOut.about {turns : CommitTurns} {staged : StagedBatch} (h : turns.CarryOut staged)
    (participantId : Text) :
    (turns.about participantId).CarryOut (staged.about participantId) :=
  h.restrict fun k => decide (k = participantId)

theorem CarryOut.mem_requests {turns : CommitTurns} {staged : StagedBatch}
    (h : turns.CarryOut staged) : ∀ t ∈ turns.all, t.toRequest ∈ staged.requests := by
  intro t ht
  have hm : t.toRequest ∈ turns.all.map Turn.toRequest := List.mem_map_of_mem ht
  simp only [all, List.map_append, h.deletions, h.creations, h.children, h.cardDeletions, h.cards,
    List.mem_append, List.mem_map, List.mem_flatMap, List.mem_filter] at hm
  simp only [StagedBatch.requests, List.mem_append, List.mem_map, List.mem_flatMap]
  rcases hm with (((hm | hm) | hm) | hm) | ⟨card, hcard, hr⟩
  · exact .inl (.inl (.inl (.inl hm)))
  · exact .inl (.inl (.inl (.inr hm)))
  · obtain ⟨g, hg, hr⟩ := hm
    exact .inl (.inl (.inr ⟨g, hg.1, hr⟩))
  · exact .inl (.inr hm)
  · exact .inr ⟨card, hcard.1, hr⟩

end CommitTurns

/-- What a commit does to a store, it does to each participant's holding by the turns about the
participant. -/
theorem CommitTurns.CarryOut.holdings {turns : CommitTurns} {staged : StagedBatch} {s s' : Store}
    (h : turns.CarryOut staged) (hw : staged.WellFormed) (hd : Dialogue s turns.all s') :
    s'.bare = s.bare ∧ ∀ participantId, Holding.Dialogue (s.hindrance participantId)
      (s.holding participantId) (turns.about participantId).all (s'.holding participantId) := by
  have hrequests : ∀ t ∈ turns.all, t.mutation.participantId = t.participantId ∧
      t.mutation.check = .ok () :=
    fun t ht => hw.requests t.toRequest (h.mem_requests t ht)
  obtain ⟨hbare, hholding⟩ := Store.dialogue_holding hd fun t ht => (hrequests t ht).2
  refine ⟨hbare, fun participantId => ?_⟩
  have hfilter : turns.all.filter (fun t => t.mutation.participantId = participantId) =
      (turns.about participantId).all := by
    rw [CommitTurns.all_about]
    apply List.filter_congr
    intro t ht
    rw [(hrequests t ht).1]
  exact hfilter ▸ hholding participantId

theorem StagedGroup.children_effect (g : StagedGroup) (h : Holding) :
    g.children.foldl (fun h r => r.mutation.effect h) h =
      { h with
        endpoints := Table.putAll g.record.endpoints h.endpoints
        redirects := Table.putAll g.record.redirects h.redirects } := by
  have hmerges (endpoints : List Endpoint) (h : Holding) :
      (endpoints.map fun e => (⟨g.participantId, .mergeEndpoint e⟩ : Request)).foldl
        (fun h r => r.mutation.effect h) h =
      { h with endpoints := Table.putAll endpoints h.endpoints } := by
    induction endpoints generalizing h with
    | nil => rfl
    | cons e endpoints ih => exact ih _
  have hupserts (redirects : List Redirect) (h : Holding) :
      (redirects.map fun r => (⟨g.participantId, .upsertRedirect r⟩ : Request)).foldl
        (fun h r => r.mutation.effect h) h =
      { h with redirects := Table.putAll redirects h.redirects } := by
    induction redirects generalizing h with
    | nil => rfl
    | cons r redirects ih => exact ih _
  rw [children, List.foldl_append, merges, upserts, hmerges, hupserts]

theorem Holding.Dialogue.of_children {hindrance : Hindrance} {h h' : Holding} {turns : List Turn}
    (hd : Holding.Dialogue hindrance h turns h')
    (hchildren : ∀ t ∈ turns,
      (∃ e, t.mutation = .mergeEndpoint e) ∨ ∃ r, t.mutation = .upsertRedirect r) :
    h'.group = h.group ∧ h'.card = h.card ∧
      (hindrance.Clear → h.group.isSome = true → ∀ t ∈ turns, t.isChange = true) := by
  induction hd with
  | nil h => simp
  | @cons h h' turn turns first rest ih =>
    obtain ⟨hgroup, hcard, hclear⟩ := ih fun t ht => hchildren t (by simp [ht])
    have hchild := hchildren turn (by simp)
    have hkeeps : (turn.applied h).group = h.group ∧ (turn.applied h).card = h.card := by
      rw [Turn.applied]
      split
      · rcases hchild with ⟨e, hm⟩ | ⟨r, hm⟩ <;> simp [hm, Mutation.effect]
      · exact ⟨rfl, rfl⟩
    refine ⟨hgroup.trans hkeeps.1, hcard.trans hkeeps.2, fun hc hg => ?_⟩
    rw [List.forall_mem_cons]
    refine ⟨?_, hclear hc (hkeeps.1 ▸ hg)⟩
    obtain ⟨hfailing, hunchanging⟩ := hc turn.mutation
    rw [Turn.isChange, first, Mutation.answer_isChange, hfailing, hunchanging]
    rcases hchild with ⟨e, hm⟩ | ⟨r, hm⟩ <;> simp [hm, hg]

theorem CommitTurns.phases {turns : CommitTurns} {hindrance : Hindrance} {h h' : Holding}
    (hd : Holding.Dialogue hindrance h turns.all h') :
    ∃ h₁ h₂ h₃ h₄, Holding.Dialogue hindrance h turns.deletions h₁ ∧
      Holding.Dialogue hindrance h₁ turns.creations h₂ ∧
      Holding.Dialogue hindrance h₂ turns.children h₃ ∧
      Holding.Dialogue hindrance h₃ turns.cardDeletions h₄ ∧
      Holding.Dialogue hindrance h₄ turns.cards h' := by
  obtain ⟨h₄, hd, hcards⟩ := hd.of_append
  obtain ⟨h₃, hd, hcardDeletions⟩ := hd.of_append
  obtain ⟨h₂, hd, hchildren⟩ := hd.of_append
  obtain ⟨h₁, hdeletions, hcreations⟩ := hd.of_append
  exact ⟨h₁, h₂, h₃, h₄, hdeletions, hcreations, hchildren, hcardDeletions, hcards⟩

/-- What is staged for one participant. -/
structure Share where
  group : Option StagedGroup := none
  groupDeletion : Option ServiceGroup := none
  card : Option BusinessCard := none
  cardDeletion : Option BusinessCard := none

def StagedBatch.share (participantId : Text) (staged : StagedBatch) : Share where
  group := Table.find? participantId staged.groups
  groupDeletion := Table.find? participantId staged.groupDeletions
  card := Table.find? participantId staged.businessCards
  cardDeletion := Table.find? participantId staged.businessCardDeletions

namespace Share

def intent (share : Share) (h : Holding) : Holding :=
  match share.group with
  | some staged =>
    { group := some staged.record.group
      endpoints := Table.putAll staged.record.endpoints []
      redirects := Table.putAll staged.record.redirects []
      card := share.card }
  | none => { h with card := share.card.or h.card }

/-- The turns of a commit about a participant carry out the share: children are stored if the group
was created, and the card unless the group was refused. -/
structure CarryOut (share : Share) (turns : CommitTurns) : Prop where
  deletions : turns.deletions.map Turn.toRequest =
    share.groupDeletion.toList.map ServiceGroup.deletion
  creations : turns.creations.map Turn.toRequest = share.group.toList.map StagedGroup.creation
  children : turns.children.map Turn.toRequest =
    if turns.createdGroups = [] then [] else share.group.toList.flatMap StagedGroup.children
  cardDeletions : turns.cardDeletions.map Turn.toRequest =
    share.cardDeletion.toList.map BusinessCard.deletion
  cards : turns.cards.map Turn.toRequest =
    if turns.failedGroups = [] then share.card.toList.map BusinessCard.upsert else []

/-- The share was staged by one who knew the holding: exactly what is there is deleted, and a card is
staged only where a group is. -/
structure Fits (share : Share) (h : Holding) : Prop where
  groupDeletion : share.groupDeletion.isSome = (share.group.isSome && h.group.isSome)
  cardDeletion : share.cardDeletion.isSome = (share.card.isSome && h.card.isSome)
  card : share.card.isSome = true → (share.group.isSome || h.group.isSome) = true
  participant : ∀ group ∈ share.groupDeletion, ∀ card ∈ share.cardDeletion,
    group.participantId = card.participantId

end Share

/-- Nothing is held without a group. -/
def Holding.Owned (h : Holding) : Prop := h.group = none → h = {}

theorem Mutation.effect_owned {mutation : Mutation} {hindrance : Hindrance} {h : Holding}
    (hchange : (mutation.answer hindrance h).isChange = true) (howned : h.Owned) :
    (mutation.effect h).Owned := by
  intro hnone
  rw [Mutation.answer_isChange] at hchange
  cases mutation with
  | deleteGroup participantId deprovision => rfl
  | createGroup group register => cases hnone
  | _ =>
    -- without a group the holding is empty, and nothing could be changed
    have hempty := howned hnone
    simp [hempty] at hchange

theorem Holding.Dialogue.owned {hindrance : Hindrance} {h h' : Holding} {turns : List Turn}
    (hd : Holding.Dialogue hindrance h turns h') (howned : h.Owned) : h'.Owned := by
  induction hd with
  | nil h => exact howned
  | @cons h h' turn turns first rest ih =>
    apply ih
    rw [Turn.applied]
    split
    · next hchange =>
      rw [Turn.isChange, first] at hchange
      exact Mutation.effect_owned hchange howned
    · exact howned

private theorem contains_of_about (participantId : Text) (p : Turn → Bool) (turns : List Turn) :
    (((turns.filter (·.participantId = participantId)).filter p).map (·.participantId)).contains
        participantId =
      decide (((turns.filter (·.participantId = participantId)).filter p).map (·.participantId) ≠
        []) := by
  have hall : ∀ t ∈ (turns.filter (·.participantId = participantId)).filter p,
      t.participantId = participantId :=
    fun t ht => of_decide_eq_true (List.mem_filter.mp (List.mem_filter.mp ht).1).2
  cases hl : (turns.filter (·.participantId = participantId)).filter p with
  | nil => rfl
  | cons t rest => simp [hall t (hl ▸ List.mem_cons_self)]

theorem CommitTurns.CarryOut.share {turns : CommitTurns} {staged : StagedBatch}
    (h : turns.CarryOut staged) (hw : staged.WellFormed) (participantId : Text) :
    (staged.share participantId).CarryOut (turns.about participantId) := by
  have ha := h.about participantId
  rw [hw.about_eq] at ha
  refine ⟨ha.deletions, ha.creations, ha.children.trans ?_, ha.cardDeletions, ha.cards.trans ?_⟩
  · have hcreated : (turns.about participantId).createdGroups.contains participantId =
        decide ((turns.about participantId).createdGroups ≠ []) := contains_of_about _ _ _
    simp only [StagedBatch.share]
    cases hg : Table.find? participantId staged.groups with
    | none => simp
    | some g =>
      have hk : g.participantId = participantId := Table.key_of_find? hg
      rw [Option.toList_some, List.filter_singleton, hk, hcreated]
      by_cases hn : (turns.about participantId).createdGroups = [] <;> simp [hn]
  · have hfailed : (turns.about participantId).failedGroups.contains participantId =
        decide ((turns.about participantId).failedGroups ≠ []) := contains_of_about _ _ _
    simp only [StagedBatch.share]
    cases hc : Table.find? participantId staged.businessCards with
    | none => simp
    | some card =>
      have hk : card.participantId = participantId := Table.key_of_find? hc
      rw [Option.toList_some, List.filter_singleton, hk, hfailed]
      by_cases hn : (turns.about participantId).failedGroups = [] <;> simp [hn]

theorem BusinessCard.deletion_isChange (card : BusinessCard) (hindrance : Hindrance) (h : Holding) :
    (card.deletion.mutation.answer hindrance h).isChange =
      (!hindrance.failing .deleteBusinessCard &&
        (!hindrance.unchanging .deleteBusinessCard && h.card.isSome)) :=
  Mutation.answer_isChange hindrance (.deleteBusinessCard card) h

theorem Holding.Dialogue.of_cardDeletion {hindrance : Hindrance} {h h' : Holding}
    {turns : List Turn} {card : Option BusinessCard} (hd : Holding.Dialogue hindrance h turns h')
    (hr : turns.map Turn.toRequest = card.toList.map BusinessCard.deletion) :
    h'.group = h.group ∧ (h.card = none → h' = h) := by
  obtain ⟨rfl, rfl⟩ := hd.of_option hr
  cases card with
  | none => simp
  | some card =>
    simp only [Option.toList_some, List.map_cons, List.map_nil, List.foldl_cons, List.foldl_nil,
      Turn.applied, Turn.isChange, BusinessCard.deletion_isChange]
    constructor
    · split <;> rfl
    · intro hnone
      simp [hnone]

theorem StagedGroup.mem_children {g : StagedGroup} {r : Request} (h : r ∈ g.children) :
    (∃ e, r.mutation = .mergeEndpoint e) ∨ ∃ redirect, r.mutation = .upsertRedirect redirect := by
  rcases List.mem_append.mp h with h | h
  · obtain ⟨e, -, rfl⟩ := List.mem_map.mp h
    exact .inl ⟨e, rfl⟩
  · obtain ⟨redirect, -, rfl⟩ := List.mem_map.mp h
    exact .inr ⟨redirect, rfl⟩

theorem Share.CarryOut.mem_children {share : Share} {turns : CommitTurns}
    (hcarry : share.CarryOut turns) {t : Turn} (ht : t ∈ turns.children) :
    ∃ g ∈ share.group, t.toRequest ∈ g.children := by
  have hm : t.toRequest ∈ turns.children.map Turn.toRequest := List.mem_map_of_mem ht
  rw [hcarry.children] at hm
  split at hm
  · cases hm
  · obtain ⟨g, hg, hr⟩ := List.mem_flatMap.mp hm
    exact ⟨g, Option.mem_toList.mp hg, hr⟩

theorem Share.CarryOut.mutation_of_children {share : Share} {turns : CommitTurns}
    (hcarry : share.CarryOut turns) :
    ∀ t ∈ turns.children,
      (∃ e, t.mutation = .mergeEndpoint e) ∨ ∃ r, t.mutation = .upsertRedirect r := by
  intro t ht
  obtain ⟨g, -, hr⟩ := hcarry.mem_children ht
  exact StagedGroup.mem_children hr

theorem Share.CarryOut.idle {share : Share} {turns : CommitTurns} {h : Holding}
    (hcarry : share.CarryOut turns) (hfits : share.Fits h) (hgroup : share.group = none)
    (hcard : share.card = none) : turns.all = [] := by
  have hdeletion : share.groupDeletion = none := by simpa [hgroup] using hfits.groupDeletion
  have hcardDeletion : share.cardDeletion = none := by simpa [hcard] using hfits.cardDeletion
  have hr : turns.all.map Turn.toRequest = [] := by
    simp only [CommitTurns.all, List.map_append, hcarry.deletions, hcarry.creations,
      hcarry.children, hcarry.cardDeletions, hcarry.cards, hgroup, hcard, hdeletion, hcardDeletion]
    simp
  exact List.map_eq_nil_iff.mp hr

theorem Holding.Dialogue.of_cards {hindrance : Hindrance} {h h' : Holding} {turns : List Turn}
    (hd : Holding.Dialogue hindrance h turns h')
    (hcards : ∀ t ∈ turns, (∃ card, t.mutation = .deleteBusinessCard card) ∨
      ∃ card, t.mutation = .upsertBusinessCard card) :
    h' = { h with card := h'.card } := by
  induction hd with
  | nil h => rfl
  | @cons h h' turn turns first rest ih =>
    have hkept : turn.applied h = { h with card := (turn.applied h).card } := by
      rw [Turn.applied]
      split
      · rcases hcards turn List.mem_cons_self with ⟨card, hm⟩ | ⟨card, hm⟩ <;> rw [hm] <;> rfl
      · rfl
    have hrest := ih fun t ht => hcards t (List.mem_cons_of_mem turn ht)
    rw [hkept] at hrest
    exact hrest

theorem Share.CarryOut.mutation_of_no_group {share : Share} {turns : CommitTurns} {h : Holding}
    (hcarry : share.CarryOut turns) (hfits : share.Fits h) (hgroup : share.group = none) :
    ∀ t ∈ turns.all, (∃ card, t.mutation = .deleteBusinessCard card) ∨
      ∃ card, t.mutation = .upsertBusinessCard card := by
  have hdeletion : share.groupDeletion = none := by simpa [hgroup] using hfits.groupDeletion
  have hr : turns.all.map Turn.toRequest = share.cardDeletion.toList.map BusinessCard.deletion ++
      if turns.failedGroups = [] then share.card.toList.map BusinessCard.upsert else [] := by
    simp [CommitTurns.all, hcarry.deletions, hcarry.creations, hcarry.children,
      hcarry.cardDeletions, hcarry.cards, hgroup, hdeletion]
  intro t ht
  have hm : t.toRequest ∈ turns.all.map Turn.toRequest := List.mem_map_of_mem ht
  rw [hr, List.mem_append] at hm
  rcases hm with hm | hm
  · obtain ⟨card, -, hcard⟩ := List.mem_map.mp hm
    exact .inl ⟨card, congrArg Request.mutation hcard.symm⟩
  · split at hm
    · obtain ⟨card, -, hcard⟩ := List.mem_map.mp hm
      exact .inr ⟨card, congrArg Request.mutation hcard.symm⟩
    · cases hm

theorem Share.CarryOut.group_kept {share : Share} {turns : CommitTurns} {hindrance : Hindrance}
    {h h' : Holding} (hcarry : share.CarryOut turns) (hfits : share.Fits h)
    (hgroup : share.group = none) (hd : Holding.Dialogue hindrance h turns.all h') :
    h'.group = h.group := by
  rw [hd.of_cards (hcarry.mutation_of_no_group hfits hgroup)]

/-- If no group is staged where one is held and no card where one is held, what is held stays. -/
theorem Share.CarryOut.added {share : Share} {turns : CommitTurns} {hindrance : Hindrance}
    {h h' : Holding} (hcarry : share.CarryOut turns) (hfits : share.Fits h)
    (hgroup : share.group.isSome = true → h.group = none)
    (hcard : share.card.isSome = true → h.card = none)
    (hd : Holding.Dialogue hindrance h turns.all h') (hheld : h.group.isSome = true) :
    h'.group = h.group ∧ h'.endpoints = h.endpoints ∧ h'.redirects = h.redirects ∧
      (h.card.isSome = true → h'.card = h.card) := by
  have hnogroup : share.group = none := by
    by_contra hsome
    rw [hgroup (Option.isSome_iff_ne_none.mpr hsome)] at hheld
    cases hheld
  refine ⟨hcarry.group_kept hfits hnogroup hd, ?_, ?_, fun hheld => ?_⟩
  · rw [hd.of_cards (hcarry.mutation_of_no_group hfits hnogroup)]
  · rw [hd.of_cards (hcarry.mutation_of_no_group hfits hnogroup)]
  · have hnocard : share.card = none := by
      by_contra hsome
      rw [hcard (Option.isSome_iff_ne_none.mpr hsome)] at hheld
      cases hheld
    rw [hcarry.idle hfits hnogroup hnocard] at hd
    rw [hd.of_nil]

theorem Share.intent_congr {share share' : Share}
    (hgroup : share'.group.map (·.record) = share.group.map (·.record))
    (hcard : share'.card = share.card) (h : Holding) : share'.intent h = share.intent h := by
  rw [Share.intent, Share.intent, hcard]
  cases hg : share.group <;> cases hg' : share'.group <;> simp_all

/-- However a commit goes, what was intended is intended of what it leaves behind. -/
theorem Share.CarryOut.intent_eq {share : Share} {turns : CommitTurns} {hindrance : Hindrance}
    {h h' : Holding} (hcarry : share.CarryOut turns) (hfits : share.Fits h)
    (hd : Holding.Dialogue hindrance h turns.all h') : share.intent h' = share.intent h := by
  cases hg : share.group with
  | some staged => simp only [Share.intent, hg]
  | none =>
    cases hc : share.card with
    | none =>
      rw [hcarry.idle hfits hg hc] at hd
      rw [hd.of_nil]
    | some card =>
      rw [hd.of_cards (hcarry.mutation_of_no_group hfits hg)]
      simp only [Share.intent, hg, hc, Option.some_or]

section Clearance

variable {share : Share} {hindrance : Hindrance} {turns : CommitTurns} {h h' : Holding}

theorem Share.CarryOut.cleared (hcarry : share.CarryOut turns)
    (hdeletion : share.groupDeletion.isSome = (share.group.isSome && h.group.isSome))
    (howned : h.Owned) (hdeleted : ∀ t ∈ turns.deletions, t.isChange = true) :
    h.after turns.deletions = if share.group.isSome then {} else h := by
  rw [Holding.after_of_changes hdeleted, hcarry.deletions]
  cases hdel : share.groupDeletion with
  | some group =>
    rw [hdel, Option.isSome_some, eq_comm, Bool.and_eq_true] at hdeletion
    rw [if_pos hdeletion.1]
    rfl
  | none =>
    rw [hdel, Option.isSome_none, eq_comm, Bool.and_eq_false_iff] at hdeletion
    change h = _
    rcases hdeletion with hg | hnone
    · rw [hg]
      rfl
    · rw [howned (by simpa using hnone)]
      split <;> rfl

theorem Share.CarryOut.founded {h₁ : Holding} (hcarry : share.CarryOut turns)
    (hclear : h₁ = if share.group.isSome then {} else h)
    (hcreated : ∀ t ∈ turns.creations, t.isChange = true) :
    h₁.after turns.creations = match share.group with
      | some g => { group := some g.record.group }
      | none => h := by
  rw [Holding.after_of_changes hcreated, hcarry.creations, hclear]
  cases share.group <;> rfl

theorem Share.CarryOut.furnished {h₂ : Holding} (hcarry : share.CarryOut turns)
    (hfound : h₂ = match share.group with
      | some g => { group := some g.record.group }
      | none => h)
    (hcreated : ∀ t ∈ turns.creations, t.isChange = true)
    (hstored : ∀ t ∈ turns.children, t.isChange = true) :
    h₂.after turns.children = match share.group with
      | some g =>
        { group := some g.record.group
          endpoints := Table.putAll g.record.endpoints []
          redirects := Table.putAll g.record.redirects [] }
      | none => h := by
  rw [Holding.after_of_changes hstored, hcarry.children, hfound]
  cases hg : share.group with
  | none =>
    rw [Option.toList_none, List.flatMap_nil, ite_self]
    rfl
  | some g =>
    have hr := hcarry.creations
    rw [hg, Option.toList_some, List.map_singleton] at hr
    obtain ⟨t, ht, -⟩ := List.map_eq_singleton_iff.mp hr
    have hsome : turns.createdGroups ≠ [] := by
      have hkept := Turn.isRefusal_of_isChange (hcreated t (ht ▸ List.mem_cons_self))
      simp [CommitTurns.createdGroups, ht, hkept]
    rw [if_neg hsome, Option.toList_some, List.flatMap_singleton, StagedGroup.children_effect]

theorem CommitTurns.failedGroups_of_changes (hcreated : ∀ t ∈ turns.creations, t.isChange = true) :
    turns.failedGroups = [] := by
  rw [CommitTurns.failedGroups, List.map_eq_nil_iff, List.filter_eq_nil_iff]
  intro t ht
  simp [Turn.isRefusal_of_isChange (hcreated t ht)]

/-- If no turn fails, the holding becomes what is intended. -/
theorem Share.CarryOut.settled (hcarry : share.CarryOut turns) (hfits : share.Fits h)
    (howned : h.Owned) (hd : Holding.Dialogue hindrance h turns.all h')
    (hchanges : ∀ t ∈ turns.deletions ++ turns.creations ++ turns.children ++ turns.cards,
      t.isChange = true)
    (hcards : ∀ t ∈ turns.cardDeletions, (t.isChange || t.isMoot turns.deletedGroups) = true) :
    h' = share.intent h := by
  obtain ⟨h₁, h₂, h₃, h₄, hdeletions, hcreations, hchildren, hcardDeletions, hupserts⟩ :=
    CommitTurns.phases hd
  simp only [List.forall_mem_append] at hchanges
  obtain ⟨⟨⟨hdeleted, hcreated⟩, hstored⟩, hupserted⟩ := hchanges
  have e₁ := hdeletions.eq_after.trans (hcarry.cleared hfits.groupDeletion howned hdeleted)
  have e₂ := hcreations.eq_after.trans (hcarry.founded e₁ hcreated)
  have e₃ := hchildren.eq_after.trans (hcarry.furnished e₂ hcreated hstored)
  have e₅ := hupserts.of_changes hupserted
  rw [hcarry.cards, if_pos (CommitTurns.failedGroups_of_changes hcreated)] at e₅
  cases hg : share.group with
  | none =>
    have hnodeletion : share.groupDeletion = none := by simpa [hg] using hfits.groupDeletion
    have hnodeleted : turns.deletedGroups = [] := by
      have hr := hcarry.deletions
      rw [hnodeletion] at hr
      simp [CommitTurns.deletedGroups, List.map_eq_nil_iff.mp hr]
    have e₄ := hcardDeletions.of_changes fun t ht => by
      simpa [Turn.isMoot, hnodeleted] using hcards t ht
    rw [hcarry.cardDeletions] at e₄
    have hcd := hfits.cardDeletion
    rw [hg] at e₃
    rw [e₅, e₄, e₃, Share.intent, hg]
    cases hc : share.card with
    | none =>
      have hnone : share.cardDeletion = none := by simpa [hc] using hcd
      simp [hnone]
    | some card =>
      cases share.cardDeletion <;> simp [BusinessCard.upsert, BusinessCard.deletion, Mutation.effect]
  | some g =>
    rw [hg] at e₃
    -- the old card went with the old group, so deleting it again changes nothing
    have e₄ : h₄ = h₃ := (hcardDeletions.of_cardDeletion hcarry.cardDeletions).2 (by rw [e₃])
    rw [e₅, e₄, e₃, Share.intent, hg]
    cases share.card <;> rfl

theorem Share.CarryOut.deletions_change {h₁ : Holding} (hcarry : share.CarryOut turns)
    (hfits : share.Fits h) (hclear : hindrance.Clear)
    (hd : Holding.Dialogue hindrance h turns.deletions h₁) :
    ∀ t ∈ turns.deletions, t.isChange = true := by
  rw [(hd.of_option hcarry.deletions).1]
  intro t ht
  obtain ⟨group, hgroup, rfl⟩ := List.mem_map.mp ht
  have hsome := hfits.groupDeletion
  rw [Option.mem_toList.mp hgroup, Option.isSome_some, eq_comm, Bool.and_eq_true] at hsome
  obtain ⟨hfailing, hunchanging⟩ := hclear group.deletion.mutation
  rw [Turn.isChange, Mutation.answer_isChange, hfailing, hunchanging]
  simpa [ServiceGroup.deletion] using hsome.2

theorem Share.CarryOut.creations_change {h₁ h₂ : Holding} (hcarry : share.CarryOut turns)
    (hclear : hindrance.Clear) (hempty : h₁ = if share.group.isSome then {} else h)
    (hd : Holding.Dialogue hindrance h₁ turns.creations h₂) :
    ∀ t ∈ turns.creations, t.isChange = true := by
  rw [(hd.of_option hcarry.creations).1]
  intro t ht
  obtain ⟨g, hg, rfl⟩ := List.mem_map.mp ht
  rw [Option.mem_toList.mp hg, Option.isSome_some, if_pos rfl] at hempty
  rw [Turn.isChange, Mutation.answer_isChange, (hclear g.creation.mutation).1, hempty]
  rfl

theorem Share.CarryOut.cardDeletions_change {h₁ h₃ h₄ : Holding} (hcarry : share.CarryOut turns)
    (hfits : share.Fits h) (howned : h.Owned) (hclear : hindrance.Clear)
    (hdeletions : Holding.Dialogue hindrance h turns.deletions h₁)
    (hcard₃ : share.group = none → h₃.card = h.card)
    (hd : Holding.Dialogue hindrance h₃ turns.cardDeletions h₄) :
    ∀ t ∈ turns.cardDeletions, (t.isChange || t.isMoot turns.deletedGroups) = true := by
  rw [(hd.of_option hcarry.cardDeletions).1]
  intro t ht
  obtain ⟨card, hcard, rfl⟩ := List.mem_map.mp ht
  have hthere := hfits.cardDeletion
  rw [Option.mem_toList.mp hcard, Option.isSome_some, eq_comm, Bool.and_eq_true] at hthere
  obtain ⟨hfailing, hunchanging⟩ := hclear (.deleteBusinessCard card)
  have hanswer : card.deletion.mutation.answer hindrance h₃ = .ok h₃.card.isSome := by
    simp only [Mutation.operation] at hfailing hunchanging
    simp [BusinessCard.deletion, Mutation.answer, Mutation.operation, hfailing, hunchanging]
  cases hg : share.group with
  | none => simp [Turn.isChange, hanswer, Reply.isChange, hcard₃ hg, hthere.2]
  | some g =>
    -- a card is held only with a group, so the group was deleted, and the deletion may be moot
    have hstored : h.group.isSome = true := by
      by_contra hnone
      rw [howned (by simpa using hnone)] at hthere
      cases hthere.2
    obtain ⟨group, hgroup⟩ : ∃ group, share.groupDeletion = some group := by
      rw [← Option.isSome_iff_exists, hfits.groupDeletion, hg, hstored]
      rfl
    have hdeleted : turns.deletedGroups = [card.participantId] := by
      have hturns := (hdeletions.of_option hcarry.deletions).1
      rw [hgroup, Option.toList_some, List.map_singleton] at hturns
      rw [CommitTurns.deletedGroups, hturns, List.filter_singleton,
        hcarry.deletions_change hfits hclear hdeletions _ (hturns ▸ List.mem_cons_self),
        ← hfits.participant group hgroup card (Option.mem_toList.mp hcard)]
      rfl
    have hparticipant : card.deletion.participantId = card.participantId := rfl
    cases hc : h₃.card <;>
      simp [Turn.isMoot, Turn.isChange, Turn.isRefusal, hanswer, Reply.isChange, Reply.isRefusal,
        hdeleted, hc, hparticipant]

/-- If nothing is told to go wrong, no turn fails. -/
theorem Share.CarryOut.changes (hcarry : share.CarryOut turns) (hfits : share.Fits h)
    (howned : h.Owned) (hd : Holding.Dialogue hindrance h turns.all h')
    (hclear : hindrance.Clear) :
    (∀ t ∈ turns.deletions ++ turns.creations ++ turns.children ++ turns.cards,
      t.isChange = true) ∧
    ∀ t ∈ turns.cardDeletions, (t.isChange || t.isMoot turns.deletedGroups) = true := by
  obtain ⟨h₁, h₂, h₃, h₄, hdeletions, hcreations, hchildren, hcardDeletions, hupserts⟩ :=
    CommitTurns.phases hd
  have hdeleted := hcarry.deletions_change hfits hclear hdeletions
  have hempty := hdeletions.eq_after.trans (hcarry.cleared hfits.groupDeletion howned hdeleted)
  have hcreated := hcarry.creations_change hclear hempty hcreations
  have e₂ := hcreations.eq_after.trans (hcarry.founded hempty hcreated)
  obtain ⟨hgroup₃, hcard₃, hclear₃⟩ := hchildren.of_children hcarry.mutation_of_children
  have hgroup₂ : (share.group.isSome || h.group.isSome) = true → h₂.group.isSome = true := by
    rw [e₂]
    cases share.group <;> simp
  have hstored : ∀ t ∈ turns.children, t.isChange = true := by
    intro t ht
    obtain ⟨g, hg, -⟩ := hcarry.mem_children ht
    exact hclear₃ hclear (hgroup₂ (by rw [hg]; rfl)) t ht
  have hupserted : ∀ t ∈ turns.cards, t.isChange = true := by
    have hr := hcarry.cards
    rw [if_pos (CommitTurns.failedGroups_of_changes hcreated)] at hr
    rw [(hupserts.of_option hr).1]
    intro t ht
    obtain ⟨card, hcard, rfl⟩ := List.mem_map.mp ht
    obtain ⟨hfailing, hunchanging⟩ := hclear card.upsert.mutation
    have hthere : h₄.group.isSome = true := by
      rw [(hcardDeletions.of_cardDeletion hcarry.cardDeletions).1, hgroup₃]
      exact hgroup₂ (hfits.card (by rw [Option.mem_toList.mp hcard, Option.isSome_some]))
    rw [Turn.isChange, Mutation.answer_isChange, hfailing, hunchanging]
    simpa [BusinessCard.upsert] using hthere
  refine ⟨?_, hcarry.cardDeletions_change hfits howned hclear hdeletions ?_ hcardDeletions⟩
  · simp only [List.forall_mem_append]
    exact ⟨⟨⟨hdeleted, hcreated⟩, hstored⟩, hupserted⟩
  · intro hnone
    rw [hcard₃, e₂, hnone]

end Clearance

end ParticipantRegistry
