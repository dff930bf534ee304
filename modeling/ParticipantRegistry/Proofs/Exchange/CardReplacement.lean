import ParticipantRegistry.Proofs.Exchange.StoreImport

/-!
# Cards that are deleted and not replaced

A commit deletes the stored cards of all staged cards, but it stores no card whose group was refused. So
a card is lost where a group could not be deleted, is therefore refused when it is created again, and
survives without its card. It is certified here when exactly this happens.
-/

namespace ParticipantRegistry

section Share

variable {share : Share} {hindrance : Hindrance} {turns : CommitTurns} {h h' : Holding}

theorem Share.CarryOut.deleted_holding {h₁ : Holding} (hcarry : share.CarryOut turns)
    (hfits : share.Fits h) (hd : Holding.Dialogue hindrance h turns.deletions h₁) :
    h₁ = if share.group.isSome && h.group.isSome && !hindrance.failing .deleteGroup &&
      !hindrance.unchanging .deleteGroup then {} else h := by
  obtain ⟨hturns, rfl⟩ := hd.of_option hcarry.deletions
  rw [hturns, ← hfits.groupDeletion]
  cases hg : share.groupDeletion with
  | none => rfl
  | some group =>
    have hthere := hfits.groupDeletion
    rw [hg, Option.isSome_some, eq_comm, Bool.and_eq_true] at hthere
    have hchange : (group.deletion.mutation.answer hindrance h).isChange =
        (!hindrance.failing .deleteGroup &&
          (!hindrance.unchanging .deleteGroup && h.group.isSome)) :=
      Mutation.answer_isChange hindrance (.deleteGroup group.participantId false) h
    simp only [Option.toList_some, List.map_cons, List.map_nil, List.foldl_cons, List.foldl_nil,
      Turn.applied, Turn.isChange, hchange, hthere.2, Bool.and_true, Option.isSome_some,
      Bool.true_and]
    rfl

theorem Share.CarryOut.failedGroups_iff {h₁ h₂ : Holding} (hcarry : share.CarryOut turns)
    (hd : Holding.Dialogue hindrance h₁ turns.creations h₂) :
    turns.failedGroups ≠ [] ↔ share.group.isSome = true ∧
      (hindrance.failing .createGroup || h₁.group.isSome) = true := by
  rw [CommitTurns.failedGroups, (hd.of_option hcarry.creations).1]
  cases hg : share.group with
  | none => simp
  | some g =>
    have hrefusal : (g.creation.mutation.answer hindrance h₁).isRefusal =
        !(!hindrance.failing .createGroup && h₁.group.isNone) :=
      (Mutation.answer_createGroup hindrance g.record.group _ h₁).trans
        (congrArg _ (Mutation.answer_isChange hindrance _ h₁))
    rw [Option.toList_some, List.map_singleton, List.filter_singleton, Turn.isRefusal, hrefusal]
    cases hindrance.failing .createGroup <;> cases h₁.group <;> simp

theorem Share.CarryOut.created_card {h₁ h₂ : Holding} (hcarry : share.CarryOut turns)
    (hd : Holding.Dialogue hindrance h₁ turns.creations h₂) : h₂.card = h₁.card := by
  obtain ⟨hturns, rfl⟩ := hd.of_option hcarry.creations
  rw [hturns]
  cases share.group with
  | none => rfl
  | some g =>
    simp only [Option.toList_some, List.map_cons, List.map_nil, List.foldl_cons, List.foldl_nil,
      Turn.applied]
    split <;> rfl

/-- A card is deleted exactly if one is staged, one was there and is still there, and deleting it is not
told to go wrong. -/
theorem Share.CarryOut.deletes_card_iff {h₃ h₄ : Holding} (hcarry : share.CarryOut turns)
    (hfits : share.Fits h) (hd : Holding.Dialogue hindrance h₃ turns.cardDeletions h₄) :
    (∃ t ∈ turns.cardDeletions, t.isChange = true) ↔
      (share.card.isSome && h.card.isSome) = true ∧ (!hindrance.failing .deleteBusinessCard &&
        (!hindrance.unchanging .deleteBusinessCard && h₃.card.isSome)) = true := by
  rw [(hd.of_option hcarry.cardDeletions).1, ← hfits.cardDeletion]
  cases share.cardDeletion with
  | none => simp
  | some card =>
    rw [← card.deletion_isChange]
    simp [Turn.isChange]

theorem Share.CarryOut.cards_eq_nil_iff (hcarry : share.CarryOut turns) :
    turns.cards = [] ↔ turns.failedGroups ≠ [] ∨ share.card = none := by
  have hrequests : turns.cards = [] ↔ turns.cards.map Turn.toRequest = [] :=
    List.map_eq_nil_iff.symm
  rw [hrequests, hcarry.cards]
  cases share.card <;> simp

/-- The card is deleted and no card is stored exactly if a card and a group are staged for a participant
who has a card, deleting the card is not told to go wrong, and the group is refused: because it is there
and could not be deleted, or else because creating it fails. -/
theorem Share.CarryOut.loses_card_iff (hcarry : share.CarryOut turns) (hfits : share.Fits h)
    (hd : Holding.Dialogue hindrance h turns.all h') :
    ((∃ t ∈ turns.cardDeletions, t.isChange = true) ∧ turns.cards = []) ↔
      share.group.isSome = true ∧ share.card.isSome = true ∧ h.card.isSome = true ∧
      hindrance.failing .deleteBusinessCard = false ∧
      hindrance.unchanging .deleteBusinessCard = false ∧
      (if h.group.isSome then hindrance.failing .deleteGroup || hindrance.unchanging .deleteGroup
        else hindrance.failing .createGroup) = true := by
  obtain ⟨h₁, h₂, h₃, h₄, hdeletions, hcreations, hchildren, hcardDeletions, -⟩ :=
    CommitTurns.phases hd
  obtain ⟨-, hcard, -⟩ := hchildren.of_children hcarry.mutation_of_children
  have hcard₃ : h₃.card = h₁.card := hcard.trans (hcarry.created_card hcreations)
  rw [hcarry.deletes_card_iff hfits hcardDeletions, hcard₃, hcarry.cards_eq_nil_iff,
    hcarry.failedGroups_iff hcreations, hcarry.deleted_holding hfits hdeletions]
  cases hg : share.group with
  | none => cases share.card <;> simp
  | some g =>
    cases hgone : h.group.isSome && !hindrance.failing .deleteGroup &&
        !hindrance.unchanging .deleteGroup with
    | true =>
      -- the group is gone, and its card with it
      obtain ⟨⟨hthere, hfailing⟩, hunchanging⟩ : (h.group.isSome = true ∧
          hindrance.failing .deleteGroup = false) ∧ hindrance.unchanging .deleteGroup = false := by
        simpa using hgone
      simp [hthere, hfailing, hunchanging]
    | false =>
      have hsame : (if (some g).isSome && h.group.isSome && !hindrance.failing .deleteGroup &&
          !hindrance.unchanging .deleteGroup then {} else h) = h := by
        rw [Option.isSome_some, Bool.true_and, hgone]
        rfl
      rw [hsame]
      cases hthere : h.group.isSome with
      | true =>
        have hkept : hindrance.failing .deleteGroup || hindrance.unchanging .deleteGroup := by
          rw [hthere, Bool.true_and, ← Bool.not_or, Bool.not_eq_false'] at hgone
          exact hgone
        simp only [Bool.or_eq_true] at hkept
        cases share.card <;> simp [hkept]
        tauto
      | false =>
        cases share.card <;> simp
        tauto

end Share

def Turn.DeletesCard (participantId : Text) (t : Turn) : Prop :=
  t.isChange = true ∧ ∃ card, t.mutation = .deleteBusinessCard card ∧
    card.participantId = participantId

def Turn.WritesCard (participantId : Text) (t : Turn) : Prop :=
  ∃ card, t.mutation = .upsertBusinessCard card ∧ card.participantId = participantId

namespace CommitTurns.CarryOut

variable {turns : CommitTurns} {staged : StagedBatch}

theorem phase_of_mem (hcarry : turns.CarryOut staged) {t : Turn} (ht : t ∈ turns.all) :
    (∀ card, t.mutation = .deleteBusinessCard card →
      t ∈ turns.cardDeletions ∧ t.participantId = card.participantId) ∧
    ∀ card, t.mutation = .upsertBusinessCard card →
      t ∈ turns.cards ∧ t.participantId = card.participantId := by
  simp only [CommitTurns.all, List.mem_append] at ht
  rcases ht with (((ht | ht) | ht) | ht) | ht
  · obtain ⟨group, hr⟩ := Turn.exists_request hcarry.deletions ht
    simp [hr, ServiceGroup.deletion]
  · obtain ⟨g, hr⟩ := Turn.exists_request hcarry.creations ht
    simp [hr, StagedGroup.creation]
  · have hm : t.toRequest ∈ turns.children.map Turn.toRequest := List.mem_map_of_mem ht
    rw [hcarry.children] at hm
    obtain ⟨g, -, hr⟩ := List.mem_flatMap.mp hm
    rcases StagedGroup.mem_children hr with ⟨e, he⟩ | ⟨r, he⟩ <;> simp [he]
  · obtain ⟨card, hr⟩ := Turn.exists_request hcarry.cardDeletions ht
    simp [hr, BusinessCard.deletion, ht]
  · obtain ⟨card, hr⟩ := Turn.exists_request hcarry.cards ht
    simp [hr, BusinessCard.upsert, ht]

theorem deletesCard_iff (hcarry : turns.CarryOut staged) (participantId : Text) :
    (∃ t ∈ turns.all, t.DeletesCard participantId) ↔
      ∃ t ∈ (turns.about participantId).cardDeletions, t.isChange = true := by
  constructor
  · rintro ⟨t, ht, hchange, card, hm, rfl⟩
    obtain ⟨hphase, hk⟩ := (hcarry.phase_of_mem ht).1 card hm
    exact ⟨t, List.mem_filter.mpr ⟨hphase, decide_eq_true hk⟩, hchange⟩
  · rintro ⟨t, ht, hchange⟩
    obtain ⟨ht, hk⟩ := List.mem_filter.mp ht
    obtain ⟨card, hr⟩ := Turn.exists_request hcarry.cardDeletions ht
    refine ⟨t, by simp [CommitTurns.all, ht], hchange, card, by rw [hr]; rfl, ?_⟩
    rw [← of_decide_eq_true hk, hr]
    rfl

theorem writesCard_iff (hcarry : turns.CarryOut staged) (participantId : Text) :
    (∃ t ∈ turns.all, t.WritesCard participantId) ↔ (turns.about participantId).cards ≠ [] := by
  constructor
  · rintro ⟨t, ht, card, hm, rfl⟩
    obtain ⟨hphase, hk⟩ := (hcarry.phase_of_mem ht).2 card hm
    exact List.ne_nil_of_mem (List.mem_filter.mpr ⟨hphase, decide_eq_true hk⟩)
  · intro hcards
    obtain ⟨t, ht⟩ := List.exists_mem_of_ne_nil _ hcards
    obtain ⟨ht, hk⟩ := List.mem_filter.mp ht
    obtain ⟨card, hr⟩ := Turn.exists_request hcarry.cards ht
    refine ⟨t, by simp [CommitTurns.all, ht], card, by rw [hr]; rfl, ?_⟩
    rw [← of_decide_eq_true hk, hr]
    rfl

end CommitTurns.CarryOut

/-- In an import of documents that overwrites, given the keys of the store, every card that is deleted
is written again but in one case: the import proceeds, a group and a card are staged for a participant
whose card is stored and can be deleted, and the group is refused, because it is stored and cannot be
deleted, or because it is not stored and cannot be created. -/
theorem card_replaced_iff (s : Store) (batch : ParsedBatch) (defaultOwner : User)
    (correlationId : Json) :
    let request : ImportRequest :=
      { defaultOwner, overwriteExisting := true
        existingGroupKeys := Table.keys s.groups
        existingBusinessCardKeys := Table.keys s.businessCards }
    let start : Progress (Traced Store) := { registry := ⟨s, []⟩, log := .named correlationId }
    ∃ (staged : StagedBatch) (outcome : PlanOutcome) (r q : Progress (Traced Store))
      (turns : List Turn),
      Run.prepare Document.elementReader request batch start = (.ok (staged, outcome), r) ∧
      (⟨batch, request, Document.elementReader, start⟩ : ImportTask (Traced Store)).run =
        (.ok (), q) ∧
      Dialogue s turns q.registry.content ∧ q.registry.calls = turns.map (·.mutation) ∧
      ∀ participantId,
        ((∃ t ∈ turns, t.DeletesCard participantId) → ∃ t ∈ turns, t.WritesCard participantId) ↔
          ¬(outcome = .proceed ∧ staged.hasGroup participantId = true ∧
            staged.hasBusinessCard participantId = true ∧
            (s.holding participantId).card.isSome = true ∧
            (s.hindrance participantId).failing .deleteBusinessCard = false ∧
            (s.hindrance participantId).unchanging .deleteBusinessCard = false ∧
            (if (s.holding participantId).group.isSome then
              (s.hindrance participantId).failing .deleteGroup ||
                (s.hindrance participantId).unchanging .deleteGroup
            else (s.hindrance participantId).failing .createGroup) = true) := by
  intro request start
  have hw := s.stage_wellFormed request batch
  have hsnapshot : request.Snapshot s := ⟨rfl, rfl⟩
  have hfits := s.stage_fits hsnapshot batch
  obtain ⟨r, q, hprepare, -, himport, hhalted, hproceeded⟩ :=
    Traced.shows.import_ends request batch start
  by_cases houtcome : PlanOutcome.decide (s.stage request batch).1
      ((start.log.records ++ (s.stage request batch).2).any ActionRecord.isError) = .proceed
  · obtain ⟨turns, hcarry, hd, -⟩ := hproceeded houtcome
    obtain ⟨hcontent, hcalls⟩ := Traced.dialogue_iff.mp hd
    refine ⟨_, _, r, q, turns.all, hprepare, himport, hcontent, hcalls, fun participantId => ?_⟩
    have hloses := (hcarry.share hw participantId).loses_card_iff (hfits participantId)
      ((hcarry.holdings hw hcontent).2 participantId)
    have hgroup : (s.stage request batch).1.hasGroup participantId =
        ((s.stage request batch).1.share participantId).group.isSome :=
      Table.hasKey_eq_isSome _ _
    have hcard : (s.stage request batch).1.hasBusinessCard participantId =
        ((s.stage request batch).1.share participantId).card.isSome :=
      Table.hasKey_eq_isSome _ _
    rw [← hgroup, ← hcard] at hloses
    rw [hcarry.deletesCard_iff, hcarry.writesCard_iff]
    constructor
    · rintro hreplaced ⟨-, hlost⟩
      obtain ⟨hdeleted, hnone⟩ := hloses.mpr hlost
      exact hreplaced hdeleted hnone
    · intro hkept hdeleted hnone
      exact hkept ⟨houtcome, hloses.mp ⟨hdeleted, hnone⟩⟩
  · obtain ⟨hregistry, -⟩ := hhalted houtcome
    refine ⟨_, _, r, q, [], hprepare, himport, hregistry ▸ .nil s, by rw [hregistry]; rfl,
      fun participantId => ⟨fun _ hlost => houtcome hlost.1, ?_⟩⟩
    rintro - ⟨t, ht, -⟩
    exact absurd ht List.not_mem_nil

/-- A group that cannot be deleted survives as it was, but without its card. -/
theorem card_lost_undeletable :
    let group : ServiceGroup := ⟨"a", "u", none⟩
    let card : BusinessCard := ⟨"a", []⟩
    let s : Store :=
      { users := [⟨"u", "U"⟩], groups := [group], businessCards := [card]
        failing := [⟨.deleteGroup, "a"⟩] }
    let request : ImportRequest :=
      { defaultOwner := ⟨"u", "U"⟩, overwriteExisting := true
        existingGroupKeys := Table.keys s.groups
        existingBusinessCardKeys := Table.keys s.businessCards }
    let batch : ParsedBatch :=
      ⟨[.object [("participant_id", .string "a"), ("owner_id", .string "u")]],
        [.object [("participant_id", .string "a"), ("entities", .array [])]]⟩
    let start : Progress (Traced Store) := { registry := ⟨s, []⟩, log := .named .null }
    ∃ (q : Progress (Traced Store)) (turns : List Turn),
      (⟨batch, request, Document.elementReader, start⟩ : ImportTask (Traced Store)).run =
        (.ok (), q) ∧
      Dialogue s turns q.registry.content ∧ q.registry.calls = turns.map (·.mutation) ∧
      (∃ t ∈ turns, t.DeletesCard "a") ∧ (¬∃ t ∈ turns, t.WritesCard "a") ∧
      q.registry.content.groups = [group] ∧ q.registry.content.businessCards = [] := by
  intro group card s request batch start
  let task : ImportTask (Traced Store) := ⟨batch, request, Document.elementReader, start⟩
  let turns : List Turn :=
    [⟨⟨"a", .deleteGroup "a" false⟩, .error (.failed .deleteGroup "a")⟩,
      ⟨⟨"a", .createGroup group false⟩, .error (.present "a")⟩,
      ⟨⟨"a", .deleteBusinessCard card⟩, .ok true⟩]
  have hd : Dialogue s turns { s with businessCards := [] } :=
    .cons rfl (.cons rfl (.cons rfl (.nil _)))
  have hanswer : task.run.1 = .ok () := by decide +kernel
  have hcontent : task.run.2.registry.content = { s with businessCards := [] } := by
    decide +kernel
  have hcalls : task.run.2.registry.calls = turns.map (·.mutation) := by decide +kernel
  refine ⟨task.run.2, turns, Prod.ext hanswer rfl, hcontent ▸ hd, hcalls, ?_, ?_, ?_, ?_⟩
  · exact ⟨_, .tail _ (.tail _ (.head _)), rfl, card, rfl, rfl⟩
  · rintro ⟨t, ht, written, hm, -⟩
    simp only [turns, List.mem_cons, List.not_mem_nil, or_false] at ht
    rcases ht with rfl | rfl | rfl <;> cases hm
  · rw [hcontent]
  · rw [hcontent]

end ParticipantRegistry
