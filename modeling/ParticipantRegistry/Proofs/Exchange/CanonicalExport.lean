import ParticipantRegistry.Exchange.Export
import ParticipantRegistry.Proofs.Exchange.Yields
import ParticipantRegistry.Proofs.Registry.Holding

/-!
# Canonical exports

What an export asks a registry for is told by a listing: the endpoints, the redirects and the card of
every participant, or why they cannot be read. The document is a function of the groups and the listing
in which neither the order of the groups nor that of the children counts. What cannot be read is left
out, and nothing else is.
-/

namespace ParticipantRegistry

namespace Text

theorem leAll_total (s t : List Text) : (leAll s t || leAll t s) = true := by
  induction s generalizing t with
  | nil => rfl
  | cons a s ih =>
    cases t with
    | nil => rfl
    | cons b t =>
      by_cases h : a = b
      · subst h
        rw [leAll, leAll, if_pos rfl, if_pos rfl]
        exact ih t
      · rw [leAll, leAll, if_neg h, if_neg (Ne.symm h)]
        exact le_total a b

theorem leAll_trans (s t u : List Text) (hst : leAll s t = true) (htu : leAll t u = true) :
    leAll s u = true := by
  induction s generalizing t u with
  | nil => rfl
  | cons a s ih =>
    cases t with
    | nil => cases hst
    | cons b t =>
      cases u with
      | nil => cases htu
      | cons c u =>
        rw [leAll] at hst htu ⊢
        by_cases hab : a = b
        · subst hab
          rw [if_pos rfl] at hst
          by_cases hac : a = c
          · rw [if_pos hac] at htu ⊢
            exact ih t u hst htu
          · rwa [if_neg hac] at htu ⊢
        · rw [if_neg hab] at hst
          by_cases hbc : b = c
          · subst hbc
            rwa [if_neg hab]
          · rw [if_neg hbc] at htu
            have hac : a ≠ c := by
              rintro rfl
              exact hab (le_antisymm a b hst htu)
            rw [if_neg hac]
            exact le_trans a b c hst htu

theorem leAll_antisymm (s t : List Text) (hst : leAll s t = true) (hts : leAll t s = true) :
    s = t := by
  induction s generalizing t with
  | nil =>
    cases t with
    | nil => rfl
    | cons b t => cases hts
  | cons a s ih =>
    cases t with
    | nil => cases hst
    | cons b t =>
      rw [leAll] at hst hts
      by_cases hab : a = b
      · subst hab
        rw [if_pos rfl] at hst hts
        rw [ih t hst hts]
      · rw [if_neg hab] at hst
        rw [if_neg (Ne.symm hab)] at hts
        exact absurd (le_antisymm a b hst hts) hab

end Text

theorem mergeSort_eq_of_perm {α β : Type} {le : β → β → Bool}
    (htrans : ∀ a b c, le a b = true → le b c = true → le a c = true)
    (htotal : ∀ a b, (le a b || le b a) = true)
    (hantisymm : ∀ a b, le a b = true → le b a = true → a = b) (f : α → β) {items items' : List α}
    (h : items.Perm items') (hinj : ∀ a ∈ items, ∀ b ∈ items, f a = f b → a = b) :
    items.mergeSort (fun a b => le (f a) (f b)) = items'.mergeSort fun a b => le (f a) (f b) := by
  have hsorted (items : List α) : (items.mergeSort fun a b => le (f a) (f b)).Pairwise
      fun a b => le (f a) (f b) = true :=
    List.pairwise_mergeSort (fun a b c => htrans (f a) (f b) (f c)) (fun a b => htotal (f a) (f b)) items
  have hsame := (items.mergeSort_perm fun a b => le (f a) (f b)).trans
    (h.trans (items'.mergeSort_perm fun a b => le (f a) (f b)).symm)
  refine hsame.eq_of_pairwise (fun a b ha hb hab hba => ?_) (hsorted items) (hsorted items')
  rw [(List.mergeSort_perm _ _).mem_iff] at ha hb
  exact hinj a ha b (h.mem_iff.mpr hb) (hantisymm _ _ hab hba)

/-- The same items; they come in another order only if something tells all of them apart. -/
def SameItems {α β : Type} (f : α → β) (items items' : List α) : Prop :=
  items = items' ∨ items.Perm items' ∧ (items.map f).Nodup

theorem SameItems.mergeSort_eq {α β : Type} {le : β → β → Bool} {f : α → β} {items items' : List α}
    (h : SameItems f items items')
    (htrans : ∀ a b c, le a b = true → le b c = true → le a c = true)
    (htotal : ∀ a b, (le a b || le b a) = true)
    (hantisymm : ∀ a b, le a b = true → le b a = true → a = b) :
    items.mergeSort (fun a b => le (f a) (f b)) = items'.mergeSort fun a b => le (f a) (f b) := by
  rcases h with rfl | ⟨hperm, hdistinct⟩
  · rfl
  · exact mergeSort_eq_of_perm htrans htotal hantisymm f hperm fun a ha b hb =>
      List.inj_on_of_nodup_map hdistinct ha hb

theorem sameItems_endpoints {participantId : Text} {items items' : List Endpoint}
    (hown : ∀ e ∈ items, e.participantId = participantId) (hdistinct : (Table.keys items).Nodup)
    (hperm : items.Perm items') : SameItems Endpoint.sortKey items items' := by
  refine .inr ⟨hperm, List.Nodup.map_on (fun e he e' he' hsort => ?_) hdistinct.of_map⟩
  simp only [Endpoint.sortKey, List.cons.injEq, and_true] at hsort
  refine Table.eq_of_key hdistinct he he' ?_
  change EndpointKey.mk _ _ _ _ = EndpointKey.mk _ _ _ _
  rw [hown e he, hown e' he', hsort.1, hsort.2.1, hsort.2.2]

theorem sameItems_redirects {participantId : Text} {items items' : List Redirect}
    (hown : ∀ r ∈ items, r.participantId = participantId) (hdistinct : (Table.keys items).Nodup)
    (hperm : items.Perm items') : SameItems Redirect.documentType items items' := by
  refine .inr ⟨hperm, List.Nodup.map_on (fun r hr r' hr' hsort => ?_) hdistinct.of_map⟩
  exact Table.eq_of_key hdistinct hr hr'
    (congrArg₂ RedirectKey.mk ((hown r hr).trans (hown r' hr').symm) hsort)

/-- What a registry lists for each participant, or why it cannot. -/
structure Listing where
  endpoints : Text → Except StorageError (List Endpoint)
  redirects : Text → Except StorageError (List Redirect)
  businessCard? : Text → Except StorageError (Option BusinessCard)

/-- On all content with a property, a registry answers as the listing tells, and the property stays. -/
structure Registry.Lists {σ : Type} [Registry σ] (listing : Listing) (inv : σ → Prop) : Prop where
  endpoints : ∀ (participantId : Text) (s : σ), inv s → ∃ s', inv s' ∧
    Registry.endpoints participantId s = ((listing.endpoints participantId).mapError .storage, s')
  redirects : ∀ (participantId : Text) (s : σ), inv s → ∃ s', inv s' ∧
    Registry.redirects participantId s = ((listing.redirects participantId).mapError .storage, s')
  businessCard? : ∀ (participantId : Text) (s : σ), inv s → ∃ s', inv s' ∧
    Registry.businessCard? participantId s =
      ((listing.businessCard? participantId).mapError .storage, s')

namespace Listing

variable (listing : Listing)

def foundEndpoints (participantId : Text) : List Endpoint :=
  (listing.endpoints participantId).toOption.getD []

def foundRedirects (participantId : Text) : List Redirect :=
  (listing.redirects participantId).toOption.getD []

def foundCard (participantId : Text) : Option BusinessCard :=
  (listing.businessCard? participantId).toOption.getD none

def exported (group : ServiceGroup) : ExportedGroup where
  group
  endpoints := (listing.foundEndpoints group.participantId).mergeSort Endpoint.le
  redirects := (listing.foundRedirects group.participantId).mergeSort Redirect.le

def document (groups : List ServiceGroup) (withCards : Bool) : ExportDocument where
  serviceGroups := (groups.mergeSort ServiceGroup.le).map listing.exported
  businessCards :=
    if withCards then
      (groups.mergeSort ServiceGroup.le).filterMap fun group => listing.foundCard group.participantId
    else []

/-- A document holds the groups, each once, by participant, each with all children that can be read, in
the order of their keys, and all cards that can be read, if they are asked for, in the order of the
groups. -/
structure Canonical (groups : List ServiceGroup) (withCards : Bool) (document : ExportDocument) :
    Prop where
  groups : (document.serviceGroups.map (·.group)).Perm groups
  byParticipant : document.serviceGroups.Pairwise fun g g' =>
    Text.le g.group.participantId g'.group.participantId = true
  endpoints : ∀ g ∈ document.serviceGroups,
    g.endpoints.Perm (listing.foundEndpoints g.group.participantId) ∧
      g.endpoints.Pairwise fun e e' => Text.leAll [e.documentType, e.process, e.transportProfile]
        [e'.documentType, e'.process, e'.transportProfile] = true
  redirects : ∀ g ∈ document.serviceGroups,
    g.redirects.Perm (listing.foundRedirects g.group.participantId) ∧
      g.redirects.Pairwise fun r r' => Text.le r.documentType r'.documentType = true
  businessCards : document.businessCards =
    if withCards then
      document.serviceGroups.filterMap fun g => listing.foundCard g.group.participantId
    else []

/-- For a participant, another listing tells the same, apart from the order of children with distinct
keys. -/
structure Reorders (other : Listing) (participantId : Text) : Prop where
  endpoints : SameItems Endpoint.sortKey (listing.foundEndpoints participantId)
    (other.foundEndpoints participantId)
  redirects : SameItems Redirect.documentType (listing.foundRedirects participantId)
    (other.foundRedirects participantId)
  businessCard : listing.foundCard participantId = other.foundCard participantId

theorem document_canonical (groups : List ServiceGroup) (withCards : Bool) :
    listing.Canonical groups withCards (listing.document groups withCards) where
  groups := by
    have hgroup : (·.group) ∘ listing.exported = id := rfl
    rw [document, List.map_map, hgroup, List.map_id]
    exact List.mergeSort_perm groups _
  byParticipant := by
    rw [document, List.pairwise_map]
    exact List.pairwise_mergeSort
      (fun a b c => Text.le_trans a.participantId b.participantId c.participantId)
      (fun a b => Text.le_total a.participantId b.participantId) groups
  endpoints := by
    refine List.forall_mem_map.mpr fun group _ => ⟨List.mergeSort_perm _ _, ?_⟩
    exact List.pairwise_mergeSort (fun a b c => Text.leAll_trans a.sortKey b.sortKey c.sortKey)
      (fun a b => Text.leAll_total a.sortKey b.sortKey) _
  redirects := by
    refine List.forall_mem_map.mpr fun group _ => ⟨List.mergeSort_perm _ _, ?_⟩
    exact List.pairwise_mergeSort
      (fun a b c => Text.le_trans a.documentType b.documentType c.documentType)
      (fun a b => Text.le_total a.documentType b.documentType) _
  businessCards := by
    rw [document, List.filterMap_map]
    rfl

variable {listing} {other : Listing}

theorem Reorders.exported_eq {group : ServiceGroup} (h : listing.Reorders other group.participantId) :
    other.exported group = listing.exported group :=
  congrArg₂ (ExportedGroup.mk group)
    (h.endpoints.mergeSort_eq Text.leAll_trans Text.leAll_total Text.leAll_antisymm).symm
    (h.redirects.mergeSort_eq Text.le_trans Text.le_total Text.le_antisymm).symm

theorem document_eq {groups groups' : List ServiceGroup} (hdistinct : (Table.keys groups).Nodup)
    (hgroups : groups.Perm groups') (h : ∀ group ∈ groups, listing.Reorders other group.participantId)
    (withCards : Bool) : other.document groups' withCards = listing.document groups withCards := by
  have hsorted : groups.mergeSort ServiceGroup.le = groups'.mergeSort ServiceGroup.le :=
    mergeSort_eq_of_perm Text.le_trans Text.le_total Text.le_antisymm ServiceGroup.participantId
      hgroups fun _ ha _ hb => Table.eq_of_key hdistinct ha hb
  have hmem {group : ServiceGroup} (hg : group ∈ groups.mergeSort ServiceGroup.le) : group ∈ groups :=
    (List.mergeSort_perm groups _).mem_iff.mp hg
  have hexported : (groups.mergeSort ServiceGroup.le).map other.exported =
      (groups.mergeSort ServiceGroup.le).map listing.exported :=
    List.map_congr_left fun group hg => (h group (hmem hg)).exported_eq
  have hcards : ((groups.mergeSort ServiceGroup.le).filterMap fun group =>
        other.foundCard group.participantId) =
      (groups.mergeSort ServiceGroup.le).filterMap fun group =>
        listing.foundCard group.participantId :=
    List.filterMap_congr fun group hg => (h group (hmem hg)).businessCard.symm
  rw [document, document, ← hsorted, hexported, hcards]

end Listing

namespace Run

variable {σ α β ι : Type} {inv : σ → Prop}

/-- Started on content with a property, the run returns `a`, records nothing and keeps the property. -/
def Returns (inv : σ → Prop) (run : Run σ α) (a : α) : Prop :=
  ∀ s, inv s → ∃ s', inv s' ∧ Yields run s a [] s'

theorem returns_pure (inv : σ → Prop) (a : α) : Returns inv (pure a) a :=
  fun s hs => ⟨s, hs, yields_pure a s⟩

theorem returns_emit (inv : σ → Prop) (event : Event) : Returns inv (emit event) () :=
  fun s hs => ⟨s, hs, yields_emit event s⟩

theorem Returns.bind {run : Run σ α} {next : α → Run σ β} {a : α} {b : β} (hrun : Returns inv run a)
    (hnext : Returns inv (next a) b) : Returns inv (run >>= next) b := by
  intro s hs
  obtain ⟨s', hs', hfirst⟩ := hrun s hs
  obtain ⟨s'', hs'', hrest⟩ := hnext s' hs'
  exact ⟨s'', hs'', hfirst.bind_silent hrest⟩

theorem returns_mapM {step : ι → Run σ β} {f : ι → β} (h : ∀ i, Returns inv (step i) (f i))
    (items : List ι) : Returns inv (items.mapM step) (items.map f) := by
  induction items with
  | nil => exact returns_pure inv []
  | cons i items ih =>
    rw [List.mapM_cons]
    exact (h i).bind (ih.bind (returns_pure inv _))

theorem returns_lookup {what : Lookup} {participantId : Text} {fallback : α} {c : Call σ α}
    {reply : Except StorageError α}
    (h : ∀ s, inv s → ∃ s', inv s' ∧ c s = (reply.mapError .storage, s')) :
    Returns inv (lookup what participantId fallback c) (reply.toOption.getD fallback) := by
  intro s hs
  obtain ⟨s', hs', hreply⟩ := h s hs
  refine ⟨s', hs', (yields_attempt hreply).bind_silent ?_⟩
  cases reply with
  | ok a => exact yields_pure a s'
  | error e => exact (yields_emit _ s').bind_silent (yields_pure fallback s')

variable [Registry σ] {listing : Listing}

theorem returns_exportGroup (h : Registry.Lists listing inv) (group : ServiceGroup) :
    Returns inv (exportGroup group) (listing.exported group) :=
  (returns_lookup (h.endpoints group.participantId)).bind
    ((returns_lookup (h.redirects group.participantId)).bind (returns_pure inv _))

theorem returns_exportCard (h : Registry.Lists listing inv) (group : ServiceGroup) :
    Returns inv (exportCard group) (listing.foundCard group.participantId) :=
  returns_lookup (h.businessCard? group.participantId)

theorem returns_exportGroups (h : Registry.Lists listing inv) (groups : List ServiceGroup)
    (withCards : Bool) :
    Returns inv (exportGroups groups withCards) (listing.document groups withCards) := by
  have hgroups := returns_mapM (returns_exportGroup h) (groups.mergeSort ServiceGroup.le)
  have hcards := returns_mapM (returns_exportCard h) (groups.mergeSort ServiceGroup.le)
  have hfinish (cards : List (Option BusinessCard)) : Returns inv
      (do emit .exportFinished; return ⟨(groups.mergeSort ServiceGroup.le).map listing.exported,
        cards.filterMap id⟩ : Run σ ExportDocument)
      ⟨(groups.mergeSort ServiceGroup.le).map listing.exported, cards.filterMap id⟩ :=
    (returns_emit inv .exportFinished).bind (returns_pure inv _)
  refine (returns_emit inv _).bind (hgroups.bind ?_)
  cases withCards with
  | false => exact (returns_pure inv []).bind (hfinish [])
  | true =>
    have hdocument : listing.document groups true =
        ⟨(groups.mergeSort ServiceGroup.le).map listing.exported,
          ((groups.mergeSort ServiceGroup.le).map fun group =>
            listing.foundCard group.participantId).filterMap id⟩ := by
      rw [List.filterMap_map]
      rfl
    rw [hdocument]
    exact hcards.bind (hfinish _)

end Run

namespace Store

def tried {α : Type} (operation : Operation) (participantId : Text) (a : α) (t : Store) :
    Except StorageError α :=
  if (t.hindrance participantId).failing operation then .error (.failed operation participantId)
  else .ok a

theorem tried_eq {α : Type} (operation : Operation) (participantId : Text) (answer : Store → α)
    (t : Store) :
    (do let _ ← tryOut operation participantId; return answer (← get) : Call Store α) t =
      ((t.tried operation participantId (answer t)).mapError .storage, t) := by
  rw [tryOut_bind, tried]
  split <;> rfl

def listing (t : Store) : Listing where
  endpoints participantId :=
    t.tried .listEndpoints participantId (t.endpoints.filter (·.participantId = participantId))
  redirects participantId :=
    t.tried .listRedirects participantId (t.redirects.filter (·.participantId = participantId))
  businessCard? participantId :=
    t.tried .getBusinessCard participantId (Table.find? participantId t.businessCards)

theorem lists (t : Store) : Registry.Lists t.listing (· = t) where
  endpoints participantId := by
    rintro s rfl
    have hanswer := tried_eq .listEndpoints participantId
      (fun t => t.endpoints.filter (·.participantId = participantId)) s
    exact ⟨s, rfl, hanswer⟩
  redirects participantId := by
    rintro s rfl
    have hanswer := tried_eq .listRedirects participantId
      (fun t => t.redirects.filter (·.participantId = participantId)) s
    exact ⟨s, rfl, hanswer⟩
  businessCard? participantId := by
    rintro s rfl
    have hanswer := tried_eq .getBusinessCard participantId
      (fun t => Table.find? participantId t.businessCards) s
    exact ⟨s, rfl, hanswer⟩

end Store

/-- An export is canonical and complete, whatever lookups fail: it comes to its end with a document of
all groups with everything that can be read. The groups in another order, from any registry that lists
the same for them in whatever order, are exported as the same document. -/
theorem exportFrom_canonical {σ : Type} [Registry σ] {listing : Listing} {inv : σ → Prop}
    (hlists : Registry.Lists listing inv) {groups : List ServiceGroup}
    (hdistinct : (Table.keys groups).Nodup) (withCards : Bool) {s : σ} (hs : inv s) :
    ∃ (document : ExportDocument) (p : Progress σ),
      exportFrom (some groups) withCards (some s) = .ok (.ok document, p) ∧
      listing.Canonical groups withCards document ∧
      ∀ (τ : Type) [Registry τ] (other : Listing) (inv' : τ → Prop) (groups' : List ServiceGroup) (t : τ),
        Registry.Lists other inv' → groups.Perm groups' →
        (∀ group ∈ groups, listing.Reorders other group.participantId) → inv' t →
        ∃ q : Progress τ, exportFrom (some groups') withCards (some t) = .ok (.ok document, q) := by
  obtain ⟨s', -, hexport⟩ := Run.returns_exportGroups hlists groups withCards s hs
  obtain ⟨events, hrun⟩ := hexport { registry := s } rfl
  refine ⟨listing.document groups withCards, _, congrArg Except.ok hrun,
    listing.document_canonical groups withCards, ?_⟩
  intro τ _ other inv' groups' t hlists' hperm hreorders ht
  obtain ⟨t', -, hexport'⟩ := Run.returns_exportGroups hlists' groups' withCards t ht
  obtain ⟨events', hrun'⟩ := hexport' { registry := t } rfl
  rw [Listing.document_eq hdistinct hperm hreorders] at hrun'
  exact ⟨_, congrArg Except.ok hrun'⟩

theorem exportFrom_canonical_reordered :
    let invoice : Endpoint := ⟨"a", "invoice", "billing", "as4", "url", none, none, none, none⟩
    let order : Endpoint := ⟨"a", "order", "billing", "as4", "url", none, none, none, none⟩
    let groups : List ServiceGroup := [⟨"b", "u", none⟩, ⟨"a", "u", none⟩]
    let content : Store :=
      { groups
        endpoints := [order, invoice]
        redirects := [⟨"b", "invoice", "href", none, none, none⟩]
        businessCards := [⟨"a", []⟩, ⟨"b", []⟩]
        failing := [⟨.listRedirects, "b"⟩, ⟨.getBusinessCard, "a"⟩] }
    let other : Store := { content with groups := groups.reverse, endpoints := [invoice, order] }
    (Table.keys groups).Nodup ∧ ∃ (document : ExportDocument) (p q : Progress Store),
      exportFrom (some content.groups) true (some content) = .ok (.ok document, p) ∧
      exportFrom (some other.groups) true (some other) = .ok (.ok document, q) ∧
      content.listing.Canonical groups true document := by
  intro invoice order groups content other
  have hdistinct : (Table.keys groups).Nodup := by decide
  obtain ⟨document, p, hexport, hcanonical, hsame⟩ :=
    exportFrom_canonical content.lists hdistinct true rfl
  have ha : content.listing.Reorders other.listing "a" :=
    ⟨.inr ⟨List.Perm.swap invoice order [], by decide⟩, .inl rfl, rfl⟩
  have hb : content.listing.Reorders other.listing "b" := ⟨.inl rfl, .inl rfl, rfl⟩
  obtain ⟨q, hother⟩ := hsame Store other.listing (· = other) groups.reverse other other.lists
    groups.reverse_perm.symm
    (List.forall_mem_cons.mpr ⟨hb, List.forall_mem_singleton.mpr ha⟩) rfl
  exact ⟨hdistinct, document, p, q, hexport, hother, hcanonical⟩

end ParticipantRegistry
