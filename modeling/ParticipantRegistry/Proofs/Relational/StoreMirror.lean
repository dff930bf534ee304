import Mathlib.Data.List.Forall2
import ParticipantRegistry.Proofs.Exchange.Mirroring
import ParticipantRegistry.Proofs.Registry.Holding
import ParticipantRegistry.Proofs.Registry.StoredCards
import ParticipantRegistry.Proofs.Relational.Statements

/-!
# Sessions that hold what a store holds

A database with all tables shows a store: its rows are the records of the store, and the texts that are
stored for cards stand for the cards. A session on such a database answers like the store, as long as
all texts have an encoded form and the owners of new groups are known, and it shows the same store
afterwards.
-/

namespace ParticipantRegistry

namespace CardRow

def card (row : CardRow) : Except StoredEntityError BusinessCard :=
  (StoredEntities.decode row.entities).map fun entities => ⟨row.participantId, entities⟩

def ofCard (card : BusinessCard) : CardRow :=
  ⟨card.participantId, StoredEntities.encode card.entities⟩

theorem card_ofCard {card : BusinessCard} (h : card.isTextual = true) :
    (ofCard card).card = .ok card := by
  rw [BusinessCard.isTextual, List.all_eq_true] at h
  rw [CardRow.card, ofCard, StoredEntities.decode_encode h]
  rfl

theorem key_eq {row : CardRow} {card : BusinessCard} (h : row.card = .ok card) :
    key row = key card := by
  rw [CardRow.card] at h
  cases hd : StoredEntities.decode row.entities with
  | ok entities =>
    rw [hd] at h
    cases h
    rfl
  | error e =>
    rw [hd] at h
    cases h

/-- Rows stand for cards, one for one. -/
abbrev Stand : List CardRow → List BusinessCard → Prop :=
  List.Forall₂ fun row card => row.card = .ok card

variable {rows : List CardRow} {cards : List BusinessCard}

theorem Stand.find? (h : Stand rows cards) (participantId : Text) :
    (Table.find? participantId rows).map CardRow.card =
      (Table.find? participantId cards).map .ok := by
  induction h with
  | nil => rfl
  | cons hrow _ ih =>
    rw [Table.find?_cons, Table.find?_cons, key_eq hrow]
    split
    · exact congrArg some hrow
    · exact ih

theorem Stand.keys (h : Stand rows cards) : Table.keys rows = Table.keys cards := by
  induction h with
  | nil => rfl
  | cons hrow _ ih => exact congrArg₂ List.cons (key_eq hrow) ih

theorem Stand.put (h : Stand rows cards) {row : CardRow} {card : BusinessCard}
    (hrow : row.card = .ok card) : Stand (Table.put row rows) (Table.put card cards) := by
  induction h with
  | nil => exact .cons hrow .nil
  | cons hfirst hrest ih =>
    rw [Table.put, Table.put, key_eq hfirst, key_eq hrow]
    split
    · exact .cons hrow hrest
    · exact .cons hfirst ih

theorem Stand.filter (h : Stand rows cards) (p : Text → Bool) :
    Stand (rows.filter fun row => p row.participantId) (cards.filter fun c => p c.participantId) := by
  induction h with
  | nil => exact .nil
  | @cons row card _ _ hfirst hrest ih =>
    have hkey : row.participantId = card.participantId := key_eq hfirst
    rw [List.filter_cons, List.filter_cons, hkey]
    split
    · exact .cons hfirst ih
    · exact ih

end CardRow

/-- All tables are there and hold what the store holds. -/
structure Database.Shows (db : Database) (t : Store) : Prop where
  users : db.users = some t.users
  groups : db.groups = some t.groups
  endpoints : db.endpoints = some t.endpoints
  redirects : db.redirects = some t.redirects
  businessCards : ∃ rows, db.businessCards = some rows ∧ CardRow.Stand rows t.businessCards
  textual : ∀ card ∈ t.businessCards, card.isTextual = true

namespace Database.Shows

variable {db : Database} {t : Store}

theorem put_groups (h : db.Shows t) (groups : List ServiceGroup) :
    (Place.groups.put groups db).Shows { t with groups } :=
  ⟨h.users, rfl, h.endpoints, h.redirects, h.businessCards, h.textual⟩

theorem put_endpoints (h : db.Shows t) (endpoints : List Endpoint) :
    (Place.endpoints.put endpoints db).Shows { t with endpoints } :=
  ⟨h.users, h.groups, rfl, h.redirects, h.businessCards, h.textual⟩

theorem put_redirects (h : db.Shows t) (redirects : List Redirect) :
    (Place.redirects.put redirects db).Shows { t with redirects } :=
  ⟨h.users, h.groups, h.endpoints, rfl, h.businessCards, h.textual⟩

theorem put_businessCards (h : db.Shows t) {rows : List CardRow} {businessCards : List BusinessCard}
    (hstand : CardRow.Stand rows businessCards)
    (htextual : ∀ card ∈ businessCards, card.isTextual = true) :
    (Place.businessCards.put rows db).Shows { t with businessCards } :=
  ⟨h.users, h.groups, h.endpoints, h.redirects, ⟨rows, rfl, hstand⟩, htextual⟩

end Database.Shows

namespace Session

variable {α ρ κ : Type} {users : List User} {s : Session} {t : Store}

/-- The session answers from what the store holds, and nothing is told to go wrong. -/
structure Answers (users : List User) (s : Session) (t : Store) : Prop where
  pending : s.pending = []
  usable : s.isUsable = true
  refusal : s.refusal = none
  barrier : s.barrier = none
  registrar : ∀ r, s.registrar = some r → r.rejected = []
  directoryIntegration : s.directoryIntegration = t.directoryIntegration
  users : t.users = users
  failing : t.failing = []
  unchanging : t.unchanging = []
  shows : s.storage.current.Shows t

/-- Between two calls the session shows the store, and nothing is left to commit. -/
structure Mirrors (users : List User) (s : Session) (t : Store) : Prop extends Answers users s t where
  storage : s.storage.current = s.storage.committed

/-- In the midst of a transaction the session has come as far as the store. -/
structure Follows (users : List User) (s : Session) (t : Store) : Prop extends Answers users s t where
  transaction : s.transaction = .begun

theorem Mirrors.settled (h : s.Mirrors users t) : s.Settled := ⟨h.pending, h.storage⟩

theorem Answers.begun (h : s.Answers users t) : s.begun.Follows users t :=
  ⟨⟨h.pending, rfl, h.refusal, h.barrier, h.registrar, h.directoryIntegration, h.users, h.failing,
    h.unchanging, h.shows⟩, rfl⟩

theorem Mirrors.begun (h : s.Mirrors users t) : s.begun.Mirrors users t :=
  ⟨h.toAnswers.begun.toAnswers, h.storage⟩

theorem Follows.begun_eq (h : s.Follows users t) : s.begun = s := by
  rw [Session.begun, ← h.transaction]

theorem Follows.opened (h : s.Follows users t) : s.Open := ⟨h.pending, h.transaction, h.refusal⟩

theorem Follows.committed (h : s.Follows users t) : s.committed.Mirrors users t := by
  rw [Session.committed, h.transaction]
  exact ⟨⟨h.pending, rfl, h.refusal, h.barrier, h.registrar, h.directoryIntegration, h.users,
    h.failing, h.unchanging, h.shows⟩, rfl⟩

theorem Mirrors.rolledBack (h : s.Mirrors users t) : s.begun.rolledBack.Mirrors users t := by
  rw [h.begun.settled.rolledBack_eq, reconnected, isCutOff, h.begun.refusal]
  exact ⟨⟨h.pending, rfl, rfl, h.barrier, h.registrar, h.directoryIntegration, h.users,
    h.failing, h.unchanging, h.shows⟩, h.storage⟩

theorem Answers.select (h : s.Answers users t) (place : Place ρ) {rows : List ρ}
    (hp : place.rows s.storage.current = some rows) {values : List Text}
    (hv : values.all Text.isUnicode = true) : select place values s = (.ok rows, s.begun) := by
  have hfound : s.found place values = .ok rows := by
    rw [found, h.usable, h.refusal, hp]
    simp [hv]
  rw [select_eq place values h.pending, hfound, Session.touched, h.usable, isCutOff, h.refusal]
  rfl

theorem Answers.selectKey [Keyed ρ κ] [DecidableEq κ] (h : s.Answers users t) (place : Place ρ)
    {rows : List ρ} (hp : place.rows s.storage.current = some rows) (k : κ) {values : List Text}
    (hv : values.all Text.isUnicode = true) :
    selectKey place k values s = (.ok (Table.find? k rows), s.begun) :=
  Call.bind_of_ok (h.select place hp hv)

theorem Answers.lookupUser (h : s.Answers users t) {id : Text} (hid : id.isUnicode = true) :
    lookupUser id s = (.ok (Table.find? id t.users), s.begun) :=
  h.selectKey .users h.shows.users id (by simp [hid])

theorem Answers.findGroup (h : s.Answers users t) {participantId : Text}
    (hid : participantId.isUnicode = true) :
    findGroup participantId s = (.ok (Table.find? participantId t.groups), s.begun) :=
  h.selectKey .groups h.shows.groups participantId (by simp [hid])

theorem cardOf_eq {row : CardRow} {card : BusinessCard} (h : row.card = .ok card) (s : Session) :
    cardOf row s = (.ok card, s) := by
  rw [CardRow.card] at h
  rw [cardOf]
  cases hd : StoredEntities.decode row.entities with
  | ok entities =>
    rw [hd] at h
    cases h
    rfl
  | error e =>
    rw [hd] at h
    cases h

theorem Answers.findCard (h : s.Answers users t) {participantId : Text}
    (hid : participantId.isUnicode = true) :
    findCard participantId s = (.ok (Table.find? participantId t.businessCards), s.begun) := by
  obtain ⟨rows, hrows, hstand⟩ := h.shows.businessCards
  have hfind := hstand.find? participantId
  have hselect : Session.selectKey .businessCards participantId [participantId] s = _ :=
    h.selectKey .businessCards hrows participantId (by simp [hid])
  rw [Session.findCard, Call.bind_of_ok hselect]
  cases hr : Table.find? participantId rows with
  | none =>
    rw [hr, Option.map_none] at hfind
    rw [Option.map_eq_none_iff.mp hfind.symm]
    rfl
  | some row =>
    rw [hr, Option.map_some] at hfind
    obtain ⟨card, hcard, hrow⟩ := Option.map_eq_some_iff.mp hfind.symm
    rw [hcard]
    exact Call.bind_of_ok (cardOf_eq hrow.symm s.begun)

theorem Follows.setRows (h : s.Follows users t) (place : Place ρ) (rows : List ρ) {t' : Store}
    (hshows : (place.put rows s.storage.current).Shows t') (hbare : t'.bare = t.bare) :
    ∃ s', setRows place rows s = (.ok (), s') ∧ s'.Follows users t' := by
  refine ⟨s.written place rows, ?_, ⟨?_, h.transaction⟩⟩
  · rw [setRows_eq, h.barrier]
  · exact ⟨h.pending, h.usable, h.refusal, h.barrier, h.registrar,
      h.directoryIntegration.trans (congrArg Store.directoryIntegration hbare).symm,
      (congrArg Store.users hbare).trans h.users, (congrArg Store.failing hbare).trans h.failing,
      (congrArg Store.unchanging hbare).trans h.unchanging, hshows⟩

theorem Follows.remove (h : s.Follows users t) (place : Place ρ) (doomed : ρ → Bool) {rows : List ρ}
    (hp : place.rows s.storage.current = some rows) {t' : Store}
    (hshows : (place.put (rows.filter fun row => !doomed row) s.storage.current).Shows t')
    (hbare : t'.bare = t.bare) :
    ∃ s', remove place doomed s = (.ok (), s') ∧ s'.Follows users t' := by
  have hrows := rowsOf_eq place h.refusal
  rw [hp] at hrows
  obtain ⟨s', hset, hs'⟩ := h.setRows place _ hshows hbare
  exact ⟨s', (Call.bind_of_ok hrows).trans hset, hs'⟩

theorem Follows.store [Keyed ρ κ] [DecidableEq κ] (h : s.Follows users t) (place : Place ρ)
    {rows : List ρ} {row : ρ} (hp : place.rows s.storage.current = some rows) {values : List Text}
    (hv : values.all Text.isUnicode = true) {t' : Store}
    (hshows : (place.put (Table.put row rows) s.storage.current).Shows t')
    (hbare : t'.bare = t.bare) :
    ∃ s', store place row values s = (.ok (), s') ∧ s'.Follows users t' := by
  have hrows := rowsOf_eq place h.refusal
  have hbind := bind_eq values s
  rw [hp] at hrows
  rw [hv] at hbind
  obtain ⟨s', hset, hs'⟩ := h.setRows place _ hshows hbare
  have hwork : (do
      let rows ← rowsOf place
      bind values
      Session.setRows place (Table.put row rows) : Call Session Unit) s = (.ok (), s') :=
    (Call.bind_of_ok hrows).trans ((Call.bind_of_ok hbind).trans hset)
  refine ⟨s', ?_, hs'⟩
  rw [Session.store, sending, h.begun_eq]
  simp only [hwork]

theorem Follows.storeOver [Keyed ρ κ] [DecidableEq κ] [DecidableEq ρ] (h : s.Follows users t)
    (place : Place ρ) {rows : List ρ} {row : ρ} (hp : place.rows s.storage.current = some rows)
    {values : List Text} (hv : values.all Text.isUnicode = true) {t' : Store}
    (hshows : (place.put (Table.put row rows) s.storage.current).Shows t')
    (hsame : Table.put row rows = rows → t' = t) (hbare : t'.bare = t.bare) :
    ∃ s', storeOver place (Table.find? (key row) rows) row values s = (.ok (), s') ∧
      s'.Follows users t' := by
  rw [Session.storeOver]
  split
  · exact h.store place hp hv hshows hbare
  · next hstored =>
    rw [hsame (Table.put_of_find? (not_not.mp hstored))]
    exact ⟨s, rfl, h⟩

theorem Follows.announce (h : s.Follows users t) (participantId : Text)
    (registration : Registration) :
    ∃ s', announce participantId registration s = (.ok (), s') ∧ s'.Follows users t := by
  rw [announce_eq]
  cases hr : s.registrar with
  | none => exact ⟨s, rfl, h⟩
  | some registrar =>
    have hrejected := h.registrar registrar hr
    refine ⟨{ s with
      registrar := some { registrar with done := registrar.done ++ [registration] } },
      by simp [hrejected], ⟨⟨h.pending, h.usable, h.refusal, h.barrier, ?_,
      h.directoryIntegration, h.users, h.failing, h.unchanging, h.shows⟩, h.transaction⟩⟩
    intro r hr
    cases hr
    exact hrejected

theorem Follows.announceIf (h : s.Follows users t) (told : Bool) (participantId : Text)
    (registration : Registration) (a : α) :
    ∃ s', (do
      if told then Session.announce participantId registration
      return a : Call Session α) s = (.ok a, s') ∧ s'.Follows users t := by
  cases told with
  | false => exact ⟨s, rfl, h⟩
  | true =>
    obtain ⟨s', hannounce, h'⟩ := h.announce participantId registration
    exact ⟨s', Call.bind_of_ok hannounce, h'⟩

theorem Follows.removeCard (h : s.Follows users t) (participantId : Text) :
    ∃ s', Session.remove .businessCards (·.participantId = participantId) s = (.ok (), s') ∧
      s'.Follows users { t with businessCards := Table.erase participantId t.businessCards } := by
  obtain ⟨rows, hrows, hstand⟩ := h.shows.businessCards
  have hfilter := hstand.filter fun k => !decide (k = participantId)
  have hshows := h.shows.put_businessCards hfilter
    fun card hcard => h.shows.textual card (List.mem_of_mem_filter hcard)
  have herase : Table.erase participantId t.businessCards =
      t.businessCards.filter fun c => !decide (c.participantId = participantId) :=
    List.filter_congr fun c _ => decide_not
  rw [herase]
  exact h.remove .businessCards _ hrows hshows rfl

theorem Follows.removeGroup (h : s.Follows users t) (participantId : Text) :
    ∃ s', removeGroup participantId s = (.ok (), s') ∧
      s'.Follows users (t.withoutGroup participantId) := by
  obtain ⟨s₁, he, h₁⟩ := h.remove .endpoints (·.participantId = participantId)
    h.shows.endpoints (h.shows.put_endpoints _) rfl
  obtain ⟨s₂, hr, h₂⟩ := h₁.remove .redirects (·.participantId = participantId)
    h₁.shows.redirects (h₁.shows.put_redirects _) rfl
  obtain ⟨s₃, hc, h₃⟩ := h₂.removeCard participantId
  obtain ⟨s₄, hg, h₄⟩ := h₃.remove .groups (·.participantId = participantId)
    h₃.shows.groups (h₃.shows.put_groups _) rfl
  refine ⟨s₄, ?_, ?_⟩
  · exact (Call.bind_of_ok he).trans ((Call.bind_of_ok hr).trans ((Call.bind_of_ok hc).trans hg))
  · simp only [← decide_not] at h₄
    exact h₄

theorem Follows.storeCard (h : s.Follows users t) {card : BusinessCard}
    (ht : ∀ x ∈ card.texts, x.isUnicode = true) (htextual : card.isTextual = true) :
    ∃ s', Session.storeCard card s = (.ok (), s') ∧
      s'.Follows users { t with businessCards := Table.put card t.businessCards } := by
  obtain ⟨rows, hrows, hstand⟩ := h.shows.businessCards
  have hid : card.participantId.isUnicode = true := ht _ List.mem_cons_self
  have hentities : (StoredEntities.encode card.entities).isUnicode = true :=
    StoredEntities.isUnicode_encode (List.all_eq_true.mp htextual) fun e he x hx =>
      ht x (List.mem_cons_of_mem _ (List.mem_flatMap.mpr ⟨e, he, hx⟩))
  have hshows := h.shows.put_businessCards (hstand.put (CardRow.card_ofCard htextual))
    fun c hc => (Table.mem_of_mem_put hc).elim (fun hput => hput ▸ htextual) (h.shows.textual c)
  exact h.store .businessCards hrows (by simp [hid, hentities]) hshows rfl

theorem Follows.writeCard (h : s.Follows users t) {card : BusinessCard} (hc : card.check = .ok ())
    (ht : ∀ x ∈ card.texts, x.isUnicode = true) (htextual : card.isTextual = true) :
    ∃ s', (do
      match Table.find? card.participantId t.businessCards with
      | some stored => if !stored.holdsAlike card.entities then Session.storeCard card
      | none =>
        match card.check with
        | .error field => throw (.fault (.blank field))
        | .ok () => Session.storeCard card
      return some card : Call Session (Option BusinessCard)) s = (.ok (some card), s') ∧
      s'.Follows users { t with businessCards := Table.put card t.businessCards } := by
  obtain ⟨s', hstore, h'⟩ := h.storeCard ht htextual
  cases hfind : Table.find? card.participantId t.businessCards with
  | none =>
    rw [hc]
    exact ⟨s', Call.bind_of_ok hstore, h'⟩
  | some stored =>
    cases halike : stored.holdsAlike card.entities with
    | false =>
      refine ⟨s', ?_, h'⟩
      simp only [halike, Bool.not_false, if_true]
      exact Call.bind_of_ok hstore
    | true =>
      have hmem : stored ∈ t.businessCards := List.mem_of_find?_eq_some hfind
      have hkey : stored.participantId = card.participantId := Table.key_of_find? hfind
      have hentities := BusinessCard.eq_of_holdsAlike (h.shows.textual stored hmem)
        (List.all_eq_true.mp htextual) halike
      have hstored : stored = card := congrArg₂ BusinessCard.mk hkey hentities
      rw [hstored] at hfind
      have hput : Table.put card t.businessCards = t.businessCards := Table.put_of_find? hfind
      rw [hput]
      refine ⟨s, ?_, h⟩
      simp only [halike, Bool.not_true, Bool.false_eq_true, if_false]
      rfl

theorem Follows.atomic (action : Text) {work : Call Session α} {a : α} {s' : Session}
    (h : s'.Follows users t) (hw : work s = (.ok a, s')) :
    ∃ s'', atomic action work s = (.ok a, s'') ∧ s''.Mirrors users t :=
  ⟨s'.committed, atomic_of_ok action hw h.opened, h.committed⟩

end Session

/-- The texts of the mutation have an encoded form, a card holds nothing but texts, and the owner of a
new group is known. -/
def Mutation.Storable (users : List User) : Mutation → Prop
  | .deleteGroup participantId _ => participantId.isUnicode = true
  | .createGroup group _ =>
    ([group.participantId, group.ownerId] ++ group.extension.toList).all Text.isUnicode = true ∧
      (Table.find? group.ownerId users).isSome = true
  | .mergeEndpoint endpoint => (Session.endpointTexts endpoint).all Text.isUnicode = true
  | .upsertRedirect redirect => (Session.redirectTexts redirect).all Text.isUnicode = true
  | .deleteBusinessCard card => card.participantId.isUnicode = true
  | .upsertBusinessCard card => (∀ t ∈ card.texts, t.isUnicode = true) ∧ card.isTextual = true

def Hindrance.none : Hindrance := ⟨fun _ => false, fun _ => false⟩

namespace Session

variable {α ρ κ : Type} {users : List User} {s s' : Session} {t : Store} {mutation : Mutation}

theorem Answers.hindrance_eq (h : s.Answers users t) (participantId : Text) :
    t.hindrance participantId = .none := by
  rw [Store.hindrance, h.failing, h.unchanging]
  rfl

theorem Mirrors.matches_answer (h : s.Mirrors users t) (hc : mutation.check = .ok ()) {changed : Bool}
    (hreply : mutation.answer .none (t.holding mutation.participantId) = .ok changed)
    (hs : mutation.perform s = (.ok changed, s'))
    (hm : s'.Mirrors users (if changed then mutation.carryOut t else t)) :
    Matches (Mirrors users) Eq (mutation.perform s) (mutation.perform t) := by
  have hstore := Store.perform_eq mutation t hc
  rw [h.hindrance_eq, hreply] at hstore
  rw [hs, hstore]
  exact .answered rfl hm

theorem Mirrors.matches_refusal (h : s.Mirrors users t) (hc : mutation.check = .ok ())
    {e e' : StorageError}
    (hreply : mutation.answer .none (t.holding mutation.participantId) = .error e')
    (hs : mutation.perform s = (.error (.storage e), s')) (hm : s'.Mirrors users t) :
    Matches (Mirrors users) Eq (mutation.perform s) (mutation.perform t) := by
  have hstore := Store.perform_eq mutation t hc
  rw [h.hindrance_eq, hreply] at hstore
  rw [hs, hstore]
  exact .refused hm

theorem Mirrors.matches_found (h : s.Mirrors users t) (hc : mutation.check = .ok ()) {β : Type}
    {action : Text} {find : Call Session (Option β)} {next : Option β → Call Session α}
    {changes : α → Bool} {found? : Option β} {absent : α}
    (hperform : ∀ {a : α} {s' : Session}, atomic action (find >>= next) s = (.ok a, s') →
      mutation.perform s = (.ok (changes a), s'))
    (hfind : find s = (.ok found?, s.begun))
    (hreply : mutation.answer .none (t.holding mutation.participantId) = .ok found?.isSome)
    (hnone : next none s.begun = (.ok absent, s.begun)) (habsent : changes absent = false)
    (hsome : ∀ found, ∃ present s₁, next (some found) s.begun = (.ok present, s₁) ∧
      changes present = true ∧ s₁.Follows users (mutation.carryOut t)) :
    Matches (Mirrors users) Eq (mutation.perform s) (mutation.perform t) := by
  cases found? with
  | none =>
    obtain ⟨s', hs', hm⟩ := h.toAnswers.begun.atomic action ((Call.bind_of_ok hfind).trans hnone)
    have hdone := hperform hs'
    rw [habsent] at hdone
    exact h.matches_answer hc hreply hdone hm
  | some found =>
    obtain ⟨present, s₁, hnext, hpresent, h₁⟩ := hsome found
    obtain ⟨s', hs', hm⟩ := h₁.atomic action ((Call.bind_of_ok hfind).trans hnext)
    have hdone := hperform hs'
    rw [hpresent] at hdone
    exact h.matches_answer hc hreply hdone hm

open Run (Shared)

theorem shared_deleteGroup {participantId : Text} (hid : participantId.isUnicode = true)
    (deprovision : Bool) : Shared (Mirrors users) (.deleteGroup participantId deprovision) := by
  intro s t h
  refine h.matches_found rfl (fun hdone => hdone) (h.findGroup hid) rfl rfl rfl fun _ => ?_
  obtain ⟨s₁, hremove, h₁⟩ := h.toAnswers.begun.removeGroup participantId
  obtain ⟨s₂, htold, h₂⟩ := h₁.announceIf deprovision participantId (.deregister participantId) true
  exact ⟨true, s₂, (Call.bind_of_ok hremove).trans htold, rfl, h₂⟩

theorem Mirrors.lookups_createGroup (h : s.Mirrors users t) {group : ServiceGroup} {register : Bool}
    (hm : (Mutation.createGroup group register).Storable users) :
    (∃ owner, lookupUser group.ownerId s = (.ok (some owner), s.begun)) ∧
      findGroup group.participantId s.begun =
        (.ok (Table.find? group.participantId t.groups), s.begun) := by
  obtain ⟨hids, hknown⟩ := hm
  simp only [List.cons_append, List.nil_append, List.all_cons, Bool.and_eq_true] at hids
  have howner := h.lookupUser hids.2.1
  obtain ⟨owner, howner'⟩ := Option.isSome_iff_exists.mp hknown
  rw [h.users, howner'] at howner
  have hfind := h.begun.findGroup hids.1
  rw [h.toAnswers.begun.begun_eq] at hfind
  exact ⟨⟨owner, howner⟩, hfind⟩

theorem Mirrors.createGroup_present (h : s.Mirrors users t) {group stored : ServiceGroup}
    {register : Bool} (hm : (Mutation.createGroup group register).Storable users)
    (hg : Table.find? group.participantId t.groups = some stored) :
    createGroup group register s =
      (.error (.storage (.alreadyStored (.string group.participantId))), s.begun.rolledBack) := by
  obtain ⟨⟨owner, howner⟩, hfind⟩ := h.lookups_createGroup hm
  rw [hg] at hfind
  have hwork : (if (some stored).isSome then
        throw (.storage (.alreadyStored (.string group.participantId)))
      else pure () : Call Session Unit) s.begun =
      (.error (.storage (.alreadyStored (.string group.participantId))), s.begun) := rfl
  exact atomic_of_error (e := .storage _) _ ((Call.bind_of_ok howner).trans
    ((Call.bind_of_ok hfind).trans (Call.bind_of_error hwork)))

theorem shared_createGroup {group : ServiceGroup} (hc : group.check = .ok ())
    (ht : ([group.participantId, group.ownerId] ++ group.extension.toList).all Text.isUnicode = true)
    (hknown : (Table.find? group.ownerId users).isSome = true) (register : Bool) :
    Shared (Mirrors users) (.createGroup group register) := by
  intro s t h
  have hm : (Mutation.createGroup group register).Storable users := ⟨ht, hknown⟩
  obtain ⟨⟨owner, howner⟩, hfind⟩ := h.lookups_createGroup hm
  have hreply : (Mutation.createGroup group register).answer .none (t.holding group.participantId) =
      if (Table.find? group.participantId t.groups).isSome then .error (.present group.participantId)
      else .ok true := rfl
  cases hg : Table.find? group.participantId t.groups with
  | some stored =>
    rw [hg] at hreply
    exact h.matches_refusal hc hreply (Call.bind_of_error (h.createGroup_present hm hg)) h.rolledBack
  | none =>
    rw [hg] at hfind hreply
    have hshows := h.shows.put_groups (Table.put group t.groups)
    obtain ⟨s₁, hstore, h₁⟩ := h.toAnswers.begun.store .groups h.shows.groups ht hshows rfl
    obtain ⟨s₂, htold, h₂⟩ :=
      h₁.announceIf register group.participantId (.register group.participantId) group
    have hwork : (match group.check with
      | .error field => throw (.fault (.blank field))
      | .ok () => do
        store .groups group ([group.participantId, group.ownerId] ++ group.extension.toList)
        if register then announce group.participantId (.register group.participantId)
        return group : Call Session ServiceGroup) s.begun = (.ok group, s₂) := by
      rw [hc]
      exact (Call.bind_of_ok hstore).trans htold
    have hdone : ∃ s', createGroup group register s = (.ok group, s') ∧
        s'.Mirrors users { t with groups := Table.put group t.groups } :=
      h₂.atomic _ ((Call.bind_of_ok howner).trans ((Call.bind_of_ok hfind).trans hwork))
    obtain ⟨s', hs', hm⟩ := hdone
    exact h.matches_answer hc hreply (Call.bind_of_ok hs') hm

theorem shared_mergeEndpoint {endpoint : Endpoint}
    (ht : (endpointTexts endpoint).all Text.isUnicode = true) :
    Shared (Mirrors users) (.mergeEndpoint endpoint) := by
  intro s t h
  have hkey := ht
  simp only [endpointTexts, List.all_append, Bool.and_eq_true] at hkey
  have hkey := hkey.1.1.1.1.1
  have hid : endpoint.participantId.isUnicode = true := List.all_eq_true.mp hkey _ List.mem_cons_self
  refine h.matches_found rfl (fun hdone => hdone) (h.findGroup hid) rfl rfl rfl fun _ => ?_
  have hselect := h.begun.selectKey .endpoints h.shows.endpoints (key endpoint) hkey
  rw [h.toAnswers.begun.begun_eq] at hselect
  have hshows := h.shows.put_endpoints (Table.put endpoint t.endpoints)
  obtain ⟨s₁, hstore, h₁⟩ := h.toAnswers.begun.storeOver .endpoints h.shows.endpoints ht hshows
    (congrArg fun endpoints => { t with endpoints }) rfl
  have hwork : (do
      storeOver .endpoints (Table.find? (key endpoint) t.endpoints)
        (endpointOver endpoint (Table.find? (key endpoint) t.endpoints))
        (endpointTexts (endpointOver endpoint (Table.find? (key endpoint) t.endpoints)))
      return true : Call Session Bool) s.begun = (.ok true, s₁) := by
    rw [endpointOver_find?]
    exact Call.bind_of_ok hstore
  exact ⟨true, s₁, (Call.bind_of_ok hselect).trans hwork, rfl, h₁⟩

theorem shared_upsertRedirect {redirect : Redirect}
    (ht : (redirectTexts redirect).all Text.isUnicode = true) :
    Shared (Mirrors users) (.upsertRedirect redirect) := by
  intro s t h
  have hkey := ht
  simp only [redirectTexts, List.all_append, Bool.and_eq_true] at hkey
  have hkey := hkey.1.1.1.1
  have hid : redirect.participantId.isUnicode = true := List.all_eq_true.mp hkey _ List.mem_cons_self
  refine h.matches_found rfl Call.bind_of_ok (h.findGroup hid) rfl rfl rfl fun _ => ?_
  have hselect := h.begun.selectKey .redirects h.shows.redirects (key redirect) hkey
  rw [h.toAnswers.begun.begun_eq] at hselect
  have hshows := h.shows.put_redirects (Table.put redirect t.redirects)
  obtain ⟨s₁, hstore, h₁⟩ := h.toAnswers.begun.storeOver .redirects h.shows.redirects ht hshows
    (congrArg fun redirects => { t with redirects }) rfl
  have hwork : (do
      storeOver .redirects (Table.find? (key redirect) t.redirects)
        (redirectOver redirect (Table.find? (key redirect) t.redirects))
        (redirectTexts (redirectOver redirect (Table.find? (key redirect) t.redirects)))
      return some (redirectOver redirect (Table.find? (key redirect) t.redirects)) :
        Call Session (Option Redirect)) s.begun = (.ok (some redirect), s₁) := by
    rw [redirectOver_find?]
    exact Call.bind_of_ok hstore
  exact ⟨some redirect, s₁, (Call.bind_of_ok hselect).trans hwork, rfl, h₁⟩

theorem shared_deleteBusinessCard {card : BusinessCard} (hid : card.participantId.isUnicode = true) :
    Shared (Mirrors users) (.deleteBusinessCard card) := by
  intro s t h
  refine h.matches_found rfl (fun hdone => hdone) (h.findCard hid) rfl rfl rfl fun _ => ?_
  obtain ⟨s₁, hremove, h₁⟩ := h.toAnswers.begun.removeCard card.participantId
  exact ⟨true, s₁, Call.bind_of_ok hremove, rfl, h₁⟩

theorem shared_upsertBusinessCard {card : BusinessCard} (hc : card.check = .ok ())
    (ht : ∀ t ∈ card.texts, t.isUnicode = true) (htextual : card.isTextual = true) :
    Shared (Mirrors users) (.upsertBusinessCard card) := by
  intro s t h
  have hid : card.participantId.isUnicode = true := ht _ List.mem_cons_self
  refine h.matches_found hc Call.bind_of_ok (h.findGroup hid) rfl rfl rfl fun _ => ?_
  have hcard := h.begun.findCard hid
  rw [h.toAnswers.begun.begun_eq] at hcard
  obtain ⟨s₁, hwork, h₁⟩ := h.toAnswers.begun.writeCard hc ht htextual
  exact ⟨some card, s₁, (Call.bind_of_ok hcard).trans hwork, rfl, h₁⟩

/-- A session and the store that it shows are asked alike for all mutations that can be stored. -/
theorem shared_of_storable (hc : mutation.check = .ok ()) (hm : mutation.Storable users) :
    Shared (Mirrors users) mutation := by
  cases mutation with
  | deleteGroup participantId deprovision => exact shared_deleteGroup hm deprovision
  | createGroup group register => exact shared_createGroup hc hm.1 hm.2 register
  | mergeEndpoint endpoint => exact shared_mergeEndpoint hm
  | upsertRedirect redirect => exact shared_upsertRedirect hm
  | deleteBusinessCard card => exact shared_deleteBusinessCard hm
  | upsertBusinessCard card => exact shared_upsertBusinessCard hc hm.1 hm.2

end Session

end ParticipantRegistry
