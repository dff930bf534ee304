import ParticipantRegistry.Proofs.Application.SessionExchange
import ParticipantRegistry.Proofs.Registry.Answers
import ParticipantRegistry.Proofs.Relational.Rewrites

/-!
# Calls over a session and over a store

A session answers every call like the store that it mirrors, as long as the texts of the call have an
encoded form and the owner of a new group is known. A record without a required text comes to the same
over both as well: a group is refused or faulty, and a card belongs to a blank participant, who has no
group.
-/

namespace ParticipantRegistry

namespace Store

variable {t t' : Store}

theorem createGroup_ok {group created : ServiceGroup}
    (h : Store.createGroup group t = (.ok created, t')) : created = group := by
  cases hcheck : group.check with
  | error field =>
    rw [createGroup_blank hcheck] at h
    split at h
    · cases h
    · split at h <;> cases h
  | ok _ =>
    rw [createGroup_eq group t hcheck] at h
    split at h
    · cases h
    · split at h <;> cases h
      rfl

theorem upsertRedirect_ok {redirect : Redirect} {stored? : Option Redirect}
    (h : Store.upsertRedirect redirect t = (.ok stored?, t')) :
    ∀ stored ∈ stored?, stored = redirect := by
  have hanswer : Store.upsertRedirect redirect t = _ :=
    guarded_eq .upsertRedirect redirect.participantId none _ t
  rw [hanswer] at h
  split at h
  · cases h
  · split at h <;> cases h <;> simp

theorem upsertBusinessCard_ok {card : BusinessCard} {stored? : Option BusinessCard}
    (h : Store.upsertBusinessCard card t = (.ok stored?, t')) : ∀ stored ∈ stored?, stored = card := by
  cases hcheck : card.check with
  | error field =>
    rw [upsertBusinessCard_blank hcheck] at h
    split at h
    · cases h
    · split at h <;> cases h
      simp
  | ok _ =>
    rw [upsertBusinessCard_eq card t hcheck] at h
    split at h
    · cases h
    · split at h <;> cases h <;> simp

theorem echoes (t : Store) : Registry.Echoes t :=
  ⟨createGroup_ok, upsertRedirect_ok, upsertBusinessCard_ok⟩

end Store

theorem Session.echoes {s : Session} (hp : s.pending = []) : Registry.Echoes s where
  createGroup h := (createGroup_ok hp h).1
  upsertRedirect h := (upsertRedirect_ok hp h).1
  upsertBusinessCard h := (upsertBusinessCard_ok hp h).1

theorem BusinessCard.isBlank_of_error {card : BusinessCard} {field : BlankField}
    (h : card.check = .error field) : card.participantId.isBlank = true := by
  cases hblank : card.participantId.isBlank with
  | true => rfl
  | false => simp [check, requireTexts, hblank] at h

theorem ServiceGroup.not_isBlank_of_check {group : ServiceGroup} (h : group.check = .ok ()) :
    group.participantId.isBlank = false :=
  (requireTexts_eq_ok_iff _).mp h ("participant_id", group.participantId) List.mem_cons_self

namespace Store

variable {t : Store} {mutation : Mutation} {field : BlankField}

def Named (t : Store) : Prop := ∀ group ∈ t.groups, group.participantId.isBlank = false

theorem Named.hasGroup (h : t.Named) {participantId : Text} (hblank : participantId.isBlank = true) :
    t.hasGroup participantId = false := by
  rw [Bool.eq_false_iff, Ne, Store.hasGroup, Table.hasKey_iff]
  intro hmem
  obtain ⟨group, hgroup, rfl⟩ := List.mem_map.mp hmem
  have hnamed : (key group).isBlank = false := h group hgroup
  exact absurd hblank (by simp [hnamed])

theorem Named.carryOut (h : t.Named) (hc : mutation.check = .ok ()) :
    (mutation.carryOut t).Named := by
  cases mutation with
  | deleteGroup participantId deprovision =>
    exact fun group hgroup => h group (List.mem_of_mem_filter hgroup)
  | createGroup group register =>
    intro g hg
    rcases Table.mem_of_mem_put hg with rfl | hg
    · exact ServiceGroup.not_isBlank_of_check hc
    · exact h g hg
  | _ => exact h

theorem perform_blank (hc : mutation.check = .error field) (t : Store) :
    (mutation.perform t).2 = t := by
  cases mutation with
  | createGroup group register =>
    refine (Call.bind_pure_snd _ _ t).trans ?_
    change (Store.createGroup group t).2 = t
    rw [createGroup_blank hc]
    split
    · rfl
    · split <;> rfl
  | upsertBusinessCard card =>
    refine (Call.bind_pure_snd _ _ t).trans ?_
    change (Store.upsertBusinessCard card t).2 = t
    rw [upsertBusinessCard_blank hc]
    split
    · rfl
    · split <;> rfl
  | _ => cases hc

theorem Named.perform (h : t.Named) (mutation : Mutation) : (mutation.perform t).2.Named := by
  cases hc : mutation.check with
  | ok _ =>
    rw [perform_eq mutation t hc]
    dsimp only
    split
    · exact h.carryOut hc
    · exact h
  | error field =>
    rw [perform_blank hc]
    exact h

end Store

def Invocation.Storable (users : List User) : Invocation → Prop
  | .lookupUser id => id.isUnicode = true
  | .groupExists participantId => participantId.isUnicode = true
  | .businessCard participantId => participantId.isUnicode = true
  | .endpoints participantId => participantId.isUnicode = true
  | .redirects participantId => participantId.isUnicode = true
  | .mutate mutation => mutation.Storable users
  | _ => True

namespace Session

variable {users : List User} {s : Session} {t : Store} {mutation : Mutation} {field : BlankField}

/-- The session mirrors the store, and no participant of a group is blank. -/
structure MirrorsNamed (users : List User) (s : Session) (t : Store) : Prop extends
    Mirrors users s t where
  named : t.Named

/-- A group without a required text is refused if its participant has one, and faulty otherwise. -/
theorem Mirrors.matches_createGroup_blank (h : s.Mirrors users t) {group : ServiceGroup}
    (hc : group.check = .error field) {register : Bool}
    (hm : (Mutation.createGroup group register).Storable users) :
    Matches (Mirrors users) Eq (createGroup group register s) (Store.createGroup group t) := by
  have hstore := Store.createGroup_blank hc t
  rw [h.hindrance_eq, Store.hasGroup, Table.hasKey_eq_isSome] at hstore
  cases hg : Table.find? group.participantId t.groups with
  | some stored =>
    rw [hg] at hstore
    rw [h.createGroup_present hm hg, hstore]
    exact .refused h.rolledBack
  | none =>
    obtain ⟨⟨owner, howner⟩, hfind⟩ := h.lookups_createGroup hm
    rw [hg] at hstore hfind
    have hs : createGroup group register s = (.error (.fault (.blank field)), s.begun) := by
      refine atomic_of_error (e := .fault (.blank field)) _
        ((Call.bind_of_ok howner).trans ((Call.bind_of_ok hfind).trans ?_))
      simp only [hc]
      rfl
    rw [hs, hstore]
    exact .faulted h.begun

theorem MirrorsNamed.matches_upsertBusinessCard_blank (h : s.MirrorsNamed users t)
    {card : BusinessCard} (hc : card.check = .error field)
    (hid : card.participantId.isUnicode = true) :
    Matches (Mirrors users) Eq (upsertBusinessCard card s) (Store.upsertBusinessCard card t) := by
  have hgroup := h.named.hasGroup (BusinessCard.isBlank_of_error hc)
  have hstore := Store.upsertBusinessCard_blank hc t
  rw [hgroup, Bool.and_false, h.hindrance_eq] at hstore
  have hfind := h.findGroup hid
  rw [Store.hasGroup, Table.hasKey_eq_isSome, Option.isSome_eq_false_iff, Option.isNone_iff_eq_none]
    at hgroup
  rw [hgroup] at hfind
  have hidle : ∃ s', upsertBusinessCard card s = (.ok none, s') ∧ s'.Mirrors users t :=
    h.toAnswers.begun.atomic _ (Call.bind_of_ok hfind)
  obtain ⟨s', hs, h'⟩ := hidle
  rw [hs, hstore]
  exact .answered rfl h'

/-- A session and a store that it mirrors come to the same on all that can be stored, be it lacking a
required text or not. -/
theorem MirrorsNamed.matches_perform (h : s.MirrorsNamed users t) (hm : mutation.Storable users) :
    Matches (Mirrors users) Eq (mutation.perform s) (mutation.perform t) := by
  cases hc : mutation.check with
  | ok _ => exact shared_of_storable hc hm s t h.toMirrors
  | error field =>
    cases mutation with
    | createGroup group register =>
      exact (h.toMirrors.matches_createGroup_blank hc hm).bind
        fun _ _ _ _ _ _ hr => .answered rfl hr
    | upsertBusinessCard card =>
      refine (h.matches_upsertBusinessCard_blank hc (hm.1 _ List.mem_cons_self)).bind
        fun a b _ _ _ hab hr => ?_
      rw [hab]
      exact .answered rfl hr
    | _ => cases hc

theorem MirrorsNamed.matches_reading (h : s.MirrorsNamed users t) {α : Type} {V W : α → α → Prop}
    {x : Except CallError α × Session} {y : Except CallError α × Store}
    (hm : Matches (Mirrors users) V x y) (hy : y.2 = t) (hv : ∀ a b, V a b → W a b) :
    Matches (MirrorsNamed users) W x y :=
  hm.imp (fun hr => ⟨hr, hy ▸ h.named⟩) hv

/-- A session answers every call like the store that it mirrors, and mirrors it afterwards. -/
theorem MirrorsNamed.matches_ask (h : s.MirrorsNamed users t) {i : Invocation}
    (hi : i.Storable users) : Matches (MirrorsNamed users) i.Alike (i.ask s) (i.ask t) := by
  have hsame {α : Type} : ∀ a b : List α, a = b → List.Perm a b := fun a b hab => hab ▸ .refl a
  cases i with
  | lookupUser userId =>
    exact h.matches_reading ((consistent users).lookup userId hi s t h.toMirrors) rfl fun _ _ => id
  | groupExists participantId =>
    have hs : (Invocation.groupExists participantId).ask s = _ := Call.bind_of_ok (h.findGroup hi)
    have hgroup : (Table.find? participantId t.groups).isSome = t.hasGroup participantId :=
      (Table.hasKey_eq_isSome _ _).symm
    rw [hs]
    exact h.matches_reading (.answered hgroup h.begun) rfl fun _ _ => id
  | businessCard participantId =>
    have hstore := congrArg Prod.snd (Store.businessCard?_eq h.failing participantId)
    exact h.matches_reading ((listed hi).businessCard s t h.toMirrors) hstore fun _ _ => id
  | directoryIntegration => exact .answered h.directoryIntegration h
  | serviceGroups =>
    have hs : (Invocation.serviceGroups).ask s = _ := h.listGroups
    rw [hs]
    exact h.matches_reading (.answered (List.mergeSort_perm _ _) h.begun) rfl fun _ _ => id
  | endpoints participantId =>
    have hstore := congrArg Prod.snd (Store.endpoints_eq h.failing participantId)
    exact h.matches_reading ((listed hi).endpoints s t h.toMirrors) hstore hsame
  | redirects participantId =>
    have hstore := congrArg Prod.snd (Store.redirects_eq h.failing participantId)
    exact h.matches_reading ((listed hi).redirects s t h.toMirrors) hstore hsame
  | serviceGroupKeys =>
    have hs : (Invocation.serviceGroupKeys).ask s = _ := h.toAnswers.serviceGroupKeys
    rw [hs]
    exact h.matches_reading (.answered rfl h.begun) rfl hsame
  | businessCardKeys =>
    have hs : (Invocation.businessCardKeys).ask s = _ := h.toAnswers.businessCardKeys
    rw [hs]
    exact h.matches_reading (.answered rfl h.begun) rfl hsame
  | mutate mutation =>
    have hnamed : ((Invocation.mutate mutation).ask t).2.Named := by
      rw [← Invocation.snd_answer, Invocation.answer_mutate]
      exact h.named.perform mutation
    exact (Mutation.matches_ask (Session.echoes h.pending) t.echoes (h.matches_perform hi)).imp
      (fun hr => ⟨hr, hnamed⟩) fun _ _ => id

end Session

end ParticipantRegistry
