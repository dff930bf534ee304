import ParticipantRegistry.Proofs.Document.NormalForm
import ParticipantRegistry.Proofs.Exchange.CanonicalExport
import ParticipantRegistry.Proofs.Exchange.EndState

/-!
# Exports of a store

The document that a store is exported as depends on its records alone, not on the order in which the
tables hold them: everything in it is sorted by its key. If the records are in the form of the format
and belong together, the document is in normal form.
-/

namespace ParticipantRegistry

open Document (Trimmed)

namespace Store

/-- Two stores hold the same users, and the same records of participants in whatever order. -/
structure SameRecords (s t : Store) : Prop where
  users : s.users = t.users
  groups : s.groups.Perm t.groups
  endpoints : s.endpoints.Perm t.endpoints
  redirects : s.redirects.Perm t.redirects
  businessCards : s.businessCards.Perm t.businessCards

structure Distinct (t : Store) : Prop where
  groups : (Table.keys t.groups).Nodup
  endpoints : (Table.keys t.endpoints).Nodup
  redirects : (Table.keys t.redirects).Nodup
  businessCards : (Table.keys t.businessCards).Nodup

variable {s t : Store}

theorem SameRecords.distinct (h : s.SameRecords t) (hd : t.Distinct) : s.Distinct :=
  ⟨(h.groups.map key).nodup_iff.mpr hd.groups, (h.endpoints.map key).nodup_iff.mpr hd.endpoints,
    (h.redirects.map key).nodup_iff.mpr hd.redirects,
    (h.businessCards.map key).nodup_iff.mpr hd.businessCards⟩

def exported (t : Store) (group : ServiceGroup) : ExportedGroup where
  group
  endpoints := (t.endpoints.filter (·.participantId = group.participantId)).mergeSort Endpoint.le
  redirects := (t.redirects.filter (·.participantId = group.participantId)).mergeSort Redirect.le

def document (t : Store) : ExportDocument where
  serviceGroups := (t.groups.mergeSort ServiceGroup.le).map t.exported
  businessCards := (t.groups.mergeSort ServiceGroup.le).filterMap fun group =>
    Table.find? group.participantId t.businessCards

theorem SameRecords.sortedGroups_eq (h : s.SameRecords t) (hd : t.Distinct) :
    s.groups.mergeSort ServiceGroup.le = t.groups.mergeSort ServiceGroup.le :=
  mergeSort_eq_of_perm Text.le_trans Text.le_total Text.le_antisymm ServiceGroup.participantId
    h.groups fun _ ha _ hb => Table.eq_of_key (h.distinct hd).groups ha hb

theorem SameRecords.exported_eq (h : s.SameRecords t) (hd : t.Distinct) (group : ServiceGroup) :
    s.exported group = t.exported group := by
  have hs := h.distinct hd
  have hendpoints : ∀ e ∈ s.endpoints.filter (·.participantId = group.participantId),
      e.participantId = group.participantId := fun e he => of_decide_eq_true (List.mem_filter.mp he).2
  have hredirects : ∀ r ∈ s.redirects.filter (·.participantId = group.participantId),
      r.participantId = group.participantId := fun r hr => of_decide_eq_true (List.mem_filter.mp hr).2
  exact congrArg₂ (ExportedGroup.mk group)
    ((sameItems_endpoints hendpoints (Table.nodup_keys_filter _ _ hs.endpoints)
      (h.endpoints.filter _)).mergeSort_eq Text.leAll_trans Text.leAll_total Text.leAll_antisymm)
    ((sameItems_redirects hredirects (Table.nodup_keys_filter _ _ hs.redirects)
      (h.redirects.filter _)).mergeSort_eq Text.le_trans Text.le_total Text.le_antisymm)

theorem SameRecords.document_eq (h : s.SameRecords t) (hd : t.Distinct) : s.document = t.document := by
  have hcards : (fun group : ServiceGroup => Table.find? group.participantId s.businessCards) =
      fun group => Table.find? group.participantId t.businessCards :=
    funext fun group => Table.find?_of_perm (h.distinct hd).businessCards h.businessCards _
  rw [document, document, h.sortedGroups_eq hd, hcards, funext (h.exported_eq hd)]

end Store

/-- A group whose texts the format reads as they are, none of them blank. -/
structure ServiceGroup.Normal (g : ServiceGroup) : Prop where
  participantId : Trimmed g.participantId
  ownerId : Trimmed g.ownerId
  extension : ∀ x ∈ g.extension, x.isUnicode = true
  checked : g.check = .ok ()

structure Endpoint.Normal (e : Endpoint) : Prop where
  element : e.element.Normal
  checked : e.check = .ok ()

structure Redirect.Normal (r : Redirect) : Prop where
  element : r.element.Normal
  checked : r.check = .ok ()

/-- Records with distinct keys that belong together: children and cards to stored groups, groups to known
users. All their texts are in the form that the format reads them in. -/
structure Store.Normal (t : Store) : Prop where
  distinct : t.Distinct
  owned : t.Owned
  owners : ∀ g ∈ t.groups, Table.hasKey g.ownerId t.users = true
  groups : ∀ g ∈ t.groups, g.Normal
  endpoints : ∀ e ∈ t.endpoints, e.Normal
  redirects : ∀ r ∈ t.redirects, r.Normal
  businessCards : ∀ card ∈ t.businessCards, card.Normal

namespace Store

variable {t : Store}

theorem mem_exported_endpoints {group : ServiceGroup} {e : Endpoint} :
    e ∈ (t.exported group).endpoints ↔ e ∈ t.endpoints ∧ e.participantId = group.participantId := by
  rw [exported, (List.mergeSort_perm _ _).mem_iff, List.mem_filter, decide_eq_true_iff]

theorem mem_exported_redirects {group : ServiceGroup} {r : Redirect} :
    r ∈ (t.exported group).redirects ↔ r ∈ t.redirects ∧ r.participantId = group.participantId := by
  rw [exported, (List.mergeSort_perm _ _).mem_iff, List.mem_filter, decide_eq_true_iff]

theorem Normal.exported (h : t.Normal) {group : ServiceGroup} (hg : group ∈ t.groups) :
    (t.exported group).Normal where
  element :=
    { participantId := (h.groups group hg).participantId
      ownerId := (h.groups group hg).ownerId
      extension := (h.groups group hg).extension
      endpoints := List.forall_mem_map.mpr fun e he =>
        (h.endpoints e (mem_exported_endpoints.mp he).1).element
      redirects := List.forall_mem_map.mpr fun r hr =>
        (h.redirects r (mem_exported_redirects.mp hr).1).element }
  checked := (Document.GroupRecord.check_eq_ok_iff _).mpr ⟨(h.groups group hg).checked,
    fun e he => (h.endpoints e (mem_exported_endpoints.mp he).1).checked,
    fun r hr => (h.redirects r (mem_exported_redirects.mp hr).1).checked⟩
  endpoints _ he := (mem_exported_endpoints.mp he).2
  redirects _ hr := (mem_exported_redirects.mp hr).2

theorem mem_sortedGroups {group : ServiceGroup} :
    group ∈ t.groups.mergeSort ServiceGroup.le ↔ group ∈ t.groups :=
  (List.mergeSort_perm _ _).mem_iff

theorem Normal.document (h : t.Normal) : t.document.Normal where
  serviceGroups := List.forall_mem_map.mpr fun _ hg => h.exported (mem_sortedGroups.mp hg)
  businessCards card hcard := by
    obtain ⟨group, -, hfind⟩ := List.mem_filterMap.mp hcard
    exact h.businessCards card (List.mem_of_find?_eq_some hfind)

end Store

namespace Store

variable {t : Store}

theorem endpoints_eq (h : t.failing = []) (participantId : Text) :
    (Registry.endpoints participantId : Call Store (List Endpoint)) t =
      (.ok (t.endpoints.filter (·.participantId = participantId)), t) := by
  cases t
  cases h
  rfl

theorem redirects_eq (h : t.failing = []) (participantId : Text) :
    (Registry.redirects participantId : Call Store (List Redirect)) t =
      (.ok (t.redirects.filter (·.participantId = participantId)), t) := by
  cases t
  cases h
  rfl

theorem businessCard?_eq (h : t.failing = []) (participantId : Text) :
    (Registry.businessCard? participantId : Call Store (Option BusinessCard)) t =
      (.ok (Table.find? participantId t.businessCards), t) := by
  cases t
  cases h
  rfl

theorem tried_of_failing {α : Type} (h : t.failing = []) (operation : Operation) (participantId : Text) (a : α) :
    t.tried operation participantId a = .ok a := by
  rw [tried, hindrance, h]
  rfl

theorem listing_exported (h : t.failing = []) : t.listing.exported = t.exported := by
  funext group
  simp only [Listing.exported, Listing.foundEndpoints, Listing.foundRedirects, listing, tried_of_failing h]
  rfl

end Store

namespace Run

variable {t : Store}

theorem yields_exportGroups (h : t.failing = []) :
    Yields (exportGroups t.groups true) t t.document [] t := by
  have hdocument : t.listing.document t.groups true = t.document := by
    rw [Listing.document, Store.listing_exported h]
    simp only [Listing.foundCard, Store.listing, Store.tried_of_failing h]
    rfl
  obtain ⟨s, rfl, hexport⟩ := returns_exportGroups t.lists t.groups true t rfl
  rwa [hdocument] at hexport

end Run

end ParticipantRegistry
