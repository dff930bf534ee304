import Mathlib.Data.List.Dedup
import Mathlib.Data.List.Induction
import ParticipantRegistry.Registry.Basic

/-!
# Lookups in tables

Storing, appending and erasing rows are told by what is found under a key afterwards, so that a
table is known as a map. Of the rows stored one after another under one key the last one stays. Keys
stay distinct. With distinct keys, tables in which the same is found differ in their order only.
-/

namespace ParticipantRegistry.Table

variable {α κ : Type} [Keyed α κ] [DecidableEq κ]

def last? (k : κ) (records : List α) : Option α := find? k records.reverse

def putAllLast (records rows : List α) : List α := records.foldl (fun rows r => putLast r rows) rows

@[simp] theorem find?_nil (k : κ) : find? k ([] : List α) = none := rfl

theorem find?_cons (k : κ) (row : α) (rows : List α) :
    find? k (row :: rows) = if key row = k then some row else find? k rows := by
  by_cases h : key row = k <;> simp [find?, h]

theorem find?_append (k : κ) (rows rest : List α) :
    find? k (rows ++ rest) = (find? k rows).or (find? k rest) := by
  simp [find?, List.find?_append]

theorem last?_cons (k : κ) (record : α) (records : List α) :
    last? k (record :: records) = (last? k records).or (if key record = k then some record else none) := by
  simp [last?, find?_append, find?_cons]

theorem key_of_find? {k : κ} {rows : List α} {row : α} (h : find? k rows = some row) :
    key row = k := by
  simpa using List.find?_some h

theorem find?_isSome_iff (k : κ) (rows : List α) : (find? k rows).isSome ↔ k ∈ keys rows := by
  simp [find?, keys]

theorem mem_of_last? {k : κ} {records : List α} {record : α} (h : last? k records = some record) :
    record ∈ records ∧ key record = k :=
  ⟨List.mem_reverse.mp (List.mem_of_find?_eq_some h), key_of_find? h⟩

theorem last?_isSome_iff (k : κ) (records : List α) :
    (last? k records).isSome ↔ k ∈ keys records := by
  rw [last?, find?_isSome_iff, keys, List.map_reverse, List.mem_reverse, keys]

theorem find?_eq_none_iff (k : κ) (rows : List α) : find? k rows = none ↔ k ∉ keys rows := by
  rw [← find?_isSome_iff, Bool.not_eq_true, Option.isSome_eq_false_iff, Option.isNone_iff_eq_none]

theorem eq_nil_iff (rows : List α) : rows = [] ↔ ∀ k : κ, find? k rows = none := by
  simp only [find?_eq_none_iff]
  rw [← List.eq_nil_iff_forall_not_mem, keys, List.map_eq_nil_iff]

theorem last?_eq_none_iff (k : κ) (records : List α) :
    last? k records = none ↔ k ∉ keys records := by
  rw [← last?_isSome_iff, Bool.not_eq_true, Option.isSome_eq_false_iff, Option.isNone_iff_eq_none]

theorem hasKey_eq_isSome (k : κ) (rows : List α) : hasKey k rows = (find? k rows).isSome := by
  rw [Bool.eq_iff_iff]
  simp [hasKey, find?]

theorem hasKey_iff (k : κ) (rows : List α) : hasKey k rows = true ↔ k ∈ keys rows := by
  rw [hasKey_eq_isSome, find?_isSome_iff]

theorem last?_map {β : Type} [Keyed β κ] (f : α → β) (hf : ∀ row, key (f row) = key row) (k : κ)
    (records : List α) : last? k (records.map f) = (last? k records).map f := by
  have hkey : (fun row : β => decide (key row = k)) ∘ f = fun row : α => decide (key row = k) := by
    funext row
    rw [Function.comp_apply, hf]
  rw [last?, last?, find?, find?, ← List.map_reverse, List.find?_map, hkey]

theorem find?_put (k : κ) (record : α) (rows : List α) :
    find? k (put record rows) = if key record = k then some record else find? k rows := by
  induction rows with
  | nil => rw [put, find?_cons]
  | cons row rows ih =>
    by_cases hrow : key row = key record
    · rw [put, if_pos hrow, find?_cons, find?_cons, hrow]
      split <;> rfl
    · rw [put, if_neg hrow, find?_cons, find?_cons, ih]
      by_cases hk : key record = k
      · subst hk
        simp [hrow]
      · simp [hk]

theorem find?_erase (k j : κ) (rows : List α) :
    find? k (erase j rows) = if j = k then none else find? k rows := by
  induction rows with
  | nil => simp [erase]
  | cons row rows ih =>
    rw [erase] at ih ⊢
    by_cases hrow : key row = j
    · simp only [List.filter_cons, hrow, ne_eq, not_true_eq_false, decide_false, Bool.false_eq_true,
        if_false, ih, find?_cons]
      split <;> rfl
    · simp only [List.filter_cons, hrow, ne_eq, not_false_eq_true, decide_true, if_true, find?_cons,
        ih]
      by_cases hk : j = k
      · subst hk
        simp [hrow]
      · simp [hk]

theorem erase_of_not_mem {k : κ} {rows : List α} (h : k ∉ keys rows) : erase k rows = rows := by
  apply List.filter_eq_self.mpr
  intro row hrow
  have hne : key row ≠ k := fun hk => h (hk ▸ List.mem_map_of_mem hrow)
  simp [hne]

theorem find?_putLast (k : κ) (record : α) (rows : List α) :
    find? k (putLast record rows) = if key record = k then some record else find? k rows := by
  rw [putLast, find?_append, find?_erase, find?_cons, find?_nil]
  by_cases hk : key record = k <;> simp [hk]

theorem find?_putAll (k : κ) (records rows : List α) :
    find? k (putAll records rows) = (last? k records).or (find? k rows) := by
  induction records generalizing rows with
  | nil => rfl
  | cons r records ih =>
    rw [putAll, List.foldl_cons, ← putAll, ih, find?_put, last?_cons, Option.or_assoc]
    by_cases hk : key r = k <;> simp [hk]

theorem find?_putAllLast (k : κ) (records rows : List α) :
    find? k (putAllLast records rows) = (last? k records).or (find? k rows) := by
  induction records generalizing rows with
  | nil => rfl
  | cons r records ih =>
    rw [putAllLast, List.foldl_cons, ← putAllLast, ih, find?_putLast, last?_cons, Option.or_assoc]
    by_cases hk : key r = k <;> simp [hk]

theorem mem_keys_put (k : κ) (record : α) (rows : List α) :
    k ∈ keys (put record rows) ↔ k = key record ∨ k ∈ keys rows := by
  rw [← find?_isSome_iff, ← find?_isSome_iff, find?_put]
  by_cases hk : key record = k
  · simp [hk]
  · simp [hk, Ne.symm hk]

theorem mem_keys_putAll (k : κ) (records rows : List α) :
    k ∈ keys (putAll records rows) ↔ k ∈ keys records ∨ k ∈ keys rows := by
  rw [← find?_isSome_iff, ← find?_isSome_iff k rows, ← last?_isSome_iff, find?_putAll]
  simp

theorem mem_keys_putAllLast (k : κ) (records rows : List α) :
    k ∈ keys (putAllLast records rows) ↔ k ∈ keys records ∨ k ∈ keys rows := by
  rw [← find?_isSome_iff, ← find?_isSome_iff k rows, ← last?_isSome_iff, find?_putAllLast]
  simp

theorem nodup_keys_put (record : α) (rows : List α) (hn : (keys rows).Nodup) :
    (keys (put record rows)).Nodup := by
  induction rows with
  | nil => simp [put, keys]
  | cons row rows ih =>
    obtain ⟨hrow, hrows⟩ := List.nodup_cons.mp hn
    by_cases hk : key row = key record
    · rw [put, if_pos hk]
      exact List.nodup_cons.mpr ⟨hk ▸ hrow, hrows⟩
    · rw [put, if_neg hk]
      refine List.nodup_cons.mpr ⟨?_, ih hrows⟩
      intro hm
      rcases (mem_keys_put _ _ _).mp hm with h | h
      · exact hk h
      · exact hrow h

omit [DecidableEq κ] in
theorem nodup_keys_filter (p : α → Bool) (rows : List α) (hn : (keys rows).Nodup) :
    (keys (rows.filter p)).Nodup :=
  (List.filter_sublist.map key).nodup hn

theorem nodup_keys_putLast (record : α) (rows : List α) (hn : (keys rows).Nodup) :
    (keys (putLast record rows)).Nodup := by
  rw [putLast, keys, List.map_append, List.map_singleton, ← keys]
  apply List.Nodup.append (nodup_keys_filter _ rows hn) (List.nodup_singleton _)
  intro k hk hr
  rw [List.mem_singleton.mp hr, ← find?_isSome_iff, ← erase, find?_erase] at hk
  simp at hk

theorem nodup_keys_putAll (records rows : List α) (hn : (keys rows).Nodup) :
    (keys (putAll records rows)).Nodup := by
  induction records generalizing rows with
  | nil => exact hn
  | cons r records ih => exact ih (put r rows) (nodup_keys_put r rows hn)

theorem nodup_keys_putAllLast (records rows : List α) (hn : (keys rows).Nodup) :
    (keys (putAllLast records rows)).Nodup := by
  induction records generalizing rows with
  | nil => exact hn
  | cons r records ih => exact ih (putLast r rows) (nodup_keys_putLast r rows hn)

theorem mem_of_mem_put {row record : α} {rows : List α} (h : row ∈ put record rows) :
    row = record ∨ row ∈ rows := by
  induction rows with
  | nil => exact .inl (List.mem_singleton.mp h)
  | cons first rows ih =>
    rw [put] at h
    split at h
    · exact (List.mem_cons.mp h).imp id (List.mem_cons_of_mem first)
    · rcases List.mem_cons.mp h with rfl | h
      · exact .inr List.mem_cons_self
      · exact (ih h).imp id (List.mem_cons_of_mem first)

theorem put_of_find? {record : α} {rows : List α} (h : find? (key record) rows = some record) :
    put record rows = rows := by
  induction rows with
  | nil => cases h
  | cons row rows ih =>
    rw [find?_cons] at h
    rw [put]
    split at h
    · next hkey =>
      cases h
      rw [if_pos rfl]
    · next hkey => rw [if_neg hkey, ih h]

theorem mem_of_mem_putAll {row : α} {records rows : List α} (h : row ∈ putAll records rows) :
    row ∈ records ∨ row ∈ rows := by
  induction records generalizing rows with
  | nil => exact .inr h
  | cons r records ih =>
    rcases ih h with h | h
    · exact .inl (List.mem_cons_of_mem r h)
    · rcases mem_of_mem_put h with rfl | h
      · exact .inl List.mem_cons_self
      · exact .inr h

theorem mem_of_mem_putAllLast {row : α} {records rows : List α}
    (h : row ∈ putAllLast records rows) : row ∈ records ∨ row ∈ rows := by
  induction records generalizing rows with
  | nil => exact .inr h
  | cons r records ih =>
    rcases ih h with h | h
    · exact .inl (List.mem_cons_of_mem r h)
    · rcases List.mem_append.mp h with h | h
      · exact .inr (List.mem_of_mem_filter h)
      · exact .inl (List.mem_singleton.mp h ▸ List.mem_cons_self)

theorem filter_key_eq (k : κ) (rows : List α) (hn : (keys rows).Nodup) :
    rows.filter (fun row => key row = k) = (find? k rows).toList := by
  induction rows with
  | nil => rfl
  | cons row rows ih =>
    obtain ⟨hrow, hrows⟩ := List.nodup_cons.mp hn
    rw [find?_cons, List.filter_cons, ih hrows]
    by_cases hk : key row = k
    · subst hk
      simp [(find?_eq_none_iff _ _).mpr hrow]
    · simp [hk]

/-- In a part of a table that is told by keys, the same is found under its keys. -/
theorem find?_filter (p : κ → Bool) {k : κ} (hk : p k = true) (rows : List α) :
    find? k (rows.filter fun row => p (key row)) = find? k rows := by
  induction rows with
  | nil => rfl
  | cons row rows ih =>
    rw [List.filter_cons]
    split
    · rw [find?_cons, find?_cons, ih]
    · next hrow =>
      have hne : key row ≠ k := fun h => hrow (h ▸ hk)
      rw [ih, find?_cons, if_neg hne]

theorem filter_put (p : κ → Bool) (record : α) (rows : List α) :
    (put record rows).filter (fun row => p (key row)) =
      if p (key record) then put record (rows.filter fun row => p (key row))
      else rows.filter fun row => p (key row) := by
  induction rows with
  | nil => cases hp : p (key record) <;> simp [put, hp]
  | cons row rows ih =>
    by_cases hk : key row = key record
    · cases hp : p (key record) <;> simp [put, hk, hp]
    · rw [put, if_neg hk, List.filter_cons, ih, List.filter_cons]
      cases hp : p (key record) <;> cases hq : p (key row) <;> simp [put, hk]

section Order

variable {rows rows' : List α}

omit [DecidableEq κ] in
theorem eq_of_key (hn : (keys rows).Nodup) {a b : α} (ha : a ∈ rows) (hb : b ∈ rows)
    (h : key a = key b) : a = b := List.inj_on_of_nodup_map hn ha hb h

theorem find?_eq_some_iff (hn : (keys rows).Nodup) {k : κ} {row : α} :
    find? k rows = some row ↔ row ∈ rows ∧ key row = k := by
  refine ⟨fun h => ⟨List.mem_of_find?_eq_some h, key_of_find? h⟩, ?_⟩
  rintro ⟨hrow, rfl⟩
  have hkey : key row ∈ keys rows := List.mem_map_of_mem hrow
  obtain ⟨found, hfound⟩ := Option.isSome_iff_exists.mp ((find?_isSome_iff _ _).mpr hkey)
  rw [hfound, eq_of_key hn (List.mem_of_find?_eq_some hfound) hrow (key_of_find? hfound)]

theorem find?_of_perm (hn : (keys rows).Nodup) (h : rows.Perm rows') (k : κ) :
    find? k rows = find? k rows' := by
  have hn' : (keys rows').Nodup := (h.map key).nodup_iff.mp hn
  ext row
  rw [find?_eq_some_iff hn, find?_eq_some_iff hn', h.mem_iff]

theorem perm_of_find? [DecidableEq α] (hn : (keys rows).Nodup) (hn' : (keys rows').Nodup)
    (h : ∀ k : κ, find? k rows = find? k rows') : rows.Perm rows' := by
  rw [List.perm_iff_count]
  intro row
  have hcount {rows : List α} (hn : (keys rows).Nodup) :
      rows.count row = (find? (key row) rows).toList.count row := by
    rw [← filter_key_eq _ _ hn, List.count_filter (by simp)]
  rw [hcount hn, hcount hn', h]

theorem last?_eq_find? (hn : (keys rows).Nodup) (k : κ) : last? k rows = find? k rows :=
  (find?_of_perm hn rows.reverse_perm.symm k).symm

theorem last?_of_perm (hn : (keys rows).Nodup) (h : rows.Perm rows') (k : κ) :
    last? k rows = last? k rows' := by
  rw [last?_eq_find? hn, last?_eq_find? ((h.map key).nodup_iff.mp hn), find?_of_perm hn h]

theorem putAll_nil_perm [DecidableEq α] (hn : (keys rows').Nodup) (h : rows.Perm rows') :
    (putAll rows []).Perm rows' := by
  have hrows : (keys rows).Nodup := (h.map key).nodup_iff.mpr hn
  refine perm_of_find? (nodup_keys_putAll _ _ List.nodup_nil) hn fun k => ?_
  rw [find?_putAll, find?_nil, Option.or_none, last?_eq_find? hrows, find?_of_perm hrows h]

omit [Keyed α κ] in
/-- Tables are the same but for the order if their parts for every participant are. -/
theorem perm_of_parts [DecidableEq α] (f : α → κ)
    (h : ∀ k, (rows.filter fun row => f row = k).Perm (rows'.filter fun row => f row = k)) :
    rows.Perm rows' := by
  rw [List.perm_iff_count]
  intro row
  have hcount := (h (f row)).count_eq row
  rwa [List.count_filter (by simp), List.count_filter (by simp)] at hcount

end Order

section Closed

/-- The last records with the given keys, in the order in which the keys first come. -/
def inPlace (ks : List κ) (records : List α) : List α := ks.eraseDups.filterMap fun k => last? k records

/-- The last records with the given keys, in the order in which the keys last come. -/
def atEnd (ks : List κ) (records : List α) : List α := ks.dedup.filterMap fun k => last? k records

theorem filterMap_find?_keys {rows : List α} (hn : (keys rows).Nodup) :
    ((keys rows).filterMap fun k => find? k rows) = rows := by
  induction rows with
  | nil => rfl
  | cons row rows ih =>
    obtain ⟨hrow, hrows⟩ := List.nodup_cons.mp hn
    have hrest : (keys rows).filterMap (fun k => find? k (row :: rows)) =
        (keys rows).filterMap fun k => find? k rows := by
      apply List.filterMap_congr
      intro k hk
      have hne : key row ≠ k := fun h => hrow (h ▸ hk)
      rw [find?_cons, if_neg hne]
    have hkeys : keys (row :: rows) = key row :: keys rows := rfl
    rw [hkeys, List.filterMap_cons, find?_cons, if_pos rfl, hrest, ih hrows]

theorem keys_put (record : α) (rows : List α) : keys (put record rows) =
    if key record ∈ keys rows then keys rows else keys rows ++ [key record] := by
  induction rows with
  | nil => rfl
  | cons row rows ih =>
    have hkeys (first : α) (rest : List α) : keys (first :: rest) = key first :: keys rest := rfl
    by_cases hrow : key row = key record
    · rw [put, if_pos hrow, hkeys, hkeys, hrow, if_pos List.mem_cons_self]
    · have hmem : key record ∈ key row :: keys rows ↔ key record ∈ keys rows := by
        rw [List.mem_cons, or_iff_right (Ne.symm hrow)]
      rw [put, if_neg hrow, hkeys, hkeys, ih]
      simp only [hmem]
      split <;> rfl

theorem keys_putAll_nil (records : List α) : keys (putAll records []) = (keys records).eraseDups := by
  induction records using List.reverseRecOn with
  | nil => rfl
  | append_singleton records record ih =>
    have hput : putAll (records ++ [record]) [] = put record (putAll records []) := by
      rw [putAll, List.foldl_append]
      rfl
    have hkeys : keys (records ++ [record]) = keys records ++ [key record] := List.map_append
    rw [hput, keys_put, ih, hkeys, List.eraseDups_append]
    by_cases hk : key record ∈ keys records <;> simp [List.removeAll, List.eraseDups_cons, hk]

theorem keys_putAllLast (records rows : List α) : keys (putAllLast records rows) =
    (keys rows).filter (fun k => k ∉ keys records) ++ (keys records).dedup := by
  induction records generalizing rows with
  | nil => simp [putAllLast, keys]
  | cons record records ih =>
    have hkeys : keys (record :: records) = key record :: keys records := rfl
    have hlast : keys (putLast record rows) =
        (keys rows).filter (fun k => k ≠ key record) ++ [key record] := by
      rw [putLast, erase, keys, List.map_append, keys, List.filter_map]
      rfl
    rw [putAllLast, List.foldl_cons, ← putAllLast, ih, hlast, hkeys, List.dedup_cons,
      List.filter_append, List.filter_filter]
    by_cases hk : key record ∈ keys records
    · simp [hk, Bool.and_comm]
    · simp [hk, Bool.and_comm]

theorem putAll_nil (records : List α) : putAll records [] = inPlace (keys records) records := by
  have hn := nodup_keys_putAll records ([] : List α) List.nodup_nil
  have hrows := filterMap_find?_keys hn
  simp only [keys_putAll_nil, find?_putAll, find?_nil, Option.or_none] at hrows
  exact hrows.symm

theorem putAllLast_nil (records : List α) : putAllLast records [] = atEnd (keys records) records := by
  have hn := nodup_keys_putAllLast records ([] : List α) List.nodup_nil
  have hrows := filterMap_find?_keys hn
  rw [keys_putAllLast] at hrows
  simp only [find?_putAllLast, find?_nil, Option.or_none] at hrows
  exact hrows.symm

theorem putAll_filter_nil (p : κ → Bool) (records : List α) :
    putAll (records.filter fun record => p (key record)) [] =
      inPlace ((keys records).filter p) records := by
  have hkeys : keys (records.filter fun record => p (key record)) = (keys records).filter p := by
    rw [keys, keys, List.filter_map]
    rfl
  rw [putAll_nil, hkeys]
  apply List.filterMap_congr
  intro k hk
  have hp := (List.mem_filter.mp (List.mem_eraseDups.mp hk)).2
  rw [last?, last?, ← List.filter_reverse, find?_filter p hp]

variable {β : Type} [Keyed β κ] {f : α → β}

theorem map_put (hf : ∀ row, key (f row) = key row) (record : α) (rows : List α) :
    (put record rows).map f = put (f record) (rows.map f) := by
  induction rows with
  | nil => rfl
  | cons row rows ih =>
    rw [put, List.map_cons, put, hf, hf]
    split
    · rfl
    · rw [List.map_cons, ih]

theorem map_putAll (hf : ∀ row, key (f row) = key row) (records rows : List α) :
    (putAll records rows).map f = putAll (records.map f) (rows.map f) := by
  induction records generalizing rows with
  | nil => rfl
  | cons record records ih =>
    rw [putAll, List.foldl_cons, ← putAll, ih, map_put hf]
    rfl

end Closed

section Lookups

variable {β : Type} [Keyed β κ]

/-- What is found in one table for the rows of another, in the order of these. -/
theorem keys_filterMap_sublist (rows : List α) (others : List β) :
    (keys (rows.filterMap fun row => find? (key row) others)).Sublist (keys rows) := by
  induction rows with
  | nil => exact .slnil
  | cons row rows ih =>
    rw [List.filterMap_cons]
    split
    · exact ih.cons _
    · next other hfind =>
      rw [keys, keys, List.map_cons, List.map_cons, key_of_find? hfind]
      exact ih.cons_cons _

theorem find?_filterMap (rows : List α) (others : List β) (k : κ) :
    find? k (rows.filterMap fun row => find? (key row) others) =
      if k ∈ keys rows then find? k others else none := by
  induction rows with
  | nil => rfl
  | cons row rows ih =>
    rw [keys, List.map_cons, ← keys, List.filterMap_cons]
    by_cases hrow : key row = k
    · subst hrow
      rw [if_pos List.mem_cons_self]
      split
      · next hfind => rw [ih, hfind, ite_self]
      · next other hfind => rw [find?_cons, key_of_find? hfind, if_pos rfl, hfind]
    · have hmem : k ∈ key row :: keys rows ↔ k ∈ keys rows := by
        rw [List.mem_cons, or_iff_right (Ne.symm hrow)]
      simp only [hmem]
      split
      · exact ih
      · next other hfind => rw [find?_cons, key_of_find? hfind, if_neg hrow, ih]

theorem find?_filterMap_of_keys {rows : List α} {others : List β} (h : keys others ⊆ keys rows)
    (k : κ) : find? k (rows.filterMap fun row => find? (key row) others) = find? k others := by
  rw [find?_filterMap, ite_eq_left_iff]
  exact fun hk => ((find?_eq_none_iff _ _).mpr fun hmem => hk (h hmem)).symm

end Lookups

end ParticipantRegistry.Table
