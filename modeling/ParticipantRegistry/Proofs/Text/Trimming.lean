import Mathlib.Data.List.DropRight
import ParticipantRegistry.Text.Blank

/-!
# Trimmed texts

A text that was trimmed has nothing of the class at its ends and stays as it is when it is trimmed again.
Nothing is left of a text exactly if it consists of the class alone.
-/

namespace ParticipantRegistry

namespace Text

/-- No code point of a class stands at either end. -/
structure Bare (p : CodePoint → Bool) (t : Text) : Prop where
  first : ∀ c ∈ t.head?, p c = false
  last : ∀ c ∈ t.getLast?, p c = false

variable {p : CodePoint → Bool} {t : Text}

theorem dropWhile_eq_self_iff : t.dropWhile p = t ↔ ∀ c ∈ t.head?, p c = false := by
  rw [List.dropWhile_eq_self_iff]
  cases t <;> simp

theorem Bare.trimBy_eq (h : t.Bare p) : t.trimBy p = t := by
  have hlast : t.reverse.dropWhile p = t.reverse := by
    rw [dropWhile_eq_self_iff, List.head?_reverse]
    exact h.last
  rw [trimBy, dropWhile_eq_self_iff.mpr h.first, hlast, List.reverse_reverse]

theorem bare_trimBy (p : CodePoint → Bool) (t : Text) : (t.trimBy p).Bare p where
  first := by
    intro c hc
    have hfirst := dropWhile_eq_self_iff.mp (List.dropWhile_idempotent p t)
    obtain ⟨rest, hrest⟩ := List.rdropWhile_prefix p (t.dropWhile p)
    have htrim : t.trimBy p ++ rest = t.dropWhile p := hrest
    apply hfirst
    rw [← htrim, List.head?_append, hc]
    rfl
  last := by
    have hlast := List.dropWhile_idempotent p (t.dropWhile p).reverse
    rw [dropWhile_eq_self_iff] at hlast
    rwa [trimBy, List.getLast?_reverse]

theorem trimBy_eq_self_iff : t.trimBy p = t ↔ t.Bare p :=
  ⟨fun h => h ▸ bare_trimBy p t, Bare.trimBy_eq⟩

theorem trim_trim (t : Text) : t.trim.trim = t.trim := (bare_trimBy _ t).trimBy_eq

theorem trimBy_eq_nil_iff : t.trimBy p = [] ↔ ∀ c ∈ t, p c = true := by
  rw [trimBy, List.reverse_eq_nil_iff, List.dropWhile_eq_nil_iff]
  simp only [List.mem_reverse]
  refine ⟨fun h => List.dropWhile_eq_nil_iff.mp ?_, fun h c hc =>
    h c ((List.dropWhile_sublist p).subset hc)⟩
  -- the first code point that is left would be none of the class
  rw [← List.head?_eq_none_iff]
  by_contra hne
  obtain ⟨c, hc⟩ := Option.ne_none_iff_exists'.mp hne
  have hkept := dropWhile_eq_self_iff.mp (List.dropWhile_idempotent p t) c hc
  rw [h c (List.mem_of_mem_head? hc)] at hkept
  cases hkept

theorem isBlank_eq_false_iff : t.isBlank = false ↔ t.strip ≠ [] := by
  rw [strip, Ne, trimBy_eq_nil_iff, ← Bool.not_eq_true, isBlank, List.all_eq_true]

end Text

end ParticipantRegistry
