import Mathlib.Data.List.Forall2
import Mathlib.Tactic.SplitIfs
import ParticipantRegistry.Document.Element

/-!
# What checks accept

`Checked.Accepts c P` says of a check that it accepts what has the property `P`, and nothing else. The
property of a check that is made of others follows from theirs, member by member and item by item, so
that a format is told without the order in which its parts are checked.
-/

namespace ParticipantRegistry.Document.Checked

variable {α β : Type} {P : α → Prop} {Q : β → Prop}

/-- A check gives exactly the values with a property. -/
def Accepts (c : Checked α) (P : α → Prop) : Prop := ∀ a, c.result = .ok a ↔ P a

theorem Accepts.congr {P' : α → Prop} {c : Checked α} (h : c.Accepts P) (hp : ∀ a, P a ↔ P' a) :
    c.Accepts P' := fun a => (h a).trans (hp a)

theorem accepts_valid (a : α) : (valid a).Accepts (a = ·) :=
  fun _ => ⟨Except.ok.inj, congrArg Except.ok⟩

theorem accepts_flawed (flaw : Flaw) : (flawed flaw : Checked α).Accepts fun _ => False :=
  fun _ => ⟨nofun, nofun⟩

theorem Accepts.map {c : Checked α} (h : c.Accepts P) (f : α → β) :
    (f <$> c).Accepts fun b => ∃ a, P a ∧ f a = b := by
  intro b
  change c.result.map f = .ok b ↔ _
  cases hc : c.result with
  | ok a =>
    refine ⟨fun hb => ⟨a, (h a).mp hc, Except.ok.inj hb⟩, ?_⟩
    rintro ⟨a', ha', rfl⟩
    rw [Except.ok.inj (hc.symm.trans ((h a').mpr ha'))]
    rfl
  | error problems =>
    refine ⟨nofun, ?_⟩
    rintro ⟨a, ha, -⟩
    cases hc.symm.trans ((h a).mpr ha)

theorem Accepts.seq {R : (α → β) → Prop} {f : Checked (α → β)} {c : Checked α} (hf : f.Accepts R)
    (hc : c.Accepts P) : (f <*> c).Accepts fun b => ∃ g, R g ∧ ∃ a, P a ∧ g a = b := by
  intro b
  have hresult : (f <*> c).result = .ok b ↔
      ∃ g, f.result = .ok g ∧ ∃ a, c.result = .ok a ∧ g a = b := by
    change (f.seq c).result = .ok b ↔ _
    cases hg : f.result <;> cases ha : c.result <;> simp [Checked.seq, hg, ha]
  rw [hresult]
  simp only [hf _, hc _]

theorem Accepts.under {c : Checked α} (h : c.Accepts P) (step : Step) : (c.under step).Accepts P := by
  intro a
  rw [← h a]
  change c.result.mapError _ = .ok a ↔ _
  cases c.result with
  | ok b => exact Iff.rfl
  | error problems => exact ⟨nofun, nofun⟩

section Values

variable {check : Json → Checked α} {R : Json → α → Prop}

theorem accepts_items {values : List Json} (h : ∀ v ∈ values, (check v).Accepts (R v))
    (index : Nat) : (items check index values).Accepts (List.Forall₂ R values) := by
  induction values generalizing index with
  | nil =>
    refine (accepts_valid []).congr fun as => ?_
    rw [List.forall₂_nil_left_iff]
    exact eq_comm
  | cons v values ih =>
    obtain ⟨hv, hvalues⟩ := List.forall_mem_cons.mp h
    refine (((hv.under (.item index)).map List.cons).seq (ih hvalues (index + 1))).congr
      fun as => ?_
    rw [List.forall₂_cons_left_iff]
    refine ⟨?_, ?_⟩
    · rintro ⟨_, ⟨a, ha, rfl⟩, rest, hrest, rfl⟩
      exact ⟨a, rest, ha, hrest, rfl⟩
    · rintro ⟨a, rest, ha, hrest, rfl⟩
      exact ⟨_, ⟨a, ha, rfl⟩, rest, hrest, rfl⟩

theorem accepts_array {v : Json}
    (h : ∀ values, v = .array values → ∀ item ∈ values, (check item).Accepts (R item)) :
    (array check v).Accepts fun as => ∃ values, v = .array values ∧ List.Forall₂ R values as := by
  cases v with
  | array values =>
    refine (accepts_items (h values rfl) 0).congr fun as => ⟨fun has => ⟨values, rfl, has⟩, ?_⟩
    rintro ⟨_, heq, has⟩
    cases heq
    exact has
  | _ => exact (accepts_flawed .notArray).congr fun _ => ⟨nofun, fun ⟨_, heq, _⟩ => nomatch heq⟩

variable {ms : Json.Members} {name : Text}

theorem accepts_required (h : ∀ v, ms.lookup name = some v → (check v).Accepts (R v)) :
    (required name check ms).Accepts fun a => ∃ v, ms.lookup name = some v ∧ R v a := by
  rw [required]
  cases hv : ms.lookup name with
  | none =>
    exact ((accepts_flawed .missing).under _).congr fun a => ⟨nofun, fun ⟨_, heq, _⟩ => nomatch heq⟩
  | some v =>
    refine ((h v hv).under _).congr fun a => ⟨fun ha => ⟨v, rfl, ha⟩, ?_⟩
    rintro ⟨_, heq, ha⟩
    cases heq
    exact ha

theorem accepts_optional {default : α} (h : ∀ v, ms.lookup name = some v → (check v).Accepts (R v)) :
    (optional name default check ms).Accepts fun a =>
      ms.lookup name = none ∧ a = default ∨ ∃ v, ms.lookup name = some v ∧ R v a := by
  rw [optional]
  cases hv : ms.lookup name with
  | none =>
    refine (accepts_valid default).congr fun a => ⟨fun ha => .inl ⟨rfl, ha.symm⟩, ?_⟩
    rintro (⟨-, rfl⟩ | ⟨_, heq, -⟩)
    · rfl
    · cases heq
  | some v =>
    refine ((h v hv).under _).congr fun a => ⟨fun ha => .inr ⟨v, rfl, ha⟩, ?_⟩
    rintro (⟨heq, -⟩ | ⟨_, heq, ha⟩)
    · cases heq
    · cases heq
      exact ha

end Values

section Objects

variable {kind : ElementKind} {known : List Text} {check : Json.Members → Checked α}

/-- The names beyond the known ones only matter if one of them has no encoded form. -/
theorem object_result {ms : Json.Members}
    (h : ∀ name ∈ Json.names ms, name ∉ known → name.isUnicode = true) :
    (object kind known check (.object ms)).result = (check ms).result := by
  have hunicode : ((Json.names ms).filter fun name => !known.contains name).all Text.isUnicode = true := by
    simpa [List.all_eq_true, or_iff_not_imp_left] using h
  rw [object]
  simp only [hunicode, Bool.not_true, Bool.false_eq_true, if_false]
  cases hc : (check ms).result with
  | ok a =>
    simp only
    split
    · exact hc
    · rfl
  | error problems => exact hc

theorem object_refused {ms : Json.Members}
    (h : ¬∀ name ∈ Json.names ms, name ∉ known → name.isUnicode = true) :
    (object kind known check (.object ms)).result = .error [⟨[], .notUnicode⟩] := by
  have hunicode : ((Json.names ms).filter fun name => !known.contains name).all Text.isUnicode = false := by
    rw [← Bool.not_eq_true]
    simpa [List.all_eq_true, or_iff_not_imp_left] using h
  rw [object]
  simp only [hunicode, Bool.not_false, if_true]
  rfl

theorem accepts_object {R : Json.Members → α → Prop} {v : Json}
    (h : ∀ ms, v = .object ms → (check ms).Accepts (R ms)) :
    (object kind known check v).Accepts fun a => ∃ ms, v = .object ms ∧
      (∀ name ∈ Json.names ms, name ∉ known → name.isUnicode = true) ∧ R ms a := by
  cases v with
  | object ms =>
    intro a
    by_cases hnames : ∀ name ∈ Json.names ms, name ∉ known → name.isUnicode = true
    · rw [object_result hnames, h ms rfl a]
      refine ⟨fun ha => ⟨ms, rfl, hnames, ha⟩, ?_⟩
      rintro ⟨_, heq, -, ha⟩
      cases heq
      exact ha
    · rw [object_refused hnames]
      refine ⟨nofun, ?_⟩
      rintro ⟨_, heq, hunicode, -⟩
      cases heq
      exact absurd hunicode hnames
  | _ => exact (accepts_flawed .notObject).congr fun _ => ⟨nofun, fun ⟨_, heq, _⟩ => nomatch heq⟩

end Objects

end ParticipantRegistry.Document.Checked
