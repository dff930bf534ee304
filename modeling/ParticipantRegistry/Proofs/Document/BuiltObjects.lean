import ParticipantRegistry.Document.File
import ParticipantRegistry.Json.Members
import ParticipantRegistry.Proofs.Json.Reading
import ParticipantRegistry.Proofs.Registry.ReadEntities

/-!
# Objects that are built

While a value is checked as an object of a kind, objects are built: the value itself if it is accepted,
and those of its parts that are accepted, whether or not the value is. `ElementKind.Builds` says which,
without the order in which a check goes, and `ElementKind.mem_sightings` that every object is sighted that
is built with unmodeled names, and nothing else.
-/

namespace ParticipantRegistry

namespace Json

/-- No object in the value repeats a name. -/
inductive Distinct : Json → Prop
  | null : Distinct .null
  | bool (b : Bool) : Distinct (.bool b)
  | int (i : Int) : Distinct (.int i)
  | float (x : Binary64) : Distinct (.float x)
  | string (t : Text) : Distinct (.string t)
  | array {items : List Json} (parts : ∀ item ∈ items, Distinct item) : Distinct (.array items)
  | object {ms : Members} (names : (names ms).Nodup) (parts : ∀ m ∈ ms, Distinct m.2) :
      Distinct (.object ms)

variable {v : Json} {ms : Members} {name : Text}

theorem Plain.distinct {ok : Text → Prop} {room : Nat} (h : Plain ok room v) : v.Distinct := by
  induction h with
  | null => exact .null
  | bool _ b => exact .bool b
  | int => exact .int _
  | float _ x => exact .float x
  | string => exact .string _
  | array _ ih => exact .array ih
  | object names _ _ ih => exact .object names ih

/-- What is read from a text repeats no name: the last value of a name counts. -/
theorem distinct_of_read {s : Text} (h : read s = .ok v) : v.Distinct :=
  (plain_of_read h).distinct

theorem Distinct.names (h : Distinct (.object ms)) : (names ms).Nodup := by
  cases h with
  | object names _ => exact names

theorem Distinct.items (h : Distinct (.object ms)) {item : Json} (hitem : item ∈ Members.items name ms) :
    item.Distinct := by
  cases h with
  | object _ parts =>
    rw [Members.items, Members.get] at hitem
    cases hfound : ms.lookup name with
    | none =>
      rw [hfound] at hitem
      cases hitem
    | some value =>
      rw [hfound] at hitem
      have hmem : (name, value) ∈ ms := mem_of_lookup hfound
      have hvalue := parts _ hmem
      cases hvalue with
      | array parts => exact parts item hitem
      | _ => cases hitem

end Json

namespace Document

open Checked

def unmodeled (known : List Text) (ms : Json.Members) : List Text :=
  (Json.names ms).filter fun name => !known.contains name

theorem mem_unmodeled {known : List Text} {ms : Json.Members} {name : Text} :
    name ∈ unmodeled known ms ↔ name ∈ Json.names ms ∧ name ∉ known := by
  simp [unmodeled]

namespace Checked

variable {α β : Type} {check : Json → Checked α}

@[simp] theorem sightings_valid (a : α) : (valid a).sightings = [] := rfl

@[simp] theorem sightings_map (f : α → β) (c : Checked α) : (f <$> c).sightings = c.sightings := rfl

@[simp] theorem sightings_seq (f : Checked (α → β)) (c : Checked α) :
    (f <*> c).sightings = f.sightings ++ c.sightings := rfl

theorem sightings_items (index : Nat) (values : List Json) :
    (items check index values).sightings = values.flatMap fun v => (check v).sightings := by
  induction values generalizing index with
  | nil => rfl
  | cons v values ih =>
    rw [List.flatMap_cons, ← ih (index + 1)]
    rfl

theorem sightings_array (v : Json) :
    (array check v).sightings = v.items.flatMap fun item => (check item).sightings := by
  cases v with
  | array values => exact sightings_items 0 values
  | _ => rfl

variable {name : Text} {ms : Json.Members}

theorem sightings_required (h : ∀ v, (check v).sightings = []) :
    (required name check ms).sightings = [] := by
  rw [required]
  split
  · exact h _
  · rfl

theorem sightings_optional {default : α} (h : ∀ v, (check v).sightings = []) :
    (optional name default check ms).sightings = [] := by
  rw [optional]
  split
  · exact h _
  · rfl

theorem sightings_optional_array {default : List α} :
    (optional name default (array check) ms).sightings =
      (Json.Members.items name ms).flatMap fun item => (check item).sightings := by
  rw [optional, Json.Members.items, Json.Members.get]
  cases ms.lookup name with
  | some v => exact sightings_array v
  | none => rfl

variable {kind : ElementKind} {known : List Text} {checkMembers : Json.Members → Checked α}

/-- What is sighted in an object comes before the object itself, which is sighted if it is accepted. -/
theorem sightings_object :
    (object kind known checkMembers (.object ms)).sightings = (checkMembers ms).sightings ++
      if (object kind known checkMembers (.object ms)).result.isOk ∧ unmodeled known ms ≠ []
      then [⟨kind, unmodeled known ms⟩] else [] := by
  have hunmodeled : ((Json.names ms).filter fun name => !known.contains name) = unmodeled known ms := rfl
  simp only [object, hunmodeled]
  split
  · simp [flawed, Except.isOk, Except.toBool]
  · cases hc : (checkMembers ms).result with
    | ok a =>
      by_cases hnone : unmodeled known ms = []
      · simp [hnone]
      · simp [hnone, Except.isOk, Except.toBool]
    | error problems => simp [hc, Except.isOk, Except.toBool]

end Checked

theorem sightings_plainText (v : Json) : (plainText v).sightings = [] := by
  cases v <;> rfl

theorem sightings_optionalText (v : Json) : (optionalText v).sightings = [] := by
  cases v <;> rfl

theorem sightings_trimmedText (v : Json) : (trimmedText v).sightings = [] := by
  cases v with
  | string t =>
    rw [trimmedText]
    split
    · rfl
    · split <;> rfl
  | _ => rfl

theorem sightings_countryCode (v : Json) : (countryCode v).sightings = [] := by
  cases v with
  | string t =>
    rw [countryCode]
    split
    · rfl
    · split
      · rfl
      · split <;> rfl
  | _ => rfl

theorem sightings_optionalDate (v : Json) : (optionalDate v).sightings = [] := by
  cases v with
  | null => rfl
  | _ =>
    simp only [optionalDate]
    split <;> rfl

theorem sightings_freeText (v : Json) : (freeText v).sightings = [] := sightings_optionalText v

theorem sightings_version (v : Json) : (checkVersion v).sightings = [] := by
  cases v with
  | string t =>
    rw [checkVersion]
    split
    · rfl
    · split <;> rfl
  | _ => rfl

namespace ElementKind

def names : ElementKind → List Text
  | .endpoint => endpointNames
  | .redirect => redirectNames
  | .serviceGroup => groupNames
  | .businessIdentifier => identifierNames
  | .businessEntity => entityNames
  | .businessCard => cardNames
  | .envelope => envelopeNames

/-- The members of objects of a kind that hold objects themselves, with the kind of these. The elements
of an envelope are left as they are. -/
def parts : ElementKind → List (Text × ElementKind)
  | .serviceGroup => [("endpoints", .endpoint), ("redirects", .redirect)]
  | .businessEntity => [("identifiers", .businessIdentifier)]
  | .businessCard => [("entities", .businessEntity)]
  | .endpoint | .redirect | .businessIdentifier | .envelope => []

def check : ElementKind → Json → Checked Unit
  | .endpoint, v => (fun _ => ()) <$> checkEndpoint v
  | .redirect, v => (fun _ => ()) <$> checkRedirect v
  | .serviceGroup, v => (fun _ => ()) <$> checkGroup v
  | .businessIdentifier, v => (fun _ => ()) <$> checkIdentifier v
  | .businessEntity, v => (fun _ => ()) <$> checkEntity v
  | .businessCard, v => (fun _ => ()) <$> checkCard v
  | .envelope, v => (fun _ => ()) <$> checkEnvelope v

def Accepts (kind : ElementKind) (v : Json) : Prop := (kind.check v).result = .ok ()

instance (kind : ElementKind) (v : Json) : Decidable (kind.Accepts v) :=
  inferInstanceAs (Decidable (_ = _))

/-- While a value is checked as an object of a kind, an object is built with these members: the value
itself, or one inside it. -/
inductive Builds : ElementKind → Json → ElementKind → Json.Members → Prop
  | itself {kind : ElementKind} {ms : Json.Members} (accepted : kind.Accepts (.object ms)) :
      Builds kind (.object ms) kind ms
  | inside {kind inner : ElementKind} {ms found : Json.Members} {part : Text × ElementKind}
      {item : Json} (mem_part : part ∈ kind.parts) (mem_item : item ∈ Json.Members.items part.1 ms)
      (built : Builds part.2 item inner found) : Builds kind (.object ms) inner found

variable {kind : ElementKind} {v : Json} {ms : Json.Members}

theorem isOk_map {α β ε : Type} (f : α → β) (result : Except ε α) :
    (result.map f).isOk = result.isOk := by
  cases result <;> rfl

theorem isOk_iff {ε : Type} {result : Except ε Unit} : result.isOk ↔ result = .ok () := by
  cases result <;> simp [Except.isOk, Except.toBool]

theorem sightings_check_of_object {α : Type} {known : List Text} {checkMembers : Json.Members → Checked α}
    {inner : List Sighting} (h : (checkMembers ms).sightings = inner) :
    ((fun _ => ()) <$> object kind known checkMembers (.object ms)).sightings = inner ++
      if ((fun _ => ()) <$> object kind known checkMembers (.object ms)).result.isOk ∧
        unmodeled known ms ≠ [] then [⟨kind, unmodeled known ms⟩] else [] := by
  rw [sightings_map, sightings_object, h]
  have hresult : ((fun _ => ()) <$> object kind known checkMembers (.object ms)).result =
      (object kind known checkMembers (.object ms)).result.map fun _ => () := rfl
  rw [hresult, isOk_map]

/-- What is sighted in an object: the objects in its parts, and then the object itself if it is accepted
with unmodeled names. -/
theorem sightings_check (kind : ElementKind) (ms : Json.Members) :
    (kind.check (.object ms)).sightings =
      (kind.parts.flatMap fun part =>
        (Json.Members.items part.1 ms).flatMap fun item => (part.2.check item).sightings) ++
      if (kind.check (.object ms)).result.isOk ∧ unmodeled kind.names ms ≠ []
      then [⟨kind, unmodeled kind.names ms⟩] else [] := by
  cases kind with
  | endpoint =>
    refine sightings_check_of_object ?_
    simp only [checkEndpointMembers, sightings_seq, sightings_map,
      sightings_required sightings_trimmedText, sightings_optional sightings_optionalText]
    rfl
  | redirect =>
    refine sightings_check_of_object ?_
    simp only [checkRedirectMembers, sightings_seq, sightings_map,
      sightings_required sightings_trimmedText, sightings_optional sightings_optionalText]
    rfl
  | serviceGroup =>
    refine sightings_check_of_object ?_
    simp only [checkGroupMembers, sightings_seq, sightings_map, sightings_optional_array,
      sightings_required sightings_trimmedText, sightings_optional sightings_optionalText]
    simp [parts, check]
  | businessIdentifier =>
    refine sightings_check_of_object ?_
    simp only [checkIdentifierMembers, sightings_seq, sightings_map,
      sightings_required sightings_trimmedText]
    rfl
  | businessEntity =>
    refine sightings_check_of_object ?_
    simp only [checkEntityMembers, sightings_seq, sightings_map, sightings_optional_array,
      sightings_required sightings_trimmedText, sightings_required sightings_countryCode,
      sightings_optional sightings_freeText, sightings_optional sightings_optionalDate, sightings_plainText]
    simp [parts, check]
  | businessCard =>
    refine sightings_check_of_object ?_
    simp only [checkCardMembers, sightings_seq, sightings_map, sightings_optional_array,
      sightings_required sightings_trimmedText]
    simp [parts, check]
  | envelope =>
    refine sightings_check_of_object ?_
    simp only [sightings_seq, sightings_map, sightings_optional_array, sightings_required sightings_version]
    simp [parts, anything]

theorem sightings_check_of_not_object (kind : ElementKind) (h : ∀ ms, v ≠ .object ms) :
    (kind.check v).sightings = [] := by
  cases v with
  | object ms => exact absurd rfl (h ms)
  | _ => cases kind <;> rfl

theorem builds_iff {inner : ElementKind} {found : Json.Members} :
    kind.Builds (.object ms) inner found ↔
      (∃ part ∈ kind.parts, ∃ item ∈ Json.Members.items part.1 ms, part.2.Builds item inner found) ∨
        kind.Accepts (.object ms) ∧ inner = kind ∧ found = ms := by
  constructor
  · intro h
    cases h with
    | itself accepted => exact .inr ⟨accepted, rfl, rfl⟩
    | inside mem_part mem_item built => exact .inl ⟨_, mem_part, _, mem_item, built⟩
  · rintro (⟨part, hpart, item, hitem, h⟩ | ⟨haccepted, rfl, rfl⟩)
    · exact .inside hpart hitem h
    · exact .itself haccepted

def depth : ElementKind → Nat
  | .endpoint | .redirect | .businessIdentifier | .envelope => 0
  | .serviceGroup | .businessEntity => 1
  | .businessCard => 2

theorem depth_lt {part : Text × ElementKind} (h : part ∈ kind.parts) : part.2.depth < kind.depth := by
  cases kind <;> simp only [parts, List.mem_cons, List.not_mem_nil, or_false] at h
  · rcases h with rfl | rfl <;> decide
  · subst h; decide
  · subst h; decide

/-- While a value is checked, the objects are sighted that are built with unmodeled names. -/
theorem mem_sightings (kind : ElementKind) (v : Json) (s : Sighting) :
    s ∈ (kind.check v).sightings ↔
      ∃ ms, kind.Builds v s.kind ms ∧ s.names = unmodeled s.kind.names ms ∧ s.names ≠ [] := by
  -- by recursion on the depth: the objects in a part are sighted by its own check
  by_cases hobject : ∃ ms, v = .object ms
  · obtain ⟨ms, rfl⟩ := hobject
    rw [sightings_check, List.mem_append]
    constructor
    · rintro (hinner | hown)
      · obtain ⟨part, hpart, hinner⟩ := List.mem_flatMap.mp hinner
        obtain ⟨item, hitem, hinner⟩ := List.mem_flatMap.mp hinner
        have hdepth := depth_lt hpart
        obtain ⟨found, hbuilt, hnames⟩ := (mem_sightings part.2 item s).mp hinner
        exact ⟨found, .inside hpart hitem hbuilt, hnames⟩
      · split at hown
        · next hok =>
          obtain rfl := List.mem_singleton.mp hown
          exact ⟨ms, .itself (isOk_iff.mp hok.1), rfl, hok.2⟩
        · cases hown
    · rintro ⟨found, hbuilt, hnames, hsome⟩
      rcases builds_iff.mp hbuilt with ⟨part, hpart, item, hitem, hbuilt⟩ | ⟨haccepted, hkind, rfl⟩
      · have hdepth := depth_lt hpart
        have hinner := (mem_sightings part.2 item s).mpr ⟨found, hbuilt, hnames, hsome⟩
        exact .inl (List.mem_flatMap.mpr ⟨part, hpart, List.mem_flatMap.mpr ⟨item, hitem, hinner⟩⟩)
      · obtain ⟨kind', names⟩ := s
        simp only at hkind hnames hsome
        subst hkind hnames
        refine .inr ?_
        rw [if_pos ⟨isOk_iff.mpr haccepted, hsome⟩]
        exact List.mem_singleton_self _
  · push Not at hobject
    rw [sightings_check_of_not_object kind hobject]
    refine iff_of_false List.not_mem_nil ?_
    rintro ⟨ms, hbuilt, -⟩
    cases hbuilt with
    | itself => exact hobject _ rfl
    | inside => exact hobject _ rfl
termination_by kind.depth

theorem Builds.distinct {inner : ElementKind} (h : kind.Builds v inner ms) (hv : v.Distinct) :
    (Json.names ms).Nodup := by
  induction h with
  | itself => exact hv.names
  | inside _ mem_item _ ih => exact ih (hv.items mem_item)

theorem nodup_sighting (hv : v.Distinct) {s : Sighting} (hs : s ∈ (kind.check v).sightings) :
    s.names.Nodup := by
  obtain ⟨ms, hbuilt, hnames, -⟩ := (mem_sightings kind v s).mp hs
  rw [hnames]
  exact (hbuilt.distinct hv).filter _

end ElementKind

end Document

end ParticipantRegistry
