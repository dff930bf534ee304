import ParticipantRegistry.Application.Task
import ParticipantRegistry.Proofs.Exchange.Inspections

/-!
# Unmodeled names are told once

What is told of unmodeled names depends on all that was told before, whatever the kinds of the objects:
an object is told with those of its names that are new, and not at all if none is. So over all
inspections that are made in a process, every unmodeled name of an object that was built is told, and
none is told twice.
-/

namespace ParticipantRegistry

open Document (ElementKind unmodeled)

namespace Document

/-- A value that is checked as an object of a kind. -/
structure Inspection where
  kind : ElementKind
  value : Json
  distinct : value.Distinct

def Inspection.sightings (i : Inspection) : List Sighting := (i.kind.check i.value).sightings

end Document

open Document (Inspection)

namespace Sighting

/-- What is told of some objects, one after the other, after some names have been told. -/
def tellings (told : List Text) : List Document.Sighting → List Document.Sighting
  | [] => []
  | s :: sightings =>
    if (fresh told s).names = [] then tellings told sightings
    else fresh told s :: tellings (told ++ (fresh told s).names) sightings

def toldNames (told : List Text) (sightings : List Document.Sighting) : List Text :=
  (tellings told sightings).flatMap Document.Sighting.names

variable {told : List Text} {s t : Document.Sighting} {sightings : List Document.Sighting} {name : Text}

theorem mem_fresh : name ∈ (fresh told s).names ↔ name ∈ s.names ∧ name ∉ told := by
  simp [fresh]

theorem toldNames_cons (told : List Text) (s : Document.Sighting) (sightings : List Document.Sighting) :
    toldNames told (s :: sightings) =
      (fresh told s).names ++ toldNames (told ++ (fresh told s).names) sightings := by
  rw [toldNames, tellings]
  split
  · next hnone => rw [hnone, List.append_nil]; rfl
  · rfl

/-- A name is told if an object has it and it was not told before. -/
theorem mem_toldNames :
    name ∈ toldNames told sightings ↔ name ∉ told ∧ ∃ s ∈ sightings, name ∈ s.names := by
  induction sightings generalizing told with
  | nil => simp [toldNames, tellings]
  | cons s sightings ih =>
    simp only [toldNames_cons, List.mem_append, mem_fresh, ih, List.exists_mem_cons_iff]
    tauto

theorem nodup_toldNames (h : ∀ s ∈ sightings, s.names.Nodup) : (toldNames told sightings).Nodup := by
  induction sightings generalizing told with
  | nil => exact List.nodup_nil
  | cons s sightings ih =>
    obtain ⟨hs, hsightings⟩ := List.forall_mem_cons.mp h
    rw [toldNames_cons, List.nodup_append']
    -- the names of the first object count as told for the others
    refine ⟨hs.filter _, ih hsightings, fun name hfresh hlater => ?_⟩
    exact (mem_toldNames.mp hlater).1 (List.mem_append_right _ hfresh)

theorem of_mem_tellings (h : t ∈ tellings told sightings) :
    t.names ≠ [] ∧ ∃ s ∈ sightings, t.kind = s.kind ∧ t.names ⊆ s.names := by
  induction sightings generalizing told with
  | nil => cases h
  | cons s sightings ih =>
    rw [tellings] at h
    split at h
    · obtain ⟨hsome, s', hs', hfrom⟩ := ih h
      exact ⟨hsome, s', List.mem_cons_of_mem _ hs', hfrom⟩
    · next hsome =>
      rcases List.mem_cons.mp h with rfl | h
      · exact ⟨hsome, s, List.mem_cons_self, rfl, fun _ hname => (mem_fresh.mp hname).1⟩
      · obtain ⟨hsome, s', hs', hfrom⟩ := ih h
        exact ⟨hsome, s', List.mem_cons_of_mem _ hs', hfrom⟩

def warning (s : Document.Sighting) : Notice Failure := ⟨.warning, .elements, line s, none⟩

end Sighting

namespace Occurrence

def sighting? : Occurrence → Option Document.Sighting
  | .exchange event => event.sighting?
  | _ => none

theorem tell_of_not_sighted {o : Occurrence} (h : o.sighting? = none) (told : List Text) :
    ∃ notice : Notice Failure, o.tell told = (some notice, told) ∧ notice.channel ≠ .elements := by
  cases o with
  | exchange event =>
    cases event with
    | sighted => cases h
    | _ => exact ⟨_, rfl, nofun⟩
  | _ => exact ⟨_, rfl, nofun⟩

theorem tell_of_sighted {o : Occurrence} {s : Document.Sighting} (h : o.sighting? = some s)
    (told : List Text) : o.tell told =
      if (Sighting.fresh told s).names = [] then (none, told)
      else (some (Sighting.warning (Sighting.fresh told s)), told ++ (Sighting.fresh told s).names) := by
  cases o with
  | exchange event =>
    cases event with
    | sighted =>
      obtain rfl := Option.some.inj h
      simp only [tell, Event.tell]
      split <;> rfl
    | _ => cases h
  | _ => cases h

def isWarning (n : Notice Failure) : Bool := n.channel = .elements

theorem warnings_noticesOf (told : List Text) (journal : List Occurrence) :
    (noticesOf tell told journal).filter isWarning =
      (Sighting.tellings told (journal.filterMap sighting?)).map Sighting.warning := by
  induction journal generalizing told with
  | nil => rfl
  | cons o journal ih =>
    cases ho : o.sighting? with
    | none =>
      obtain ⟨notice, htell, hchannel⟩ := tell_of_not_sighted ho told
      have hother : isWarning notice = false := decide_eq_false hchannel
      simp only [noticesOf, htell, List.filterMap_cons_none ho, Option.toList_some, List.singleton_append,
        List.filter_cons, hother, Bool.false_eq_true, if_false, ih]
    | some s =>
      rw [List.filterMap_cons_some ho, Sighting.tellings, noticesOf, tell_of_sighted ho]
      by_cases hnone : (Sighting.fresh told s).names = []
      · simp only [if_pos hnone]
        exact ih told
      · simp only [if_neg hnone, Option.toList_some, List.singleton_append, List.map_cons, ← ih]
        exact List.filter_cons_of_pos (decide_eq_true rfl)

end Occurrence

namespace Document

structure ToldOnce (inspections : List Inspection) (told : List Sighting) : Prop where
  /-- The names that are told are the unmodeled names of the objects that were built. -/
  complete : ∀ name, name ∈ told.flatMap Sighting.names ↔
    ∃ i ∈ inspections, ∃ kind ms, i.kind.Builds i.value kind ms ∧
      name ∈ Json.names ms ∧ name ∉ kind.names
  once : (told.flatMap Sighting.names).Nodup
  /-- Every warning tells a name that no earlier one has told. -/
  new : ∀ earlier s later, told = earlier ++ s :: later →
    ∃ name ∈ s.names, name ∉ earlier.flatMap Sighting.names
  /-- Every warning is about an object that was built, by its kind. -/
  built : ∀ s ∈ told, ∃ i ∈ inspections, ∃ ms, i.kind.Builds i.value s.kind ms ∧
    ∀ name ∈ s.names, name ∈ Json.names ms ∧ name ∉ s.kind.names

theorem toldOnce_tellings (inspections : List Inspection) :
    ToldOnce inspections (Sighting.tellings [] (inspections.flatMap Inspection.sightings)) := by
  have honce : (Sighting.toldNames [] (inspections.flatMap Inspection.sightings)).Nodup := by
    refine Sighting.nodup_toldNames fun s hs => ?_
    obtain ⟨i, -, hs⟩ := List.mem_flatMap.mp hs
    exact ElementKind.nodup_sighting i.distinct hs
  refine ⟨fun name => ?_, honce, fun earlier s later htold => ?_, fun s hs => ?_⟩
  · refine Sighting.mem_toldNames.trans ⟨?_, ?_⟩
    · rintro ⟨-, s, hs, hname⟩
      obtain ⟨i, hi, hs⟩ := List.mem_flatMap.mp hs
      obtain ⟨ms, hbuilt, hnames, -⟩ := (ElementKind.mem_sightings i.kind i.value s).mp hs
      rw [hnames] at hname
      exact ⟨i, hi, s.kind, ms, hbuilt, mem_unmodeled.mp hname⟩
    · rintro ⟨i, hi, kind, ms, hbuilt, hname⟩
      have hname := mem_unmodeled.mpr hname
      have hs : ⟨kind, unmodeled kind.names ms⟩ ∈ i.sightings :=
        (ElementKind.mem_sightings i.kind i.value _).mpr ⟨ms, hbuilt, rfl, List.ne_nil_of_mem hname⟩
      exact ⟨List.not_mem_nil, _, List.mem_flatMap.mpr ⟨i, hi, hs⟩, hname⟩
  · have hmem : s ∈ Sighting.tellings [] (inspections.flatMap Inspection.sightings) := by
      rw [htold]
      exact List.mem_append_right _ List.mem_cons_self
    obtain ⟨name, hname⟩ := List.exists_mem_of_ne_nil _ (Sighting.of_mem_tellings hmem).1
    rw [Sighting.toldNames, htold, List.flatMap_append, List.nodup_append'] at honce
    refine ⟨name, hname, fun hearlier => honce.2.2 hearlier ?_⟩
    exact List.mem_flatMap.mpr ⟨s, List.mem_cons_self, hname⟩
  · obtain ⟨-, seen, hseen, hkind, hnames⟩ := Sighting.of_mem_tellings hs
    obtain ⟨i, hi, hseen⟩ := List.mem_flatMap.mp hseen
    obtain ⟨ms, hbuilt, hunmodeled, -⟩ := (ElementKind.mem_sightings i.kind i.value seen).mp hseen
    rw [hkind]
    refine ⟨i, hi, ms, hbuilt, fun name hname => ?_⟩
    have hname := hnames hname
    rw [hunmodeled] at hname
    exact mem_unmodeled.mp hname

end Document

namespace Occurrence

/-- However a process goes on between its inspections, the warnings about elements that it gives are those
over the inspections. -/
theorem unmodeled_names_told_once (inspections : List Inspection) {journal : List Occurrence}
    (h : journal.filterMap sighting? = inspections.flatMap Inspection.sightings) :
    let told := Sighting.tellings [] (inspections.flatMap Inspection.sightings)
    (notices journal).filter isWarning = told.map Sighting.warning ∧
      Document.ToldOnce inspections told := by
  refine ⟨?_, Document.toldOnce_tellings inspections⟩
  rw [notices, warnings_noticesOf, h]

/-- The endpoint of a group that is refused, and a card that shares an unmodeled name with it. -/
theorem unmodeled_names_told_once_refused :
    let endpoint : Json := .object [("document_type", .string "d"), ("process", .string "p"),
      ("transport_profile", .string "t"), ("endpoint_url", .string "u"), ("note", .null)]
    let group : Json := .object [("participant_id", .string "a"), ("endpoints", .array [endpoint]),
      ("color", .null)]
    let card : Json := .object [("participant_id", .string "a"), ("note", .null), ("color", .null)]
    let journal : List Occurrence := [.exchange (.sighted ⟨.endpoint, ["note"]⟩), .cardsSkipped,
      .exchange (.sighted ⟨.businessCard, ["note", "color"]⟩)]
    ¬ElementKind.serviceGroup.Accepts group ∧
      ∃ inspections : List Inspection,
        inspections.map (fun i => (i.kind, i.value)) = [(.serviceGroup, group), (.businessCard, card)] ∧
        journal.filterMap sighting? = inspections.flatMap Inspection.sightings ∧
        (notices journal).filter isWarning =
          [Sighting.warning ⟨.endpoint, ["note"]⟩, Sighting.warning ⟨.businessCard, ["color"]⟩] ∧
        Document.ToldOnce inspections [⟨.endpoint, ["note"]⟩, ⟨.businessCard, ["color"]⟩] := by
  intro endpoint group card journal
  have hendpoint : endpoint.Distinct := by
    refine .object (by decide) ?_
    simp only [List.forall_mem_cons]
    exact ⟨.string _, .string _, .string _, .string _, .null, nofun⟩
  have hgroup : group.Distinct := by
    refine .object (by decide) ?_
    simp only [List.forall_mem_cons]
    exact ⟨.string _, .array (by simpa using hendpoint), .null, nofun⟩
  have hcard : card.Distinct := by
    refine .object (by decide) ?_
    simp only [List.forall_mem_cons]
    exact ⟨.string _, .null, .null, nofun⟩
  have hseen : (ElementKind.serviceGroup.check group).sightings = [⟨.endpoint, ["note"]⟩] ∧
      (ElementKind.businessCard.check card).sightings = [⟨.businessCard, ["note", "color"]⟩] := by
    decide +kernel
  let inspections : List Inspection := [⟨.serviceGroup, group, hgroup⟩, ⟨.businessCard, card, hcard⟩]
  have hsightings : inspections.flatMap Inspection.sightings =
      [⟨.endpoint, ["note"]⟩, ⟨.businessCard, ["note", "color"]⟩] := by
    simp only [inspections, List.flatMap_cons, List.flatMap_nil, Inspection.sightings, hseen]
    rfl
  have htold : Sighting.tellings [] (inspections.flatMap Inspection.sightings) =
      [⟨.endpoint, ["note"]⟩, ⟨.businessCard, ["color"]⟩] := by
    rw [hsightings]
    decide +kernel
  have hall := @unmodeled_names_told_once inspections journal (by rw [hsightings]; rfl)
  simp only [htold] at hall
  exact ⟨by decide +kernel, inspections, rfl, by rw [hsightings]; rfl, hall⟩

end Occurrence

end ParticipantRegistry
