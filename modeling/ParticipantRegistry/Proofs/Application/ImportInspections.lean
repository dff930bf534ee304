import ParticipantRegistry.Proofs.Application.AdapterChanges
import ParticipantRegistry.Proofs.Application.HostImport
import ParticipantRegistry.Proofs.Application.UnmodeledNames
import ParticipantRegistry.Proofs.Document.Envelope

/-!
# Unmodeled names in imports of files

Importing a file inspects the value that is read from it and then, if that is a document, its elements;
an import that ends early has made the first of these inspections. So whatever files are imported in a
process, one after the other and with whatever outcome, the warnings about unmodeled names are those over
the inspections that were made.
-/

namespace ParticipantRegistry

open Document (ElementKind Inspection)
open Watched (sighted)

namespace Document

def valueOf? (content : Octets) : Option Json :=
  (Utf8.decode content).bind fun t => (Json.read t.unifyLines).toOption

theorem load_sightings (path : Text) (content : Octets) :
    (load path content).1 =
      (valueOf? content).elim [] fun value => (ElementKind.envelope.check value).sightings := by
  rw [load, valueOf?]
  cases Utf8.decode content with
  | none => rfl
  | some t =>
    simp only [Option.bind_some]
    cases Json.read t.unifyLines with
    | error error => cases error <;> rfl
    | ok value => rfl

theorem distinct_of_valueOf? {content : Octets} {value : Json} (h : valueOf? content = some value) :
    value.Distinct := by
  obtain ⟨t, -, hread⟩ := Option.bind_eq_some_iff.mp h
  cases hvalue : Json.read t.unifyLines with
  | error e =>
    rw [hvalue] at hread
    cases hread
  | ok found =>
    rw [hvalue] at hread
    cases hread
    exact Json.distinct_of_read hvalue

theorem distinct_of_load {path : Text} {content : Octets} {batch : ParsedBatch}
    (h : (load path content).2 = .ok batch) :
    (∀ element ∈ batch.serviceGroups, element.Distinct) ∧
      ∀ element ∈ batch.businessCards, element.Distinct := by
  obtain ⟨value, ⟨text, -, -, hread⟩, hdocument⟩ := ((load_eq path content).batch batch).mp h
  have hvalue : Json.Distinct (.object value.members) := hdocument.object ▸ Json.distinct_of_read hread
  have hitems {name : Text} {items : List Json} (hholds : HoldsItems value.members name items) :
      ∀ item ∈ items, item.Distinct := by
    intro item hitem
    rcases hholds with hfound | ⟨-, rfl⟩
    · have hmem : item ∈ Json.Members.items name value.members := by
        rw [Json.Members.items, Json.Members.get, hfound]
        exact hitem
      exact hvalue.items hmem
    · cases hitem
  exact ⟨hitems hdocument.serviceGroups, hitems hdocument.businessCards⟩

theorem exists_inspections {values : List (ElementKind × Json)} (h : ∀ v ∈ values, v.2.Distinct) :
    ∃ inspections : List Inspection, inspections.map (fun i => (i.kind, i.value)) = values := by
  induction values with
  | nil => exact ⟨[], rfl⟩
  | cons v values ih =>
    obtain ⟨hv, hvalues⟩ := List.forall_mem_cons.mp h
    obtain ⟨inspections, rfl⟩ := ih hvalues
    exact ⟨⟨v.1, v.2, hv⟩ :: inspections, rfl⟩

end Document

instance {σ : Type} : Watched (Desk σ) := ⟨fun d => d.journal.filterMap Occurrence.sighting?⟩

namespace Task

variable {σ α β : Type}

theorem sighted_tellEvents (content : σ) (journal : List Occurrence) (events : List Event) :
    sighted (Desk.mk content (journal ++ events.map .exchange)) =
      sighted (Desk.mk content journal) ++ events.filterMap Event.sighting? := by
  refine List.filterMap_append.trans ?_
  rw [List.filterMap_map]
  rfl

theorem inspects_of_journal {task : Task σ α} {d : Desk σ} (h : (task d).2.journal = d.journal) :
    Inspects [] task d :=
  inspects_nil_iff.mpr (congrArg (List.filterMap Occurrence.sighting?) h)

theorem inspects_ofExcept {ε : Type} (failure : ε → Failure) (result : Except ε α) (d : Desk σ) :
    Inspects [] (ofExcept failure result : Task σ α) d := by
  cases result <;> exact inspects_of_journal rfl

theorem inspects_call (c : Call σ α) (d : Desk σ) : Inspects [] (Task.call c) d := by
  have hcalled : sighted (Task.call c d).2 = sighted (Desk.mk (c d.content).2
      (d.journal ++ (Run.answerEvents (c d.content).1).map .exchange)) := by
    rw [Task.call]
    rcases c d.content with ⟨_ | _, content⟩ <;> rfl
  rw [inspects_nil_iff, hcalled, sighted_tellEvents, Run.answerEvents_sighted]
  exact List.append_nil _

theorem ok_of_call {c : Call σ α} {d d' : Desk σ} {a : α} (h : Task.call c d = (.ok a, d')) :
    ∃ content, c d.content = (.ok a, content) ∧ d' = ⟨content, d.journal⟩ := by
  rw [Task.call] at h
  rcases hc : c d.content with ⟨_ | _, content⟩
  · rw [hc] at h
    cases h
  · rw [hc] at h
    cases h
    exact ⟨content, rfl, congrArg (Desk.mk content) (List.append_nil _)⟩

theorem inspects_exchange {log : ActionLog} {run : Run σ α} {values : List (ElementKind × Json)}
    {d : Desk σ} (h : Inspects values run { registry := d.content, log }) :
    Inspects values (Task.exchange log run) d := by
  obtain ⟨made, hmade, hwhole, hsighted⟩ := h
  rcases hrun : run { registry := d.content, log } with ⟨answer, p⟩
  rw [hrun] at hwhole hsighted
  have hevents : p.events.filterMap Event.sighting? =
      made.flatMap fun v => (v.1.check v.2).sightings := hsighted
  have hexchanged : sighted (Task.exchange log run d).2 =
      sighted (Desk.mk p.registry (d.journal ++ p.events.map .exchange)) := by
    rw [Task.exchange]
    simp only [hrun]
    cases answer <;> rfl
  refine ⟨made, hmade, fun a ha => ?_, ?_⟩
  · rw [Task.exchange] at ha
    simp only [hrun] at ha
    cases answer with
    | ok a => exact hwhole a rfl
    | error e => cases ha
  · rw [hexchanged, sighted_tellEvents, hevents]
    rfl

end Task

namespace Session

theorem userBy_begun {s s' : Session} {id : Json} {user? : Option User} (hp : s.pending = [])
    (h : userBy id s = (.ok user?, s')) : s' = s.begun := by
  rw [userBy, selectBy] at h
  obtain ⟨value, s₁, hkey, h⟩ := Call.ok_of_bind h
  obtain ⟨rows, s₂, hselect, h⟩ := Call.ok_of_bind h
  obtain ⟨cell, s₃, hcell, h⟩ := Call.ok_of_bind h
  have hsame {α : Type} {result : Except Fault α} {a : α} {s s' : Session}
      (h : ofExcept result s = (.ok a, s')) : s' = s := by
    cases result <;> cases h
    rfl
  obtain rfl := hsame hkey
  obtain ⟨-, rfl, -⟩ := select_ok hp hselect
  obtain rfl := hsame hcell
  cases cell <;> cases h <;> rfl

end Session

namespace Host

variable {h : Host} {α : Type}

def valueAt? (h : Host) (path : Path) : Option Json :=
  (h.disk.contentAt path).toOption.bind Document.valueOf?

def batchAt? (h : Host) (path : Path) : Option ParsedBatch :=
  (h.disk.contentAt path).toOption.bind fun content => (Document.load path.toText content).2.toOption

/-- What an import of a file inspects if it is carried through: the value that is read, and the elements
if it is a document. -/
def toInspect (h : Host) (path : Path) (takesCards : Bool) : List (ElementKind × Json) :=
  (h.valueAt? path).toList.map (ElementKind.envelope, ·) ++
    (h.batchAt? path).elim [] (·.elements takesCards)

theorem distinct_of_mem_toInspect {path : Path} {takesCards : Bool} {v : ElementKind × Json}
    (hv : v ∈ h.toInspect path takesCards) : v.2.Distinct := by
  rcases List.mem_append.mp hv with hv | hv
  · obtain ⟨value, hvalue, rfl⟩ := List.mem_map.mp hv
    obtain ⟨content, -, hvalue⟩ := Option.bind_eq_some_iff.mp (Option.mem_toList.mp hvalue)
    exact Document.distinct_of_valueOf? hvalue
  · cases hbatch : h.batchAt? path with
    | none =>
      rw [hbatch] at hv
      cases hv
    | some batch =>
      rw [hbatch] at hv
      obtain ⟨content, -, hload⟩ := Option.bind_eq_some_iff.mp hbatch
      cases hresult : (Document.load path.toText content).2 with
      | error e =>
        rw [hresult] at hload
        cases hload
      | ok loaded =>
        rw [hresult] at hload
        cases hload
        obtain ⟨hgroups, hcards⟩ := Document.distinct_of_load hresult
        rcases List.mem_append.mp hv with hv | hv
        · obtain ⟨element, helement, rfl⟩ := List.mem_map.mp hv
          exact hgroups element helement
        · obtain ⟨element, helement, rfl⟩ := List.mem_map.mp hv
          split at helement
          · exact hcards element helement
          · cases helement

theorem inspects_loadDocument (path : Path) (d : Desk Host) :
    Inspects ((d.content.valueAt? path).toList.map (ElementKind.envelope, ·)) (loadDocument path) d := by
  have hopened : Inspects [] (Task.tellEvents [.documentOpened path.toText] : Task Host Unit) d :=
    inspects_nil_iff.mpr ((Task.sighted_tellEvents _ _ _).trans (List.append_nil _))
  refine hopened.nil_bind fun _ d₁ h₁ => ?_
  cases h₁
  refine (Task.inspects_of_journal rfl).nil_bind fun found d₁ h₁ => ?_
  cases h₁
  cases hfile : d.content.disk.contentAt path with
  | error e =>
    rw [valueAt?, hfile]
    exact (Task.inspects_ofExcept _ _ _).nil_bind fun _ _ h₂ => by cases h₂
  | ok content =>
    refine (Task.inspects_ofExcept _ _ _).nil_bind fun _ d₂ h₂ => ?_
    cases h₂
    refine Inspects.bind_nil (.of_sighted ?_) fun _ d₃ _ => Task.inspects_ofExcept _ _ d₃
    refine (Task.sighted_tellEvents _ _ _).trans (congrArg _ ?_)
    rw [List.filterMap_map, valueAt?, hfile]
    refine (List.filterMap_some (l := _)).trans ((Document.load_sightings path.toText content).trans ?_)
    change _ = List.flatMap _ ((Document.valueOf? content).toList.map _)
    cases Document.valueOf? content with
    | none => rfl
    | some value => exact (List.append_nil _).symm

theorem newUnit_made (own : Option Bool) (policy : Policy) (d : Desk Host) :
    ∃ answer h', newUnit own policy d = (answer, ⟨h', d.journal⟩) ∧
      ∀ unit, answer = .ok unit → unit.session = none ∧
        unit.directoryIntegration = own.getD policy.directoryIntegration := by
  have hown (takesCards : Bool) (d : Desk Host) :
      ∃ answer h', newUnit (some takesCards) policy d = (answer, ⟨h', d.journal⟩) ∧
        ∀ unit, answer = .ok unit → unit.session = none ∧ unit.directoryIntegration = takesCards := by
    rw [newUnit_own]
    cases d.content.databases.adapter.managed with
    | none => exact ⟨_, _, rfl, fun unit hunit => by cases hunit⟩
    | some managed =>
      refine ⟨_, _, rfl, fun unit hunit => ?_⟩
      cases hunit
      exact ⟨rfl, rfl⟩
  cases own with
  | some takesCards => exact hown takesCards d
  | none =>
    rw [newUnit, Task.bind_of_ok (Task.content_apply d)]
    split
    · obtain ⟨started, h', hstarted, -⟩ := startup_starts .null false d
      cases started with
      | error failure => exact ⟨_, _, Task.bind_of_error hstarted, fun unit hunit => by cases hunit⟩
      | ok _ =>
        rw [Task.bind_of_ok hstarted]
        exact hown policy.directoryIntegration ⟨h', d.journal⟩
    · exact hown policy.directoryIntegration d

theorem inspects_within {unit : WorkUnit} {work : Task Session α} {values : List (ElementKind × Json)}
    {d : Desk Host} (hnew : unit.session = none)
    (hwork : Inspects values work ⟨unit.sessionOn {} d.content.databases, d.journal⟩) :
    Inspects values (within unit work) d := by
  obtain ⟨made, hmade, hwhole, hsighted⟩ := hwork
  obtain ⟨left, last, d₂, hleave⟩ := WorkUnit.exists_leave (u := { unit with session := some _ }) rfl _
  let worked := work ⟨unit.sessionOn {} d.content.databases, d.journal⟩
  have hdone : within unit work d = ((left.mapError .call).bind fun _ => worked.1,
      ⟨{ d.content with databases := d₂ }, worked.2.journal⟩) :=
    within_of_use hnew (WorkUnit.use_eq rfl _) hleave
  rw [Inspects, hdone]
  refine ⟨made, hmade, fun a ha => ?_, hsighted⟩
  cases left with
  | ok _ => exact hwhole a ha
  | error e => cases ha

theorem inspects_importBatch {s : Session} (hpending : s.pending = []) (batch : ParsedBatch)
    (ownerId : Json) (overwriting : Bool) (journal : List Occurrence) :
    Inspects (batch.elements s.directoryIntegration) (importBatch batch ownerId overwriting)
      ⟨s, journal⟩ := by
  refine (Task.inspects_call _ _).nil_bind fun owner? d₁ h₁ => ?_
  cases owner? with
  | none => exact (Task.inspects_of_journal rfl).of_fails fun _ hanswer => by cases hanswer
  | some owner =>
    obtain ⟨s₁, hs₁, rfl⟩ := Task.ok_of_call h₁
    obtain rfl := Session.userBy_begun hpending hs₁
    refine (Task.inspects_call _ _).nil_bind fun groupKeys d₂ h₂ => ?_
    obtain ⟨s₂, hs₂, rfl⟩ := Task.ok_of_call h₂
    obtain ⟨-, rfl⟩ := Session.serviceGroupKeys_ok (s := s.begun) hpending hs₂
    refine (Task.inspects_call _ _).nil_bind fun cardKeys d₃ h₃ => ?_
    obtain ⟨s₃, hs₃, rfl⟩ := Task.ok_of_call h₃
    obtain rfl := Session.businessCardKeys_ok (s := s.begun) hpending hs₃
    refine (Task.inspects_exchange ?_).bind_nil fun _ _ _ => Task.inspects_of_journal rfl
    exact Run.inspects_importBatch _ batch { registry := s.begun.begun }

/-- Work in a unit of its own inspects what it does in a session without pending users. -/
theorem inspects_withUnit {own : Option Bool} {policy : Policy} {work : Task Session α}
    {values : List (ElementKind × Json)}
    (hwork : ∀ (s : Session) (journal : List Occurrence), s.pending = [] →
      s.directoryIntegration = own.getD policy.directoryIntegration → Inspects values work ⟨s, journal⟩)
    (d : Desk Host) : Inspects values (withUnit own policy work) d := by
  obtain ⟨answer, h', hnew, hmade⟩ := newUnit_made own policy d
  have hquiet : Inspects [] (newUnit own policy) d := Task.inspects_of_journal (by rw [hnew])
  refine hquiet.nil_bind fun unit d' hunit => ?_
  cases hnew.symm.trans hunit
  obtain ⟨hsession, htakes⟩ := hmade unit rfl
  exact inspects_within hsession (hwork _ _ rfl htakes)

theorem inspects_policy (given : Option Policy) (d : Desk Host) : Inspects [] (Host.policy given) d := by
  cases given with
  | some policy => exact Task.inspects_of_journal rfl
  | none =>
    refine (Task.inspects_of_journal rfl).nil_bind fun h d' _ => ?_
    exact Task.inspects_ofExcept _ _ _

theorem inspects_tell {occurrence : Occurrence} (h : occurrence.sighting? = none) {σ : Type} (d : Desk σ) :
    Inspects [] (Task.tell occurrence) d := by
  refine inspects_nil_iff.mpr (List.filterMap_append.trans ?_)
  rw [List.filterMap_cons_none h]
  exact List.append_nil _

theorem batchAt?_of_holdsDocument {path : Path} {batch : ParsedBatch} (hholds : h.HoldsDocument path batch) :
    h.batchAt? path = some batch := by
  obtain ⟨content, hfile, hload⟩ := hholds
  rw [batchAt?, hfile]
  exact congrArg Except.toOption hload

/-- An import of a file inspects what is in the file, in its order. -/
theorem inspects_importFile (path : Text) {options : ExchangeOptions} {policy : Policy}
    (hpolicy : h.policyOf options = .ok policy) (journal : List Occurrence) :
    Inspects (h.toInspect (Path.read path)
        (options.directoryIntegration.getD policy.directoryIntegration))
      (importFile path options) ⟨h, journal⟩ := by
  refine (inspects_policy options.policy _).nil_bind fun policy' d₁ h₁ => ?_
  cases (policy_eq hpolicy journal).symm.trans h₁
  simp only
  rw [← ExchangeOptions.ownerId]
  by_cases hnobody : options.ownerId policy = .null
  · rw [if_pos hnobody]
    exact (Task.inspects_of_journal rfl).of_fails fun _ hanswer => by cases hanswer
  · rw [if_neg hnobody]
    refine (inspects_loadDocument (Path.read path) ⟨h, journal⟩).bind fun batch d₂ h₂ => ?_
    rcases loadDocument_cases (h := h) (Path.read path) journal with
      ⟨failure, journal', hload⟩ | ⟨loaded, journal', hload, hholds⟩
    · cases hload.symm.trans h₂
    · cases hload.symm.trans h₂
      rw [batchAt?_of_holdsDocument hholds]
      refine Inspects.bind_nil (inspects_withUnit ?_ _) fun log d₃ _ =>
        (inspects_tell rfl d₃).nil_bind fun _ _ _ => inspects_pure log
      intro s journal hpending htakes
      rw [← htakes]
      exact inspects_importBatch hpending batch _ _ journal

theorem inspects_exportRegistry (withCards : Bool) (d : Desk Session) :
    Inspects [] (exportRegistry withCards) d := by
  refine (Task.inspects_of_journal rfl).nil_bind fun s d₁ _ => ?_
  extract_lets takesCards exporting
  have hexport (d : Desk Session) : Inspects [] (exporting ()) d := by
    refine (Task.inspects_call _ d).nil_bind fun groups d₁ _ => ?_
    refine (Task.inspects_exchange ?_).bind_nil fun _ _ _ => inspects_pure _
    exact Run.Sights.inspects (Run.sights_inherited.exportGroups groups _) _
  split
  · exact (inspects_tell rfl d₁).nil_bind fun _ d₂ _ => hexport d₂
  · exact hexport d₁

theorem inspects_writeDocument (document : ExportDocument) (path : Path) (d : Desk Host) :
    Inspects [] (writeDocument document path) d := by
  have hput (content : Octets) (d : Desk Host) : Inspects [] (putFile path content) d :=
    (Task.inspects_of_journal rfl).nil_bind fun _ _ _ =>
      (Task.inspects_ofExcept _ _ _).nil_bind fun _ _ _ => Task.inspects_of_journal rfl
  rw [writeDocument]
  cases Document.fileText document with
  | error error =>
    simp only
    split
    · exact (hput [] d).nil_bind fun _ _ _ => Task.inspects_of_journal rfl
    · exact Task.inspects_of_journal rfl
  | ok text => exact (hput _ d).nil_bind fun _ _ _ => inspects_tell rfl _

theorem inspects_exportFile (path : Text) (withCards : Bool) (options : ExchangeOptions) (d : Desk Host) :
    Inspects [] (exportFile path withCards options) d := by
  refine (inspects_policy options.policy d).nil_bind fun policy d₁ _ => ?_
  refine (inspects_withUnit (fun s journal _ _ => inspects_exportRegistry withCards ⟨s, journal⟩)
    d₁).nil_bind fun document d₂ _ => ?_
  exact (inspects_writeDocument document _ d₂).bind_nil fun _ _ _ => inspects_pure document

theorem inspects_createUser (user : NewUser) (d : Desk Host) : Inspects [] (createUser user) d := by
  refine (inspects_policy none d).nil_bind fun policy d₁ _ => ?_
  refine (inspects_withUnit (fun s journal _ _ => ?_) d₁).nil_bind fun _ d₂ _ => inspects_tell rfl d₂
  refine (Task.inspects_call _ ⟨s, journal⟩).nil_bind fun found d₃ _ => ?_
  extract_lets storing
  have hstoring (d : Desk Session) : Inspects [] (storing ()) d :=
    (Task.inspects_call _ d).nil_bind fun _ d₄ _ => Task.inspects_call _ d₄
  split
  · exact Task.inspects_of_journal rfl
  · exact hstoring d₃

end Host

/-- What the application is called for. -/
inductive Errand where
  | importFile (path : Text) (options : ExchangeOptions)
  | exportFile (path : Text) (withCards : Bool) (options : ExchangeOptions)
  | createUser (user : NewUser)
  | startup (address : Json) (force : Bool)
  | shutdown

namespace Errand

def after (d : Desk Host) : Errand → Desk Host
  | .importFile path options => (Host.importFile path options d).2
  | .exportFile path withCards options => (Host.exportFile path withCards options d).2
  | .createUser user => (Host.createUser user d).2
  | .startup address force => (Host.startup address force d).2
  | .shutdown => (Host.shutdown d).2

/-- What an errand inspects if it is carried through. Only imports inspect anything. -/
def toInspect (h : Host) : Errand → List (ElementKind × Json)
  | .importFile path options =>
    (h.policyOf options).toOption.elim [] fun policy =>
      h.toInspect (Path.read path) (options.directoryIntegration.getD policy.directoryIntegration)
  | _ => []

theorem distinct_of_mem_toInspect {h : Host} {errand : Errand} {v : ElementKind × Json}
    (hv : v ∈ errand.toInspect h) : v.2.Distinct := by
  cases errand with
  | importFile path options =>
    rw [toInspect] at hv
    cases hpolicy : h.policyOf options with
    | error e =>
      rw [hpolicy] at hv
      cases hv
    | ok policy =>
      rw [hpolicy] at hv
      exact Host.distinct_of_mem_toInspect hv
  | _ => cases hv

theorem after_inspects (errand : Errand) (d : Desk Host) :
    ∃ made : List (ElementKind × Json), made <+: errand.toInspect d.content ∧
      sighted (errand.after d) = sighted d ++ made.flatMap fun v => (v.1.check v.2).sightings := by
  have hnothing {d' : Desk Host} (h : sighted d' = sighted d) :
      ∃ made : List (ElementKind × Json), made <+: [] ∧
        sighted d' = sighted d ++ made.flatMap fun v => (v.1.check v.2).sightings :=
    ⟨[], List.prefix_refl _, h.trans (List.append_nil _).symm⟩
  cases errand with
  | importFile path options =>
    obtain ⟨h, journal⟩ := d
    simp only [toInspect, after]
    cases hpolicy : h.policyOf options with
    | error e =>
      have hrefused : Host.policy options.policy ⟨h, journal⟩ =
          (.error (.configuration e), ⟨h, journal⟩) := by
        rw [Host.policy_apply, hpolicy]
        rfl
      refine hnothing ?_
      rw [Host.importFile, Task.bind_of_error hrefused]
    | ok policy =>
      obtain ⟨made, hmade, -, hsighted⟩ := Host.inspects_importFile path hpolicy journal
      exact ⟨made, hmade, hsighted⟩
  | exportFile path withCards options =>
    exact hnothing (inspects_nil_iff.mp (Host.inspects_exportFile path withCards options d))
  | createUser user => exact hnothing (inspects_nil_iff.mp (Host.inspects_createUser user d))
  | startup address force =>
    obtain ⟨answer, h', hstarted, -⟩ := Host.startup_starts address force d
    refine hnothing ?_
    rw [after, hstarted]
    rfl
  | shutdown => exact hnothing rfl

def toInspectAll : List Errand → Desk Host → List (ElementKind × Json)
  | [], _ => []
  | errand :: errands, d => errand.toInspect d.content ++ toInspectAll errands (errand.after d)

/-- Whatever the errands of a process come to, some of these inspections are made, in their order. -/
theorem exists_inspections (errands : List Errand) (d : Desk Host) :
    ∃ inspections : List Inspection,
      (inspections.map fun i => (i.kind, i.value)).Sublist (toInspectAll errands d) ∧
      sighted (errands.foldl after d) = sighted d ++ inspections.flatMap Inspection.sightings := by
  induction errands generalizing d with
  | nil => exact ⟨[], List.Sublist.refl _, (List.append_nil _).symm⟩
  | cons errand errands ih =>
    obtain ⟨made, hmade, hfirst⟩ := errand.after_inspects d
    obtain ⟨first, rfl⟩ := Document.exists_inspections fun v hv => distinct_of_mem_toInspect (hmade.subset hv)
    obtain ⟨rest, hrest, hlater⟩ := ih (errand.after d)
    refine ⟨first ++ rest, ?_, ?_⟩
    · rw [List.map_append]
      exact hmade.sublist.append hrest
    · rw [List.foldl_cons, hlater, hfirst, List.flatMap_map, List.flatMap_append, List.append_assoc]
      rfl

/-- Over all errands of a process, every unmodeled name is told of that an inspected object has, and none
twice. -/
theorem warnings_told_once (errands : List Errand) (h : Host) :
    ∃ inspections : List Inspection,
      (inspections.map fun i => (i.kind, i.value)).Sublist (toInspectAll errands ⟨h, []⟩) ∧
      let told := Sighting.tellings [] (inspections.flatMap Inspection.sightings)
      (Occurrence.notices (errands.foldl after ⟨h, []⟩).journal).filter Occurrence.isWarning =
          told.map Sighting.warning ∧
        Document.ToldOnce inspections told := by
  obtain ⟨inspections, hmade, hsighted⟩ := exists_inspections errands ⟨h, []⟩
  have hjournal : (errands.foldl after ⟨h, []⟩).journal.filterMap Occurrence.sighting? =
      inspections.flatMap Inspection.sightings := hsighted
  refine ⟨inspections, hmade, ?_, Document.toldOnce_tellings inspections⟩
  rw [Occurrence.notices, Occurrence.warnings_noticesOf, hjournal]

end Errand

end ParticipantRegistry
