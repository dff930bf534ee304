import ParticipantRegistry.Proofs.Exchange.Readings
import ParticipantRegistry.Proofs.Registry.Dialogue
import ParticipantRegistry.Registry.Keyed

/-!
# What an import does before it writes

An import reads its batch and decides once on what is staged. The decision is to proceed exactly if
something is staged and nothing was recorded that is an error, and the errors of the reading are known
from the readings of the elements. An import that does not proceed asks for no mutation at all.
-/

namespace ParticipantRegistry

open Document (ElementReader GroupRecord RecordError)

theorem stageAll_batch (request : ImportRequest) (directoryIntegration : Bool)
    (readings : List (Reading GroupRecord)) (results : List (Except RecordError BusinessCard)) :
    let groups := request.withRecords (successes (readings.map (·.1))) { directoryIntegration }
    (stageAll request directoryIntegration readings results).1 =
      if directoryIntegration then request.withCards (successes results) groups else groups := by
  simp only [stageAll]
  cases directoryIntegration with
  | false => exact gather_stageReading_batch request readings _ 0
  | true => rw [if_pos rfl, gather_stageCardReading_batch, gather_stageReading_batch, if_pos rfl]

/-- What reading a batch records is free of errors exactly if every group element has a record, the
admitted records have distinct keys, and, if cards are taken, every card element has a card of a known
group and the admitted cards have distinct keys. -/
theorem stageAll_hasError (request : ImportRequest) (directoryIntegration : Bool)
    (readings : List (Reading GroupRecord)) (results : List (Except RecordError BusinessCard)) :
    (stageAll request directoryIntegration readings results).2.any ActionRecord.isError = false ↔
      (∀ reading ∈ readings, ∃ record, reading.1 = .ok record) ∧
      (request.admittedKeys (successes (readings.map (·.1)))).Nodup ∧
      (directoryIntegration = true →
        (∀ result ∈ results, ∃ card, result = .ok card ∧ request.knowsGroup
          (stageAll request directoryIntegration readings results).1 card = true) ∧
        (request.admittedCardKeys (successes results)).Nodup) := by
  have hgroups := (gather_stageReading_hasError request readings { directoryIntegration } 0).trans
    (and_congr_right fun _ => and_iff_left fun k _ => Bool.false_ne_true)
  cases directoryIntegration with
  | false =>
    simp only [Bool.false_eq_true, false_implies, and_true]
    exact hgroups
  | true =>
    have hcards := (gather_stageCardReading_hasError request results
      (gather (stageReading request) {} 0 readings).1 0).trans
      (and_congr_right fun _ => and_iff_left fun k _ => by
        rw [gather_stageReading_batch]
        exact Bool.false_ne_true)
    have hknows : request.knowsGroup (gather (stageReading request) {} 0 readings).1 =
        request.knowsGroup (stageAll request true readings results).1 := by
      simp only [stageAll, if_true, gather_stageCardReading_batch]
      rfl
    rw [hknows] at hcards
    have hrecords :
        (stageAll request true readings results).2.any ActionRecord.isError = false ↔
        (gather (stageReading request) {} 0 readings).2.any ActionRecord.isError = false ∧
        (gather (stageCardReading request) (gather (stageReading request) {} 0 readings).1 0
          results).2.any ActionRecord.isError = false := by
      rw [← Bool.or_eq_false_iff, ← List.any_append]
      rfl
    simp only [hrecords, hgroups, hcards, true_implies, and_assoc]

namespace Run

variable {σ : Type} [Registry σ]

omit [Registry σ] in
theorem plan_eq (staged : StagedBatch) (p : Progress σ) :
    let outcome := PlanOutcome.decide staged p.log.hasError
    let line : ActionRecord := ⟨.null, outcome.note staged, none⟩
    plan staged p = (.ok outcome, { p with
      log := p.log.add line, events := p.events ++ [.action p.log.correlationId.display line] }) :=
  rfl

theorem prepare_holds {reader : ElementReader} {request : ImportRequest} {batch : ParsedBatch}
    {readings : List (Reading GroupRecord)} {p : Progress σ} {s' : σ}
    (h : Reads reader request.defaultOwner batch.serviceGroups p.registry readings s') :
    let staged := stageAll request (Registry.directoryIntegration p.registry) readings
      (batch.businessCards.map fun element => (reader.businessCard element).2)
    let outcome := PlanOutcome.decide staged.1
      ((p.log.records ++ staged.2).any ActionRecord.isError)
    ∃ q : Progress σ, prepare reader request batch p = (.ok (staged.1, outcome), q) ∧
      q.registry = s' ∧
      q.log.records = p.log.records ++ staged.2 ++ [⟨.null, outcome.note staged.1, none⟩] := by
  intro staged outcome
  have hstart : emit (.importStarted request.overwriteExisting) p =
      (.ok (), { p with events := p.events ++ [.importStarted request.overwriteExisting] }) := rfl
  obtain ⟨events, hread⟩ := yields_readBatch h
    { p with events := p.events ++ [.importStarted request.overwriteExisting] } rfl
  rw [prepare, Call.bind_of_ok hstart, Call.bind_of_ok hread, Call.bind_of_ok (plan_eq _ _)]
  exact ⟨_, rfl, rfl, rfl⟩

theorem import_halted {reader : ElementReader} {request : ImportRequest} {batch : ParsedBatch}
    {staged : StagedBatch} {outcome : PlanOutcome} {p q : Progress σ}
    (hprepare : prepare reader request batch p = (.ok (staged, outcome), q))
    (houtcome : outcome ≠ .proceed) :
    ∃ q' : Progress σ, importBatch reader request batch p = (.ok (), q') ∧
      q'.registry = q.registry ∧ q'.log = q.log := by
  rw [importBatch, Call.bind_of_ok hprepare]
  simp only [complete, if_neg houtcome]
  exact ⟨_, rfl, rfl, rfl⟩

theorem import_proceeds {reader : ElementReader} {request : ImportRequest} {batch : ParsedBatch}
    {staged : StagedBatch} {report : CommitReport} {records : List ActionRecord} {p q : Progress σ}
    {s' : σ} (hprepare : prepare reader request batch p = (.ok (staged, .proceed), q))
    (hcommit : Yields (commit staged) q.registry report records s') :
    ∃ q' : Progress σ, importBatch reader request batch p = (.ok (), q') ∧
      q'.registry = s' ∧ q'.log.records = q.log.records ++ records := by
  obtain ⟨events, hrun⟩ := hcommit q rfl
  rw [importBatch, Call.bind_of_ok hprepare]
  simp only [complete, if_true]
  rw [Call.bind_of_ok hrun]
  exact ⟨_, rfl, rfl, rfl⟩

/-- Over a registry whose lookups of users do not fail and leave its content in view as it is, an import
that starts with an empty log proceeds exactly if something is staged, every group element has a record,
the admitted records have distinct keys, and, if cards are taken, every card element has a card whose
group is stored or staged and the admitted cards have distinct keys. If it does not proceed, it comes to
its end without any mutation. -/
theorem import_all_or_nothing {γ : Type} {view : σ → γ}
    (hlookup : ∀ (id : Text) (s : σ), ∃ (user? : Option User) (s' : σ),
      Registry.lookupUser id s = (.ok user?, s') ∧ view s' = view s)
    (reader : ElementReader) (request : ImportRequest) (batch : ParsedBatch)
    (p : Progress (Traced σ)) (hlog : p.log.records = []) :
    ∃ (readings : List (Reading GroupRecord)) (staged : StagedBatch) (outcome : PlanOutcome)
      (q : Progress (Traced σ)),
      Reads reader request.defaultOwner batch.serviceGroups p.registry readings q.registry ∧
      prepare reader request batch p = (.ok (staged, outcome), q) ∧
      q.registry.calls = p.registry.calls ∧
      view q.registry.content = view p.registry.content ∧
      (outcome = .proceed ↔ staged.isEmpty = false ∧
        (∀ reading ∈ readings, ∃ record, reading.1 = .ok record) ∧
        (request.admittedKeys (successes (readings.map (·.1)))).Nodup ∧
        (Registry.directoryIntegration p.registry = true →
          (∀ element ∈ batch.businessCards, ∃ card,
            (reader.businessCard element).2 = .ok card ∧ request.knowsGroup staged card = true) ∧
          (request.admittedCardKeys (successes
            (batch.businessCards.map fun element => (reader.businessCard element).2))).Nodup)) ∧
      (outcome ≠ .proceed → ∃ q' : Progress (Traced σ),
        importBatch reader request batch p = (.ok (), q') ∧
        q'.registry.calls = p.registry.calls ∧
        view q'.registry.content = view p.registry.content) := by
  have htraced (id : Text) (s : Traced σ) : ∃ (user? : Option User) (s' : Traced σ),
      Registry.lookupUser id s = (.ok user?, s') ∧
        (view s'.content, s'.calls) = (view s.content, s.calls) := by
    obtain ⟨user?, content, h, hview⟩ := hlookup id s.content
    refine ⟨user?, ⟨content, s.calls⟩, ?_, by rw [hview]⟩
    change Traced.inside (Registry.lookupUser id) s = _
    rw [Traced.inside, h]
  obtain ⟨readings, s', hreads, hleft⟩ := Reads.exists_of_lookups htraced reader
    request.defaultOwner batch.serviceGroups p.registry
  obtain ⟨hview, hcalls⟩ := Prod.mk.inj hleft
  obtain ⟨q, hprepare, rfl, -⟩ := prepare_holds hreads
  refine ⟨readings, _, _, q, hreads, hprepare, hcalls, hview, ?_, ?_⟩
  · rw [PlanOutcome.decide_eq_proceed_iff, hlog, List.nil_append, stageAll_hasError,
      List.forall_mem_map]
  · intro hhalted
    obtain ⟨q', himport, hregistry, -⟩ := import_halted hprepare hhalted
    rw [← hregistry] at hcalls hview
    exact ⟨q', himport, hcalls, hview⟩

/-- A group that could be created is not, for the sake of the element beside it that is no object. -/
theorem import_all_or_nothing_unreadable :
    let group : ServiceGroup := ⟨"a", "u", none⟩
    let element : Json := .object [("participant_id", .string "a"), ("owner_id", .string "u")]
    let request : ImportRequest := { defaultOwner := ⟨"admin", "Admin"⟩ }
    let s : Store := { users := [⟨"u", "U"⟩] }
    let p : Progress (Traced Store) := { registry := ⟨s, []⟩ }
    (∀ (id : Text) (s : Store), ∃ (user? : Option User) (s' : Store),
      Registry.lookupUser id s = (.ok user?, s') ∧ s' = s) ∧ p.log.records = [] ∧
      ∃ (staged : StagedBatch) (outcome : PlanOutcome) (q q' : Progress (Traced Store)),
        prepare Document.elementReader request ⟨[element, .null], []⟩ p = (.ok (staged, outcome), q) ∧
        staged.groups.map (·.record.group) = [group] ∧ outcome ≠ .proceed ∧
        importBatch Document.elementReader request ⟨[element, .null], []⟩ p = (.ok (), q') ∧
        q'.registry.calls = [] ∧ q'.registry.content = s := by
  intro group element request s p
  have hlookup (id : Text) (s : Store) : ∃ (user? : Option User) (s' : Store),
      Registry.lookupUser id s = (.ok user?, s') ∧ s' = s :=
    ⟨Table.find? id s.users, s, rfl, rfl⟩
  refine ⟨hlookup, rfl, ?_⟩
  obtain ⟨readings, staged, outcome, q, hreads, hprepare, -, -, hproceed, hhalted⟩ :=
    import_all_or_nothing hlookup Document.elementReader request ⟨[element, .null], []⟩ p rfl
  have houtcome : outcome ≠ .proceed := by
    intro h
    obtain ⟨-, hread, -⟩ := hproceed.mp h
    cases hreads with
    | cons first rest =>
      cases rest with
      | cons second rest =>
        cases second
        simp at hread
  obtain ⟨q', himport, hcalls, hcontent⟩ := hhalted houtcome
  refine ⟨staged, outcome, q, q', hprepare, ?_, houtcome, himport, hcalls, hcontent⟩
  have hgroups : ((prepare Document.elementReader request ⟨[element, .null], []⟩ p).1.toOption.map
      fun answer => answer.1.groups.map (·.record.group)) = some [group] := by decide +kernel
  rw [hprepare] at hgroups
  exact Option.some.inj hgroups

end Run

end ParticipantRegistry
