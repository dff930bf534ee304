import ParticipantRegistry.Proofs.Exchange.CardCascade

/-!
# Registrations over many imports

An import registers a participant outside when it creates a group for which none was stored, and never
takes a registration back. So over imports that follow each other a participant is registered again
exactly as often as one of them lost the group: as it deleted the group in order to overwrite it, and
then could not create it.
-/

namespace ParticipantRegistry

namespace Mutation

def isRegistration : Mutation → Bool
  | .createGroup _ register => register
  | _ => false

def isDeprovisioning : Mutation → Bool
  | .deleteGroup _ deprovision => deprovision
  | _ => false

end Mutation

namespace Turn

def createsGroup (participantId : Text) (turn : Turn) : Bool :=
  turn.mutation.participantId = participantId &&
    (turn.isChange && turn.mutation.operation = .createGroup)

def registers (participantId : Text) (turn : Turn) : Bool :=
  turn.createsGroup participantId && turn.mutation.isRegistration

theorem group_balance {hindrance : Hindrance} {h : Holding} {turn : Turn}
    (hreply : turn.reply = turn.mutation.answer hindrance h) :
    h.group.isSome.toNat + (if turn.isChange && turn.mutation.operation = .createGroup then 1 else 0) =
      (turn.applied h).group.isSome.toNat +
        (if turn.isChange && turn.mutation.operation = .deleteGroup then 1 else 0) := by
  have hchange : turn.isChange = (turn.mutation.answer hindrance h).isChange := by
    rw [Turn.isChange, hreply]
  rw [Turn.applied]
  cases hc : turn.isChange with
  | false => rfl
  | true =>
    rw [hc, Mutation.answer_isChange] at hchange
    rw [if_pos rfl]
    cases hm : turn.mutation <;> rw [hm] at hchange <;>
      simp_all [Mutation.operation, Mutation.effect]

end Turn

/-- Creations and deletions of a group tell whether it is there in the end. -/
theorem Holding.Dialogue.group_balance {hindrance : Hindrance} {h h' : Holding} {turns : List Turn}
    (hd : Holding.Dialogue hindrance h turns h') :
    h.group.isSome.toNat +
        turns.countP (fun t => t.isChange && t.mutation.operation = .createGroup) =
      h'.group.isSome.toNat +
        turns.countP (fun t => t.isChange && t.mutation.operation = .deleteGroup) := by
  induction hd with
  | nil h => rfl
  | @cons h h' turn turns first rest ih =>
    have hturn := Turn.group_balance first
    rw [List.countP_cons, List.countP_cons]
    omega

theorem Store.group_balance {s s' : Store} {turns : List Turn} (hd : Dialogue s turns s')
    (hcheck : ∀ t ∈ turns, t.mutation.check = .ok ()) (participantId : Text) :
    (s.hasGroup participantId).toNat + turns.countP (Turn.createsGroup participantId) =
      (s'.hasGroup participantId).toNat + turns.countP (Turn.deletesGroup participantId) := by
  have hfilter (p : Turn → Bool) :
      (turns.filter fun t => t.mutation.participantId = participantId).countP p =
        turns.countP fun t => t.mutation.participantId = participantId && p t := by
    rw [List.countP_filter]
    exact List.countP_congr fun t _ => by rw [Bool.and_comm]
  have hbalance := ((Store.dialogue_holding hd hcheck).2 participantId).group_balance
  rw [hfilter, hfilter] at hbalance
  rw [Store.hasGroup_eq, Store.hasGroup_eq]
  exact hbalance

namespace StagedBatch.AsksFor

variable {staged : StagedBatch} {r : Request}

theorem creation_of_operation (h : staged.AsksFor r) (hop : r.mutation.operation = .createGroup) :
    ∃ g ∈ staged.groups, r = g.creation := by
  cases h with
  | groupDeletion hg => cases hop
  | creation hg => exact ⟨_, hg, rfl⟩
  | child hg hr =>
    rcases StagedGroup.mem_children hr with ⟨e, hm⟩ | ⟨redirect, hm⟩ <;> rw [hm] at hop <;> cases hop
  | cardDeletion hc => cases hop
  | card hc => cases hop

theorem not_isDeprovisioning (h : staged.AsksFor r) : r.mutation.isDeprovisioning = false := by
  cases h with
  | child hg hr =>
    rcases StagedGroup.mem_children hr with ⟨e, hm⟩ | ⟨redirect, hm⟩ <;> rw [hm] <;> rfl
  | _ => rfl

end StagedBatch.AsksFor

theorem Store.isRegistration_of_staged {s : Store} {request : ImportRequest}
    (hs : request.Snapshot s) {batch : ParsedBatch} {g : StagedGroup}
    (hg : g ∈ (s.stage request batch).1.groups) :
    g.creation.mutation.isRegistration = !s.hasGroup g.participantId := by
  have hfind : Table.find? g.participantId (s.stage request batch).1.groups = some g :=
    (Table.find?_eq_some_iff (s.stage_wellFormed request batch).groups).mpr ⟨hg, rfl⟩
  have hshare := stageAll_share_group request s.directoryIntegration
    (batch.serviceGroups.map fun e =>
      s.reading request.defaultOwner (Document.elementReader.serviceGroup e).2)
    (batch.businessCards.map fun e => (Document.elementReader.businessCard e).2) g.participantId
  obtain ⟨record, -, hstaged⟩ := Option.map_eq_some_iff.mp (hshare.symm.trans hfind)
  have hstored := hs.hasGroup_eq g.participantId
  rw [← Store.hasGroup_eq] at hstored
  rw [← hstored, ← hstaged]
  change (!StagedGroup.isOverwrite (request.stagedGroup record)) = _
  cases hk : request.hasGroup record.group.participantId <;>
    simp [StagedGroup.isOverwrite, ImportRequest.stagedGroup, StagedGroup.participantId, hk]

section Commit

variable {turns : CommitTurns} {s : Store} {request : ImportRequest} {batch : ParsedBatch}

/-- The turn of a commit that creates a group registers the participant exactly if none was stored. -/
theorem CommitTurns.CarryOut.registers_eq (hs : request.Snapshot s)
    (hcarry : turns.CarryOut (s.stage request batch).1) {t : Turn} (ht : t ∈ turns.all)
    (participantId : Text) :
    t.registers participantId = (t.createsGroup participantId && !s.hasGroup participantId) := by
  rw [Turn.registers]
  cases hcreates : t.createsGroup participantId with
  | false => rfl
  | true =>
    simp only [Turn.createsGroup, Bool.and_eq_true, decide_eq_true_eq] at hcreates
    have hasks := StagedBatch.asksFor_of_mem (hcarry.mem_requests t ht)
    obtain ⟨g, hg, hr⟩ := hasks.creation_of_operation hcreates.2.2
    have hk : g.participantId = participantId := by
      rw [← hcreates.1, hr]
      rfl
    rw [hr, Store.isRegistration_of_staged hs hg, hk]

theorem CommitTurns.CarryOut.stored_of_deletesGroup (hs : request.Snapshot s)
    (hcarry : turns.CarryOut (s.stage request batch).1) {t : Turn} (ht : t ∈ turns.all)
    {participantId : Text} (hdeletes : t.deletesGroup participantId = true) :
    request.overwriteExisting = true ∧ s.hasGroup participantId = true := by
  simp only [Turn.deletesGroup, Bool.and_eq_true, decide_eq_true_eq] at hdeletes
  have hasks := StagedBatch.asksFor_of_mem (hcarry.mem_requests t ht)
  obtain ⟨group, hg, hr⟩ := hasks.deletion hdeletes.2.2
  obtain ⟨ho, hstored, -⟩ := Store.overwritten_of_deletion hs hg
  have hk : group.participantId = participantId := by
    rw [← hdeletes.1, hr]
    rfl
  rw [Store.hasGroup_eq, ← hk]
  exact ⟨ho, hstored⟩

theorem CommitTurns.CarryOut.registrations {t t' : Store} (hs : request.Snapshot s)
    (hcarry : turns.CarryOut (s.stage request batch).1)
    (hd : Dialogue t turns.all t') {participantId : Text}
    (hstart : t.hasGroup participantId = s.hasGroup participantId) :
    turns.all.countP (Turn.registers participantId) =
        (!s.hasGroup participantId && t'.hasGroup participantId).toNat ∧
      ((s.hasGroup participantId && !t'.hasGroup participantId) = true →
        ∃ turn ∈ turns.all, turn.deletesGroup participantId = true) := by
  have hcheck : ∀ turn ∈ turns.all, turn.mutation.check = .ok () := fun turn ht =>
    ((s.stage_wellFormed request batch).requests _ (hcarry.mem_requests turn ht)).2
  have hbalance := Store.group_balance hd hcheck participantId
  have hcount : turns.all.countP (Turn.registers participantId) =
      turns.all.countP fun t => t.createsGroup participantId && !s.hasGroup participantId :=
    List.countP_congr fun t ht => by rw [hcarry.registers_eq hs ht participantId]
  rw [hstart] at hbalance
  cases hstored : s.hasGroup participantId with
  | true =>
    rw [hcount, hstored]
    refine ⟨by simp, fun hlost => ?_⟩
    have hnone : t'.hasGroup participantId = false := by simpa using hlost
    rw [hstored, hnone] at hbalance
    apply List.countP_pos_iff.mp
    change 1 + _ = 0 + _ at hbalance
    omega
  | false =>
    have hkept : turns.all.countP (Turn.deletesGroup participantId) = 0 := by
      rw [List.countP_eq_zero]
      intro t ht hdeletes
      rw [(hcarry.stored_of_deletesGroup hs ht hdeletes).2] at hstored
      cases hstored
    rw [hstored, hkept] at hbalance
    rw [hcount, hstored]
    simp only [Bool.not_false, Bool.and_true, Bool.true_and, Bool.false_and]
    refine ⟨?_, fun h => absurd h Bool.false_ne_true⟩
    simpa using hbalance

end Commit

structure ImportOrder where
  batch : ParsedBatch
  defaultOwner : User
  overwriteExisting : Bool
  correlationId : Json
  failing : List Trial
  unchanging : List Trial

/-- The import with the keys that the store has by then. -/
def ImportOrder.task (order : ImportOrder) (s : Store) : ImportTask (Traced Store) where
  batch := order.batch
  request :=
    { defaultOwner := order.defaultOwner, overwriteExisting := order.overwriteExisting
      existingGroupKeys := Table.keys s.groups
      existingBusinessCardKeys := Table.keys s.businessCards }
  reader := Document.elementReader
  start :=
    { registry := ⟨s.hindered order.failing order.unchanging, []⟩
      log := .named order.correlationId }

/-- An import that was run: what it asked for with the replies, and what it left. -/
structure ImportStep where
  order : ImportOrder
  before : Store
  turns : List Turn
  after : Store

namespace ImportStep

/-- The import came to its end with these turns. -/
structure Holds (step : ImportStep) : Prop where
  run : ∃ q : Progress (Traced Store), (step.order.task step.before).run = (.ok (), q) ∧
    q.registry.content = step.after ∧ q.registry.calls = step.turns.map (·.mutation)
  dialogue : Dialogue (step.before.hindered step.order.failing step.order.unchanging) step.turns
    step.after

/-- The import found the group of the participant and left none. -/
def losesGroup (participantId : Text) (step : ImportStep) : Bool :=
  step.before.hasGroup participantId && !step.after.hasGroup participantId

end ImportStep

/-- Imports one after another, each over the store that the one before left. -/
inductive Store.Imports : Store → List ImportStep → Store → Prop
  | nil (s : Store) : Imports s [] s
  | cons {step : ImportStep} {steps : List ImportStep} {s' : Store} (first : step.Holds)
      (rest : Imports step.after steps s') : Imports step.before (step :: steps) s'

/-- What holds of every import: nothing is deprovisioned, a participant is registered exactly if the
group is there afterwards and was not before, and a group is lost only by overwriting. -/
structure ImportStep.Registers (step : ImportStep) : Prop where
  holds : step.Holds
  provisioned : ∀ t ∈ step.turns, t.mutation.isDeprovisioning = false
  registrations : ∀ participantId, step.turns.countP (Turn.registers participantId) =
    (!step.before.hasGroup participantId && step.after.hasGroup participantId).toNat
  losses : ∀ participantId, step.losesGroup participantId = true →
    step.order.overwriteExisting = true ∧
      ∃ t ∈ step.turns, t.deletesGroup participantId = true

theorem ImportOrder.exists_step (order : ImportOrder) (s : Store) :
    ∃ step : ImportStep, step.order = order ∧ step.before = s ∧ step.Registers := by
  let request := (order.task s).request
  have hs : request.Snapshot s := ⟨rfl, rfl⟩
  obtain ⟨r, q, -, -, himport, hhalted, hproceeded⟩ := Traced.shows.import_ends request order.batch
    (order.task s).start
  by_cases houtcome : PlanOutcome.decide (s.stage request order.batch).1
      (([] ++ (s.stage request order.batch).2).any ActionRecord.isError) = .proceed
  · obtain ⟨turns, hcarry, hd, -⟩ := hproceeded houtcome
    obtain ⟨hdialogue, hcalls⟩ := Traced.dialogue_iff.mp hd
    have hstart (k : Text) :
        (s.hindered order.failing order.unchanging).hasGroup k = s.hasGroup k := rfl
    have hregistrations (k : Text) := hcarry.registrations hs hdialogue (hstart k)
    refine ⟨⟨order, s, turns.all, q.registry.content⟩, rfl, rfl,
      ⟨⟨q, himport, rfl, hcalls⟩, hdialogue⟩, fun t ht => ?_, fun k => (hregistrations k).1,
      fun k hlost => ?_⟩
    · exact (StagedBatch.asksFor_of_mem (hcarry.mem_requests t ht)).not_isDeprovisioning
    · obtain ⟨t, ht, hdeletes⟩ := (hregistrations k).2 hlost
      exact ⟨(hcarry.stored_of_deletesGroup hs ht hdeletes).1, t, ht, hdeletes⟩
  · obtain ⟨hregistry, -⟩ := hhalted houtcome
    refine ⟨⟨order, s, [], s.hindered order.failing order.unchanging⟩, rfl, rfl,
      ⟨⟨q, himport, by rw [hregistry]; rfl, by rw [hregistry]; rfl⟩, .nil _⟩, by simp, fun k => ?_, fun k hlost => ?_⟩
    · change 0 = (!s.hasGroup k && s.hasGroup k).toNat
      rw [Bool.not_and_self]
      rfl
    · change (s.hasGroup k && !s.hasGroup k) = true at hlost
      rw [Bool.and_not_self] at hlost
      cases hlost

/-- However imports go, none of them asks for a registration to be taken back. A participant is
registered as often as the group comes to be there without having been there: once for every import that
lost it, and once more if it was not there at first and is there in the end. Only an import that deleted
the group in order to overwrite it loses it. -/
theorem registrations_match_losses (s : Store) (orders : List ImportOrder) :
    ∃ (steps : List ImportStep) (s' : Store),
      s.Imports steps s' ∧ steps.map (·.order) = orders ∧
      (∀ step ∈ steps, ∀ t ∈ step.turns, t.mutation.isDeprovisioning = false) ∧
      ∀ participantId,
        (s.hasGroup participantId).toNat +
            (steps.flatMap (·.turns)).countP (Turn.registers participantId) =
          (s'.hasGroup participantId).toNat +
            steps.countP (ImportStep.losesGroup participantId) ∧
        ∀ step ∈ steps, step.losesGroup participantId = true →
          step.order.overwriteExisting = true ∧
            ∃ t ∈ step.turns, t.deletesGroup participantId = true := by
  induction orders generalizing s with
  | nil => exact ⟨[], s, .nil s, rfl, by simp, fun k => ⟨rfl, by simp⟩⟩
  | cons order orders ih =>
    obtain ⟨step, rfl, rfl, hstep⟩ := order.exists_step s
    obtain ⟨steps, s', himports, rfl, hprovisioned, hcounts⟩ := ih step.after
    refine ⟨step :: steps, s', .cons hstep.holds himports, rfl,
      List.forall_mem_cons.mpr ⟨hstep.provisioned, hprovisioned⟩, fun k => ?_⟩
    obtain ⟨hcount, hlosses⟩ := hcounts k
    refine ⟨?_, List.forall_mem_cons.mpr ⟨hstep.losses k, hlosses⟩⟩
    have hfirst : (step.before.hasGroup k).toNat + step.turns.countP (Turn.registers k) =
        (step.after.hasGroup k).toNat + (if step.losesGroup k then 1 else 0) := by
      rw [hstep.registrations k, ImportStep.losesGroup]
      cases step.before.hasGroup k <;> cases step.after.hasGroup k <;> rfl
    rw [List.flatMap_cons, List.countP_append, List.countP_cons]
    omega

/-- A group that is deleted in order to be overwritten, and cannot be created then, is registered a
second time when the next import creates it. -/
theorem registered_again :
    let users : List User := [⟨"u", "U"⟩]
    let group : ServiceGroup := ⟨"a", "u", none⟩
    let batch : ParsedBatch :=
      ⟨[.object [("participant_id", .string "a"), ("owner_id", .string "u")]], []⟩
    let order : ImportOrder :=
      { batch, defaultOwner := ⟨"u", "U"⟩, overwriteExisting := true, correlationId := .null
        failing := [], unchanging := [] }
    let orders : List ImportOrder := [order, { order with failing := [⟨.createGroup, "a"⟩] }, order]
    ∃ (steps : List ImportStep) (s' : Store),
      Store.Imports { users } steps s' ∧ steps.map (·.order) = orders ∧
      s'.groups = [group] ∧
      (steps.flatMap (·.turns)).countP (Turn.registers "a") = 2 := by
  intro users group batch order orders
  let failing : List Trial := [⟨.createGroup, "a"⟩]
  let created : Turn := ⟨⟨"a", .createGroup group true⟩, .ok true⟩
  let first : ImportStep := ⟨order, { users }, [created], { users, groups := [group] }⟩
  let second : ImportStep :=
    ⟨{ order with failing }, { users, groups := [group] },
      [⟨⟨"a", .deleteGroup "a" false⟩, .ok true⟩,
        ⟨⟨"a", .createGroup group false⟩, .error (.failed .createGroup "a")⟩],
      { users, failing }⟩
  let third : ImportStep := ⟨order, { users, failing }, [created], { users, groups := [group] }⟩
  have hfirst : first.Holds :=
    ⟨⟨_, Prod.ext (by decide +kernel) rfl, by decide +kernel, by decide +kernel⟩, .cons rfl (.nil _)⟩
  have hsecond : second.Holds :=
    ⟨⟨_, Prod.ext (by decide +kernel) rfl, by decide +kernel, by decide +kernel⟩, .cons rfl (.cons rfl (.nil _))⟩
  have hthird : third.Holds :=
    ⟨⟨_, Prod.ext (by decide +kernel) rfl, by decide +kernel, by decide +kernel⟩, .cons rfl (.nil _)⟩
  exact ⟨[first, second, third], third.after, .cons hfirst (.cons hsecond (.cons hthird (.nil _))),
    rfl, rfl, by decide⟩

end ParticipantRegistry
