import ParticipantRegistry.CommandLine.Program
import ParticipantRegistry.Proofs.Application.Agreement
import ParticipantRegistry.Proofs.Application.HostExchange
import ParticipantRegistry.Proofs.Exchange.Ownership
import ParticipantRegistry.Proofs.Relational.AddedUsers

/-!
# Users that are created

The program refuses a blank id and creates a user under any other exactly as it is given. The owner id of an
element is trimmed before the user is looked for, so the user owns what names its id exactly if the id has
no blanks at its ends.
-/

namespace ParticipantRegistry

open CommandLine (Command)
open Document (HasText)

def Store.withUser (user : User) (t : Store) : Store := { t with users := t.users ++ [user] }

namespace Session.Mirrors

variable {users : List User} {s : Session} {t : Store} {user : User}

theorem commit_new_user (h : s.Mirrors users t) (hid : user.id.isUnicode = true)
    (hname : user.displayName.isUnicode = true) (hnew : Table.hasKey user.id t.users = false) :
    ∃ s' : Session,
      commit { s with pending := [⟨.string user.id, .string user.displayName⟩] } = (.ok (), s') ∧
        s'.Mirrors (users ++ [user]) (t.withUser user) := by
  refine ⟨_, Session.commit_new_user h.usable h.refusal h.barrier h.shows.users hid hname hnew, ?_⟩
  exact
    { pending := rfl
      usable := rfl
      refusal := h.refusal
      barrier := h.barrier
      registrar := h.registrar
      directoryIntegration := h.directoryIntegration
      users := congrArg (· ++ [user]) h.users
      failing := h.failing
      unchanging := h.unchanging
      shows := ⟨rfl, h.shows.groups, h.shows.endpoints, h.shows.redirects, h.shows.businessCards,
        h.shows.textual⟩
      storage := rfl }

theorem createUser (h : s.Mirrors users t) (hid : user.id.isUnicode = true)
    (hname : user.displayName.isUnicode = true) (hnew : Table.hasKey user.id t.users = false)
    (journal : List Occurrence) :
    let entry : NewUser := ⟨.string user.id, .string user.displayName⟩
    ∃ s' : Session,
      (do
        if (← Task.call (Session.userBy entry.id)).isSome then throw (.userExists entry.id)
        Task.call (Session.addUser entry)
        Task.call Session.commit : Task Session Unit) ⟨s, journal⟩ = (.ok (), ⟨s', journal⟩) ∧
      s'.Mirrors (users ++ [user]) (t.withUser user) := by
  intro entry
  obtain ⟨s', hcommit, hm⟩ := h.begun.commit_new_user hid hname hnew
  refine ⟨s', ?_, hm⟩
  have huser := h.userBy hid
  rw [Table.hasKey_eq_isSome, Option.isSome_eq_false_iff, Option.isNone_iff_eq_none] at hnew
  rw [hnew] at huser
  have hadd : addUser entry s.begun = (.ok (), { s.begun with pending := [entry] }) := by
    change (Except.ok (), { s.begun with pending := s.begun.pending ++ [entry] }) = _
    rw [h.begun.pending]
    rfl
  exact (Task.bind_of_ok (Task.call_of_ok huser journal)).trans
    ((Task.bind_of_ok (Task.call_of_ok hadd journal)).trans (Task.call_of_ok hcommit journal))

end Session.Mirrors

namespace Host

variable {h opened : Host} {policy : Policy} {engine : Nat} {t : Store}

theorem OpensTo.createUser_eq (hp : h.surroundings.environment.policy = .ok policy)
    (hr : h.OpensTo none policy opened engine t) (user : User) (hid : user.id.isUnicode = true)
    (hname : user.displayName.isUnicode = true) (hnew : Table.hasKey user.id t.users = false)
    (journal : List Occurrence) :
    ∃ (created : Host) (journal' : List Occurrence),
      createUser ⟨.string user.id, .string user.displayName⟩ ⟨h, journal⟩ =
        (.ok (), ⟨created, journal'⟩) ∧ created.Shows engine (t.withUser user) := by
  let given : Store := t.given policy.directoryIntegration
  have hwork (s : Session) (hm : s.Mirrors t.users given) := hm.createUser hid hname hnew journal
  obtain ⟨_, created, _, journal', hunit, hshows, -, -, rfl⟩ :=
    hr.withUnit_eq (fun (_ : Unit) t' => t' = given.withUser user) fun s hm =>
      (hwork s hm).elim fun s' hdone => ⟨(), s', _, _, journal, hdone.1, hdone.2, rfl⟩
  obtain ⟨db, hdb, hdbShows⟩ := hshows.database
  have hpolicy : h.policyOf {} = .ok policy := hp
  refine ⟨created, _, (Task.bind_of_ok (policy_eq hpolicy journal)).trans (Task.bind_of_ok hunit),
    hshows.started, hshows.factory, db, hdb, ?_⟩
  exact Database.Shows.given_iff.mp hdbShows

end Host

namespace CommandLine

variable {h opened : Host} {arguments : List Text} {id name : Text}

theorem run_createUser (hread : Command.read arguments = .ok (.createUser id name))
    (journal : List Occurrence) :
    run arguments ⟨h, journal⟩ =
      if id.isBlank then (.ok (some 2), ⟨h, journal ++ [.argumentsRefused .blankUserId]⟩)
      else (Command.createUser id name).carryOut ⟨h, journal⟩ := by
  have hcontent : (Task.content : Task Host Host) ⟨h, journal⟩ = (.ok h, ⟨h, journal⟩) := rfl
  rw [run, hread]
  simp only
  rw [Task.bind_of_ok hcontent, Command.objection?]
  split <;> rfl

theorem run_createUser_new {policy : Policy} {engine : Nat} {t : Store}
    (hread : Command.read arguments = .ok (.createUser id name)) (haccepted : id.isBlank = false)
    (hp : h.surroundings.environment.policy = .ok policy)
    (hr : h.OpensTo none policy opened engine t) (hid : id.isUnicode = true)
    (hname : name.isUnicode = true) (hnew : Table.hasKey id t.users = false)
    (journal : List Occurrence) :
    ∃ (created : Host) (journal' : List Occurrence),
      run arguments ⟨h, journal⟩ = (.ok none, ⟨created, journal'⟩) ∧
        created.Shows engine (t.withUser ⟨id, name⟩) := by
  obtain ⟨created, journal', hcreate, hshows⟩ :=
    Host.OpensTo.createUser_eq hp hr ⟨id, name⟩ hid hname hnew journal
  let told : List Occurrence := journal' ++ [.userSummary id]
  have hperform : (Command.createUser id name).perform ⟨h, journal⟩ =
      (.ok none, ⟨created, told⟩) := Task.bind_of_ok hcreate
  refine ⟨created, told, ?_, hshows⟩
  rw [run_createUser hread, haccepted, if_neg Bool.false_ne_true, Command.carryOut, hperform]

end CommandLine

namespace Store

variable {s : Store} {request : ImportRequest} {batch : ParsedBatch} {ms : Json.Members}

theorem Accepts.named (h : s.Accepts request batch) (he : .object ms ∈ batch.serviceGroups)
    {id participantId : Text} (howner : ms.lookup ("owner_id" : Text) = some (.string id))
    (hparticipant : HasText ms "participant_id" participantId) :
    ∃ parsed : Document.GroupElement, (Document.checkGroup (.object ms)).result = .ok parsed ∧
      parsed.participantId = participantId ∧ parsed.ownerId = id.trim := by
  obtain ⟨parsed, hparsed, -, -⟩ := h.reading he
  obtain ⟨hnamed, howned⟩ := Document.ensures_named ms parsed hparsed
  exact ⟨parsed, hparsed, hnamed.unique hparticipant, howned.eq_trim howner⟩

end Store

/-- A user is created under every id that is not blank, exactly as the id is given. An element that names
the id as the owner is imported for the user whose id is the trimmed one, and else for the default owner with
a warning. So the group is owned by the created user without a warning exactly if the id has no blanks at
its ends; then an export and a further import keep the owner. -/
theorem created_user_owns {arguments : List Text} {id name : Text}
    (hread : CommandLine.Command.read arguments = .ok (.createUser id name)) :
    (∀ (h : Host) (journal : List Occurrence), id.isBlank = true →
      CommandLine.run arguments ⟨h, journal⟩ =
        (.ok (some 2), ⟨h, journal ++ [.argumentsRefused .blankUserId]⟩)) ∧
    (∀ (h opened : Host) (policy : Policy) (engine : Nat) (t : Store) (journal : List Occurrence),
      id.isBlank = false → id.isUnicode = true → name.isUnicode = true →
      h.surroundings.environment.policy = .ok policy → h.OpensTo none policy opened engine t →
      Table.hasKey id t.users = false →
      ∃ (created : Host) (journal' : List Occurrence),
        CommandLine.run arguments ⟨h, journal⟩ = (.ok none, ⟨created, journal'⟩) ∧
        created.Shows engine (t.withUser ⟨id, name⟩)) ∧
    ∀ (s : Store) (request : ImportRequest) (batch : ParsedBatch) (correlationId : Json)
      (ms : Json.Members) (participantId : Text),
      s.Intact → Table.hasKey id s.users = true → request.Snapshot s → s.Accepts request batch →
      .object ms ∈ batch.serviceGroups → ms.lookup ("owner_id" : Text) = some (.string id) →
      HasText ms "participant_id" participantId →
      (request.overwriteExisting = true ∨ s.hasGroup participantId = false) →
      ∃ (q : Progress Store) (group : ServiceGroup),
        Run.importBatch Document.elementReader request batch
          { registry := s, log := .named correlationId } = (.ok (), q) ∧
        q.log.hasError = false ∧ q.registry.Intact ∧ q.registry.users = s.users ∧
        (q.registry.holding participantId).group = some group ∧
        group.ownerId = (s.ownerOf request id.trim).id ∧
        q.log.replacesOwner participantId = !Table.hasKey id.trim s.users ∧
        (group.ownerId = id ∧ q.log.replacesOwner participantId = false ↔ id.trim = id) ∧
        (id.trim = id → (Json.object ms).isEncodable = true →
          ∃ again, q.registry.ExportsTo group again ∧ again.Restores group) ∧
        ∀ session : Session, session.Mirrors s.users s → batch.Encodable →
          request.defaultOwner ∈ s.users → request.defaultOwner.id.isUnicode = true →
          ∃ p : Progress Session,
            Run.importBatch Document.elementReader request batch
              { registry := session, log := .named correlationId } = (.ok (), p) ∧
            p.log.told = q.log.told ∧ p.registry.Mirrors s.users q.registry := by
  refine ⟨fun h journal hblank => ?_, fun h opened policy engine t journal haccepted hid hname hp hr
    hnew => CommandLine.run_createUser_new hread haccepted hp hr hid hname hnew journal, ?_⟩
  · rw [CommandLine.run_createUser hread, if_pos hblank]
  intro s request batch correlationId ms participantId hs hknown hsnapshot haccepts he howner
    hparticipant hadmitted
  obtain ⟨parsed, hparsed, rfl, hnamed⟩ := haccepts.named he howner hparticipant
  obtain ⟨q, himport, herror, husers, hintact, howners⟩ :=
    hs.import_owners (p := { registry := s, log := .named correlationId }) hsnapshot rfl haccepts
  obtain ⟨hheld, hreplaced⟩ := howners ms parsed he hparsed hadmitted
  rw [hnamed] at hheld hreplaced
  refine ⟨q, _, himport, herror, hintact, husers, hheld.group, rfl, hreplaced, ?_, ?_, ?_⟩
  · rw [hreplaced]
    constructor
    · rintro ⟨hsame, hfound⟩
      exact (s.ownerOf_id request (Bool.not_eq_eq_eq_not.mp hfound)).symm.trans hsame
    · intro htrimmed
      rw [htrimmed, hknown]
      exact ⟨s.ownerOf_id request hknown, rfl⟩
  · intro htrimmed hencodable
    rw [htrimmed] at hheld hnamed ⊢
    have hsame : (s.ownerOf request id).id = id := s.ownerOf_id request hknown
    have hnormal := hheld.exported_normal (Document.ensures_checkGroup hencodable parsed hparsed)
      (hsame.trans hnamed.symm)
    exact ⟨_, Store.exportsTo_alone hintact.unhindered.failing hnormal, Store.restores_alone hnormal⟩
  · intro session hm hbatch hdefault hdefaultId
    obtain ⟨p, q', hp, hq', htold, hmirrors⟩ :=
      hm.import_agrees hbatch hdefaultId hdefault (.named correlationId)
    obtain rfl : q = q' := (Prod.mk.inj (himport.symm.trans hq')).2
    exact ⟨p, hp, htold, hmirrors⟩

theorem created_user_owns_imported :
    let arguments : List Text := ["user", "create", "--id", "admin", "--name", "Admin"]
    let h : Host :=
      { surroundings := {}
        databases :=
          { adapter :=
              { engines := [.memory (.holding Database.fresh) 0], managed := some 0
                factory := some 0 }
            disk := { workingDirectory := ["w"] } } }
    let s : Store := ({} : Store).withUser ⟨"admin", "Admin"⟩
    let ms : Json.Members := [("participant_id", .string "a"), ("owner_id", .string "admin")]
    let request : ImportRequest := { defaultOwner := ⟨"root", "Root"⟩ }
    ∃ (created : Host) (journal : List Occurrence) (q : Progress Store) (group : ServiceGroup)
      (again : ParsedBatch),
      CommandLine.run arguments ⟨h, []⟩ = (.ok none, ⟨created, journal⟩) ∧ created.Shows 0 s ∧
      Run.importBatch Document.elementReader request ⟨[.object ms], []⟩
        { registry := s, log := .named .null } = (.ok (), q) ∧
      (q.registry.holding "a").group = some group ∧ group.ownerId = "admin" ∧
      q.log.replacesOwner "a" = false ∧ q.registry.ExportsTo group again ∧ again.Restores group := by
  intro arguments h s ms request
  have hread : CommandLine.Command.read arguments = .ok (.createUser "admin" "Admin") := by
    decide +kernel
  obtain ⟨-, hcreates, himports⟩ := created_user_owns hread
  have hshows : h.Shows 0 {} :=
    ⟨rfl, rfl, Database.fresh, .memory rfl, rfl, rfl, rfl, rfl, ⟨[], rfl, .nil⟩, List.forall_mem_nil _⟩
  obtain ⟨created, journal, hrun, hcreated⟩ := hcreates h h {} 0 {} [] (by decide) (by decide)
    (by decide) rfl ⟨rfl, fun _ => rfl, hshows⟩ rfl
  have hintact : s.Intact :=
    { owned := ⟨List.forall_mem_nil _, List.forall_mem_nil _, List.forall_mem_nil _⟩
      distinct := ⟨List.nodup_nil, List.nodup_nil, List.nodup_nil, List.nodup_nil⟩
      unhindered := ⟨rfl, rfl⟩ }
  have haccepts : s.Accepts request ⟨[.object ms], []⟩ := by decide +kernel
  obtain ⟨q, group, himport, -, -, -, hgroup, -, -, howns, hagain, -⟩ :=
    himports s request ⟨[.object ms], []⟩ .null ms "a" hintact rfl ⟨rfl, rfl⟩ haccepts
      List.mem_cons_self rfl ⟨"a", rfl, rfl, nofun⟩ (.inr rfl)
  obtain ⟨howner, hreplaced⟩ := howns.mpr rfl
  obtain ⟨again, hexports, hrestores⟩ := hagain rfl (by decide)
  exact ⟨created, journal, q, group, again, hrun, hcreated, himport, hgroup, howner, hreplaced,
    hexports, hrestores⟩

/-- A user that is created under an id with blanks at its ends is not the owner of what names that id. -/
theorem created_user_replaced : ¬∀ (arguments : List Text) (id name : Text) (s : Store)
    (request : ImportRequest) (batch : ParsedBatch) (ms : Json.Members) (participantId : Text),
    CommandLine.Command.read arguments = .ok (.createUser id name) → id.isBlank = false →
    s.Intact → Table.hasKey id s.users = true → request.Snapshot s → s.Accepts request batch →
    .object ms ∈ batch.serviceGroups → ms.lookup ("owner_id" : Text) = some (.string id) →
    HasText ms "participant_id" participantId → s.hasGroup participantId = false →
    ∃ (q : Progress Store) (group : ServiceGroup),
      Run.importBatch Document.elementReader request batch
        { registry := s, log := .named .null } = (.ok (), q) ∧
      (q.registry.holding participantId).group = some group ∧ group.ownerId = id ∧
      q.log.replacesOwner participantId = false := by
  intro hclaim
  let s : Store := { users := [⟨" admin ", "Admin"⟩, ⟨"root", "Root"⟩] }
  let ms : Json.Members := [("participant_id", .string "a"), ("owner_id", .string " admin ")]
  let request : ImportRequest := { defaultOwner := ⟨"root", "Root"⟩ }
  have hread : CommandLine.Command.read ["user", "create", "--id", " admin ", "--name", "Admin"] =
      .ok (.createUser " admin " "Admin") := by
    decide +kernel
  have hintact : s.Intact :=
    { owned := ⟨List.forall_mem_nil _, List.forall_mem_nil _, List.forall_mem_nil _⟩
      distinct := ⟨List.nodup_nil, List.nodup_nil, List.nodup_nil, List.nodup_nil⟩
      unhindered := ⟨rfl, rfl⟩ }
  have haccepts : s.Accepts request ⟨[.object ms], []⟩ := by decide +kernel
  obtain ⟨q, group, himport, -, -, hreplaced⟩ :=
    hclaim _ _ _ s request ⟨[.object ms], []⟩ ms "a" hread (by decide) hintact rfl ⟨rfl, rfl⟩ haccepts
      List.mem_cons_self rfl ⟨"a", rfl, rfl, nofun⟩ rfl
  have hwarned : (Run.importBatch Document.elementReader request ⟨[.object ms], []⟩
      { registry := s, log := .named .null }).2.log.replacesOwner "a" = true := by
    decide +kernel
  rw [himport] at hwarned
  exact Bool.false_ne_true (hreplaced.symm.trans hwarned)

end ParticipantRegistry
