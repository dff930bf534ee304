import ParticipantRegistry.CommandLine.Program
import ParticipantRegistry.Proofs.Application.HostImport

/-!
# What the exit status of an import says

Arguments that begin with the word for an import are refused, with the status 2, or name a file and what
is to be settled in place of the environment. A run that carries the import out ends with no status only
if a log without errors is returned, so that what is stored can be told from the status. The status 1
alone does not tell: it also stands for a log with errors that was recorded after rows had changed.
-/

namespace ParticipantRegistry.CommandLine

namespace Grammar

variable {g : Grammar} {t : Text} {arguments : List Text} {marked : List Argument}

theorem mark_of_no_dash (h : t.head? ≠ some ('-' : CodePoint)) : g.mark t = .ok .word := by
  rw [mark, if_pos h]

theorem markAll_cons {m : Mark} (ht : t ≠ "--") (hm : g.mark t = .ok m) :
    g.markAll (t :: arguments) = (g.markAll arguments).map (⟨t, m⟩ :: ·) := by
  rw [markAll, if_neg ht, hm]
  cases g.markAll arguments <;> rfl

theorem markAll_cons_word (h : t.head? ≠ some ('-' : CodePoint)) (arguments : List Text) :
    g.markAll (t :: arguments) = (g.markAll arguments).map (⟨t, .word⟩ :: ·) := by
  have hdashes : t ≠ "--" := by
    rintro rfl
    exact h rfl
  exact markAll_cons hdashes (mark_of_no_dash h)

theorem markAll_texts (h : g.markAll arguments = .ok marked) :
    marked.map (·.text) = arguments := by
  induction arguments generalizing marked with
  | nil =>
    cases h
    rfl
  | cons t arguments ih =>
    rw [markAll] at h
    split at h
    · cases h
      rw [List.map_cons, List.map_map]
      exact congrArg (t :: ·) (List.map_id _)
    · obtain ⟨_, -, h⟩ := Except.ok_of_bind h
      obtain ⟨rest, hrest, h⟩ := Except.ok_of_bind h
      cases h
      rw [List.map_cons, ih hrest]

end Grammar

theorem readImport_ok {before arguments : List Text} {command : Command}
    (h : readImport before arguments = .ok command) :
    ∃ file overwrite owner, command = .importFile file overwrite owner := by
  obtain ⟨⟨s, surplus⟩, -, h⟩ := Except.ok_of_bind h
  simp only at h
  split at h
  · rw [unlessSurplus] at h
    split at h <;> cases h
    exact ⟨_, _, _, rfl⟩
  · cases h

theorem Command.read_import (arguments : List Text) :
    Command.read ("import" :: arguments) =
      match Grammar.top.markAll arguments with
      | .error stop => .error stop.refusal
      | .ok _ => readImport [] arguments := by
  have hword : ("import" : Text).head? ≠ some ('-' : CodePoint) := by decide
  have hscan := congrArg (· >>= Grammar.sort .command)
    (Grammar.top.markAll_cons_word hword arguments)
  cases hmarked : Grammar.top.markAll arguments with
  | error stop =>
    rw [hmarked] at hscan
    rw [Command.read, scanBy, show Grammar.top.scan ("import" :: arguments) = .error stop from hscan]
    rfl
  | ok marked =>
    have htexts := Grammar.markAll_texts hmarked
    have hsorted : Grammar.sort .command (⟨"import", .word⟩ :: marked) =
        .ok { operand := some ("import" :: arguments) } := by
      rw [Grammar.sort, htexts]
    rw [hmarked] at hscan
    rw [Command.read, scanBy,
      show Grammar.top.scan ("import" :: arguments) = _ from hscan.trans hsorted]
    rfl

theorem Command.read_import_ok {arguments : List Text} {command : Command}
    (h : Command.read ("import" :: arguments) = .ok command) :
    ∃ file overwrite owner, command = .importFile file overwrite owner := by
  rw [Command.read_import] at h
  split at h
  · cases h
  · exact readImport_ok h

theorem Command.read_import_cases {arguments : List Text}
    (hhelp : Command.read ("import" :: arguments) ≠ .error .help) :
    Command.read ("import" :: arguments) = .error .usage ∨ ∃ file overwrite owner,
      Command.read ("import" :: arguments) = .ok (.importFile file overwrite owner) := by
  cases hread : Command.read ("import" :: arguments) with
  | error refusal =>
    cases refusal with
    | help => exact absurd hread hhelp
    | usage => exact .inl rfl
  | ok command =>
    obtain ⟨file, overwrite, owner, rfl⟩ := Command.read_import_ok hread
    exact .inr ⟨file, overwrite, owner, rfl⟩

def ownerOption : Option Text → List Text
  | some id => ["--default-owner", id]
  | none => []

def importOptions (overwrite : Bool) (owner : Option Text) : List Text :=
  if overwrite then "--overwrite" :: ownerOption owner else ownerOption owner

theorem Grammar.markAll_importOptions {g : Grammar} (m m' : Mark) (hm : g.mark "--overwrite" = .ok m)
    (hm' : g.mark "--default-owner" = .ok m') (overwrite : Bool) {owner : Option Text}
    (howner : ∀ id ∈ owner, id.head? ≠ some ('-' : CodePoint)) :
    let marked := owner.elim [] fun id => [⟨"--default-owner", m'⟩, ⟨id, .word⟩]
    g.markAll (importOptions overwrite owner) =
      .ok (if overwrite then ⟨"--overwrite", m⟩ :: marked else marked) := by
  intro marked
  have hoverwrite : ("--overwrite" : Text) ≠ "--" := by decide
  have hdefault : ("--default-owner" : Text) ≠ "--" := by decide
  have hmarked : g.markAll (ownerOption owner) = .ok marked := by
    cases owner with
    | none => rfl
    | some id =>
      rw [ownerOption, markAll_cons hdefault hm', markAll_cons_word (howner id rfl)]
      rfl
  cases overwrite with
  | false => exact hmarked
  | true =>
    rw [importOptions, if_pos rfl, markAll_cons hoverwrite hm, hmarked]
    rfl

/-- A file and the options after it are read as they are meant, if neither the file nor the id begins
with a dash. -/
theorem Command.read_import_options {file : Text} (hfile : file.head? ≠ some ('-' : CodePoint))
    (overwrite : Bool) {owner : Option Text}
    (howner : ∀ id ∈ owner, id.head? ≠ some ('-' : CodePoint)) :
    Command.read ("import" :: file :: importOptions overwrite owner) =
      .ok (.importFile (Path.read file) overwrite owner) := by
  have htop : Grammar.top.markAll (file :: importOptions overwrite owner) = _ :=
    (Grammar.markAll_cons_word hfile _).trans (congrArg (Except.map _)
      (Grammar.markAll_importOptions .unknownOption .unknownOption (by decide) (by decide) overwrite
        howner))
  have himporting : Grammar.importing.markAll (file :: importOptions overwrite owner) = _ :=
    (Grammar.markAll_cons_word hfile _).trans (congrArg (Except.map _)
      (Grammar.markAll_importOptions (.option (Grammar.flag "--overwrite" "overwrite") none)
        (.option (Grammar.valued "--default-owner" "default_owner") none) (by decide) (by decide)
        overwrite howner))
  rw [Command.read_import, htop, readImport, scanBy, Grammar.scan, himporting]
  cases overwrite <;> cases owner <;> rfl

section

variable {h : Host} {arguments : List Text} {file : Path} {overwrite : Bool} {owner : Option Text}

def optionsOf (overwrite : Bool) (owner : Option Text) : ExchangeOptions where
  overwriteExisting := if overwrite then some true else none
  defaultOwnerId := Json.ofText? owner

def isClean : Except Failure ActionLog → Bool
  | .ok log => !log.hasError
  | .error _ => false

theorem isClean_iff {answer : Except Failure ActionLog} :
    isClean answer = true ↔ ∃ log, answer = .ok log ∧ log.hasError = false := by
  cases answer <;> simp [isClean]

theorem carryOut_import (file : Path) (overwrite : Bool) (owner : Option Text)
    (journal : List Occurrence) :
    let imported := Host.importFile file.toText (optionsOf overwrite owner) ⟨h, journal⟩
    let result := Command.carryOut (.importFile file overwrite owner) ⟨h, journal⟩
    result.2.content = imported.2.content ∧
      result.1 = .ok (if isClean imported.1 then none else some 1) := by
  intro imported result
  have himported : Host.importFile file.toText (optionsOf overwrite owner) ⟨h, journal⟩ = imported := rfl
  obtain ⟨answer, d⟩ := imported
  have hresult : result = Command.carryOut (.importFile file overwrite owner) ⟨h, journal⟩ := rfl
  rw [hresult, Command.carryOut]
  cases answer with
  | error failure =>
    have hperform : Command.perform (.importFile file overwrite owner) ⟨h, journal⟩ =
        (.error failure, d) := Task.bind_of_error himported
    rw [hperform]
    exact ⟨rfl, rfl⟩
  | ok log =>
    let summarized : List Occurrence :=
      d.journal ++ [.importSummary (Command.severityCounts log)]
    cases hlog : log.hasError with
    | false =>
      have hperform : Command.perform (.importFile file overwrite owner) ⟨h, journal⟩ =
          (.ok none, ⟨d.content, summarized⟩) :=
        (Task.bind_of_ok himported).trans (by simp only [hlog]; rfl)
      rw [hperform, isClean, hlog]
      exact ⟨rfl, rfl⟩
    | true =>
      have hperform : Command.perform (.importFile file overwrite owner) ⟨h, journal⟩ =
          (.ok (some 1), ⟨d.content, summarized ++ [.importHadErrors file.toText]⟩) :=
        (Task.bind_of_ok himported).trans (by simp only [hlog]; rfl)
      rw [hperform, isClean, hlog]
      exact ⟨rfl, rfl⟩

theorem run_import (hread : Command.read arguments = .ok (.importFile file overwrite owner))
    (journal : List Occurrence) :
    let result := run arguments ⟨h, journal⟩
    h.disk.hasFile file ≠ .ok true ∧ result.2.content = h ∧
      (result.1 = .ok (some 2) ∨ ∃ failure, result.1 = .error failure) ∨
    result = Command.carryOut (.importFile file overwrite owner) ⟨h, journal⟩ := by
  intro result
  have hresult : run arguments ⟨h, journal⟩ = result := rfl
  have hcontent : (Task.content : Task Host Host) ⟨h, journal⟩ = (.ok h, ⟨h, journal⟩) := rfl
  have hpassed (hfile : h.disk.hasFile file = .ok true) :
      (Command.importFile file overwrite owner).objection? h.disk = .ok none := by
    rw [Command.objection?, hfile]
    rfl
  rw [run, hread] at hresult
  simp only at hresult
  rw [Task.bind_of_ok hcontent] at hresult
  rcases Task.ofExcept_bind_eq hresult with ⟨e, hobjection, hresult⟩ | ⟨objection?, hobjection, hresult⟩
  · rw [hresult]
    refine .inl ⟨fun hfile => ?_, rfl, .inr ⟨_, rfl⟩⟩
    cases (hpassed hfile).symm.trans hobjection
  · cases objection? with
    | none => exact .inr hresult.symm
    | some failure =>
      rw [← hresult]
      refine .inl ⟨fun hfile => ?_, rfl, .inl rfl⟩
      cases (hpassed hfile).symm.trans hobjection

theorem run_usage (hread : Command.read arguments = .error .usage) (journal : List Occurrence) :
    run arguments ⟨h, journal⟩ = (.ok (some 2), ⟨h, journal⟩) := by
  rw [run, hread]
  rfl

/-- A run leaves the host as it is and refuses, which it does only where the file is not there, or it ends
as the import does. -/
theorem run_import_cases (hread : Command.read arguments = .ok (.importFile file overwrite owner))
    (journal : List Occurrence) :
    let result := run arguments ⟨h, journal⟩
    let imported := Host.importFile file.toText (optionsOf overwrite owner) ⟨h, journal⟩
    h.disk.hasFile file ≠ .ok true ∧ result.2.content = h ∧
      (result.1 = .ok (some 2) ∨ ∃ failure, result.1 = .error failure) ∨
    result.2.content = imported.2.content ∧
      result.1 = .ok (if isClean imported.1 then none else some 1) := by
  intro result imported
  rcases run_import (h := h) hread journal with hrefused | hcarried
  · exact .inl hrefused
  · refine .inr ?_
    rw [show result = _ from hcarried]
    exact carryOut_import file overwrite owner journal

/-- A run ends with no status or 0 only if an import has returned a log without errors. -/
theorem clean_of_status (hhelp : Command.read ("import" :: arguments) ≠ .error .help)
    {journal : List Occurrence}
    (hfine : (run ("import" :: arguments) ⟨h, journal⟩).1 = .ok none ∨
      (run ("import" :: arguments) ⟨h, journal⟩).1 = .ok (some 0)) :
    ∃ file overwrite owner log,
      Command.read ("import" :: arguments) = .ok (.importFile file overwrite owner) ∧
      (Host.importFile file.toText (optionsOf overwrite owner) ⟨h, journal⟩).1 = .ok log ∧
      log.hasError = false ∧
      (run ("import" :: arguments) ⟨h, journal⟩).2.content =
        (Host.importFile file.toText (optionsOf overwrite owner) ⟨h, journal⟩).2.content := by
  rcases Command.read_import_cases hhelp with husage | ⟨file, overwrite, owner, hread⟩
  · rw [run_usage husage] at hfine
    rcases hfine with hfine | hfine <;> cases hfine
  · rcases run_import_cases (h := h) hread journal with ⟨-, -, hstatus⟩ | ⟨hcontent, hstatus⟩
    · rcases hstatus with hstatus | ⟨failure, hstatus⟩ <;>
        rcases hfine with hfine | hfine <;> cases hstatus.symm.trans hfine
    · have hclean :
          isClean (Host.importFile file.toText (optionsOf overwrite owner) ⟨h, journal⟩).1 = true := by
        by_contra hunclean
        rw [if_neg hunclean] at hstatus
        rcases hfine with hfine | hfine <;> cases hstatus.symm.trans hfine
      obtain ⟨log, hlog, hnone⟩ := isClean_iff.mp hclean
      exact ⟨file, overwrite, owner, log, hread, hlog, hnone, hcontent⟩

/-- A run that ends with the status 2, or not with a status, has left the host as it was. -/
theorem content_of_refusal (hhelp : Command.read ("import" :: arguments) ≠ .error .help)
    {journal : List Occurrence}
    (hrefused : (run ("import" :: arguments) ⟨h, journal⟩).1 = .ok (some 2) ∨
      ∃ failure, (run ("import" :: arguments) ⟨h, journal⟩).1 = .error failure) :
    (run ("import" :: arguments) ⟨h, journal⟩).2.content = h := by
  rcases Command.read_import_cases hhelp with husage | ⟨file, overwrite, owner, hread⟩
  · rw [run_usage husage]
  · rcases run_import_cases (h := h) hread journal with ⟨-, hcontent, -⟩ | ⟨-, hstatus⟩
    · exact hcontent
    · rcases hrefused with hrefused | ⟨failure, hrefused⟩
      · split at hstatus <;> cases hstatus.symm.trans hrefused
      · cases hstatus.symm.trans hrefused

theorem keepsTables_of_stopsEarly (hstopped : h.databases.adapter.isStarted = false)
    (htables : h.HasTables)
    (hread : Command.read arguments = .ok (.importFile file overwrite owner)) {journal : List Occurrence}
    (hearly : h.StopsEarly (Host.importFile file.toText (optionsOf overwrite owner) ⟨h, journal⟩).1) :
    h.disk.KeepsTables (run arguments ⟨h, journal⟩).2.content.disk := by
  rcases run_import_cases (h := h) hread journal with ⟨-, hcontent, -⟩ | ⟨hcontent, -⟩
  · rw [hcontent]
    exact .of_databaseAt fun _ => rfl
  · rw [hcontent]
    exact (Host.importFile_cases hstopped htables file.toText (if overwrite then some true else none)
      owner journal).1 hearly

theorem status_of_hasFile
    (hread : Command.read arguments = .ok (.importFile file overwrite owner))
    (hfile : h.disk.hasFile file = .ok true) (journal : List Occurrence) :
    let imported := Host.importFile file.toText (optionsOf overwrite owner) ⟨h, journal⟩
    (run arguments ⟨h, journal⟩).1 = .ok (if isClean imported.1 then none else some 1) := by
  rcases run_import_cases (h := h) hread journal with ⟨hmissing, -⟩ | ⟨-, hstatus⟩
  · exact absurd hfile hmissing
  · exact hstatus

end

/-- What the exit status of an import says, where the settings lead to a database that has all its tables
and whose endpoints and redirects belong to stored groups. It is none or 0 only if the file held a
document, the default owner is a known user and the log has no error. Then every group element is in the
database as the document has it, if its key was new or stored groups are overwritten, and otherwise as it
was. If the status is 2, or the import was ended by anything but a call in its session, or recorded an
error before it proceeded, every table of every database is as it was. Where the file is there, the status
is none exactly if the import returns a log without errors, and otherwise 1. -/
theorem import_exit_status (arguments : List Text)
    (hhelp : Command.read ("import" :: arguments) ≠ .error .help) (h : Host)
    (hstopped : h.databases.adapter.isStarted = false)
    (hdb : ∀ place, h.databasePlace? = some place →
      ∃ db, h.disk.databaseAt place = .ok db ∧ db.Complete ∧ db.Rooted)
    (journal : List Occurrence) :
    let result := run ("import" :: arguments) ⟨h, journal⟩
    let after := result.2.content
    (result.1 = .ok none ∨ result.1 = .ok (some 0) →
      ∃ (file : Path) (overwrite : Bool) (owner : Option Text) (policy : Policy) (batch : ParsedBatch)
        (ownerId : Text) (defaultOwner : User) (log : ActionLog) (place : DiskPlace)
        (db db' : Database),
        Command.read ("import" :: arguments) = .ok (.importFile file overwrite owner) ∧
        h.surroundings.environment.policy = .ok policy ∧
        h.HoldsDocument (Path.read file.toText) batch ∧
        (optionsOf overwrite owner).ownerId policy = .string ownerId ∧
        (Host.importFile file.toText (optionsOf overwrite owner) ⟨h, journal⟩).1 = .ok log ∧
        log.hasError = false ∧
        h.databasePlace? = some place ∧ h.disk.databaseAt place = .ok db ∧
        after.disk.databaseAt place = .ok db' ∧
        Table.find? ownerId (db.users.getD []) = some defaultOwner ∧
        ∀ element ∈ batch.serviceGroups,
          db.Imports db' defaultOwner (overwrite || policy.overwriteExisting) element) ∧
    (result.1 = .ok (some 2) ∨ (∃ failure, result.1 = .error failure) →
      h.disk.KeepsTables after.disk) ∧
    (∀ file overwrite owner,
      Command.read ("import" :: arguments) = .ok (.importFile file overwrite owner) →
      h.StopsEarly (Host.importFile file.toText (optionsOf overwrite owner) ⟨h, journal⟩).1 →
      h.disk.KeepsTables after.disk) ∧
    (∀ file overwrite owner,
      Command.read ("import" :: arguments) = .ok (.importFile file overwrite owner) →
      h.disk.hasFile file = .ok true →
      let imported := Host.importFile file.toText (optionsOf overwrite owner) ⟨h, journal⟩
      result.1 = .ok (if isClean imported.1 then none else some 1)) ∧
    ∀ (file : Text) (overwrite : Bool) (owner : Option Text),
      arguments = file :: importOptions overwrite owner →
      file.head? ≠ some ('-' : CodePoint) → (∀ id ∈ owner, id.head? ≠ some ('-' : CodePoint)) →
      Command.read ("import" :: arguments) = .ok (.importFile (Path.read file) overwrite owner) := by
  intro result after
  have htables : h.HasTables := fun place hplace =>
    (hdb place hplace).imp fun _ hfound => ⟨hfound.1, hfound.2.1⟩
  refine ⟨fun hfine => ?_, fun hrefused => ?_,
    fun _ _ _ hread hearly => keepsTables_of_stopsEarly hstopped htables hread hearly,
    fun _ _ _ hread hfile => status_of_hasFile hread hfile journal,
    fun file overwrite owner hform hfile howner =>
      hform ▸ Command.read_import_options hfile overwrite howner⟩
  · obtain ⟨file, overwrite, owner, log, hread, hlog, hnone, hcontent⟩ := clean_of_status hhelp hfine
    obtain ⟨policy, batch, ownerId, hpolicy, hholds, howner, place, db, db', defaultOwner, hplace,
      hbefore, hafter, hknown, helements⟩ := (Host.importFile_cases hstopped htables file.toText
        (if overwrite then some true else none) owner journal).2 log hlog
    obtain ⟨found, hfound, -, hrooted⟩ := hdb place hplace
    cases hbefore.symm.trans hfound
    refine ⟨file, overwrite, owner, policy, batch, ownerId, defaultOwner, log, place, db, db', hread,
      hpolicy, hholds, howner, hlog, hnone, hplace, hbefore, ?_, hknown, fun element helement => ?_⟩
    · rw [show after = _ from hcontent]
      exact hafter
    · cases overwrite <;> exact helements hrooted hnone element helement
  · rw [show after = h from content_of_refusal hhelp hrefused]
    exact .of_databaseAt fun _ => rfl

theorem import_exit_status_overwriting :
    let content : Text :=
      "\x7b\"version\": \"1.0\", \"service_groups\": [\x7b\"participant_id\": \"a\", \"owner_id\": \"x\", " ++
        "\"endpoints\": [\x7b\"document_type\": \"order\", \"process\": \"billing\", " ++
          "\"transport_profile\": \"as4\", \"endpoint_url\": \"new\"\x7d]\x7d]\x7d"
    let db : Database :=
      { Database.fresh with
        users := some [⟨"u", "U"⟩], groups := some [⟨"a", "u", none⟩]
        endpoints := some [⟨"a", "order", "billing", "as4", "old", none, none, none, none⟩] }
    let h : Host :=
      { surroundings := { environment := [("DATABASE_URI", "sqlite:////r.db")] }
        databases :=
          { adapter := {}
            disk :=
              { workingDirectory := ["w"], files := [(["w", "d"], Utf8.encode content)]
                databases := [(["r.db"], db)] } } }
    let result := run ["import", "d", "--overwrite", "--default-owner", "u"] ⟨h, []⟩
    result.1 = .ok none ∧ ∃ db', result.2.content.disk.databaseAt ["r.db"] = .ok db' ∧
      db'.routing "a" =
        { group := some ⟨"a", "u", none⟩
          endpoints := [⟨"a", "order", "billing", "as4", "new", none, none, none, none⟩] } := by
  intro content db h result
  have hread : Command.read ["import", "d", "--overwrite", "--default-owner", "u"] =
      .ok (.importFile (Path.read "d") true (some "u")) :=
    Command.read_import_options (by decide) true fun _ hid => Option.mem_some.mp hid ▸ by decide
  have hstatus : result.1.toOption = some none := by decide +kernel
  have hplace : h.databasePlace? = some [("r.db" : Text)] := by decide +kernel
  have hrooted : db.Rooted := ⟨List.forall_mem_singleton.mpr rfl, nofun⟩
  have hdb : ∀ place, h.databasePlace? = some place →
      ∃ db, h.disk.databaseAt place = .ok db ∧ db.Complete ∧ db.Rooted := by
    intro place hfound
    rw [hplace] at hfound
    cases hfound
    exact ⟨db, rfl, fun table => by cases table <;> rfl, hrooted⟩
  obtain ⟨himported, -⟩ := import_exit_status _ (by rw [hread]; nofun) h rfl hdb []
  have hresult : run ["import", "d", "--overwrite", "--default-owner", "u"] ⟨h, []⟩ = result := rfl
  rw [hresult] at himported
  clear_value result
  have hstatus : result.1 = .ok none := by
    cases hanswer : result.1 with
    | error failure =>
      rw [hanswer] at hstatus
      cases hstatus
    | ok status =>
      rw [hanswer] at hstatus
      cases hstatus
      rfl
  obtain ⟨file, overwrite, owner, policy, batch, ownerId, defaultOwner, log, place, before, after,
    hcommand, -, ⟨octets, hfile, hload⟩, howner, -, -, hfound, hbefore, hafter, hknown, himports⟩ :=
      himported (.inl hstatus)
  cases hread.symm.trans hcommand
  cases hplace.symm.trans hfound
  cases hbefore
  cases hfile
  cases show Json.string "u" = .string ownerId from howner
  cases hknown
  let element : Json := .object [("participant_id", .string "a"), ("owner_id", .string "x"),
    ("endpoints", .array [.object [("document_type", .string "order"), ("process", .string "billing"),
      ("transport_profile", .string "as4"), ("endpoint_url", .string "new")]])]
  have hdocument : (Document.load "d" (Utf8.encode content)).2.toOption = some ⟨[element], []⟩ := by
    decide +kernel
  rw [show (Document.load "d" (Utf8.encode content)).2 = .ok batch from hload] at hdocument
  cases hdocument
  obtain ⟨parsed, hparsed, hrouting⟩ := himports element List.mem_cons_self
  have helement : (Document.checkGroup element).result = .ok ⟨"a", "x", none,
      [⟨"order", "billing", "as4", "new", none, none, none, none⟩], []⟩ := by decide +kernel
  cases helement.symm.trans hparsed
  exact ⟨hstatus, after, hafter, hrouting⟩

end ParticipantRegistry.CommandLine
