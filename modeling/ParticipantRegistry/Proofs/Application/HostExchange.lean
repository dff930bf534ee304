import ParticipantRegistry.Proofs.Application.DocumentFiles
import ParticipantRegistry.Proofs.Relational.Units

/-!
# Exchanging files on a host

A host shows a store if its units of work reach a database that does. What is in the database in the form
of the format is exported to a file, and the file is imported again: by the same host or one that knows
the same users, without errors, and so that the same records are shown and exported as the same text.
-/

namespace ParticipantRegistry

/-- The records of the store alone, as a unit of work is given them that takes cards or does not. -/
def Store.given (takesCards : Bool) (t : Store) : Store :=
  { t.plain with directoryIntegration := takesCards }

theorem Database.Shows.given_iff {db : Database} {t : Store} {takesCards : Bool} :
    db.Shows (t.given takesCards) ↔ db.Shows t :=
  ⟨fun h => ⟨h.users, h.groups, h.endpoints, h.redirects, h.businessCards, h.textual⟩,
    fun h => ⟨h.users, h.groups, h.endpoints, h.redirects, h.businessCards, h.textual⟩⟩

theorem Database.Shows.plain_iff {db : Database} {t : Store} : db.Shows t.plain ↔ db.Shows t :=
  @given_iff db t true

def ExchangeOptions.ownerId (options : ExchangeOptions) (policy : Policy) : Json :=
  if options.defaultOwnerId.isGiven then options.defaultOwnerId else policy.defaultOwnerId

namespace Host

/-- Units of work on the host are made for an engine, which leads to a database that shows the store. -/
structure Shows (h : Host) (engine : Nat) (t : Store) : Prop where
  started : h.databases.adapter.isStarted = true
  factory : h.databases.adapter.factory = some engine
  database : ∃ db, h.databases.Serves engine db ∧ db.Shows t

def policyOf (options : ExchangeOptions) (h : Host) : Except ConfigurationError Policy :=
  match options.policy with
  | some policy => .ok policy
  | none => h.surroundings.environment.policy

/-- An exchange on the host follows a policy by which it takes cards. When it makes its unit of work, the
host becomes the opened one, which shows the store. -/
structure Ready (h : Host) (options : ExchangeOptions) (policy : Policy) (opened : Host)
    (engine : Nat) (t : Store) : Prop where
  follows : h.policyOf options = .ok policy
  takesCards : options.directoryIntegration.getD policy.directoryIntegration = true
  surroundings : opened.surroundings = h.surroundings
  opens : ∀ journal, newUnit options.directoryIntegration policy ⟨h, journal⟩ =
    newUnit options.directoryIntegration policy ⟨opened, journal⟩
  shows : opened.Shows engine t

/-- When a unit of work is made on the host, the host becomes the opened one, which shows the store. -/
structure OpensTo (h : Host) (own : Option Bool) (policy : Policy) (opened : Host) (engine : Nat)
    (t : Store) : Prop where
  surroundings : opened.surroundings = h.surroundings
  opens : ∀ journal, newUnit own policy ⟨h, journal⟩ = newUnit own policy ⟨opened, journal⟩
  shows : opened.Shows engine t

theorem Ready.opensTo {h opened : Host} {options : ExchangeOptions} {policy : Policy} {engine : Nat}
    {t : Store} (hr : h.Ready options policy opened engine t) :
    h.OpensTo options.directoryIntegration policy opened engine t :=
  ⟨hr.surroundings, hr.opens, hr.shows⟩

/-- A file can be written to the path, and it is not the one that the engine leads to. -/
structure Writes (h : Host) (engine : Nat) (path : Text) : Prop where
  place : ∃ place, h.disk.locate (Path.read path) = .ok place ∧ h.disk.isDirectory place = false ∧
    ∀ readOnly, h.databases.adapter.engines[engine]? ≠ some (.file place readOnly)

variable {α : Type} {h h' : Host} {engine : Nat} {t content held : Store} {options : ExchangeOptions}
  {policy : Policy} {path : Text}

theorem Writes.retained (hw : h.Writes engine path)
    (hr : Databases.Retains engine h.databases h'.databases) : h'.Writes engine path := by
  obtain ⟨place, hlocate, hdirectory, hengine⟩ := hw.place
  exact ⟨place, hr.directories.locate hlocate, hr.directories.isDirectory_eq.trans hdirectory,
    fun readOnly hfile => hengine readOnly (hr.place place readOnly hfile)⟩

theorem policy_apply (options : ExchangeOptions) (h : Host) (journal : List Occurrence) :
    Host.policy options.policy ⟨h, journal⟩ =
      Task.ofExcept .configuration (h.policyOf options) ⟨h, journal⟩ := by
  rw [policyOf]
  cases options.policy <;> rfl

theorem policy_eq (hp : h.policyOf options = .ok policy) (journal : List Occurrence) :
    Host.policy options.policy ⟨h, journal⟩ = (.ok policy, ⟨h, journal⟩) := by
  rw [policy_apply, hp]
  rfl

theorem Shows.newUnit_eq (hs : h.Shows engine t) (own : Option Bool) (policy : Policy)
    (journal : List Occurrence) :
    newUnit own policy ⟨h, journal⟩ =
      (.ok { engine, directoryIntegration := own.getD policy.directoryIntegration }, ⟨h, journal⟩) := by
  have hcontent : (Task.content : Task Host Host) ⟨h, journal⟩ = (.ok h, ⟨h, journal⟩) := rfl
  have hstarted := hs.started
  rw [Adapter.isStarted, Option.isSome_iff_exists] at hstarted
  obtain ⟨managed, hmanaged⟩ := hstarted
  have hfactory : h.databases.adapter.sessionFactory = .ok (engine, h.databases.adapter) := by
    simp only [Adapter.sessionFactory, hmanaged, hs.factory]
  have hnew : WorkUnit.new (own.getD policy.directoryIntegration) h.databases.adapter =
      .ok ({ engine, directoryIntegration := own.getD policy.directoryIntegration },
        h.databases.adapter) := by
    rw [WorkUnit.new, hfactory]
    rfl
  have hmade : Task.ofExcept .startup (WorkUnit.new (own.getD policy.directoryIntegration)
      h.databases.adapter) ⟨h, journal⟩ =
      (.ok ({ engine, directoryIntegration := own.getD policy.directoryIntegration },
        h.databases.adapter), ⟨h, journal⟩) := by
    rw [hnew]
    rfl
  cases own with
  | some choice => exact (Task.bind_of_ok hcontent).trans (Task.bind_of_ok hmade)
  | none =>
    refine (Task.bind_of_ok hcontent).trans ?_
    simp only [hs.started, Option.isNone_none, Bool.not_true, Bool.and_false, Bool.false_eq_true, if_false]
    exact (Task.bind_of_ok hcontent).trans (Task.bind_of_ok hmade)

theorem within_of_use {unit used last : WorkUnit} {work : Task Session α} {answer : Except Failure α}
    {left : Except CallError Unit} {d₁ d₂ : Databases} {journal journal' : List Occurrence}
    (hnew : unit.session = none)
    (huse : ({ unit with session := some {} } : WorkUnit).use h.databases (fun s =>
      (((work ⟨s, journal⟩).1, (work ⟨s, journal⟩).2.journal), (work ⟨s, journal⟩).2.content)) =
        .ok ((answer, journal'), used, d₁))
    (hleave : used.leave d₁ = .ok (left, last, d₂)) :
    within unit work ⟨h, journal⟩ =
      ((left.mapError .call).bind fun _ => answer, ⟨{ h with databases := d₂ }, journal'⟩) := by
  have henter : Task.ofExcept .startup unit.enter ⟨h, journal⟩ =
      (.ok { unit with session := some {} }, ⟨h, journal⟩) := by
    rw [WorkUnit.enter, hnew]
    rfl
  have hused : inUnit { unit with session := some {} } work ⟨h, journal⟩ =
      (.ok (answer, used), ⟨{ h with databases := d₁ }, journal'⟩) := by
    have hget : (get : Task Host (Desk Host)) ⟨h, journal⟩ = (.ok ⟨h, journal⟩, ⟨h, journal⟩) := rfl
    have hdone : Task.ofExcept .startup (({ unit with session := some {} } : WorkUnit).use h.databases
        (fun s => (((work ⟨s, journal⟩).1, (work ⟨s, journal⟩).2.journal),
          (work ⟨s, journal⟩).2.content))) ⟨h, journal⟩ =
        (.ok ((answer, journal'), used, d₁), ⟨h, journal⟩) := by
      rw [huse]
      rfl
    exact (Task.bind_of_ok hget).trans (Task.bind_of_ok hdone)
  have hleft : leave used ⟨{ h with databases := d₁ }, journal'⟩ =
      (.ok (left, last), ⟨{ h with databases := d₂ }, journal'⟩) := by
    have hcontent : (Task.content : Task Host Host) ⟨{ h with databases := d₁ }, journal'⟩ =
        (.ok { h with databases := d₁ }, ⟨{ h with databases := d₁ }, journal'⟩) := rfl
    have hdone : Task.ofExcept .startup (used.leave d₁) ⟨{ h with databases := d₁ }, journal'⟩ =
        (.ok (left, last, d₂), ⟨{ h with databases := d₁ }, journal'⟩) := by
      rw [hleave]
      rfl
    exact (Task.bind_of_ok hcontent).trans (Task.bind_of_ok hdone)
  refine (Task.bind_of_ok henter).trans ((Task.bind_of_ok hused).trans
    ((Task.bind_of_ok hleft).trans ?_))
  cases left <;> cases answer <;> rfl

theorem within_eq (unit : WorkUnit) {db : Database} {barrier : Option DatabaseError}
    {work : Task Session α} {answer : Except Failure α} {s : Session}
    {journal journal' : List Occurrence} (hnew : unit.session = none)
    (hdb : h.databases.Leads unit.engine db barrier)
    (hw : work ⟨unit.sessionOn {} h.databases, journal⟩ = (answer, ⟨s, journal'⟩)) (hs : s.Settled)
    (hcut : s.isCutOff = false) :
    ∃ databases : Databases,
      within unit work ⟨h, journal⟩ = (answer, ⟨{ h with databases }, journal'⟩) ∧
      databases.Leads unit.engine s.storage.current barrier ∧
      Databases.Retains unit.engine h.databases databases ∧
      Databases.Spares unit.engine h.databases databases := by
  let inside (s : Session) : (Except Failure α × List Occurrence) × Session :=
    (((work ⟨s, journal⟩).1, (work ⟨s, journal⟩).2.journal), (work ⟨s, journal⟩).2.content)
  have hinside : inside (unit.sessionOn {} h.databases) = ((answer, journal'), s) := by
    simp only [inside, hw]
  obtain ⟨used, left, d₁, d₂, huse, hleave, hleads, hretains, hspares⟩ :=
    WorkUnit.use_leave hdb hinside hs hcut
  exact ⟨d₂, within_of_use hnew huse hleave, hleads, hretains, hspares⟩

theorem within_answer (unit : WorkUnit) (hnew : unit.session = none) (work : Task Session α)
    (journal : List Occurrence) :
    ∃ left : Except CallError Unit, (within unit work ⟨h, journal⟩).1 =
      (left.mapError .call).bind fun _ => (work ⟨unit.sessionOn {} h.databases, journal⟩).1 := by
  obtain ⟨left, last, d₂, hleave⟩ := WorkUnit.exists_leave (u := { unit with session := some _ }) rfl _
  exact ⟨left, congrArg Prod.fst (within_of_use hnew (WorkUnit.use_eq rfl _) hleave)⟩

/-- Work over a session that mirrors what the opened host shows, in a unit of work of its own. -/
theorem OpensTo.withUnit_eq {opened : Host} {own : Option Bool}
    (hr : h.OpensTo own policy opened engine t) {work : Task Session α} {journal : List Occurrence}
    (post : α → Store → Prop)
    (hw : ∀ s : Session, s.Mirrors t.users (t.given (own.getD policy.directoryIntegration)) →
      ∃ (a : α) (s' : Session) (users : List User) (t' : Store) (journal' : List Occurrence),
        work ⟨s, journal⟩ = (.ok a, ⟨s', journal'⟩) ∧ s'.Mirrors users t' ∧ post a t') :
    ∃ (a : α) (h' : Host) (t' : Store) (journal' : List Occurrence),
      withUnit own policy work ⟨h, journal⟩ = (.ok a, ⟨h', journal'⟩) ∧
      h'.Shows engine t' ∧ h'.surroundings = h.surroundings ∧
      Databases.Retains engine opened.databases h'.databases ∧ post a t' := by
  obtain ⟨db, hdb, hshows⟩ := hr.shows.database
  let unit : WorkUnit := ⟨engine, own.getD policy.directoryIntegration, none⟩
  have hmirrors : (unit.sessionOn {} opened.databases).Mirrors t.users
      (t.given (own.getD policy.directoryIntegration)) :=
    WorkUnit.sessionOn_mirrors hdb (Database.Shows.given_iff.mpr hshows) rfl rfl rfl
  obtain ⟨a, s', users, t', journal', hwork, hm, hpost⟩ := hw _ hmirrors
  have hcut : s'.isCutOff = false := by
    rw [Session.isCutOff, hm.refusal]
    rfl
  obtain ⟨databases, hwithin, hleads, hretains, -⟩ :=
    within_eq unit rfl hdb.leads hwork hm.settled hcut
  refine ⟨a, { opened with databases }, t', journal', ?_, ?_, hr.surroundings, hretains, hpost⟩
  · have hunit := (hr.opens journal).trans (hr.shows.newUnit_eq _ _ journal)
    exact (Task.bind_of_ok hunit).trans hwithin
  · refine ⟨?_, hretains.factory.trans hr.shows.factory, s'.storage.current, hleads.serves, hm.shows⟩
    exact (congrArg Option.isSome hretains.managed).trans hr.shows.started

theorem Ready.withUnit_eq {opened : Host} (hr : h.Ready options policy opened engine t)
    {work : Task Session α} {journal : List Occurrence} (post : α → Store → Prop)
    (hw : ∀ s : Session, s.Mirrors t.users t.plain → ∃ (a : α) (s' : Session) (t' : Store)
      (journal' : List Occurrence), work ⟨s, journal⟩ = (.ok a, ⟨s', journal'⟩) ∧
        s'.Mirrors t.users t' ∧ post a t') :
    ∃ (a : α) (h' : Host) (t' : Store) (journal' : List Occurrence),
      withUnit options.directoryIntegration policy work ⟨h, journal⟩ =
        (.ok a, ⟨h', journal'⟩) ∧
      h'.Shows engine t' ∧ h'.surroundings = h.surroundings ∧
      Databases.Retains engine opened.databases h'.databases ∧ post a t' := by
  refine hr.opensTo.withUnit_eq post fun s hm => ?_
  rw [hr.takesCards] at hm
  obtain ⟨a, s', t', journal', hwork, hm', hpost⟩ := hw s hm
  exact ⟨a, s', t.users, t', journal', hwork, hm', hpost⟩

theorem writeDocument_eq {document : ExportDocument} (hn : document.Normal)
    (hs : h.Shows engine t) (hw : h.Writes engine path) (journal : List Occurrence) :
    ∃ (h' : Host) (journal' : List Occurrence),
      writeDocument document (Path.read path) ⟨h, journal⟩ = (.ok (), ⟨h', journal'⟩) ∧
      h'.disk.contentAt (Path.read path) = .ok (Utf8.encode document.text) ∧
      h'.Shows engine t ∧ h'.surroundings = h.surroundings := by
  obtain ⟨place, hlocate, hdirectory, hengine⟩ := hw.place
  obtain ⟨db, hdb, hshows⟩ := hs.database
  obtain ⟨journal', hwrite⟩ := writeDocument_withFile hn hlocate hdirectory journal
  exact ⟨_, journal', hwrite, Disk.contentAt_withFile hlocate hdirectory,
    ⟨hs.started, hs.factory, db, hdb.withFile hengine _, hshows⟩, rfl⟩

theorem Shows.ready (hs : h.Shows engine t) (hp : h.policyOf options = .ok policy)
    (hd : options.directoryIntegration.getD policy.directoryIntegration = true) :
    h.Ready options policy h engine t :=
  ⟨hp, hd, rfl, fun _ => rfl, hs⟩

variable {opened : Host}

theorem Ready.exportFile_eq (hr : h.Ready options policy opened engine t) (hn : content.Normal)
    (hsame : t.SameRecords content) (hw : opened.Writes engine path) (journal : List Occurrence) :
    ∃ (h' : Host) (journal' : List Occurrence),
      exportFile path true options ⟨h, journal⟩ = (.ok content.document, ⟨h', journal'⟩) ∧
      h'.disk.contentAt (Path.read path) = .ok (Utf8.encode content.document.text) ∧
      h'.Shows engine t ∧ h'.surroundings = h.surroundings := by
  have hexport : ∀ s : Session, s.Mirrors t.users t.plain → ∃ (document : ExportDocument)
      (s' : Session) (t' : Store) (journal' : List Occurrence),
      exportRegistry true ⟨s, journal⟩ = (.ok document, ⟨s', journal'⟩) ∧
        s'.Mirrors t.users t' ∧ document = content.document ∧ t' = t.plain := by
    intro s hm
    obtain ⟨s', journal', hdone, hm'⟩ := hm.exportRegistry hn hsame.plain rfl journal
    exact ⟨_, s', _, journal', hdone, hm', rfl, rfl⟩
  obtain ⟨_, h₁, _, journal₁, hunit, hshows, hsurroundings, hretains, rfl, rfl⟩ :=
    hr.withUnit_eq (fun document t' => document = content.document ∧ t' = t.plain) hexport
  obtain ⟨db, hdb, hdbShows⟩ := hshows.database
  have hshows : h₁.Shows engine t :=
    ⟨hshows.started, hshows.factory, db, hdb, Database.Shows.plain_iff.mp hdbShows⟩
  obtain ⟨h₂, journal₂, hwrite, hfile, hshows₂, hsurroundings₂⟩ :=
    writeDocument_eq hn.document hshows (hw.retained hretains) journal₁
  refine ⟨h₂, journal₂, ?_, hfile, hshows₂, hsurroundings₂.trans hsurroundings⟩
  exact (Task.bind_of_ok (policy_eq hr.follows journal)).trans
    ((Task.bind_of_ok hunit).trans (Task.bind_of_ok hwrite))

theorem Ready.importFile_eq (hr : h.Ready options policy opened engine held) (hn : content.Normal)
    (hreceives : held.plain.Receives content
      (options.overwriteExisting.getD policy.overwriteExisting))
    {ownerId : Text} (howner : options.ownerId policy = .string ownerId)
    (hid : ownerId.isUnicode = true) (hknown : Table.hasKey ownerId content.users = true)
    (hfile : h.disk.contentAt (Path.read path) = .ok (Utf8.encode content.document.text))
    (journal : List Occurrence) :
    ∃ (log : ActionLog) (h' : Host) (t' : Store) (journal' : List Occurrence),
      importFile path options ⟨h, journal⟩ = (.ok log, ⟨h', journal'⟩) ∧ log.hasError = false ∧
      h'.Shows engine t' ∧ t'.SameRecords content ∧ h'.surroundings = h.surroundings ∧
      Databases.Retains engine opened.databases h'.databases := by
  obtain ⟨journal₁, hload⟩ := loadDocument_eq hn.document hfile journal
  have hheld : Table.hasKey ownerId held.users = true := by
    rw [show held.users = content.users from hreceives.users]
    exact hknown
  have himport : ∀ s : Session, s.Mirrors held.users held.plain → ∃ (log : ActionLog)
      (s' : Session) (t' : Store) (journal' : List Occurrence),
      importBatch content.document.elements (.string ownerId)
        (options.overwriteExisting.getD policy.overwriteExisting) ⟨s, journal₁⟩ =
          (.ok log, ⟨s', journal'⟩) ∧
        s'.Mirrors held.users t' ∧ log.hasError = false ∧ t'.SameRecords content := by
    intro s hm
    obtain ⟨log, s', t', journal', hdone, hlog, hm', hsame⟩ :=
      hm.importBatch hn hreceives hid hheld journal₁
    exact ⟨log, s', t', journal', hdone, hm', hlog, hsame⟩
  obtain ⟨log, h', t', journal', hunit, hshows, hsurroundings, hretains, hlog, hsame⟩ :=
    hr.withUnit_eq (fun (log : ActionLog) t' => log.hasError = false ∧ t'.SameRecords content) himport
  refine ⟨log, h', t', journal' ++ [.importDone path log.records.length log.hasError], ?_, hlog,
    hshows, hsame, hsurroundings, hretains⟩
  rw [ExchangeOptions.ownerId] at howner
  refine (Task.bind_of_ok (policy_eq hr.follows journal)).trans ?_
  simp only [howner, reduceCtorEq, if_false]
  exact (Task.bind_of_ok hload).trans (Task.bind_of_ok hunit)

/-- Exporting and importing again changes nothing. The export of records in normal form succeeds. When its
file is imported by a host that shows the same records, with overwriting on, or one that shows the same
users and nothing else, no error is logged, the same records are shown afterwards, and their export
writes the same file. -/
theorem export_import_roundtrip (hn : content.Normal)
    (hr : h.Ready options policy opened engine content) (hw : opened.Writes engine path)
    (journal : List Occurrence) :
    ∃ (exported : Host) (journal₁ : List Occurrence) (file : Octets),
      exportFile path true options ⟨h, journal⟩ = (.ok content.document, ⟨exported, journal₁⟩) ∧
      exported.disk.contentAt (Path.read path) = .ok file ∧ exported.Shows engine content ∧
      ∀ (k k' : Host) (engine' : Nat) (options' : ExchangeOptions) (policy' : Policy) (path' : Text)
        (held : Store) (ownerId : Text) (journal' : List Occurrence),
        k.disk.contentAt (Path.read path') = .ok file →
        k.Ready options' policy' k' engine' held →
        held.SameRecords content ∧
            options'.overwriteExisting.getD policy'.overwriteExisting = true ∨
          held = { users := content.users } →
        options'.ownerId policy' = .string ownerId → ownerId.isUnicode = true →
        Table.hasKey ownerId content.users = true →
        ∃ (log : ActionLog) (imported : Host) (after : Store) (journal₂ : List Occurrence),
          importFile path' options' ⟨k, journal'⟩ = (.ok log, ⟨imported, journal₂⟩) ∧
          log.hasError = false ∧ imported.Shows engine' after ∧ after.SameRecords content ∧
          ∀ (options'' : ExchangeOptions) (policy'' : Policy) (path'' : Text)
            (journal'' : List Occurrence),
            k.policyOf options'' = .ok policy'' →
            options''.directoryIntegration.getD policy''.directoryIntegration = true →
            k'.Writes engine' path'' →
            ∃ (again : Host) (journal₃ : List Occurrence),
              exportFile path'' true options'' ⟨imported, journal''⟩ =
                (.ok content.document, ⟨again, journal₃⟩) ∧
              again.disk.contentAt (Path.read path'') = .ok file ∧ again.Shows engine' after := by
  obtain ⟨exported, journal₁, hexport, hfile, hshows, -⟩ := hr.exportFile_eq hn (.refl content) hw journal
  refine ⟨exported, journal₁, _, hexport, hfile, hshows, ?_⟩
  intro k k' engine' options' policy' path' held ownerId journal' hfile hr hheld howner hid hknown
  have hreceives : held.plain.Receives content
      (options'.overwriteExisting.getD policy'.overwriteExisting) := by
    rcases hheld with ⟨hsame, hoverwrite⟩ | rfl
    · rw [hoverwrite]
      exact hsame.receives hn
    · exact Store.receives_of_users content _
  obtain ⟨log, imported, after, journal₂, himport, hlog, hshows, hsame, hsurroundings, hretains⟩ :=
    hr.importFile_eq hn hreceives howner hid hknown hfile journal'
  refine ⟨log, imported, after, journal₂, himport, hlog, hshows, hsame, ?_⟩
  intro options'' policy'' path'' journal'' hpolicy htakes hw
  have hpolicy : imported.policyOf options'' = .ok policy'' := by
    rw [policyOf, hsurroundings]
    exact hpolicy
  obtain ⟨again, journal₃, hexport, hfile, hshows, -⟩ :=
    (hshows.ready hpolicy htakes).exportFile_eq hn hsame (hw.retained hretains) journal''
  exact ⟨again, journal₃, hexport, hfile, hshows⟩

theorem export_import_roundtrip_in_memory :
    let card : BusinessCard := ⟨"a", [⟨"A", "DE", .null, [⟨"VAT", "1"⟩], ["site"], .string "x", none⟩]⟩
    let content : Store :=
      { users := [⟨"u", "U"⟩]
        groups := [⟨"a", "u", none⟩]
        endpoints := [⟨"a", "invoice", "billing", "as4", "url", some "C", none, none, none⟩]
        redirects := [⟨"a", "order", "href", none, none, none⟩]
        businessCards := [card] }
    let db : Database :=
      { users := some content.users, groups := some content.groups
        endpoints := some content.endpoints, redirects := some content.redirects
        businessCards := some [CardRow.ofCard card] }
    let policy : Policy := { overwriteExisting := true, defaultOwnerId := .string "u" }
    let options : ExchangeOptions := { policy := some policy }
    let h : Host :=
      { surroundings := {}
        databases :=
          { adapter := { engines := [.memory (.holding db) 0], managed := some 0, factory := some 0 }
            disk := { workingDirectory := ["w"] } } }
    ∃ (exported : Host) (journal : List Occurrence) (log : ActionLog) (imported : Host)
      (after : Store) (journal₁ : List Occurrence),
      exportFile "f" true options ⟨h, []⟩ = (.ok content.document, ⟨exported, journal⟩) ∧
      importFile "f" options ⟨exported, journal⟩ = (.ok log, ⟨imported, journal₁⟩) ∧
      log.hasError = false ∧ imported.Shows 0 after ∧ after.SameRecords content := by
  intro card content db policy options h
  have hn : content.Normal :=
    { distinct := ⟨List.nodup_singleton _, List.nodup_singleton _, List.nodup_singleton _,
        List.nodup_singleton _⟩
      owned := ⟨List.forall_mem_singleton.mpr rfl, List.forall_mem_singleton.mpr rfl,
        List.forall_mem_singleton.mpr rfl⟩
      owners := List.forall_mem_singleton.mpr rfl
      groups := List.forall_mem_singleton.mpr ⟨⟨rfl, rfl, nofun⟩, ⟨rfl, rfl, nofun⟩, nofun, rfl⟩
      endpoints := List.forall_mem_singleton.mpr ⟨⟨⟨rfl, rfl, nofun⟩, ⟨rfl, rfl, nofun⟩,
        ⟨rfl, rfl, nofun⟩, ⟨rfl, rfl, nofun⟩, fun _ hx => Option.mem_some.mp hx ▸ rfl, nofun, nofun,
        nofun⟩, rfl⟩
      redirects := List.forall_mem_singleton.mpr ⟨⟨⟨rfl, rfl, nofun⟩, ⟨rfl, rfl, nofun⟩, nofun, nofun,
        nofun⟩, rfl⟩
      businessCards := List.forall_mem_singleton.mpr ⟨⟨rfl, rfl, nofun⟩, rfl,
        List.forall_mem_singleton.mpr ⟨⟨rfl, rfl, nofun⟩, ⟨rfl, rfl, rfl, rfl⟩, rfl, nofun,
          List.forall_mem_singleton.mpr ⟨⟨rfl, rfl, nofun⟩, ⟨rfl, rfl, nofun⟩⟩,
          List.forall_mem_singleton.mpr rfl, fun _ hx => Option.mem_some.mp hx ▸ rfl⟩⟩ }
  have hshows : h.Shows 0 content :=
    ⟨rfl, rfl, db, .memory rfl, rfl, rfl, rfl, rfl, ⟨_, rfl, .cons (CardRow.card_ofCard rfl) .nil⟩,
      List.forall_mem_singleton.mpr rfl⟩
  have hready : h.Ready options policy h 0 content := hshows.ready rfl rfl
  have hw : h.Writes 0 "f" := ⟨["w", "f"], rfl, rfl, nofun⟩
  obtain ⟨exported, journal, file, hexport, hfile, hshows, himport⟩ :=
    export_import_roundtrip hn hready hw []
  obtain ⟨log, imported, after, journal₁, hdone, hlog, hafter, hsame, -⟩ :=
    himport exported exported 0 options policy "f" content "u" journal hfile (hshows.ready rfl rfl)
      (.inl ⟨.refl content, rfl⟩) rfl rfl rfl
  exact ⟨exported, journal, log, imported, after, journal₁, hexport, hdone, hlog, hafter, hsame⟩

end Host

end ParticipantRegistry
