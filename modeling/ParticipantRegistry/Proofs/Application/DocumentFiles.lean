import ParticipantRegistry.Proofs.Application.SessionExchange
import ParticipantRegistry.Proofs.Files.Disk

/-!
# Documents in files

Nothing is lost in a file. A document in normal form is written where a file can be, and the file is
opened as elements that are read, one by one, as the records of the document.
-/

namespace ParticipantRegistry

open Document (readServiceGroup readBusinessCard)

namespace Host

variable {h : Host} {document : ExportDocument} {path : Path} {place : DiskPlace}

theorem loadDocument_content {content : Octets} (hfile : h.disk.contentAt path = .ok content)
    (journal : List Occurrence) :
    ∃ journal', loadDocument path ⟨h, journal⟩ =
      ((Document.load path.toText content).2.mapError .load, ⟨h, journal'⟩) := by
  let opened : List Occurrence := journal ++ [.exchange (.documentOpened path.toText)]
  have hopened : Task.tellEvents [.documentOpened path.toText] ⟨h, journal⟩ = (.ok (), ⟨h, opened⟩) := rfl
  have hcontent : (Task.content : Task Host Host) ⟨h, opened⟩ = (.ok h, ⟨h, opened⟩) := rfl
  have hread : Task.ofExcept .file (h.disk.contentAt path) ⟨h, opened⟩ =
      (.ok content, ⟨h, opened⟩) := by
    rw [hfile]
    rfl
  refine ⟨opened ++ ((Document.load path.toText content).1.map Event.sighted).map .exchange, ?_⟩
  refine (Task.bind_of_ok hopened).trans ((Task.bind_of_ok hcontent).trans
    ((Task.bind_of_ok hread).trans ?_))
  cases hload : (Document.load path.toText content).2 <;> simp only [hload] <;> rfl

theorem loadDocument_eq (hn : document.Normal)
    (hfile : h.disk.contentAt path = .ok (Utf8.encode document.text)) (journal : List Occurrence) :
    ∃ journal', loadDocument path ⟨h, journal⟩ = (.ok document.elements, ⟨h, journal'⟩) := by
  obtain ⟨journal', hloaded⟩ := loadDocument_content hfile journal
  rw [hn.load] at hloaded
  exact ⟨journal', hloaded⟩

theorem writeDocument_withFile (hn : document.Normal) (hlocate : h.disk.locate path = .ok place)
    (hplace : h.disk.isDirectory place = false) (journal : List Occurrence) :
    ∃ journal', writeDocument document path ⟨h, journal⟩ =
      (.ok (), ⟨h.setDisk (h.disk.withFile place (Utf8.encode document.text)), journal'⟩) := by
  let disk' : Disk := h.disk.withFile place (Utf8.encode document.text)
  have hcontent : (Task.content : Task Host Host) ⟨h, journal⟩ = (.ok h, ⟨h, journal⟩) := rfl
  have hput : putFile path (Utf8.encode document.text) ⟨h, journal⟩ =
      (.ok (), ⟨h.setDisk disk', journal⟩) := by
    have hdone : Task.ofExcept .file (h.disk.putFile path (Utf8.encode document.text)) ⟨h, journal⟩ =
        (.ok disk', ⟨h, journal⟩) := by
      rw [Disk.putFile_eq hlocate hplace]
      rfl
    exact (Task.bind_of_ok hcontent).trans (Task.bind_of_ok hdone)
  rw [writeDocument, hn.fileText]
  exact ⟨_, Task.bind_of_ok hput⟩

/-- A document in normal form is written, whatever was in the place of the file. The file is loaded as
often as one likes, and its elements, each read by itself, give back the groups with their children and
the cards, in the same order. -/
theorem written_document_reads_back (hn : document.Normal) {users : Text → User}
    (husers : ∀ id, (users id).id = id) (hlocate : h.disk.locate path = .ok place)
    (hplace : h.disk.isDirectory place = false) (journal : List Occurrence) :
    ∃ (written : Host) (journal' : List Occurrence),
      writeDocument document path ⟨h, journal⟩ = (.ok (), ⟨written, journal'⟩) ∧
      ∀ later : List Occurrence, ∃ (batch : ParsedBatch) (later' : List Occurrence),
        loadDocument path ⟨written, later⟩ = (.ok batch, ⟨written, later'⟩) ∧
        batch.serviceGroups.map (fun e => ((readServiceGroup e).2.run users).2) =
          document.serviceGroups.map (fun g => .ok ⟨g.group, g.endpoints, g.redirects⟩) ∧
        batch.businessCards.map (fun e => (readBusinessCard e).2) =
          document.businessCards.map .ok := by
  obtain ⟨journal', hwrite⟩ := writeDocument_withFile hn hlocate hplace journal
  have hfile : (h.setDisk (h.disk.withFile place (Utf8.encode document.text))).disk.contentAt path =
      .ok (Utf8.encode document.text) := Disk.contentAt_withFile hlocate hplace
  refine ⟨_, journal', hwrite, fun later => ?_⟩
  obtain ⟨later', hload⟩ := loadDocument_eq hn hfile later
  refine ⟨document.elements, later', hload, ?_, ?_⟩
  · rw [ExportDocument.elements, List.map_map]
    refine List.map_congr_left fun g hg => ?_
    exact congrArg Prod.snd ((hn.serviceGroups g hg).read (husers g.group.ownerId))
  · rw [ExportDocument.elements, List.map_map]
    refine List.map_congr_left fun card hcard => ?_
    exact congrArg Prod.snd (hn.businessCards card hcard).read

theorem written_document_reads_back_replaced :
    let card : BusinessCard := ⟨"a", [⟨"A", "DE", .null, [⟨"VAT", "1"⟩], ["site"], .string "x", none⟩]⟩
    let document : ExportDocument :=
      { serviceGroups :=
          [⟨⟨"b", "u", none⟩, [], []⟩,
            ⟨⟨"a", "u", some "line\n\"quoted\""⟩,
              [⟨"a", "invoice", "billing", "as4", "url", some "C", none, none, none⟩],
              [⟨"a", "order", "href", none, none, none⟩]⟩]
        businessCards := [card, card] }
    let h : Host :=
      { surroundings := {}
        databases :=
          { adapter := {}
            disk := { workingDirectory := ["w"], files := [(["w", "f"], [0x7B])] } } }
    let users (id : Text) : User := ⟨id, "U"⟩
    h.disk.locate (Path.read "f") = .ok ["w", "f"] ∧ h.disk.isDirectory ["w", "f"] = false ∧
      ∃ (written : Host) (journal : List Occurrence) (batch : ParsedBatch) (journal' : List Occurrence),
        writeDocument document (Path.read "f") ⟨h, []⟩ = (.ok (), ⟨written, journal⟩) ∧
        loadDocument (Path.read "f") ⟨written, journal⟩ = (.ok batch, ⟨written, journal'⟩) ∧
        batch.serviceGroups.map (fun e => ((readServiceGroup e).2.run users).2) =
          document.serviceGroups.map (fun g => .ok ⟨g.group, g.endpoints, g.redirects⟩) ∧
        batch.businessCards.map (fun e => (readBusinessCard e).2) = [.ok card, .ok card] := by
  intro card document h users
  have hcard : card.Normal :=
    ⟨⟨rfl, rfl, nofun⟩, rfl,
      List.forall_mem_singleton.mpr ⟨⟨rfl, rfl, nofun⟩, ⟨rfl, rfl, rfl, rfl⟩, rfl, nofun,
        List.forall_mem_singleton.mpr ⟨⟨rfl, rfl, nofun⟩, ⟨rfl, rfl, nofun⟩⟩,
        List.forall_mem_singleton.mpr rfl, fun _ hx => Option.mem_some.mp hx ▸ rfl⟩⟩
  have hbare : ExportedGroup.Normal ⟨⟨"b", "u", none⟩, [], []⟩ :=
    ⟨⟨⟨rfl, rfl, nofun⟩, ⟨rfl, rfl, nofun⟩, nofun, nofun, nofun⟩, rfl, nofun, nofun⟩
  have hfull : ExportedGroup.Normal ⟨⟨"a", "u", some "line\n\"quoted\""⟩,
      [⟨"a", "invoice", "billing", "as4", "url", some "C", none, none, none⟩],
      [⟨"a", "order", "href", none, none, none⟩]⟩ :=
    { element :=
        { participantId := ⟨rfl, rfl, nofun⟩
          ownerId := ⟨rfl, rfl, nofun⟩
          extension := fun _ hx => Option.mem_some.mp hx ▸ rfl
          endpoints := List.forall_mem_singleton.mpr ⟨⟨rfl, rfl, nofun⟩, ⟨rfl, rfl, nofun⟩,
            ⟨rfl, rfl, nofun⟩, ⟨rfl, rfl, nofun⟩, fun _ hx => Option.mem_some.mp hx ▸ rfl, nofun, nofun,
            nofun⟩
          redirects := List.forall_mem_singleton.mpr
            ⟨⟨rfl, rfl, nofun⟩, ⟨rfl, rfl, nofun⟩, nofun, nofun, nofun⟩ }
      checked := rfl
      endpoints := List.forall_mem_singleton.mpr rfl
      redirects := List.forall_mem_singleton.mpr rfl }
  have hn : document.Normal :=
    ⟨List.forall_mem_cons.mpr ⟨hbare, List.forall_mem_singleton.mpr hfull⟩,
      List.forall_mem_cons.mpr ⟨hcard, List.forall_mem_singleton.mpr hcard⟩⟩
  have hlocate : h.disk.locate (Path.read "f") = .ok ["w", "f"] := rfl
  have hplace : h.disk.isDirectory ["w", "f"] = false := rfl
  obtain ⟨written, journal, hwrite, hread⟩ :=
    written_document_reads_back hn (fun _ => rfl : ∀ id, (users id).id = id) hlocate hplace []
  obtain ⟨batch, journal', hload, hgroups, hcards⟩ := hread journal
  exact ⟨hlocate, hplace, written, journal, batch, journal', hwrite, hload, hgroups, hcards⟩

end Host

end ParticipantRegistry
