import ParticipantRegistry.Proofs.Application.DocumentFiles
import ParticipantRegistry.Proofs.Document.Envelope

/-!
# Loading documents

A file that is there is loaded as what its content is, and nothing is changed. Most files that are no
documents are refused as such. Three kinds of them end loading in another way: octets that are not UTF-8,
an integer that is too long, and arrays or objects that are nested too deep.
-/

namespace ParticipantRegistry.Host

open Document (LoadError LoadsAs)

/-- The answer to loading an existing file is told by its content alone, in each of the possible ways. -/
theorem document_load_answers {h : Host} {path : Path} {content : Octets}
    (hfile : h.disk.contentAt path = .ok content) (journal : List Occurrence) :
    ∃ (answer : Except LoadError ParsedBatch) (journal' : List Occurrence),
      loadDocument path ⟨h, journal⟩ = (answer.mapError .load, ⟨h, journal'⟩) ∧
        LoadsAs path.toText content answer := by
  obtain ⟨journal', hloaded⟩ := loadDocument_content hfile journal
  exact ⟨_, journal', hloaded, Document.load_eq path.toText content⟩

theorem document_load_answers_batch :
    let text : Text := "\x7b\"version\": \"1.0\",\r\n \"service_groups\": [1, null], \"notes\": 2\x7d"
    let h : Host :=
      { surroundings := {}
        databases :=
          { adapter := {}
            disk := { workingDirectory := ["w"], files := [(["w", "f"], Utf8.encode text)] } } }
    h.disk.contentAt (Path.read "f") = .ok (Utf8.encode text) ∧
      ∃ journal, loadDocument (Path.read "f") ⟨h, []⟩ =
        (.ok ⟨[.int 1, .null], []⟩, ⟨h, journal⟩) := by
  intro text h
  have hfile : h.disk.contentAt (Path.read "f") = .ok (Utf8.encode text) := rfl
  let value : Json := .object [("version", .string "1.0"),
    ("service_groups", .array [.int 1, .null]), ("notes", .int 2)]
  have hread : Json.read text.unifyLines = .ok value := by decide +kernel
  have hdocument : Document.IsDocument value ⟨[.int 1, .null], []⟩ :=
    { object := rfl
      names := by
        change ∀ name ∈ (["version", "service_groups", "notes"] : List Text),
          name ∉ Document.envelopeNames → name.isUnicode = true
        decide
      version := rfl
      serviceGroups := .inl rfl
      businessCards := .inr ⟨rfl, rfl⟩ }
  obtain ⟨answer, journal, hloaded, hanswer⟩ := document_load_answers hfile []
  have hbatch := (hanswer.batch _).mpr ⟨value, ⟨text, by decide, rfl, hread⟩, hdocument⟩
  rw [hbatch] at hloaded
  exact ⟨hfile, journal, hloaded⟩

/-- An octet that no UTF-8 has ends loading without a word on the document. -/
theorem document_load_escapes : ¬∀ (h : Host) (path : Path) (content : Octets)
    (journal : List Occurrence), h.disk.contentAt path = .ok content →
      (∃ batch, (loadDocument path ⟨h, journal⟩).1 = .ok batch) ∨
        ∃ error, (loadDocument path ⟨h, journal⟩).1 = .error (.load (.document error)) := by
  intro hclaim
  let h : Host :=
    { surroundings := {}
      databases :=
        { adapter := {}, disk := { workingDirectory := ["w"], files := [(["w", "f"], [0xFF])] } } }
  have hescaped : (loadDocument (Path.read "f") ⟨h, []⟩).1 = .error (.load .notUtf8) := rfl
  rcases hclaim h (Path.read "f") [0xFF] [] rfl with ⟨batch, hbatch⟩ | ⟨error, herror⟩
  · cases hescaped.symm.trans hbatch
  · cases hescaped.symm.trans herror

end ParticipantRegistry.Host
