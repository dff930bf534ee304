import ParticipantRegistry.Document.Payload
import ParticipantRegistry.Json.Reader
import ParticipantRegistry.Json.Writer
import ParticipantRegistry.Text.Utf8

/-!
# Document files

A document file holds one JSON object in UTF-8 with a version and two arrays of elements. Opening a
document checks this frame only and hands out the elements as they are; they are read one by one
later.
-/

namespace ParticipantRegistry

structure ParsedBatch where
  serviceGroups : List Json
  businessCards : List Json
  deriving DecidableEq

namespace Document

open Checked

inductive DocumentError where
  | json (path : Text) (error : Json.ReadError)
  | unsupported (problems : List Problem)
  deriving DecidableEq

def problemCount (n : Nat) : Text :=
  Text.ofNat n ++ (if n = 1 then " validation error" else " validation errors" : Text)

def DocumentError.message : DocumentError → Text
  | .json path error => "Invalid JSON in " ++ path ++ ": " ++ error.message
  | .unsupported problems =>
    "Not a supported exchange document: " ++ problemCount problems.length ++ " for " ++
      ElementKind.envelope.name

/-- Why the content of a document file is not handed out. -/
inductive LoadError where
  | document (error : DocumentError)
  | notUtf8
  | tooManyDigits (count : Nat)
  | tooDeep
  deriving DecidableEq

def checkVersion : Json → Checked Text
  | .string t =>
    if t = formatVersion then valid t
    else if t.isUnicode then flawed .otherVersion
    else flawed .notUnicode
  | _ => flawed .otherVersion

def anything : Json → Checked Json := valid

def envelopeNames : List Text := ["version", "service_groups", "business_cards"]

def checkEnvelope : Json → Checked ParsedBatch :=
  object .envelope envelopeNames fun ms =>
    (fun _ groups cards => ParsedBatch.mk groups cards) <$> required "version" checkVersion ms
      <*> optional "service_groups" [] (array anything) ms
      <*> optional "business_cards" [] (array anything) ms

def parse (payload : Json) : List Sighting × Except DocumentError ParsedBatch :=
  let checked := checkEnvelope payload
  (checked.sightings, checked.result.mapError .unsupported)

def load (path : Text) (content : Octets) : List Sighting × Except LoadError ParsedBatch :=
  match Utf8.decode content with
  | none => ([], .error .notUtf8)
  | some t =>
    match Json.read t.unifyLines with
    | .error (.tooManyDigits count) => ([], .error (.tooManyDigits count))
    | .error .tooDeep => ([], .error .tooDeep)
    | .error error => ([], .error (.document (.json path error)))
    | .ok value =>
      let (sightings, result) := parse value
      (sightings, result.mapError .document)

inductive WriteError where
  | invalid (problems : List Problem)
  | notUnicode
  deriving DecidableEq

def WriteError.message : WriteError → Text
  | .invalid problems => problemCount problems.length
  | .notUnicode => "surrogates not allowed"

/-- The text of a document file; it has to have an encoded form. -/
def Draft.fileText (draft : Draft) : Except WriteError Text := do
  let value ← draft.payload.mapError .invalid
  let text : Text := Json.write .indented value ++ "\n"
  if text.isUnicode then .ok text else .error .notUnicode

def fileText (document : ExportDocument) : Except WriteError Text := document.draft.fileText

end Document

end ParticipantRegistry
