import ParticipantRegistry.Calendar.IsoDate
import ParticipantRegistry.Json.Members
import ParticipantRegistry.Participant.Required

/-!
# Forms

A form gives the fields of a record by name, as values of any type. Every field without a default has
to be there and no other may be. The texts that name a record may not be blank; a value that counts
as not given is blank, and any other value that is no text is refused.
-/

namespace ParticipantRegistry

inductive RecordKind where
  | user
  | serviceGroup
  | endpoint
  | redirect
  | businessIdentifier
  | businessEntity
  | businessCard
  deriving DecidableEq

structure Field where
  name : Text
  /-- What the field holds if it is left out; `none` if it may not be. -/
  fallback : Option Json := none
  /-- Whether the field has to be a text that is not blank. -/
  naming : Bool := false

inductive FormError where
  | otherFields
  | blank (field : BlankField)
  | notText (name : Text)
  | unsuitable (name : Text)
  | date (error : IsoDateError)
  deriving DecidableEq

def FormError.message : FormError → Text
  | .otherFields => "the fields are not those of the record"
  | .blank field => field.message
  | .notText name => name ++ " has to be a text"
  | .unsuitable name => name ++ " has a value of another type"
  | .date error => error.message

namespace RecordKind

def name : RecordKind → Text
  | .user => "User"
  | .serviceGroup => "ServiceGroup"
  | .endpoint => "Endpoint"
  | .redirect => "Redirect"
  | .businessIdentifier => "BusinessIdentifier"
  | .businessEntity => "BusinessEntity"
  | .businessCard => "BusinessCard"

def all : List RecordKind :=
  [.user, .serviceGroup, .endpoint, .redirect, .businessIdentifier, .businessEntity, .businessCard]

def ofText? (t : Text) : Option RecordKind := all.find? (·.name = t)

def plain (name : Text) : Field := { name }

def named (name : Text) : Field := { name, naming := true }

def absent (name : Text) : Field := { name, fallback := some .null }

def listed (name : Text) : Field := { name, fallback := some (.array []) }

def fields : RecordKind → List Field
  | .user => [plain "id", plain "display_name"]
  | .serviceGroup => [named "participant_id", named "owner_id", absent "extension"]
  | .endpoint =>
    [named "participant_id", named "document_type", named "process", named "transport_profile",
      named "endpoint_url", absent "certificate", absent "service_description",
      absent "technical_contact_url", absent "extension"]
  | .redirect =>
    [named "participant_id", named "document_type", named "target_href",
      absent "subject_unique_identifier", absent "certificate", absent "extension"]
  | .businessIdentifier => [plain "scheme", plain "value"]
  | .businessEntity =>
    [plain "name", plain "country_code", absent "geographical_information", listed "identifiers",
      listed "websites", absent "additional_information", absent "registration_date"]
  | .businessCard => [named "participant_id", listed "entities"]

def keyNames : RecordKind → List Text
  | .serviceGroup | .businessCard => ["participant_id"]
  | .endpoint => ["participant_id", "document_type", "process", "transport_profile"]
  | .redirect => ["participant_id", "document_type"]
  | .user | .businessIdentifier | .businessEntity => []

def sortNames : RecordKind → List Text
  | .serviceGroup => ["participant_id"]
  | .endpoint => ["document_type", "process", "transport_profile"]
  | .redirect => ["document_type"]
  | .user | .businessIdentifier | .businessEntity | .businessCard => []

end RecordKind

/-- All fields of a record by name. -/
structure Form where
  kind : RecordKind
  values : Json.Members
  deriving DecidableEq

namespace Form

def complete (given : Json.Members) : List Field → Except FormError Json.Members
  | [] => .ok []
  | field :: fields => do
    let value ←
      match given.lookup field.name, field.fallback with
      | some value, _ => .ok value
      | none, some value => .ok value
      | none, none => .error .otherFields
    return (field.name, value) :: (← complete given fields)

def checkNaming (name : Text) (value : Json) : Except FormError Unit :=
  if !value.isGiven then .error (.blank ⟨name⟩)
  else
    match value with
    | .string t => if t.isBlank then .error (.blank ⟨name⟩) else .ok ()
    | _ => .error (.notText name)

def read (kind : RecordKind) (given : Json.Members) : Except FormError Form := do
  let known := kind.fields.map (·.name)
  if !(Json.names given).all known.contains then throw .otherFields
  let values ← complete given kind.fields
  for field in kind.fields do
    if field.naming then checkNaming field.name ((values.lookup field.name).getD .null)
  return ⟨kind, values⟩

def value (name : Text) (form : Form) : Json := (form.values.lookup name).getD .null

def pick (names : List Text) (form : Form) : List Json :=
  names.map fun name => form.value name

def key (form : Form) : List Json := form.pick form.kind.keyNames

def sortKey (form : Form) : List Json := form.pick form.kind.sortNames

def text? (name : Text) (form : Form) : Except FormError (Option Text) :=
  match form.value name with
  | .string t => .ok (some t)
  | .null => .ok none
  | _ => .error (.notText name)

def text (name : Text) (form : Form) : Except FormError Text :=
  match form.value name with
  | .string t => .ok t
  | _ => .error (.notText name)

def parts (name : Text) (form : Form) : Except FormError (List Json) :=
  match (form.value name).parts? with
  | some values => .ok values
  | none => .error (.unsuitable name)

def set (name : Text) (value : Json) (form : Form) : Form :=
  { form with values := Json.setMember name value form.values }

def keyJson (name : Text) : List Json → Json.Members
  | [] => []
  | [value] => [(name, value)]
  | values => [(name, .array values)]

def toJson (form : Form) : Json :=
  .object ([(("value" : Text), .object form.values)] ++ keyJson "key" form.key ++
    keyJson "sort_key" form.sortKey)

end Form

end ParticipantRegistry
