import ParticipantRegistry.Text.Basic

/-!
# The schema of the database

The database has five tables. A column holds short or long text, may be empty or not, and may have a
place in the primary key of its table.
-/

namespace ParticipantRegistry

inductive TableName where
  | users
  | groups
  | endpoints
  | redirects
  | businessCards
  deriving DecidableEq

namespace TableName

def all : List TableName := [.users, .groups, .endpoints, .redirects, .businessCards]

def text : TableName → Text
  | .users => "user_account"
  | .groups => "service_group"
  | .endpoints => "endpoint"
  | .redirects => "redirect"
  | .businessCards => "business_card"

def ofText? (t : Text) : Option TableName := all.find? (·.text = t)

end TableName

inductive ColumnType where
  | short
  | long
  deriving DecidableEq

def ColumnType.text : ColumnType → Text
  | .short => "VARCHAR"
  | .long => "TEXT"

structure Column where
  name : Text
  type : ColumnType
  mayBeEmpty : Bool
  /-- The place in the primary key, counted from one; zero outside it. -/
  keyPlace : Nat
  deriving DecidableEq

namespace Column

def inKey (place : Nat) (name : Text) : Column := ⟨name, .short, false, place⟩

def filled (name : Text) : Column := ⟨name, .short, false, 0⟩

def short? (name : Text) : Column := ⟨name, .short, true, 0⟩

def long? (name : Text) : Column := ⟨name, .long, true, 0⟩

end Column

open Column

def TableName.columns : TableName → List Column
  | .users => [inKey 1 "id", filled "display_name"]
  | .groups => [inKey 1 "participant_id", filled "owner_id", long? "extension"]
  | .endpoints =>
    [inKey 1 "participant_id", inKey 2 "document_type", inKey 3 "process",
      inKey 4 "transport_profile", filled "endpoint_url", long? "certificate",
      long? "service_description", short? "technical_contact_url", long? "extension"]
  | .redirects =>
    [inKey 1 "participant_id", inKey 2 "document_type", filled "target_href",
      short? "subject_unique_identifier", long? "certificate", long? "extension"]
  | .businessCards => [inKey 1 "participant_id", ⟨"entities", .long, false, 0⟩]

end ParticipantRegistry
