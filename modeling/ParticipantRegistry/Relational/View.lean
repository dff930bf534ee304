import ParticipantRegistry.Json.Members
import ParticipantRegistry.Relational.Maintenance

/-!
# Databases as JSON values

The content of a database is shown as its rows, and its schema as the columns of each table.
-/

namespace ParticipantRegistry

open Json (ofText?)

def Registration.toJson : Registration → Json
  | .register participantId => .array [.string "register", .string participantId]
  | .deregister participantId => .array [.string "deregister", .string participantId]

namespace Database

def rowsJson (db : Database) (name : TableName) : Json :=
  match db.rows? name with
  | some rows => .array (rows.map fun row => .array (row.map ofText?))
  | none => .string "no table"

def toJson (db : Database) : Json :=
  .object [("users", db.rowsJson .users), ("groups", db.rowsJson .groups),
    ("endpoints", db.rowsJson .endpoints), ("redirects", db.rowsJson .redirects),
    ("business_cards", db.rowsJson .businessCards)]

end Database

def Column.toJson (c : Column) : Json :=
  .array [.string c.name, .string c.type.text, .bool c.mayBeEmpty, .ofNat c.keyPlace]

namespace Database

def schemaJson (db : Database) : Json :=
  .object (db.tables.map fun name => (name.text, .array (name.columns.map Column.toJson)))

def schemasAfter : List Text → Database → Except DatabaseError (List Json)
  | [], _ => .ok []
  | change :: changes, db => do
    let db ←
      if change = "create_all" then pure db.createAll
      else if change = "downgrade" then db.downgrade
      else db.upgrade
    return db.schemaJson :: (← schemasAfter changes db)

end Database

end ParticipantRegistry
