import ParticipantRegistry.Json.Members
import ParticipantRegistry.Relational.Row

/-!
# Snapshots

A snapshot is a database as one JSON value: the rows of each table, `null` for a table that is not
there, and whether the database was brought to the current schema. `ofSnapshot?_snapshot` says that a
snapshot gives its database back.
-/

namespace ParticipantRegistry

open Json (ofText?)

namespace Snapshot

def cellOf? : Json → Option (Option Text)
  | .null => some none
  | .string t => some (some t)
  | _ => none

def itemsOf? {α : Type} (item? : Json → Option α) : Json → Option (List α)
  | .array values => values.mapM item?
  | _ => none

def rowJson (row : Row) : Json := .array (row.map ofText?)

def recordsJson {ρ : Type} (row : ρ → Row) : Option (List ρ) → Json
  | some records => .array (records.map fun r => rowJson (row r))
  | none => .null

def recordOf? {ρ : Type} (ofRow? : Row → Option ρ) (value : Json) : Option ρ :=
  (itemsOf? cellOf? value).bind ofRow?

def tableOf? {ρ : Type} (ofRow? : Row → Option ρ) : Json → Option (Option (List ρ))
  | .null => some none
  | value => (itemsOf? (recordOf? ofRow?) value).map some

theorem cellOf?_ofText? (t : Option Text) : cellOf? (ofText? t) = some t := by
  cases t <;> rfl

theorem mapM_map_eq_some {α β : Type} {f : α → β} {g : β → Option α} (h : ∀ a, g (f a) = some a)
    (as : List α) : (as.map f).mapM g = some as := by
  induction as with
  | nil => rfl
  | cons a as ih => simp [h, ih]

theorem itemsOf?_rowJson (row : Row) : itemsOf? cellOf? (rowJson row) = some row :=
  mapM_map_eq_some cellOf?_ofText? row

theorem tableOf?_recordsJson {ρ : Type} {row : ρ → Row} {ofRow? : Row → Option ρ}
    (h : ∀ r, ofRow? (row r) = some r) (table : Option (List ρ)) :
    tableOf? ofRow? (recordsJson row table) = some table := by
  cases table with
  | none => rfl
  | some records =>
    have hr : ∀ r, recordOf? ofRow? (rowJson (row r)) = some r := by
      intro r
      simp [recordOf?, itemsOf?_rowJson, h]
    simp [tableOf?, recordsJson, itemsOf?, mapM_map_eq_some hr]

end Snapshot

open Snapshot

namespace Database

def snapshot (db : Database) : Json :=
  .object
    [("users", recordsJson User.row db.users), ("groups", recordsJson ServiceGroup.row db.groups),
      ("endpoints", recordsJson Endpoint.row db.endpoints),
      ("redirects", recordsJson Redirect.row db.redirects),
      ("business_cards", recordsJson CardRow.row db.businessCards), ("upgraded", .bool db.upgraded)]

def ofSnapshot? : Json → Option Database
  | .object [(_, users), (_, groups), (_, endpoints), (_, redirects), (_, cards), (_, upgraded)] =>
    return {
      users := ← tableOf? User.ofRow? users
      groups := ← tableOf? ServiceGroup.ofRow? groups
      endpoints := ← tableOf? Endpoint.ofRow? endpoints
      redirects := ← tableOf? Redirect.ofRow? redirects
      businessCards := ← tableOf? CardRow.ofRow? cards
      upgraded := upgraded.isTrue }
  | _ => none

theorem ofSnapshot?_snapshot (db : Database) : ofSnapshot? db.snapshot = some db := by
  dsimp only [ofSnapshot?, snapshot]
  rw [tableOf?_recordsJson User.ofRow?_row, tableOf?_recordsJson ServiceGroup.ofRow?_row,
    tableOf?_recordsJson Endpoint.ofRow?_row, tableOf?_recordsJson Redirect.ofRow?_row,
    tableOf?_recordsJson CardRow.ofRow?_row]
  rfl

end Database

end ParticipantRegistry
