import ParticipantRegistry.Relational.Row
import ParticipantRegistry.Relational.Session

/-!
# Maintenance

Tables can be dropped and stored texts exchanged in a database while a session works on it. Such
changes are outside any transaction. The rows of a table are shown in the order of its primary key.
-/

namespace ParticipantRegistry

namespace Storage

def edit (change : Database → Database) (s : Storage) : Storage :=
  ⟨change s.current, change s.committed⟩

end Storage

namespace Session

def dropTable (name : TableName) : Call Session Unit := do
  ensureUsable
  if !(← get).storage.current.has name then refuse .missingTable
  modify fun s => { s with storage := s.storage.edit (·.drop name) }

def dropNamed (name : Text) : Call Session Unit := do
  match TableName.ofText? name.asciiLower with
  | some table => dropTable table
  | none =>
    ensureUsable
    refuse .missingTable

def overwriteEntities (participantId entities : Text) : Call Session Unit := do
  ensureUsable
  let _ ← rowsOf .businessCards
  bind [participantId, entities]
  let row : CardRow := ⟨participantId, entities⟩
  modify fun s =>
    { s with
      storage := s.storage.edit fun db =>
        { db with businessCards := db.businessCards.map (Table.put row) } }

/-- The database as a statement of the session finds it: a session that refuses everything finds no
table. -/
def visible (s : Session) : Database :=
  if s.transaction = .failed then {} else s.storage.current

end Session

namespace Database

def rowsBy {ρ : Type} (keyTexts : ρ → List Text) (row : ρ → Row) (rows : List ρ) : List Row :=
  (rows.mergeSort fun a b => Text.leAll (keyTexts a) (keyTexts b)).map row

def rows? (db : Database) : TableName → Option (List Row)
  | .users => db.users.map (rowsBy (fun u => [u.id]) User.row)
  | .groups => db.groups.map (rowsBy (fun g => [g.participantId]) ServiceGroup.row)
  | .endpoints => db.endpoints.map (rowsBy (fun e => (key e).parts) Endpoint.row)
  | .redirects => db.redirects.map (rowsBy (fun r => (key r).parts) Redirect.row)
  | .businessCards => db.businessCards.map (rowsBy (fun c => [c.participantId]) CardRow.row)

end Database

end ParticipantRegistry
