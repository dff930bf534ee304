import ParticipantRegistry.Registry.Basic
import ParticipantRegistry.Relational.Schema

/-!
# The database

A database holds the rows of those tables that it has. `Database.upgrade` brings one to the current
schema once; afterwards it is marked as upgraded and stays as it is.
-/

namespace ParticipantRegistry

/-- A business card as its row holds it: with the entities as one text. -/
structure CardRow where
  participantId : Text
  entities : Text
  deriving DecidableEq

instance : Keyed CardRow Text := ⟨CardRow.participantId⟩

/-- The tables with their rows; `none` is a table that is not there. -/
structure Database where
  users : Option (List User) := none
  groups : Option (List ServiceGroup) := none
  endpoints : Option (List Endpoint) := none
  redirects : Option (List Redirect) := none
  businessCards : Option (List CardRow) := none
  upgraded : Bool := false
  deriving DecidableEq

namespace Database

def has (db : Database) : TableName → Bool
  | .users => db.users.isSome
  | .groups => db.groups.isSome
  | .endpoints => db.endpoints.isSome
  | .redirects => db.redirects.isSome
  | .businessCards => db.businessCards.isSome

def tables (db : Database) : List TableName := TableName.all.filter db.has

def drop (db : Database) : TableName → Database
  | .users => { db with users := none }
  | .groups => { db with groups := none }
  | .endpoints => { db with endpoints := none }
  | .redirects => { db with redirects := none }
  | .businessCards => { db with businessCards := none }

def createAll (db : Database) : Database :=
  { db with
    users := some (db.users.getD [])
    groups := some (db.groups.getD [])
    endpoints := some (db.endpoints.getD [])
    redirects := some (db.redirects.getD [])
    businessCards := some (db.businessCards.getD []) }

/-- Brings a database to the current schema. Tables that came from elsewhere are in the way. -/
def upgrade (db : Database) : Except DatabaseError Database :=
  if db.upgraded then .ok db
  else if db.tables = [] then .ok { db.createAll with upgraded := true }
  else .error .tableExists

def downgrade (db : Database) : Except DatabaseError Database :=
  if !db.upgraded then .ok db
  else if TableName.all.all db.has then .ok {}
  else .error .missingTable

def fresh : Database := { ({} : Database).createAll with upgraded := true }

theorem upgrade_empty : upgrade {} = .ok fresh := rfl

end Database

/-- A table of a database as the place of its rows. -/
structure Place (ρ : Type) where
  rows : Database → Option (List ρ)
  put : List ρ → Database → Database

namespace Place

def users : Place User := ⟨(·.users), fun rows db => { db with users := some rows }⟩

def groups : Place ServiceGroup := ⟨(·.groups), fun rows db => { db with groups := some rows }⟩

def endpoints : Place Endpoint :=
  ⟨(·.endpoints), fun rows db => { db with endpoints := some rows }⟩

def redirects : Place Redirect :=
  ⟨(·.redirects), fun rows db => { db with redirects := some rows }⟩

def businessCards : Place CardRow :=
  ⟨(·.businessCards), fun rows db => { db with businessCards := some rows }⟩

end Place

end ParticipantRegistry
