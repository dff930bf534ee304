import ParticipantRegistry.Relational.Database

/-!
# Rows

A row holds the values of a record in the order of the columns of its table, where an empty column is
`none`. Each kind of record is read back from its row.
-/

namespace ParticipantRegistry

abbrev Row := List (Option Text)

namespace User

def row (u : User) : Row := [some u.id, some u.displayName]

def ofRow? : Row → Option User
  | [some id, some displayName] => some ⟨id, displayName⟩
  | _ => none

theorem ofRow?_row (u : User) : ofRow? u.row = some u := rfl

end User

namespace ServiceGroup

def row (g : ServiceGroup) : Row := [some g.participantId, some g.ownerId, g.extension]

def ofRow? : Row → Option ServiceGroup
  | [some participantId, some ownerId, extension] => some ⟨participantId, ownerId, extension⟩
  | _ => none

theorem ofRow?_row (g : ServiceGroup) : ofRow? g.row = some g := rfl

end ServiceGroup

namespace Endpoint

def row (e : Endpoint) : Row :=
  [some e.participantId, some e.documentType, some e.process, some e.transportProfile,
    some e.endpointUrl, e.certificate, e.serviceDescription, e.technicalContactUrl, e.extension]

def ofRow? : Row → Option Endpoint
  | [some participantId, some documentType, some process, some transportProfile, some endpointUrl,
      certificate, serviceDescription, technicalContactUrl, extension] =>
    some { participantId, documentType, process, transportProfile, endpointUrl, certificate,
           serviceDescription, technicalContactUrl, extension }
  | _ => none

theorem ofRow?_row (e : Endpoint) : ofRow? e.row = some e := rfl

end Endpoint

namespace Redirect

def row (r : Redirect) : Row :=
  [some r.participantId, some r.documentType, some r.targetHref, r.subjectUniqueIdentifier,
    r.certificate, r.extension]

def ofRow? : Row → Option Redirect
  | [some participantId, some documentType, some targetHref, subjectUniqueIdentifier, certificate,
      extension] =>
    some { participantId, documentType, targetHref, subjectUniqueIdentifier, certificate, extension }
  | _ => none

theorem ofRow?_row (r : Redirect) : ofRow? r.row = some r := rfl

end Redirect

namespace CardRow

def row (c : CardRow) : Row := [some c.participantId, some c.entities]

def ofRow? : Row → Option CardRow
  | [some participantId, some entities] => some ⟨participantId, entities⟩
  | _ => none

theorem ofRow?_row (c : CardRow) : ofRow? c.row = some c := rfl

end CardRow

end ParticipantRegistry
