import ParticipantRegistry.Document.File
import ParticipantRegistry.Exchange.Journal
import ParticipantRegistry.Relational.UnitOfWork
import ParticipantRegistry.Settings.DataDirectory

/-!
# Failures

What ends a task of the application.
-/

namespace ParticipantRegistry

inductive Failure where
  | record (error : Document.RecordError)
  | call (error : CallError)
  | load (error : Document.LoadError)
  | unwritable (error : Document.WriteError)
  | configuration (error : ConfigurationError)
  | directory (error : DirectoryError)
  | address (error : AddressError)
  | startup (error : StartupError)
  | file (error : FileError)
  | userExists (id : Json)
  | noImportFile (path : Text)
  | blankUserId
  deriving DecidableEq

namespace Failure

def ofTrouble : Trouble → Failure
  | .record error => .record error
  | .storage error => .call (.storage error)
  | .database error => .call (.fault (.database error))

def loadMessage : Document.LoadError → Text
  | .document error => error.message
  | .notUtf8 => "the document is not encoded in UTF-8"
  | .tooManyDigits count => (Json.ReadError.tooManyDigits count).message
  | .tooDeep => Json.ReadError.tooDeep.message

def message : Failure → Text
  | .record error => error.message
  | .call error => error.message
  | .load error => loadMessage error
  | .unwritable error => error.message
  | .configuration error => error.message
  | .directory (.noHome error) => error.message
  | .directory (.file error) => error.message
  | .address error => error.message
  | .startup error => error.message
  | .file error => error.message
  | .userExists id => "User " ++ id.quoted ++ " already exists"
  | .noImportFile path => "Import file does not exist: " ++ path
  | .blankUserId => "User id must not be blank"

end Failure

end ParticipantRegistry
