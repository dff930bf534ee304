import ParticipantRegistry.Application.Exchange
import ParticipantRegistry.Application.Failure
import ParticipantRegistry.Application.Host
import ParticipantRegistry.Application.Settings
import ParticipantRegistry.Application.Task
import ParticipantRegistry.Calendar.Date
import ParticipantRegistry.Calendar.DocumentDate
import ParticipantRegistry.Calendar.IsoDate
import ParticipantRegistry.CommandLine.Command
import ParticipantRegistry.CommandLine.Grammar
import ParticipantRegistry.CommandLine.Program
import ParticipantRegistry.Document.Check
import ParticipantRegistry.Document.Element
import ParticipantRegistry.Document.File
import ParticipantRegistry.Document.Payload
import ParticipantRegistry.Exchange.ActionLog
import ParticipantRegistry.Exchange.Commit
import ParticipantRegistry.Exchange.Export
import ParticipantRegistry.Exchange.Import
import ParticipantRegistry.Exchange.Journal
import ParticipantRegistry.Exchange.LogStep
import ParticipantRegistry.Exchange.PlanOutcome
import ParticipantRegistry.Exchange.Proposal
import ParticipantRegistry.Exchange.Reading
import ParticipantRegistry.Exchange.Run
import ParticipantRegistry.Exchange.Staging
import ParticipantRegistry.Exchange.View
import ParticipantRegistry.Files.Disk
import ParticipantRegistry.Files.Name
import ParticipantRegistry.Files.Path
import ParticipantRegistry.Json.Alike
import ParticipantRegistry.Json.Basic
import ParticipantRegistry.Json.Display
import ParticipantRegistry.Json.Members
import ParticipantRegistry.Json.Reader
import ParticipantRegistry.Json.Writer
import ParticipantRegistry.Main
import ParticipantRegistry.Number.Binary64
import ParticipantRegistry.Number.Shortest
import ParticipantRegistry.Participant.Card
import ParticipantRegistry.Participant.Draft
import ParticipantRegistry.Participant.Form
import ParticipantRegistry.Participant.Required
import ParticipantRegistry.Participant.Routing
import ParticipantRegistry.Participant.View
import ParticipantRegistry.Proofs.Application.Agreement
import ParticipantRegistry.Proofs.Application.CreatedUsers
import ParticipantRegistry.Proofs.Application.DocumentFiles
import ParticipantRegistry.Proofs.Application.DocumentLoading
import ParticipantRegistry.Proofs.Application.HostExchange
import ParticipantRegistry.Proofs.Application.HostImport
import ParticipantRegistry.Proofs.Application.SessionCalls
import ParticipantRegistry.Proofs.Application.SessionExchange
import ParticipantRegistry.Proofs.Application.SessionImport
import ParticipantRegistry.Proofs.Application.Startup
import ParticipantRegistry.Proofs.Calendar.Days
import ParticipantRegistry.Proofs.CommandLine.ExitStatus
import ParticipantRegistry.Proofs.Document.Acceptance
import ParticipantRegistry.Proofs.Document.Elements
import ParticipantRegistry.Proofs.Document.Encodable
import ParticipantRegistry.Proofs.Document.Envelope
import ParticipantRegistry.Proofs.Document.GroupFormat
import ParticipantRegistry.Proofs.Document.GroupGrammar
import ParticipantRegistry.Proofs.Document.NormalForm
import ParticipantRegistry.Proofs.Document.RewrittenCards
import ParticipantRegistry.Proofs.Exchange.BatchReading
import ParticipantRegistry.Proofs.Exchange.CanonicalExport
import ParticipantRegistry.Proofs.Exchange.CardCascade
import ParticipantRegistry.Proofs.Exchange.CardReplacement
import ParticipantRegistry.Proofs.Exchange.CommitTrace
import ParticipantRegistry.Proofs.Exchange.Containment
import ParticipantRegistry.Proofs.Exchange.DocumentOrder
import ParticipantRegistry.Proofs.Exchange.EndState
import ParticipantRegistry.Proofs.Exchange.Footprint
import ParticipantRegistry.Proofs.Exchange.ImportCalls
import ParticipantRegistry.Proofs.Exchange.Isolation
import ParticipantRegistry.Proofs.Exchange.Mirroring
import ParticipantRegistry.Proofs.Exchange.Ownership
import ParticipantRegistry.Proofs.Exchange.Preparation
import ParticipantRegistry.Proofs.Exchange.Readings
import ParticipantRegistry.Proofs.Exchange.Recovery
import ParticipantRegistry.Proofs.Exchange.Registration
import ParticipantRegistry.Proofs.Exchange.Reimport
import ParticipantRegistry.Proofs.Exchange.Restriction
import ParticipantRegistry.Proofs.Exchange.Share
import ParticipantRegistry.Proofs.Exchange.StoreExport
import ParticipantRegistry.Proofs.Exchange.StoreImport
import ParticipantRegistry.Proofs.Exchange.Yields
import ParticipantRegistry.Proofs.Files.Disk
import ParticipantRegistry.Proofs.Json.Numbers
import ParticipantRegistry.Proofs.Json.Reading
import ParticipantRegistry.Proofs.Json.Roundtrip
import ParticipantRegistry.Proofs.Number.Rounding
import ParticipantRegistry.Proofs.Registry.Answers
import ParticipantRegistry.Proofs.Registry.Dialogue
import ParticipantRegistry.Proofs.Registry.Holding
import ParticipantRegistry.Proofs.Registry.ReadEntities
import ParticipantRegistry.Proofs.Registry.StoredCards
import ParticipantRegistry.Proofs.Registry.Table
import ParticipantRegistry.Proofs.Relational.AddedUsers
import ParticipantRegistry.Proofs.Relational.Atomicity
import ParticipantRegistry.Proofs.Relational.Integrity
import ParticipantRegistry.Proofs.Relational.PortCalls
import ParticipantRegistry.Proofs.Relational.Rewrites
import ParticipantRegistry.Proofs.Relational.Statements
import ParticipantRegistry.Proofs.Relational.StoreMirror
import ParticipantRegistry.Proofs.Relational.StoredRoutes
import ParticipantRegistry.Proofs.Relational.Units
import ParticipantRegistry.Proofs.Text.Capitals
import ParticipantRegistry.Proofs.Text.Decoding
import ParticipantRegistry.Proofs.Text.Digits
import ParticipantRegistry.Proofs.Text.Encoding
import ParticipantRegistry.Proofs.Text.Trimming
import ParticipantRegistry.Registry.Basic
import ParticipantRegistry.Registry.Invocation
import ParticipantRegistry.Registry.Keyed
import ParticipantRegistry.Registry.StoredEntities
import ParticipantRegistry.Registry.Strict
import ParticipantRegistry.Registry.UnusualKey
import ParticipantRegistry.Registry.View
import ParticipantRegistry.Relational.Address
import ParticipantRegistry.Relational.Cell
import ParticipantRegistry.Relational.Database
import ParticipantRegistry.Relational.Location
import ParticipantRegistry.Relational.LooseCall
import ParticipantRegistry.Relational.Maintenance
import ParticipantRegistry.Relational.Row
import ParticipantRegistry.Relational.Schema
import ParticipantRegistry.Relational.Session
import ParticipantRegistry.Relational.SessionRegistry
import ParticipantRegistry.Relational.Snapshot
import ParticipantRegistry.Relational.UnitOfWork
import ParticipantRegistry.Relational.View
import ParticipantRegistry.Settings.DataDirectory
import ParticipantRegistry.Settings.Environment
import ParticipantRegistry.Settings.Printing
import ParticipantRegistry.Settings.View
import ParticipantRegistry.Text.Basic
import ParticipantRegistry.Text.Blank
import ParticipantRegistry.Text.CaseRun
import ParticipantRegistry.Text.Cased
import ParticipantRegistry.Text.LowerCase
import ParticipantRegistry.Text.Numeral
import ParticipantRegistry.Text.Percent
import ParticipantRegistry.Text.Printable
import ParticipantRegistry.Text.Quoted
import ParticipantRegistry.Text.TitleCase
import ParticipantRegistry.Text.UpperCase
import ParticipantRegistry.Text.Utf8
import ParticipantRegistry.Text.WordCharacter
import ParticipantRegistry.Application.LifeCycle
import ParticipantRegistry.Proofs.Application.AdapterChanges
import ParticipantRegistry.Proofs.Application.LifeSteps
import ParticipantRegistry.Proofs.Application.LifeCycle
import ParticipantRegistry.Proofs.Document.BuiltObjects
import ParticipantRegistry.Proofs.Exchange.Inspections
import ParticipantRegistry.Proofs.Application.UnmodeledNames
import ParticipantRegistry.Proofs.Application.ImportInspections
