import FileConfinement.Access
import FileConfinement.Action
import FileConfinement.Baseline
import FileConfinement.Call
import FileConfinement.Command.EventFilter
import FileConfinement.Command.Line
import FileConfinement.Command.Perform
import FileConfinement.Command.Presentation
import FileConfinement.Command.Switch
import FileConfinement.Confinement
import FileConfinement.Context.Basic
import FileConfinement.Context.Document
import FileConfinement.Context.Host
import FileConfinement.Context.Layout
import FileConfinement.Directive
import FileConfinement.DirectiveQueue
import FileConfinement.Document.Fault
import FileConfinement.Document.Layout
import FileConfinement.Document.Lexeme
import FileConfinement.Document.NumberLiteral
import FileConfinement.Document.Value
import FileConfinement.Errno
import FileConfinement.Event
import FileConfinement.Failure
import FileConfinement.Host
import FileConfinement.KernelVersion
import FileConfinement.Main
import FileConfinement.Number.Binary64
import FileConfinement.Number.Shortest
import FileConfinement.Path
import FileConfinement.Proofs.Attempt
import FileConfinement.Proofs.AttemptList
import FileConfinement.Proofs.Commit
import FileConfinement.Proofs.Kernel
import FileConfinement.Ruleset
import FileConfinement.Session
import FileConfinement.Support
import FileConfinement.Text.Blank
import FileConfinement.Text.ControlFunction
import FileConfinement.Text.Printable
import FileConfinement.Text.Quoted
import FileConfinement.Text.Utf8
import FileConfinement.Proofs.ContextAttempts
import FileConfinement.Proofs.ReferenceRun
import FileConfinement.Proofs.Protocol
import FileConfinement.Proofs.Standing
import FileConfinement.Proofs.Record
import FileConfinement.Proofs.Ledger
import FileConfinement.Proofs.Agreement
import FileConfinement.Proofs.Course
import FileConfinement.Proofs.ExecutionGate
import FileConfinement.Proofs.ProgramWords
import FileConfinement.Proofs.FailClosed
import FileConfinement.Proofs.OpenDescriptors
import FileConfinement.Proofs.Discipline
import FileConfinement.Proofs.Operation
import FileConfinement.Proofs.Release
import FileConfinement.Proofs.OldKernel
import FileConfinement.Proofs.Terminal
import FileConfinement.Proofs.Grants
import FileConfinement.Proofs.Requests
import FileConfinement.Proofs.Union
import FileConfinement.Proofs.OptionOrder
import FileConfinement.Proofs.TextBytes
import FileConfinement.Proofs.OptionWords
import FileConfinement.Proofs.RunLine
import FileConfinement.Proofs.DocumentGrammar
import FileConfinement.Proofs.Reading
import FileConfinement.Proofs.QuotedText
import FileConfinement.Proofs.IntegerLiteral
import FileConfinement.Proofs.ValueReaders
import FileConfinement.Proofs.ContextReader
import FileConfinement.Proofs.DocumentFormat
import FileConfinement.Proofs.DirectiveLine
import FileConfinement.Proofs.WrittenDocument
import FileConfinement.Proofs.ContextRoundTrip
import FileConfinement.Proofs.FileContents
import FileConfinement.Proofs.OptionsAsConfiguration
import FileConfinement.Proofs.PathComponents
import FileConfinement.Proofs.DirectiveForms
import FileConfinement.Proofs.BaselineListing
import FileConfinement.Proofs.HomeResolution
import FileConfinement.Proofs.LogLine
import FileConfinement.Proofs.EventFilter
import FileConfinement.Proofs.Diagnostics
import FileConfinement.Proofs.DirectiveGrammar
import FileConfinement.Proofs.AttemptAnswers
import FileConfinement.Proofs.BaselineReport
import FileConfinement.Proofs.QueueAccount
import FileConfinement.Proofs.CommitRetry
import FileConfinement.Proofs.ReleaseGrammar
import FileConfinement.Proofs.RuleInsertion
import FileConfinement.Proofs.EmptyRestriction
