import JobDispatch.CommandLine.Endpoint
import JobDispatch.CommandLine.LogLine
import JobDispatch.CommandLine.Options
import JobDispatch.CommandLine.Session
import JobDispatch.CommandLine.Usage
import JobDispatch.CoprBuild
import JobDispatch.Dispatch
import JobDispatch.DispatchId
import JobDispatch.Error
import JobDispatch.Event
import JobDispatch.EventStream
import JobDispatch.Files
import JobDispatch.Handler
import JobDispatch.Handler.Copr
import JobDispatch.Handler.Downstream
import JobDispatch.Handler.Registry
import JobDispatch.Json.Document
import JobDispatch.Json.Number
import JobDispatch.Json.Reader
import JobDispatch.Json.Token
import JobDispatch.Json.Value
import JobDispatch.Json.Written
import JobDispatch.Link
import JobDispatch.Listener
import JobDispatch.Log
import JobDispatch.Log.Directive
import JobDispatch.Log.FieldTest
import JobDispatch.Log.Filter
import JobDispatch.Log.Span
import JobDispatch.Main
import JobDispatch.Offline.ConfigForge
import JobDispatch.Offline.FileTree
import JobDispatch.Offline.Recorder
import JobDispatch.Offline.Replay
import JobDispatch.Offline.SpecFile
import JobDispatch.PackageConfig
import JobDispatch.Program
import JobDispatch.Project
import JobDispatch.Project.Address
import JobDispatch.Proofs.Answers
import JobDispatch.Proofs.Builtins
import JobDispatch.Proofs.Calls
import JobDispatch.Proofs.Dispatch
import JobDispatch.Proofs.Invocation
import JobDispatch.Proofs.Isolation
import JobDispatch.Proofs.Leads
import JobDispatch.Proofs.Listener
import JobDispatch.Proofs.MissingField
import JobDispatch.Proofs.Origin
import JobDispatch.Proofs.Path
import JobDispatch.Proofs.Plan
import JobDispatch.Proofs.Provenance
import JobDispatch.Proofs.Recognition
import JobDispatch.Proofs.Replay
import JobDispatch.Proofs.ReplayFailure
import JobDispatch.Proofs.Run
import JobDispatch.Proofs.Sparing
import JobDispatch.Proofs.Turn
import JobDispatch.Recognition
import JobDispatch.Run
import JobDispatch.Text.Alphanumeric
import JobDispatch.Text.Blank
import JobDispatch.Text.CharSet
import JobDispatch.Text.Cursor
import JobDispatch.Text.Decimal
import JobDispatch.Text.Pattern
import JobDispatch.Text.Pattern.Automaton
import JobDispatch.Text.Pattern.Meaning
import JobDispatch.Text.Pattern.Reader
import JobDispatch.Text.Pattern.Written
import JobDispatch.Text.Printable
import JobDispatch.Text.Quoted
import JobDispatch.Timestamp
import JobDispatch.Proofs.Topic
import JobDispatch.Proofs.Attempts
import JobDispatch.Proofs.Connection
import JobDispatch.Proofs.EventStream
import JobDispatch.Proofs.MalformedLine
import JobDispatch.Proofs.Edit
import JobDispatch.Proofs.Payload
import JobDispatch.Proofs.CarryBack
import JobDispatch.Proofs.BuildReport
import JobDispatch.Proofs.Containment
import JobDispatch.Proofs.Resolution
import JobDispatch.Proofs.Cutting
import JobDispatch.Proofs.Address
import JobDispatch.Proofs.TextStream
import JobDispatch.Proofs.Registration
import JobDispatch.Proofs.Link
import JobDispatch.Proofs.SpecFile
import JobDispatch.Proofs.Reader
import JobDispatch.Proofs.Written
import JobDispatch.Proofs.Spelling
import JobDispatch.Proofs.ReadBack
import JobDispatch.Proofs.Access
import JobDispatch.Proofs.Announcement
import JobDispatch.Proofs.BuildNumbers
