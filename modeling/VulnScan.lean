import VulnScan.CommandLine.Arguments
import VulnScan.CommandLine.Help
import VulnScan.CommandLine.Job
import VulnScan.Config.Change
import VulnScan.Config.Directive
import VulnScan.Config.Environment
import VulnScan.Config.File
import VulnScan.Config.LogFilter
import VulnScan.Config.Pattern
import VulnScan.Config.Settings
import VulnScan.Error
import VulnScan.Execution.Activity
import VulnScan.Execution.Alone
import VulnScan.Execution.Course
import VulnScan.Execution.Pool
import VulnScan.Execution.Progress
import VulnScan.Execution.Record
import VulnScan.Finding.Report
import VulnScan.Finding.Results
import VulnScan.Finding.Severity
import VulnScan.Json.Choice
import VulnScan.Json.Codec
import VulnScan.Json.Printer
import VulnScan.Json.Reader
import VulnScan.Json.Record
import VulnScan.Json.Text
import VulnScan.Json.Value
import VulnScan.LanguageServer.Backoff
import VulnScan.LanguageServer.Framing
import VulnScan.LanguageServer.Http
import VulnScan.LanguageServer.Launch
import VulnScan.LanguageServer.Message
import VulnScan.LanguageServer.Proxy
import VulnScan.LanguageServer.Registration
import VulnScan.Live.World
import VulnScan.Main
import VulnScan.Net.Address
import VulnScan.Net.Endpoint
import VulnScan.Net.KnownPorts
import VulnScan.Net.PortSet
import VulnScan.Net.Service
import VulnScan.Number.Binary
import VulnScan.Number.Literal
import VulnScan.Number.Shortest
import VulnScan.Number.Single
import VulnScan.Number.Word
import VulnScan.Plugin.Definition
import VulnScan.Plugin.Matching
import VulnScan.Plugin.Registry
import VulnScan.Plugin.Selection
import VulnScan.Rehearsal.Files
import VulnScan.Rehearsal.Script
import VulnScan.Rehearsal.World
import VulnScan.Scan.Network
import VulnScan.Scan.PortScanner
import VulnScan.Scan.Tracer
import VulnScan.Scan.Workflow
import VulnScan.Text.Alphanumeric
import VulnScan.Text.Ascii
import VulnScan.Text.Blank
import VulnScan.Text.Hexadecimal
import VulnScan.Text.Numeral
import VulnScan.Text.Printable
import VulnScan.Text.Quoted
import VulnScan.Text.Ranges
import VulnScan.Text.Split
import VulnScan.Text.Utf8
import VulnScan.Time.Calendar
import VulnScan.Time.Span
import VulnScan.Time.Stopwatch
import VulnScan.Time.Timestamp
import VulnScan.Time.Timestamp.Reader
import VulnScan.Toml.Node
import VulnScan.Toml.Reader
import VulnScan.Toml.Scalar
import VulnScan.Wire.Config
import VulnScan.Wire.Finding
import VulnScan.Wire.LanguageServer
import VulnScan.Wire.Net
import VulnScan.Wire.Plugin
import VulnScan.Proofs.Execution.Parts
import VulnScan.Proofs.Execution.View
import VulnScan.Proofs.Execution.Courses
import VulnScan.Proofs.Execution.PoolRun
import VulnScan.Proofs.Execution.Alike
import VulnScan.Proofs.Execution.Isolation
import VulnScan.Proofs.Execution.Batch
import VulnScan.Proofs.Execution.BatchRun
import VulnScan.Proofs.Execution.SharedPool
import VulnScan.Proofs.Execution.SharedPoolRun
import VulnScan.Proofs.LanguageServer.Answers
import VulnScan.Proofs.LanguageServer.Queue
import VulnScan.Proofs.Plugin.Agreement
import VulnScan.Proofs.Plugin.Hosted
import VulnScan.Proofs.Plugin.Detectors
import VulnScan.Proofs.Plugin.Matching
import VulnScan.Proofs.Scan.Cancellation
import VulnScan.Proofs.Scan.Fingerprinting
import VulnScan.Proofs.Scan.Listing
import VulnScan.Proofs.Scan.Schedule
import VulnScan.Proofs.Scan.Verdict
import VulnScan.Proofs.Scan.Steps
import VulnScan.Proofs.Scan.Barrier
import VulnScan.Proofs.Scan.StepRun
import VulnScan.Proofs.Plugin.DetectorRule
import VulnScan.Proofs.Execution.Within
import VulnScan.Proofs.LanguageServer.Requests
import VulnScan.Proofs.Scan.Requests
import VulnScan.Proofs.Scan.AtOnce
import VulnScan.Proofs.Scan.Exclusion
import VulnScan.Proofs.Execution.Replay
import VulnScan.Proofs.Execution.ReplayPool
import VulnScan.Proofs.Plugin.Repeats
import VulnScan.Proofs.Scan.Replay
import VulnScan.Proofs.Scan.Series
import VulnScan.Proofs.Plugin.Replacement
import VulnScan.Proofs.Plugin.Calls
import VulnScan.Proofs.LanguageServer.Registered
import VulnScan.Proofs.Execution.Clock
import VulnScan.Proofs.Execution.Polls
import VulnScan.Proofs.Execution.Calm
import VulnScan.Proofs.Execution.Dismissal
import VulnScan.Proofs.Execution.Calling
import VulnScan.Proofs.Scan.Timers
import VulnScan.Proofs.Scan.Tracing
import VulnScan.Proofs.Scan.Stillness
import VulnScan.Proofs.Scan.Tokens
import VulnScan.Proofs.Json.Spelling
import VulnScan.Proofs.Text.Numerals
import VulnScan.Proofs.Json.Reading
import VulnScan.Proofs.Json.Codecs
import VulnScan.Proofs.Json.Records
import VulnScan.Proofs.Net.Addresses
import VulnScan.Proofs.Time.Dates
import VulnScan.Proofs.Time.Timestamps
import VulnScan.Proofs.Time.Stopwatches
import VulnScan.Proofs.Number.Literals
import VulnScan.Proofs.Number.Rounding
import VulnScan.Proofs.Number.Shortest
import VulnScan.Proofs.Number.NearMiss
import VulnScan.Proofs.Number.Scaling
import VulnScan.Proofs.Number.Layouts
import VulnScan.Proofs.Number.Scores
import VulnScan.Proofs.Wire.Messages
import VulnScan.Proofs.Wire.Findings
import VulnScan.Proofs.LanguageServer.HealthGate
import VulnScan.Proofs.LanguageServer.Inbound
import VulnScan.Proofs.Execution.Contention
import VulnScan.Proofs.Execution.WellFormed
import VulnScan.Proofs.Execution.Elapsed
import VulnScan.Proofs.Execution.Deadlines
import VulnScan.Proofs.Scan.Termination
import VulnScan.Proofs.Scan.Moves
import VulnScan.Proofs.Scan.Lifecycle
import VulnScan.Proofs.Plugin.Registration
import VulnScan.Proofs.Scan.Scanner
import VulnScan.Proofs.Plugin.Identifiers
import VulnScan.Proofs.Net.LetterCase
import VulnScan.Proofs.Execution.Lockstep
import VulnScan.Proofs.Plugin.LetterCase
import VulnScan.Proofs.LanguageServer.Chunks
import VulnScan.Proofs.Text.Pieces
import VulnScan.Proofs.Net.Targets
import VulnScan.Proofs.Outcomes
import VulnScan.Proofs.Net.Ports
import VulnScan.Proofs.Json.Members
import VulnScan.Proofs.CommandLine.Given
import VulnScan.Proofs.Config.Layers
import VulnScan.Proofs.Config.DetectorLists
import VulnScan.Proofs.LanguageServer.Listening
import VulnScan.Proofs.Plugin.Advisories
import VulnScan.Proofs.Scan.Accepted
