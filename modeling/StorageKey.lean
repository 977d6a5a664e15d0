import StorageKey.Agent.Client
import StorageKey.Agent.Response
import StorageKey.Backend
import StorageKey.Command
import StorageKey.Config
import StorageKey.Config.Load
import StorageKey.Config.Source
import StorageKey.Data.Datum
import StorageKey.Data.Entries
import StorageKey.Data.Literal
import StorageKey.Data.Value
import StorageKey.Decimal.Binary64
import StorageKey.Decimal.Digit
import StorageKey.Decimal.Integer
import StorageKey.Decimal.Real
import StorageKey.Decimal.Shortest
import StorageKey.Failure
import StorageKey.Invocation
import StorageKey.Log.Detail
import StorageKey.Log.Entry
import StorageKey.Log.Logger
import StorageKey.Main
import StorageKey.Markup.Colour
import StorageKey.Markup.Layout
import StorageKey.Markup.Marked
import StorageKey.Markup.Style
import StorageKey.Markup.Terminal
import StorageKey.Path
import StorageKey.Program
import StorageKey.Record.Coerce
import StorageKey.Record.Issue
import StorageKey.Session
import StorageKey.State
import StorageKey.Status
import StorageKey.Text.Blank
import StorageKey.Text.Fill
import StorageKey.Text.LetterCase
import StorageKey.Text.Lines
import StorageKey.Text.Pattern
import StorageKey.Text.Printable
import StorageKey.Text.Quoted
import StorageKey.Text.Separated
import StorageKey.Text.Start
import StorageKey.Text.Template
import StorageKey.Text.Utf8
import StorageKey.Text.Width
import StorageKey.Text.WordCharacter
import StorageKey.Usage.Help
import StorageKey.Usage.Parse
import StorageKey.Usage.Parser
import StorageKey.Usage.Subcommand
import StorageKey.Usage.Token
import StorageKey.World
import StorageKey.World.Files
import StorageKey.World.Module
import StorageKey.Yaml.Cursor
import StorageKey.Yaml.Document
import StorageKey.Yaml.Fault
import StorageKey.Yaml.Graph
import StorageKey.Yaml.Page
import StorageKey.Yaml.ScalarText
import StorageKey.Yaml.ScalarValue
import StorageKey.Yaml.Scan
import StorageKey.Yaml.Source
import StorageKey.Yaml.Style
import StorageKey.Yaml.Tag
import StorageKey.Yaml.Token
import StorageKey.Yaml.Writer
import StorageKey.Proofs.Invocation.Spelling
import StorageKey.Proofs.Invocation.Cluster
import StorageKey.Proofs.Invocation.Reading
import StorageKey.Proofs.Invocation.Line
import StorageKey.Proofs.Invocation.Record
import StorageKey.Proofs.Invocation.Scan
import StorageKey.Proofs.Invocation.Slice
import StorageKey.Proofs.Invocation.WholeLine
import StorageKey.Proofs.Log
import StorageKey.Proofs.Usage.HelpParser
import StorageKey.Proofs.Program
import StorageKey.Proofs.Session.Steps
import StorageKey.Proofs.Session.Attempts
import StorageKey.Proofs.Session.Frame
import StorageKey.Proofs.Session.Alike
import StorageKey.Proofs.Session.Respects
import StorageKey.Proofs.Invocation.Verbose
import StorageKey.Proofs.Session.History
import StorageKey.Proofs.Session.Unlogged
import StorageKey.Proofs.Verbosity
import StorageKey.Proofs.Text.Bounds
import StorageKey.Proofs.Text.Utf8
import StorageKey.Proofs.Secrecy
import StorageKey.Proofs.Session.Warnings
import StorageKey.Proofs.Outcome
import StorageKey.Proofs.Session.Connection
import StorageKey.Proofs.Session.Emission
import StorageKey.Proofs.Flushing
import StorageKey.Proofs.Session.Settings
import StorageKey.Proofs.Session.Separation
import StorageKey.Proofs.Yaml.Building
import StorageKey.Proofs.Yaml.Scanning
import StorageKey.Proofs.Yaml.Bounds
import StorageKey.Proofs.Yaml.Faults
import StorageKey.Proofs.Yaml.Unwritable
import StorageKey.Proofs.AgentFailures
import StorageKey.Proofs.Backend
import StorageKey.Proofs.DeviceFailures
import StorageKey.Proofs.Session.GivenFactory
import StorageKey.Proofs.Usage.HelpRequest
import StorageKey.Proofs.Text.Lines
import StorageKey.Proofs.Text.Quoted
import StorageKey.Proofs.Answers
import StorageKey.Proofs.Transmission
import StorageKey.Proofs.ConfigurationDocument
import StorageKey.Proofs.ConfigurationLookup
import StorageKey.Proofs.Decimal.Digits
import StorageKey.Proofs.Log.Prefixes
import StorageKey.Proofs.Log.Quiet
import StorageKey.Proofs.Yaml.KeyOrder
import StorageKey.Proofs.Yaml.Writing
import StorageKey.Proofs.Log.Indentation
import StorageKey.Proofs.StatusText
import StorageKey.Proofs.Records
import StorageKey.Proofs.RejectedData
