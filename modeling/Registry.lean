import Registry.Binary64
import Registry.Binary64.Extended
import Registry.Binary64.Notation
import Registry.Binary64.Reader
import Registry.Binary64.Shortest
import Registry.Calendar
import Registry.Config
import Registry.Config.Assign
import Registry.Config.Load
import Registry.Config.Schema
import Registry.Config.Scope
import Registry.Config.Secret
import Registry.Config.Standard
import Registry.Config.Tree
import Registry.DatabaseUrl
import Registry.DateTime
import Registry.DateTime.Input
import Registry.DateTime.Iso
import Registry.DateTime.Pattern
import Registry.Engine
import Registry.Engine.Arguments
import Registry.Engine.Dialect
import Registry.Engine.FileQuery
import Registry.Engine.Hosts
import Registry.Environment
import Registry.Environment.File
import Registry.Failure
import Registry.Field
import Registry.Files
import Registry.Host
import Registry.Identifier
import Registry.Identity
import Registry.Identity.Column
import Registry.Identity.Patch
import Registry.Identity.Update
import Registry.Input
import Registry.Json.Fault
import Registry.Json.Lexeme
import Registry.Json.Reader
import Registry.Json.Writer
import Registry.Logging
import Registry.Logging.Level
import Registry.Logging.Limit
import Registry.Logging.Logger
import Registry.Logging.Record
import Registry.Logging.RecordFile
import Registry.Main
import Registry.Message.Braces
import Registry.Message.Form
import Registry.Message.Percent
import Registry.Metadata
import Registry.Preparation
import Registry.Proofs.Binary64.Decimal
import Registry.Proofs.Binary64.Rounding
import Registry.Proofs.Calendar
import Registry.Proofs.Config.Assigning
import Registry.Proofs.Config.Blocks
import Registry.Proofs.Config.ConnectionString
import Registry.Proofs.Config.Formed
import Registry.Proofs.Config.Loading
import Registry.Proofs.Config.Nesting
import Registry.Proofs.Config.Overriding
import Registry.Proofs.Config.Settings
import Registry.Proofs.DatabaseUrl.Formed
import Registry.Proofs.DatabaseUrl.Query
import Registry.Proofs.DatabaseUrl.ReadBack
import Registry.Proofs.DateTime.Input
import Registry.Proofs.DateTime.Instant
import Registry.Proofs.DateTime.Stored
import Registry.Proofs.DateTime.Utc
import Registry.Proofs.Engine.Arguments
import Registry.Proofs.Environment
import Registry.Proofs.Identity.Assigned
import Registry.Proofs.Identity.Executed
import Registry.Proofs.Identity.Fields
import Registry.Proofs.Identity.Refused
import Registry.Proofs.Identity.Statement
import Registry.Proofs.Json.Canonical
import Registry.Proofs.Json.Complete
import Registry.Proofs.Json.Depth
import Registry.Proofs.Json.Fixed
import Registry.Proofs.Json.Given
import Registry.Proofs.Json.Grammar
import Registry.Proofs.Json.Numbers
import Registry.Proofs.Json.Offences
import Registry.Proofs.Json.Rewriting
import Registry.Proofs.Json.RoundTrip
import Registry.Proofs.Json.Sound
import Registry.Proofs.Json.Spelling
import Registry.Proofs.Json.Steps
import Registry.Proofs.Json.Strings
import Registry.Proofs.Json.Writable
import Registry.Proofs.Metadata
import Registry.Proofs.Metadata.Encoded
import Registry.Proofs.Metadata.Language
import Registry.Proofs.Metadata.Refused
import Registry.Proofs.Outcome
import Registry.Proofs.Repository.Addressed
import Registry.Proofs.Repository.Atomicity
import Registry.Proofs.Repository.Composition
import Registry.Proofs.Repository.Effect
import Registry.Proofs.Repository.Escapes
import Registry.Proofs.Repository.Existence
import Registry.Proofs.Repository.Invariant
import Registry.Proofs.Repository.Kept
import Registry.Proofs.Repository.Lawful
import Registry.Proofs.Repository.Listing
import Registry.Proofs.Repository.Operation
import Registry.Proofs.Repository.Ordering
import Registry.Proofs.Repository.Patched
import Registry.Proofs.Repository.ReadBound
import Registry.Proofs.Repository.Recoded
import Registry.Proofs.Repository.Refinement
import Registry.Proofs.Repository.Request
import Registry.Proofs.Repository.Rewritten
import Registry.Proofs.Repository.Row
import Registry.Proofs.Repository.Stored
import Registry.Proofs.Repository.Supplied
import Registry.Proofs.Repository.Unforeseen
import Registry.Proofs.Repository.WriteBack
import Registry.Proofs.Session.Block
import Registry.Proofs.Session.Drafts
import Registry.Proofs.Template.Reading
import Registry.Proofs.Template.Required
import Registry.Proofs.Template.Substitution
import Registry.Proofs.Text.Ascii
import Registry.Proofs.Text.Cutting
import Registry.Proofs.Text.Detected
import Registry.Proofs.Text.Digits
import Registry.Proofs.Text.Integer
import Registry.Proofs.Text.Lines
import Registry.Proofs.Text.Percent
import Registry.Proofs.Text.Utf8
import Registry.Proofs.Text.Wide
import Registry.Proofs.Value.Entries
import Registry.Proofs.Value.Keys
import Registry.Proofs.Value.Merge
import Registry.Proofs.Value.Nested
import Registry.Proofs.Yaml.Document
import Registry.Recursion
import Registry.Refusal
import Registry.Repository
import Registry.Repository.ReadTimeout
import Registry.Repository.Row
import Registry.Service
import Registry.Session
import Registry.Session.Binding
import Registry.Session.Block
import Registry.Session.Direct
import Registry.Table
import Registry.Table.Numeral
import Registry.Template
import Registry.Text
import Registry.Text.Base64
import Registry.Text.Blank
import Registry.Text.Encoding
import Registry.Text.Encoding.Detect
import Registry.Text.Encoding.Utf8
import Registry.Text.Encoding.Wide
import Registry.Text.Integer
import Registry.Text.LetterRun
import Registry.Text.Lowercase
import Registry.Text.Percent
import Registry.Text.Printable
import Registry.Text.Quoted
import Registry.Text.Surrogate
import Registry.Text.Uppercase
import Registry.Text.Word
import Registry.Value
import Registry.Value.Circular
import Registry.Value.Member
import Registry.Value.Merge
import Registry.Value.Shown
import Registry.Yaml.Cursor
import Registry.Yaml.Document
import Registry.Yaml.Fault
import Registry.Yaml.Graph
import Registry.Yaml.Kind
import Registry.Yaml.Lexeme
import Registry.Yaml.Merge
import Registry.Yaml.Scalar
import Registry.Yaml.Timestamp
import Registry.Yaml.Token
