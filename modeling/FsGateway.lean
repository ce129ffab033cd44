import FsGateway.Bytes
import FsGateway.Client.Call
import FsGateway.Client.Credential
import FsGateway.Client.Failure
import FsGateway.Client.Http
import FsGateway.Gateway.Admin
import FsGateway.Gateway.Connection
import FsGateway.Gateway.Manager
import FsGateway.Gateway.MediaType
import FsGateway.Gateway.Worker
import FsGateway.Json.Document
import FsGateway.Json.Node
import FsGateway.Json.Number
import FsGateway.Json.Schema
import FsGateway.Json.Text
import FsGateway.Kernel.Bridge
import FsGateway.Kernel.Callback
import FsGateway.Kernel.DirectoryEntry
import FsGateway.Kernel.FileCall
import FsGateway.Kernel.FileKind
import FsGateway.Kernel.Session
import FsGateway.Kernel.Timestamp
import FsGateway.Kernel.Traffic
import FsGateway.Logging
import FsGateway.Main
import FsGateway.Mount.Descriptor
import FsGateway.Mount.Fault
import FsGateway.Mount.Files
import FsGateway.Mount.Path
import FsGateway.Mount.Table
import FsGateway.Numeral.Binary64
import FsGateway.Numeral.Decimal
import FsGateway.Proofs.Checked
import FsGateway.Proofs.Client.Authorization
import FsGateway.Proofs.Client.Classification
import FsGateway.Proofs.Client.Credentials
import FsGateway.Proofs.Client.Endpoints
import FsGateway.Proofs.Client.Identity
import FsGateway.Proofs.Client.Reported
import FsGateway.Proofs.Client.Traces
import FsGateway.Proofs.Connection.Answers
import FsGateway.Proofs.Connection.Calls
import FsGateway.Proofs.Connection.Circumstances
import FsGateway.Proofs.Connection.Effect
import FsGateway.Proofs.Connection.Independence
import FsGateway.Proofs.Connection.Interrupts
import FsGateway.Proofs.Connection.Places
import FsGateway.Proofs.Connection.Posts
import FsGateway.Proofs.Connection.VirtualTime
import FsGateway.Proofs.Json.Alike
import FsGateway.Proofs.Json.Grammar
import FsGateway.Proofs.Json.Members
import FsGateway.Proofs.Json.Numerals
import FsGateway.Proofs.Json.Printing
import FsGateway.Proofs.Json.Reading
import FsGateway.Proofs.Json.Records
import FsGateway.Proofs.Json.Spelling
import FsGateway.Proofs.Json.Values
import FsGateway.Proofs.Kernel.Attributes
import FsGateway.Proofs.Kernel.Balance
import FsGateway.Proofs.Kernel.DirectoryEntry
import FsGateway.Proofs.Kernel.Plans
import FsGateway.Proofs.Kernel.Replies
import FsGateway.Proofs.Kernel.Subject
import FsGateway.Proofs.Kernel.Timestamp
import FsGateway.Proofs.Manager.Admin
import FsGateway.Proofs.Manager.Custody
import FsGateway.Proofs.Manager.Exclusion
import FsGateway.Proofs.Manager.FailedMount
import FsGateway.Proofs.Manager.Listing
import FsGateway.Proofs.Manager.Ownership
import FsGateway.Proofs.Manager.Persistence
import FsGateway.Proofs.Manager.Restart
import FsGateway.Proofs.Manager.Sessions
import FsGateway.Proofs.Manager.Turn
import FsGateway.Proofs.Mount.Atomicity
import FsGateway.Proofs.Mount.Contents
import FsGateway.Proofs.Mount.Files
import FsGateway.Proofs.Mount.Table
import FsGateway.Proofs.Numeral.Grammar
import FsGateway.Proofs.Outcome
import FsGateway.Proofs.Settings.Dump
import FsGateway.Proofs.Settings.Layers
import FsGateway.Proofs.Settings.Overrides
import FsGateway.Proofs.Settings.Scheme
import FsGateway.Proofs.Text.Characters
import FsGateway.Proofs.Toml.Lines
import FsGateway.Proofs.Url.Address
import FsGateway.Proofs.Url.Appending
import FsGateway.Proofs.Url.Authority
import FsGateway.Proofs.Url.Body
import FsGateway.Proofs.Url.Host
import FsGateway.Proofs.Url.Name
import FsGateway.Proofs.Url.Path
import FsGateway.Proofs.Url.ReadBack
import FsGateway.Proofs.Url.Scheme
import FsGateway.Proofs.Url.Settled
import FsGateway.Proofs.Wire.Escape
import FsGateway.Proofs.Wire.Faults
import FsGateway.Proofs.Wire.Layout
import FsGateway.Proofs.Wire.Positions
import FsGateway.Proofs.Wire.Raw
import FsGateway.Proofs.Wire.Registry
import FsGateway.Proofs.Wire.RoundTrip
import FsGateway.Proofs.Wire.Spelling
import FsGateway.Proofs.Wire.Structured
import FsGateway.Proofs.Wire.Tally
import FsGateway.Settings.Arguments
import FsGateway.Settings.Configuration
import FsGateway.Settings.Environment
import FsGateway.Settings.File
import FsGateway.Settings.KeyPath
import FsGateway.Settings.Value
import FsGateway.Simulation.Backend
import FsGateway.Simulation.Clock
import FsGateway.Simulation.Connection
import FsGateway.Simulation.Manager
import FsGateway.Text.Hidden
import FsGateway.Text.Quoted
import FsGateway.Text.Utf8
import FsGateway.Toml.Document
import FsGateway.Toml.Instant
import FsGateway.Toml.Table
import FsGateway.Toml.Text
import FsGateway.Toml.Value
import FsGateway.Url.Basic
import FsGateway.Url.Domain
import FsGateway.Url.Domain.Composition
import FsGateway.Url.Domain.Direction
import FsGateway.Url.Domain.Joiner
import FsGateway.Url.Domain.Repertoire
import FsGateway.Url.Domain.Replacement
import FsGateway.Url.Host
import FsGateway.Url.Percent
import FsGateway.Url.Punycode
import FsGateway.Url.Split
import FsGateway.Wire.Encoding
import FsGateway.Wire.Escape
import FsGateway.Wire.Fault
import FsGateway.Wire.Field
import FsGateway.Wire.Layout
import FsGateway.Wire.Messages
import FsGateway.Wire.Operation
import FsGateway.Wire.Raw
import FsGateway.Wire.Record
import FsGateway.Wire.Registry
import FsGateway.Proofs.Settings.Dump
