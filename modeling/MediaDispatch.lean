import MediaDispatch.Association
import MediaDispatch.Boundary.Argument
import MediaDispatch.Boundary.Call
import MediaDispatch.Boundary.Registry
import MediaDispatch.Capability.Code
import MediaDispatch.Capability.Description
import MediaDispatch.Capability.Json
import MediaDispatch.Capability.Reference
import MediaDispatch.Capability.SizeRange
import MediaDispatch.Capability.Version
import MediaDispatch.Dispatcher
import MediaDispatch.EntryPoint
import MediaDispatch.Failure
import MediaDispatch.Filter
import MediaDispatch.Host.Basic
import MediaDispatch.Host.FileTree
import MediaDispatch.Host.Library
import MediaDispatch.Host.Memory
import MediaDispatch.Host.Path
import MediaDispatch.Json.Basic
import MediaDispatch.Json.Reader
import MediaDispatch.Json.Record
import MediaDispatch.Layout.Build
import MediaDispatch.Layout.FixedText
import MediaDispatch.Layout.Patch
import MediaDispatch.Layout.Raw
import MediaDispatch.Layout.Read
import MediaDispatch.Loader
import MediaDispatch.Number.Binary
import MediaDispatch.Number.Decimal
import MediaDispatch.Proofs.Balance
import MediaDispatch.Proofs.Boundary.Atomicity
import MediaDispatch.Proofs.Boundary.Clients
import MediaDispatch.Proofs.Boundary.Effects
import MediaDispatch.Proofs.Boundary.Enumeration
import MediaDispatch.Proofs.Boundary.Handles
import MediaDispatch.Proofs.Boundary.Isolation
import MediaDispatch.Proofs.Boundary.Links
import MediaDispatch.Proofs.Boundary.Mirror
import MediaDispatch.Proofs.Boundary.Pointers
import MediaDispatch.Proofs.Boundary.Setting
import MediaDispatch.Proofs.Boundary.Shown
import MediaDispatch.Proofs.Boundary.Values
import MediaDispatch.Proofs.Capability.Json
import MediaDispatch.Proofs.Discovery
import MediaDispatch.Proofs.Disturbance
import MediaDispatch.Proofs.Freezing
import MediaDispatch.Proofs.Host.Counts
import MediaDispatch.Proofs.Host.Following
import MediaDispatch.Proofs.Host.FunctionTables
import MediaDispatch.Proofs.Host.Memory
import MediaDispatch.Proofs.Host.NewFile
import MediaDispatch.Proofs.Host.Opening
import MediaDispatch.Proofs.Host.PathNames
import MediaDispatch.Proofs.Host.Reports
import MediaDispatch.Proofs.Host.Stability
import MediaDispatch.Proofs.Indexing
import MediaDispatch.Proofs.Json.Edits
import MediaDispatch.Proofs.Json.Rendering
import MediaDispatch.Proofs.Layout.Export
import MediaDispatch.Proofs.Layout.FixedText
import MediaDispatch.Proofs.Layout.Lists
import MediaDispatch.Proofs.Layout.Places
import MediaDispatch.Proofs.Layout.Reading
import MediaDispatch.Proofs.Layout.Refilling
import MediaDispatch.Proofs.Layout.Refusal
import MediaDispatch.Proofs.Layout.RoundTrip
import MediaDispatch.Proofs.Lending
import MediaDispatch.Proofs.Likeness
import MediaDispatch.Proofs.Loader
import MediaDispatch.Proofs.Narrowing
import MediaDispatch.Proofs.Number.Decimal
import MediaDispatch.Proofs.Number.Hexadecimal
import MediaDispatch.Proofs.Order
import MediaDispatch.Proofs.Property.DeviceIds
import MediaDispatch.Proofs.Property.Integers
import MediaDispatch.Proofs.Property.Keywords
import MediaDispatch.Proofs.Property.Meaning
import MediaDispatch.Proofs.Property.Paths
import MediaDispatch.Proofs.Property.Recall
import MediaDispatch.Proofs.Property.SizeRanges
import MediaDispatch.Proofs.Property.Typing
import MediaDispatch.Proofs.Ranking
import MediaDispatch.Proofs.Relaxing
import MediaDispatch.Proofs.Search.Asking
import MediaDispatch.Proofs.Search.LibraryNames
import MediaDispatch.Proofs.Search.Listing
import MediaDispatch.Proofs.Search.Outcome
import MediaDispatch.Proofs.Search.Refusal
import MediaDispatch.Proofs.Search.Walk
import MediaDispatch.Proofs.SessionFunctions
import MediaDispatch.Proofs.Settings.Layers
import MediaDispatch.Proofs.Settings.Names
import MediaDispatch.Proofs.Settings.References
import MediaDispatch.Proofs.Settings.Tables
import MediaDispatch.Proofs.Text.Split
import MediaDispatch.Proofs.Text.Trim
import MediaDispatch.Proofs.Text.Utf8
import MediaDispatch.Proofs.Text.Utf8Order
import MediaDispatch.Proofs.Text.Utf8Strict
import MediaDispatch.Proofs.Text.Words
import MediaDispatch.Proofs.Transparency
import MediaDispatch.Proofs.Upholding
import MediaDispatch.Proofs.Watching
import MediaDispatch.Property.Constraint
import MediaDispatch.Property.Json
import MediaDispatch.Property.Reading
import MediaDispatch.Property.Table
import MediaDispatch.Property.Value
import MediaDispatch.Ranking
import MediaDispatch.Search.Discovery
import MediaDispatch.Search.LibraryName
import MediaDispatch.Session
import MediaDispatch.Settings.Basic
import MediaDispatch.Settings.Environment
import MediaDispatch.Settings.Json
import MediaDispatch.Settings.JsonNode
import MediaDispatch.Settings.KeyPath
import MediaDispatch.Settings.Load
import MediaDispatch.Settings.Node
import MediaDispatch.Settings.Reading
import MediaDispatch.Settings.Substitution
import MediaDispatch.Settings.Toml.Date
import MediaDispatch.Settings.Toml.Document
import MediaDispatch.Settings.Toml.Item
import MediaDispatch.Settings.Toml.Scalar
import MediaDispatch.Settings.Toml.Table
import MediaDispatch.Settings.Toml.Text
import MediaDispatch.Settings.Yaml.Block
import MediaDispatch.Settings.Yaml.Cursor
import MediaDispatch.Settings.Yaml.Document
import MediaDispatch.Settings.Yaml.Plain
import MediaDispatch.Settings.Yaml.Quoted
import MediaDispatch.Settings.Yaml.Token
import MediaDispatch.Settings.Yaml.Value
import MediaDispatch.Summary
import MediaDispatch.Text.Blank
import MediaDispatch.Text.Hidden
import MediaDispatch.Text.Quoted
import MediaDispatch.Text.Split
import MediaDispatch.Text.Utf8
