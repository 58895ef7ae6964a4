import CodeAtlas.Graph.Edge
import CodeAtlas.Graph.Format
import CodeAtlas.Graph.Node
import CodeAtlas.Graph.Record
import CodeAtlas.Graph.Slice
import CodeAtlas.Graph.Tag
import CodeAtlas.Graph.Vocabulary
import CodeAtlas.Host.Address
import CodeAtlas.Host.Page
import CodeAtlas.Host.Respond
import CodeAtlas.Host.Route
import CodeAtlas.Json.Encoding
import CodeAtlas.Json.Reader
import CodeAtlas.Json.Writer
import CodeAtlas.Log
import CodeAtlas.Number.Binary64
import CodeAtlas.Number.Integer
import CodeAtlas.Number.Layout
import CodeAtlas.Number.Shortest
import CodeAtlas.Plugin.Call
import CodeAtlas.Plugin.Component
import CodeAtlas.Plugin.Registry
import CodeAtlas.Proofs.Graph.Cost
import CodeAtlas.Proofs.Graph.Decoded
import CodeAtlas.Proofs.Graph.Document
import CodeAtlas.Proofs.Graph.Identifiers
import CodeAtlas.Proofs.Graph.RoundTrip
import CodeAtlas.Proofs.Host.Answer
import CodeAtlas.Proofs.Host.Conformance
import CodeAtlas.Proofs.Host.Page
import CodeAtlas.Proofs.Json.Conformance
import CodeAtlas.Proofs.Json.Decoded
import CodeAtlas.Proofs.Json.Grammar
import CodeAtlas.Proofs.Json.LineEnds
import CodeAtlas.Proofs.Json.Numeral
import CodeAtlas.Proofs.Json.Range
import CodeAtlas.Proofs.Json.Reader
import CodeAtlas.Proofs.Json.Script
import CodeAtlas.Proofs.Json.Spelling
import CodeAtlas.Proofs.Json.Writer
import CodeAtlas.Proofs.Number.Integer
import CodeAtlas.Proofs.Number.Layout
import CodeAtlas.Proofs.Plugin.Registry
import CodeAtlas.Proofs.Source.Addressing
import CodeAtlas.Proofs.Source.Agreement
import CodeAtlas.Proofs.Source.Confinement
import CodeAtlas.Proofs.Source.Containment
import CodeAtlas.Proofs.Source.Delivery
import CodeAtlas.Proofs.Source.Directory
import CodeAtlas.Proofs.Source.Endpoint
import CodeAtlas.Proofs.Source.Outcome
import CodeAtlas.Proofs.Source.Promise
import CodeAtlas.Proofs.Source.Target
import CodeAtlas.Proofs.Storage.File
import CodeAtlas.Proofs.Storage.Place
import CodeAtlas.Proofs.Storage.Save
import CodeAtlas.Proofs.Table
import CodeAtlas.Proofs.Text.Markup
import CodeAtlas.Proofs.Text.Percent
import CodeAtlas.Proofs.Text.Split
import CodeAtlas.Proofs.Text.Utf8
import CodeAtlas.Proofs.Traverse
import CodeAtlas.Proofs.Url.Change
import CodeAtlas.Proofs.Url.Changeable
import CodeAtlas.Proofs.Url.Domain
import CodeAtlas.Proofs.Url.Join
import CodeAtlas.Proofs.Url.NormalForm
import CodeAtlas.Proofs.Url.Path
import CodeAtlas.Proofs.View.Drawing
import CodeAtlas.Proofs.View.Effect
import CodeAtlas.Proofs.View.History
import CodeAtlas.Proofs.View.Influence
import CodeAtlas.Proofs.View.Invariant
import CodeAtlas.Proofs.View.Populate
import CodeAtlas.Proofs.View.Rounds
import CodeAtlas.Proofs.View.Sync
import CodeAtlas.Settings
import CodeAtlas.Source.Basic
import CodeAtlas.Source.Directory
import CodeAtlas.Source.Fault
import CodeAtlas.Source.Service
import CodeAtlas.Storage.Codec
import CodeAtlas.Storage.Disk
import CodeAtlas.Storage.Path
import CodeAtlas.Table
import CodeAtlas.Text.Blank
import CodeAtlas.Text.Case
import CodeAtlas.Text.CaseTable
import CodeAtlas.Text.Markup
import CodeAtlas.Text.Numeral
import CodeAtlas.Text.Percent
import CodeAtlas.Text.Quoted
import CodeAtlas.Text.Split
import CodeAtlas.Text.Surrogate
import CodeAtlas.Text.Utf8
import CodeAtlas.Text.Visible
import CodeAtlas.Text.Wide
import CodeAtlas.Url.Address
import CodeAtlas.Url.Basic
import CodeAtlas.Url.Domain.Basic
import CodeAtlas.Url.Domain.Composition
import CodeAtlas.Url.Domain.Context
import CodeAtlas.Url.Domain.Direction
import CodeAtlas.Url.Domain.Joining
import CodeAtlas.Url.Domain.Letters
import CodeAtlas.Url.Domain.Marks
import CodeAtlas.Url.Domain.Punycode
import CodeAtlas.Url.Join
import CodeAtlas.Value.Basic
import CodeAtlas.Value.Comparison
import CodeAtlas.Value.Conversion
import CodeAtlas.Value.Display
import CodeAtlas.View.Basic
import CodeAtlas.View.Drawing
import CodeAtlas.View.Populate
import CodeAtlas.View.Sync
