import LayerTransfer.Archive.Basic
import LayerTransfer.Archive.Entry
import LayerTransfer.Archive.Header
import LayerTransfer.Archive.Member
import LayerTransfer.Archive.Name
import LayerTransfer.Blob.Stream
import LayerTransfer.Bundle
import LayerTransfer.Bytes
import LayerTransfer.CommandLine.Arguments
import LayerTransfer.CommandLine.Layers
import LayerTransfer.CommandLine.Parser
import LayerTransfer.CommandLine.Runner
import LayerTransfer.Decimal.Double
import LayerTransfer.Decimal.Rounding
import LayerTransfer.Decimal.Whole
import LayerTransfer.Descriptor
import LayerTransfer.Digest
import LayerTransfer.Http.Client
import LayerTransfer.Http.Endpoint
import LayerTransfer.Http.Library
import LayerTransfer.Http.Message
import LayerTransfer.Http.Push
import LayerTransfer.Http.Status
import LayerTransfer.Idna.Composition
import LayerTransfer.Idna.Domain
import LayerTransfer.Idna.Folding
import LayerTransfer.Idna.Label
import LayerTransfer.Idna.Punycode
import LayerTransfer.Image.Basic
import LayerTransfer.Image.Manifest
import LayerTransfer.Image.Remote
import LayerTransfer.Json.Numeral
import LayerTransfer.Json.Printer
import LayerTransfer.Json.Reader
import LayerTransfer.Json.Token
import LayerTransfer.Layer
import LayerTransfer.Log.Amount
import LayerTransfer.Log.Message
import LayerTransfer.Machine
import LayerTransfer.Main
import LayerTransfer.MediaType
import LayerTransfer.Name.Reference
import LayerTransfer.Name.Registry
import LayerTransfer.Name.Repository
import LayerTransfer.Procedure
import LayerTransfer.Proofs.Archive.Blank
import LayerTransfer.Proofs.Archive.Chunking
import LayerTransfer.Proofs.Archive.Entry
import LayerTransfer.Proofs.Archive.Label
import LayerTransfer.Proofs.Archive.Name
import LayerTransfer.Proofs.Archive.Path
import LayerTransfer.Proofs.Archive.Record
import LayerTransfer.Proofs.Archive.Refusal
import LayerTransfer.Proofs.Archive.RoundTrip
import LayerTransfer.Proofs.Archive.Torn
import LayerTransfer.Proofs.Blob.Chunks
import LayerTransfer.Proofs.Blob.Reading
import LayerTransfer.Proofs.Bundle.Discreet
import LayerTransfer.Proofs.Bundle.Export
import LayerTransfer.Proofs.Bundle.Identity
import LayerTransfer.Proofs.Bundle.Layer
import LayerTransfer.Proofs.Bundle.Muted
import LayerTransfer.Proofs.Bundle.Name
import LayerTransfer.Proofs.CommandLine.Discreet
import LayerTransfer.Proofs.CommandLine.Division
import LayerTransfer.Proofs.CommandLine.Entries
import LayerTransfer.Proofs.CommandLine.ExportTotal
import LayerTransfer.Proofs.CommandLine.Layers
import LayerTransfer.Proofs.CommandLine.Line
import LayerTransfer.Proofs.CommandLine.Overrides
import LayerTransfer.Proofs.CommandLine.Placement
import LayerTransfer.Proofs.CommandLine.Verbosity
import LayerTransfer.Proofs.Descriptor.Index
import LayerTransfer.Proofs.Descriptor.Origin
import LayerTransfer.Proofs.Digest.Checks
import LayerTransfer.Proofs.Digest.Format
import LayerTransfer.Proofs.Http.Address
import LayerTransfer.Proofs.Http.Aim
import LayerTransfer.Proofs.Http.Client
import LayerTransfer.Proofs.Http.Content
import LayerTransfer.Proofs.Http.Course
import LayerTransfer.Proofs.Http.Discreet
import LayerTransfer.Proofs.Http.Diversion
import LayerTransfer.Proofs.Http.Endpoint
import LayerTransfer.Proofs.Http.Ensures
import LayerTransfer.Proofs.Http.FailFast
import LayerTransfer.Proofs.Http.Library
import LayerTransfer.Proofs.Http.Muted
import LayerTransfer.Proofs.Http.Outline
import LayerTransfer.Proofs.Http.Private
import LayerTransfer.Proofs.Http.Push
import LayerTransfer.Proofs.Http.Transfer
import LayerTransfer.Proofs.Image.Config
import LayerTransfer.Proofs.Image.Documents
import LayerTransfer.Proofs.Image.Mountable
import LayerTransfer.Proofs.Image.Remote
import LayerTransfer.Proofs.Json.Draws
import LayerTransfer.Proofs.Json.Members
import LayerTransfer.Proofs.Json.Printed
import LayerTransfer.Proofs.Json.Read
import LayerTransfer.Proofs.Json.Rearranged
import LayerTransfer.Proofs.Json.Spelling
import LayerTransfer.Proofs.Json.Takes
import LayerTransfer.Proofs.Json.Value
import LayerTransfer.Proofs.Log.Excerpt
import LayerTransfer.Proofs.Name.Characters
import LayerTransfer.Proofs.Name.Grammar
import LayerTransfer.Proofs.Name.Reading
import LayerTransfer.Proofs.Name.Refusal
import LayerTransfer.Proofs.Name.RoundTrip
import LayerTransfer.Proofs.Outcome
import LayerTransfer.Proofs.Procedure.Alike
import LayerTransfer.Proofs.Procedure.Ensures
import LayerTransfer.Proofs.Procedure.Muted
import LayerTransfer.Proofs.Procedure.Yields
import LayerTransfer.Proofs.Push.Destination
import LayerTransfer.Proofs.Push.MountSource
import LayerTransfer.Proofs.Settings.DefaultRegistry
import LayerTransfer.Proofs.Url.Plain
import LayerTransfer.Proofs.Url.Private
import LayerTransfer.Proofs.Url.Query
import LayerTransfer.Proofs.Url.Server
import LayerTransfer.Push.Plan
import LayerTransfer.Push.Writer
import LayerTransfer.Settings
import LayerTransfer.Text.Base64
import LayerTransfer.Text.Blank
import LayerTransfer.Text.Cut
import LayerTransfer.Text.Lossy
import LayerTransfer.Text.Printable
import LayerTransfer.Text.Quoted
import LayerTransfer.TransferError
import LayerTransfer.Transport.Call
import LayerTransfer.Transport.Memory
import LayerTransfer.Unicode.Category
import LayerTransfer.Unicode.Direction
import LayerTransfer.Unicode.Joining
import LayerTransfer.Unicode.Ranges
import LayerTransfer.Url.Basic
import LayerTransfer.Url.Encode
import LayerTransfer.Url.Host
