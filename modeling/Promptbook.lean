import Promptbook.Calendar.Reading
import Promptbook.Environment
import Promptbook.Hash.Fnv
import Promptbook.Hash.Sha256
import Promptbook.Json.Encoding
import Promptbook.Prompt.Catalog
import Promptbook.Run.Basic
import Promptbook.Schema.Registry
import Promptbook.Telemetry.Output
import Promptbook.Telemetry.Pricing
import Promptbook.Value.Sets
import Promptbook.Proofs.Render.Confinement
import Promptbook.Proofs.Render.Leftovers
import Promptbook.Proofs.Render.Lint
import Promptbook.Proofs.Registry.Identity
import Promptbook.Proofs.Registry.Contents
import Promptbook.Proofs.Registry.Split
import Promptbook.Proofs.Telemetry.ObservedCalls
import Promptbook.Proofs.Run.Stages
import Promptbook.Proofs.Document.RoundTrip
import Promptbook.Proofs.Telemetry.Attributes
import Promptbook.Proofs.Telemetry.SpanEndings
import Promptbook.Proofs.Run.Attribution
import Promptbook.Proofs.Run.Replies
import Promptbook.Proofs.Json.Canonical
import Promptbook.Proofs.Registry.Isolation
import Promptbook.Proofs.Registry.Listings
import Promptbook.Proofs.Registry.StartUp
import Promptbook.Proofs.Schema.Fitting
import Promptbook.Proofs.Schema.WireRoundTrip
import Promptbook.Proofs.Metadata.Sections
import Promptbook.Proofs.Metadata.Comments
import Promptbook.Proofs.Metadata.Arrays
import Promptbook.Proofs.Metadata.Printing
import Promptbook.Proofs.Metadata.Indentation
import Promptbook.Proofs.Document.Headings
import Promptbook.Proofs.Document.LineEndings
import Promptbook.Proofs.Prompt.Keys
import Promptbook.Proofs.Registry.Ramping
import Promptbook.Proofs.Json.SetOrder
import Promptbook.Proofs.Hash.ByteChanges
import Promptbook.Proofs.Schema.Projection
import Promptbook.Proofs.Prompt.Supply
