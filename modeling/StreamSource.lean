import StreamSource.Configuration
import StreamSource.Harness
import StreamSource.Json.Reader
import StreamSource.Main
import StreamSource.Parser.Fixed
import StreamSource.Proofs.Collection.Conservation
import StreamSource.Proofs.Collection.Copying
import StreamSource.Proofs.Collection.Runs
import StreamSource.Proofs.Environment.Digits
import StreamSource.Proofs.Environment.FreeParameters
import StreamSource.Proofs.Environment.Independence
import StreamSource.Proofs.Harness.Disabling
import StreamSource.Proofs.Hoster.Dispatch
import StreamSource.Proofs.Hoster.History
import StreamSource.Proofs.Hoster.Memory
import StreamSource.Proofs.Hoster.OpenFlag
import StreamSource.Proofs.Manifest.Acceptance
import StreamSource.Proofs.Manifest.Search
import StreamSource.Proofs.Parameters.Integers
import StreamSource.Proofs.Parameters.Json
import StreamSource.Proofs.Parameters.Layering
import StreamSource.Proofs.Parameters.Typing
import StreamSource.Proofs.Parser.Classification
import StreamSource.Proofs.Parser.Marker
import StreamSource.Proofs.Protocol.Kinds
import StreamSource.Proofs.Protocol.Reading
import StreamSource.Proofs.Registry.FirstMatch
import StreamSource.Proofs.Registry.Listing
import StreamSource.Proofs.Registry.Refresh
import StreamSource.Proofs.Settings.KeyOffset
import StreamSource.Proofs.Settings.KeySpan
import StreamSource.Proofs.Settings.Naming
import StreamSource.Proofs.Settings.Precedence
import StreamSource.Proofs.Settings.Schema
import StreamSource.Proofs.Settings.Stack
import StreamSource.Proofs.Settings.Validity
import StreamSource.Proofs.Text.ByteOrder
import StreamSource.Proofs.Text.FirstCut
import StreamSource.Protocol.Hosted
