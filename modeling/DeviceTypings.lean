import DeviceTypings.Main
import DeviceTypings.Proofs.Json.Reader
import DeviceTypings.Proofs.Document.TopLevel
import DeviceTypings.Proofs.Schema.Reordered
import DeviceTypings.Proofs.Schema.Determined
import DeviceTypings.Proofs.Schema.Distinct
import DeviceTypings.Proofs.Schema.Stripped
import DeviceTypings.Proofs.Schema.Closed
import DeviceTypings.Proofs.Schema.Located
import DeviceTypings.Proofs.Schema.Nested
import DeviceTypings.Proofs.Schema.Opened
import DeviceTypings.Proofs.Schema.Retitled
import DeviceTypings.Workbench.Equal
import DeviceTypings.Workbench.OfDocument
import DeviceTypings.Workbench.Store
import DeviceTypings.Proofs.Workbench.Interleaved
import DeviceTypings.Proofs.Text.Key
import DeviceTypings.Proofs.Render.Key
import DeviceTypings.Proofs.Render.Blocks
import DeviceTypings.Proofs.Schema.Merged
import DeviceTypings.Proofs.CommandLine.Changes
import DeviceTypings.Proofs.Render.Constant
import DeviceTypings.Proofs.Render.Type
import DeviceTypings.Proofs.CommandLine.Loading
import DeviceTypings.Proofs.Schema.Signatures
import DeviceTypings.Proofs.Schema.Imported
