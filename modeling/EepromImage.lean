import EepromImage.Cli.Arguments
import EepromImage.Cli.Host
import EepromImage.Cli.Run
import EepromImage.Cli.Task
import EepromImage.Command.Catalog
import EepromImage.Document.Build
import EepromImage.Document.Reader
import EepromImage.File.System
import EepromImage.Frame.Basic
import EepromImage.Frame.Codec
import EepromImage.Image.Allocation
import EepromImage.Image.Artifact
import EepromImage.Image.Error
import EepromImage.Image.Inspection
import EepromImage.IntelHex.File
import EepromImage.Log.Event
import EepromImage.Main
import EepromImage.Report.Content
import EepromImage.Report.Format
import EepromImage.Table.Basic
import EepromImage.Text.Basic
import EepromImage.Text.CharWidth
import EepromImage.Text.Width
import EepromImage.Toml.Quoted
import EepromImage.Toml.Reader
import EepromImage.Toml.Scalar
import EepromImage.Toml.Value
import EepromImage.Proofs.Blocks
import EepromImage.Proofs.Cli.Address
import EepromImage.Proofs.Cli.Agreement
import EepromImage.Proofs.Cli.Delivery
import EepromImage.Proofs.Cli.Ends
import EepromImage.Proofs.Cli.Observation
import EepromImage.Proofs.Cli.Preparation
import EepromImage.Proofs.Command.Description
import EepromImage.Proofs.Command.Words
import EepromImage.Proofs.Document.Encoding
import EepromImage.Proofs.Document.Faults
import EepromImage.Proofs.Document.Meaning
import EepromImage.Proofs.Document.Spelling
import EepromImage.Proofs.File.System
import EepromImage.Proofs.Frame.Canonical
import EepromImage.Proofs.Frame.Container
import EepromImage.Proofs.Frame.Feeding
import EepromImage.Proofs.Frame.Indexing
import EepromImage.Proofs.Frame.RoundTrip
import EepromImage.Proofs.Frame.Status
import EepromImage.Proofs.Frame.Updates
import EepromImage.Proofs.Image.Allocation
import EepromImage.Proofs.Image.Boundary
import EepromImage.Proofs.Image.Chunks
import EepromImage.Proofs.Image.Consistency
import EepromImage.Proofs.Image.Inspection
import EepromImage.Proofs.Image.Layout
import EepromImage.Proofs.Image.Locality
import EepromImage.Proofs.Image.Lossless
import EepromImage.Proofs.Image.Offsets
import EepromImage.Proofs.Image.Records
import EepromImage.Proofs.Image.Storage
import EepromImage.Proofs.IntelHex.Addresses
import EepromImage.Proofs.IntelHex.Composition
import EepromImage.Proofs.IntelHex.Damage
import EepromImage.Proofs.IntelHex.Grammar
import EepromImage.Proofs.IntelHex.Order
import EepromImage.Proofs.IntelHex.RoundTrip
import EepromImage.Proofs.IntelHex.Tiling
import EepromImage.Proofs.Listing.Code
import EepromImage.Proofs.Listing.Lines
import EepromImage.Proofs.Listing.ReadBack
import EepromImage.Proofs.Machine.Checked
import EepromImage.Proofs.Machine.Frame
import EepromImage.Proofs.Machine.HexText
import EepromImage.Proofs.Machine.Inspection
import EepromImage.Proofs.Positions
import EepromImage.Proofs.Report.Json
import EepromImage.Proofs.Report.Layout
import EepromImage.Proofs.Table.Faults
import EepromImage.Proofs.Table.Validity
import EepromImage.Proofs.Text.Lines
import EepromImage.Proofs.Text.Numerals
import EepromImage.Proofs.Text.Pairs
import EepromImage.Proofs.Text.Scan
import EepromImage.Proofs.Text.Spacing
import EepromImage.Proofs.Text.Words
