import AxisGrid.Axis
import AxisGrid.Cursor
import AxisGrid.Decimal.Layout
import AxisGrid.Decimal.Shortest
import AxisGrid.DeclarationError
import AxisGrid.Distinct
import AxisGrid.Fingerprint
import AxisGrid.Fingerprint.Fnv1a
import AxisGrid.Fingerprint.Sha256
import AxisGrid.Format
import AxisGrid.Format.Json
import AxisGrid.Grid
import AxisGrid.Grid.Index
import AxisGrid.Grid.Json
import AxisGrid.Json.Decode
import AxisGrid.Json.Document
import AxisGrid.Json.Numeral
import AxisGrid.Json.Token
import AxisGrid.Json.Write
import AxisGrid.Point
import AxisGrid.Point.Identifier
import AxisGrid.Point.Label
import AxisGrid.Point.Order
import AxisGrid.PointError
import AxisGrid.Proofs.ByteOrder
import AxisGrid.Proofs.CodeOrder
import AxisGrid.Proofs.Compact
import AxisGrid.Proofs.Count
import AxisGrid.Proofs.Declaration
import AxisGrid.Proofs.Events
import AxisGrid.Proofs.Except
import AxisGrid.Proofs.Fingerprint
import AxisGrid.Proofs.Grammar
import AxisGrid.Proofs.Identifier
import AxisGrid.Proofs.Index
import AxisGrid.Proofs.IndexOrder
import AxisGrid.Proofs.Json.Decode
import AxisGrid.Proofs.Json.Document
import AxisGrid.Proofs.Json.Grid
import AxisGrid.Proofs.Json.Results
import AxisGrid.Proofs.Json.Token
import AxisGrid.Proofs.Label
import AxisGrid.Proofs.Lookup
import AxisGrid.Proofs.Mixing
import AxisGrid.Proofs.Naming
import AxisGrid.Proofs.NormalForm
import AxisGrid.Proofs.Numbering
import AxisGrid.Proofs.Order
import AxisGrid.Proofs.Peel
import AxisGrid.Proofs.Positional
import AxisGrid.Proofs.Product
import AxisGrid.Proofs.Radix
import AxisGrid.Proofs.Reindex
import AxisGrid.Proofs.Reserved
import AxisGrid.Proofs.Same
import AxisGrid.Proofs.Unordered
import AxisGrid.Proofs.Walk
import AxisGrid.Report
import AxisGrid.Results
import AxisGrid.Shape
import AxisGrid.Table
import AxisGrid.Table.Lemmas
import AxisGrid.Text.Cut
import AxisGrid.Text.Encoding
import AxisGrid.Text.Hex
import AxisGrid.Text.Quoted
import AxisGrid.Text.Unprintable
import AxisGrid.Word
