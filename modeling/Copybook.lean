import Copybook.Main
import Copybook.Session
import Copybook.Transaction
import Copybook.Proofs.Session.Memory
import Copybook.Proofs.Session.Transparency
import Copybook.Proofs.Layout.Placement
import Copybook.Proofs.Layout.OnePass
import Copybook.Proofs.Layout.Tiling
import Copybook.Proofs.Text.Digits
import Copybook.Proofs.Decimal.Scaling
import Copybook.Proofs.Field.Number
import Copybook.Proofs.Field.Binary
import Copybook.Proofs.Field.Packed
import Copybook.Proofs.CodePage
import Copybook.Proofs.Codec
import Copybook.Proofs.Field.Zoned
import Copybook.Proofs.Field.RoundTrip
import Copybook.Proofs.Except
import Copybook.Proofs.Field.Width
import Copybook.Proofs.Session.Frame
import Copybook.Proofs.Dataset.Framing
import Copybook.Proofs.Layout.Containment
import Copybook.Proofs.Session.Access
import Copybook.Proofs.Session.Containment
import Copybook.Proofs.Bytes
import Copybook.Proofs.Session.Independence
import Copybook.Proofs.Decimal.Range
import Copybook.Proofs.Decimal.Nearest
import Copybook.Proofs.Field.Rounding
import Copybook.Proofs.Field.Fault
import Copybook.Proofs.Layout.Fault
import Copybook.Proofs.Session.Fault
import Copybook.Proofs.Layout.Nesting
import Copybook.Proofs.Layout.Path
import Copybook.Proofs.Source.Declaration
import Copybook.Proofs.Session.Path
import Copybook.Proofs.Layout.Moving
import Copybook.Proofs.Source.Unrolling
import Copybook.Proofs.Layout.Extent
import Copybook.Proofs.Layout.Unrolling
import Copybook.Proofs.Layout.Initial
import Copybook.Proofs.Session.Fresh
import Copybook.Proofs.Text.Trim
import Copybook.Proofs.Text.Lines
import Copybook.Proofs.Text.Utf8
import Copybook.Proofs.Source.Statement
import Copybook.Proofs.Source.Standing
import Copybook.Proofs.Source.Format
import Copybook.Proofs.Source.Literal
import Copybook.Proofs.Field.Text
import Copybook.Proofs.Layout.Literal
import Copybook.Proofs.Session.Literal
import Copybook.Proofs.Layout.Export
import Copybook.Proofs.Session.Plain
import Copybook.Proofs.Field.Canonical
import Copybook.Proofs.Session.Import
import Copybook.Proofs.Layout.Trail
import Copybook.Proofs.Layout.Depth
import Copybook.Proofs.Layout.Descent
import Copybook.Proofs.Layout.Listing
import Copybook.Proofs.Session.Addressable
import Copybook.Proofs.Dataset.Accounting
import Copybook.Proofs.Dataset.Blocks
import Copybook.Proofs.Notice
import Copybook.Proofs.Record.Decoding
import Copybook.Proofs.Json.Line
import Copybook.Proofs.Json.Token
import Copybook.Proofs.Json.Reading
import Copybook.Proofs.Json.Writing
import Copybook.Proofs.Record.Shape
import Copybook.Proofs.Record.Lines
import Copybook.Proofs.Record.Writing
import Copybook.Proofs.Record.Padding
import Copybook.Proofs.Manifest.Validation
import Copybook.Proofs.Manifest.Fault
import Copybook.Proofs.Manifest.Extraction
import Copybook.Proofs.Manifest.Counting
import Copybook.Proofs.Layout.Entry
import Copybook.Proofs.Layout.Usage
import Copybook.Proofs.Layout.Naming
import Copybook.Proofs.Layout.Walk
import Copybook.Proofs.Layout.Overlay
import Copybook.Proofs.Picture.Suffix
import Copybook.Proofs.Picture.Usage
import Copybook.Proofs.Picture.Description
import Copybook.Proofs.Source.Indexed
import Copybook.Proofs.Source.Pictured
import Copybook.Proofs.Source.Occurs
import Copybook.Proofs.Decimal.Text
import Copybook.Proofs.Decimal.Order
import Copybook.Proofs.Field.Spelling
import Copybook.Proofs.Field.Order
