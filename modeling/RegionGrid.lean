import RegionGrid.Image.File
import RegionGrid.Loader.Session
import RegionGrid.Main
import RegionGrid.Template.Memo
import RegionGrid.Proofs.Definition.Accepted
import RegionGrid.Proofs.Placement.Growth
import RegionGrid.Proofs.Placement.Tiling
import RegionGrid.Proofs.Template.Fault
import RegionGrid.Proofs.Template.Memo
import RegionGrid.Proofs.Template.ReadingOrder
import RegionGrid.Proofs.Template.Rename
import RegionGrid.Proofs.Template.Reshape
import RegionGrid.Proofs.Placement.Split
import RegionGrid.Proofs.Placement.Transpose
import RegionGrid.Proofs.Loader.Session
import RegionGrid.Proofs.Layout.Adaptive
import RegionGrid.Proofs.CommandLine.Action
import RegionGrid.Proofs.CommandLine.Leaks
import RegionGrid.Proofs.Number.Decimal
import RegionGrid.Proofs.Number.Numeral
import RegionGrid.Proofs.Number.RoundedText
import RegionGrid.Proofs.Track.Text
import RegionGrid.Proofs.Number.ExactSum
import RegionGrid.Proofs.Track.Undefined
import RegionGrid.Proofs.Track.Symmetry
import RegionGrid.Proofs.Track.Scaling
import RegionGrid.Proofs.Image.Box
import RegionGrid.Proofs.Image.Doubles
import RegionGrid.Proofs.Image.Inside
import RegionGrid.Proofs.Image.Pixels
import RegionGrid.Proofs.Template.TopRows
import RegionGrid.Proofs.Template.Spacing
import RegionGrid.Proofs.Placement.Listing
import RegionGrid.Proofs.Track.Grammar
import RegionGrid.Proofs.Track.Stable
import RegionGrid.Proofs.Definition.Entries
import RegionGrid.Proofs.Definition.Rows
import RegionGrid.Proofs.CommandLine.Selection
import RegionGrid.Proofs.Layout.Bundled
import RegionGrid.Proofs.CommandLine.Size
