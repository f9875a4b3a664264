import TrackGrid.Grid.Edit
import TrackGrid.Layout
import TrackGrid.Proofs.Grid.Commute
import TrackGrid.Proofs.Grid.Coordinates
import TrackGrid.Proofs.Grid.Covering
import TrackGrid.Proofs.Grid.Undo
import TrackGrid.Proofs.Grid.Writes
import TrackGrid.Proofs.Layout.Ample
import TrackGrid.Proofs.Layout.Apart
import TrackGrid.Proofs.Layout.Border
import TrackGrid.Proofs.Layout.Boundaries
import TrackGrid.Proofs.Layout.Equalized
import TrackGrid.Proofs.Layout.Filled
import TrackGrid.Proofs.Layout.Listed
import TrackGrid.Proofs.Layout.Monotone
import TrackGrid.Proofs.Layout.OneAxis
import TrackGrid.Proofs.Layout.Rounds
import TrackGrid.Proofs.Layout.SizeGroups
import TrackGrid.Proofs.Layout.Strict
import TrackGrid.Proofs.Layout.Transposed
import TrackGrid.Proofs.Reading.Cell
import TrackGrid.Proofs.Reading.Origin
import TrackGrid.Proofs.Reading.Spacing
import TrackGrid.Proofs.Text.Balanced
import TrackGrid.Reading.TrackList
