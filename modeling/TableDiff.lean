import TableDiff.Files.Tree
import TableDiff.Json.Reader
import TableDiff.Main
import TableDiff.Proofs.Message
import TableDiff.Proofs.Simulation
import TableDiff.Proofs.Reporter
import TableDiff.Proofs.Comparison.RowWalk
import TableDiff.Proofs.Table.Lookup
import TableDiff.Proofs.KeyOrder
import TableDiff.Proofs.Comparison.Alignment
import TableDiff.Proofs.Comparison.DistinctKeys
import TableDiff.Proofs.Comparison.CellChange
import TableDiff.Proofs.Comparison.Datasets
import TableDiff.Proofs.Comparison.Agreement
import TableDiff.Proofs.Value.Reading
import TableDiff.Proofs.Loading
import TableDiff.Proofs.Comparison.UntypedLoad
import TableDiff.Proofs.Table.Sorting
import TableDiff.Proofs.Comparison.RowOrder
import TableDiff.Proofs.Comparison.SortedLoad
import TableDiff.Proofs.Comparison.DatasetPairing
import TableDiff.Proofs.Resolution
import TableDiff.Proofs.Config
import TableDiff.Proofs.Comparison.Exclusion
import TableDiff.Proofs.Filter.Meaning
import TableDiff.Proofs.Filter.OwnName
import TableDiff.Proofs.Comparison.PatternFilters
import TableDiff.Proofs.Comparator.Relation
import TableDiff.Proofs.Comparison.Symmetry
import TableDiff.Proofs.Comparison.Reordering
import TableDiff.Proofs.Comparison.Listing
import TableDiff.Proofs.Comparison.AdditionalColumns
import TableDiff.Proofs.Comparison.CountingModes
import TableDiff.Proofs.Calendar.Layout
import TableDiff.Proofs.Number.Notation
import TableDiff.Proofs.Value.Casting
import TableDiff.Proofs.Comparator.Readings
import TableDiff.Proofs.Comparator.Window
import TableDiff.Proofs.Comparator.Tolerance
import TableDiff.Proofs.Value.SharedOrder
import TableDiff.Proofs.Table.SortedView
import TableDiff.Proofs.Table.Copying
import TableDiff.Proofs.Value.Rereading
import TableDiff.Proofs.Calendar.Precedence
import TableDiff.Proofs.Comparator.Laws
import TableDiff.Proofs.Dataset.Additions
import TableDiff.Proofs.Dataset.SortedCopy
import TableDiff.Proofs.Number.Signs
import TableDiff.Proofs.Number.Shortest
import TableDiff.Proofs.Number.Ties
import TableDiff.Proofs.Number.Layouts
import TableDiff.Proofs.Comparator.Specs
import TableDiff.Proofs.Comparator.Lists
import TableDiff.Proofs.Message.Location
import TableDiff.Proofs.Comparator.Bounds
import TableDiff.Proofs.Comparison.ColumnIdentity
import TableDiff.Proofs.Failure.Listing
