import TagSearch.Catalog.Action
import TagSearch.Expr.Meaning
import TagSearch.Main
import TagSearch.Proofs.Catalog.Batches
import TagSearch.Proofs.Catalog.Counts
import TagSearch.Proofs.Catalog.History
import TagSearch.Proofs.Catalog.Moves
import TagSearch.Proofs.Catalog.Observations
import TagSearch.Proofs.Catalog.Repetitions
import TagSearch.Proofs.Catalog.Scans
import TagSearch.Proofs.Catalog.TagSets
import TagSearch.Proofs.Command.Rebuilds
import TagSearch.Proofs.Disk.Relative
import TagSearch.Proofs.Disk.Scanning
import TagSearch.Proofs.Expr.Levels
import TagSearch.Proofs.Like.Escapes
import TagSearch.Proofs.Predicate.Reading
import TagSearch.Proofs.Query.Blanks
import TagSearch.Proofs.Query.Layouts
import TagSearch.Proofs.Query.Refusals
import TagSearch.Proofs.Query.Written
import TagSearch.Proofs.Settings.Requirements
import TagSearch.Proofs.Text.Phrases
import TagSearch.Proofs.Text.TagQuery
import TagSearch.Proofs.Watch.Agreement
import TagSearch.Query.Layout
import TagSearch.Proofs.Watch.Directories
import TagSearch.Proofs.Watch.Queue
