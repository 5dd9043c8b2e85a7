import Reindent.Text.Blank
import Reindent.Text.LineBreak
import Reindent.Text.Search
import Reindent.Layout.Style
import Reindent.Layout.Merge
import Reindent.Layout.Scan
import Reindent.Layout.Tidy
import Reindent.Diff.Match
import Reindent.Diff.Hunk
import Reindent.Diff.Unified
import Reindent.Workload.Source
import Reindent.Workload.Samples
import Reindent.Call.Value
import Reindent.Call.Fault
import Reindent.Call.Count
import Reindent.Layout.Strings
import Reindent.Files
import Reindent.CommandLine
import Reindent.Workload.Suite
import Reindent.Call.Request
import Reindent.Main
import Reindent.Text.Printable
import Reindent.Number.Binary64
import Reindent.Number.Shortest
import Reindent.Call.Point
import Reindent.Call.Reader
import Reindent.Call.Writer
import Reindent.Proofs.Search
import Reindent.Proofs.Lines
import Reindent.Proofs.Trim
import Reindent.Proofs.Glue
import Reindent.Proofs.Merge
import Reindent.Proofs.Scan
import Reindent.Proofs.Output
import Reindent.Proofs.FixedPoint
import Reindent.Proofs.Tidy
import Reindent.Proofs.Content
import Reindent.Proofs.Blocks
import Reindent.Proofs.Comment
import Reindent.Proofs.Depth
import Reindent.Proofs.CommentBody
import Reindent.Proofs.Canonical
import Reindent.Proofs.Batch
import Reindent.Proofs.LongestRun
import Reindent.Proofs.MatchingBlocks
import Reindent.Proofs.Difference
