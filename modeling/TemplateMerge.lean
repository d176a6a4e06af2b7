import TemplateMerge.Command.Arguments
import TemplateMerge.Command.Basic
import TemplateMerge.Command.Batch
import TemplateMerge.Command.Result
import TemplateMerge.Command.Run
import TemplateMerge.Decimal.Layout
import TemplateMerge.Decimal.Shortest
import TemplateMerge.Diff.Edit
import TemplateMerge.Diff.Script
import TemplateMerge.Diff.Settled
import TemplateMerge.Diff.Unified
import TemplateMerge.Document
import TemplateMerge.Error
import TemplateMerge.FileTree
import TemplateMerge.Format.Basic
import TemplateMerge.Format.KeyValue
import TemplateMerge.Format.Outline
import TemplateMerge.Freeze.Marker
import TemplateMerge.Freeze.Span
import TemplateMerge.Injection.Basic
import TemplateMerge.Injection.Matcher
import TemplateMerge.Injection.Placement
import TemplateMerge.Json.Basic
import TemplateMerge.Json.Written
import TemplateMerge.Main
import TemplateMerge.Merge.Basic
import TemplateMerge.Merge.Decision
import TemplateMerge.Merge.Outcome
import TemplateMerge.Merge.Pairing
import TemplateMerge.Merge.Prepared
import TemplateMerge.Merge.Report
import TemplateMerge.Node.Basic
import TemplateMerge.Node.Capability
import TemplateMerge.Node.Given
import TemplateMerge.Pattern.Basic
import TemplateMerge.Pattern.Bytes
import TemplateMerge.Pattern.CharSet
import TemplateMerge.Pattern.Engine
import TemplateMerge.Pattern.Find
import TemplateMerge.Pattern.Parser
import TemplateMerge.Pattern.Property
import TemplateMerge.Pattern.Size
import TemplateMerge.Position
import TemplateMerge.Preference.Basic
import TemplateMerge.Preference.Lookup
import TemplateMerge.Preference.Typing
import TemplateMerge.Proofs.Command.Arguments
import TemplateMerge.Proofs.Command.Batch
import TemplateMerge.Proofs.Command.Log
import TemplateMerge.Proofs.Command.OneDestination
import TemplateMerge.Proofs.Document.Ancestry
import TemplateMerge.Proofs.Document.Depths
import TemplateMerge.Proofs.Document.Ranges
import TemplateMerge.Proofs.Document.Statements
import TemplateMerge.Proofs.Document.Subtree
import TemplateMerge.Proofs.Document.Tiling
import TemplateMerge.Proofs.FileTree.Making
import TemplateMerge.Proofs.FileTree.Paths
import TemplateMerge.Proofs.FileTree.Writing
import TemplateMerge.Proofs.Format.HeadingTree
import TemplateMerge.Proofs.Format.KeyValue
import TemplateMerge.Proofs.Format.Linewise
import TemplateMerge.Proofs.Format.Outline
import TemplateMerge.Proofs.Format.OutlineBranches
import TemplateMerge.Proofs.Format.OutlineFrame
import TemplateMerge.Proofs.Format.OutlineHeadings
import TemplateMerge.Proofs.Format.OutlineInsertion
import TemplateMerge.Proofs.Format.OutlineNavigation
import TemplateMerge.Proofs.Format.OutlinePartition
import TemplateMerge.Proofs.Format.OutlineSection
import TemplateMerge.Proofs.Format.OutlineTree
import TemplateMerge.Proofs.Freeze.Alternation
import TemplateMerge.Proofs.Freeze.Frame
import TemplateMerge.Proofs.Freeze.Recognition
import TemplateMerge.Proofs.Freeze.Registration
import TemplateMerge.Proofs.Freeze.Scan
import TemplateMerge.Proofs.Injection.Location
import TemplateMerge.Proofs.Merge.Aligned
import TemplateMerge.Proofs.Merge.Alike
import TemplateMerge.Proofs.Merge.Appended
import TemplateMerge.Proofs.Merge.Conservative
import TemplateMerge.Proofs.Merge.Counts
import TemplateMerge.Proofs.Merge.Failures
import TemplateMerge.Proofs.Merge.Fixed
import TemplateMerge.Proofs.Merge.FrozenRegions
import TemplateMerge.Proofs.Merge.Greedy
import TemplateMerge.Proofs.Merge.HeadingFree
import TemplateMerge.Proofs.Merge.Idempotence
import TemplateMerge.Proofs.Merge.Identity
import TemplateMerge.Proofs.Merge.Insertion
import TemplateMerge.Proofs.Merge.Leftovers
import TemplateMerge.Proofs.Merge.LineByLine
import TemplateMerge.Proofs.Merge.Lines
import TemplateMerge.Proofs.Merge.Log
import TemplateMerge.Proofs.Merge.Pairing
import TemplateMerge.Proofs.Merge.Pieces
import TemplateMerge.Proofs.Merge.Places
import TemplateMerge.Proofs.Merge.Policy
import TemplateMerge.Proofs.Merge.Ranks
import TemplateMerge.Proofs.Merge.Refined
import TemplateMerge.Proofs.Merge.Rematch
import TemplateMerge.Proofs.Merge.ReplacedTail
import TemplateMerge.Proofs.Merge.Replacement
import TemplateMerge.Proofs.Merge.SelfReplacement
import TemplateMerge.Proofs.Merge.Splice
import TemplateMerge.Proofs.Merge.Staging
import TemplateMerge.Proofs.Merge.Substitution
import TemplateMerge.Proofs.Merge.Unseen
import TemplateMerge.Proofs.Merge.UsedUp
import TemplateMerge.Proofs.Merge.WholeSubtrees
import TemplateMerge.Proofs.Merge.Widening
import TemplateMerge.Proofs.Merge.Written
import TemplateMerge.Proofs.Node.Layers
import TemplateMerge.Proofs.Preference.Json
import TemplateMerge.Proofs.Preference.Locality
import TemplateMerge.Proofs.Preference.TypeName
import TemplateMerge.Proofs.Refinement.CandidateOrder
import TemplateMerge.Proofs.Refinement.Doubles
import TemplateMerge.Proofs.Refinement.GreedyMatching
import TemplateMerge.Proofs.Refinement.Threshold
import TemplateMerge.Proofs.Signature.Draining
import TemplateMerge.Proofs.Signature.Index
import TemplateMerge.Proofs.Similarity.EditDistance
import TemplateMerge.Proofs.Similarity.Metric
import TemplateMerge.Proofs.Stages
import TemplateMerge.Proofs.Table.Lookup
import TemplateMerge.Proofs.Text.Assembly
import TemplateMerge.Proofs.Text.Blocks
import TemplateMerge.Proofs.Text.Endings
import TemplateMerge.Proofs.Text.LineStarts
import TemplateMerge.Proofs.Text.Trimming
import TemplateMerge.Refinement
import TemplateMerge.Resolution.Basic
import TemplateMerge.Resolution.Strategy
import TemplateMerge.Settings
import TemplateMerge.Side
import TemplateMerge.Signature
import TemplateMerge.Similarity
import TemplateMerge.Statement
import TemplateMerge.Table
import TemplateMerge.Text.Basic
import TemplateMerge.Text.Category
import TemplateMerge.Text.Category.Runs
import TemplateMerge.Text.Folding
import TemplateMerge.Text.Lines
import TemplateMerge.Text.Quoted
