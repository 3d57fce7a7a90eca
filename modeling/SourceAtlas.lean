import SourceAtlas.Main
import SourceAtlas.Proofs.Text.Cutting
import SourceAtlas.Proofs.Text.Integer
import SourceAtlas.Proofs.RuleFile.Groups
import SourceAtlas.Proofs.RuleFile.Marks
import SourceAtlas.Proofs.RuleFile.Accepted
import SourceAtlas.Proofs.RuleFile.RoundTrip
import SourceAtlas.Proofs.Entity.Index
import SourceAtlas.Proofs.Entity.Merging
import SourceAtlas.Proofs.Entity.Symmetry
import SourceAtlas.Proofs.Extraction.Links
import SourceAtlas.Proofs.Rule.Library
import SourceAtlas.Proofs.Survey.Scans
import SourceAtlas.Proofs.Survey.Soundness
import SourceAtlas.Proofs.Extraction.Agreement
import SourceAtlas.Proofs.Source.Scanner
import SourceAtlas.Proofs.Entity.Registration
import SourceAtlas.Proofs.Entity.Forest
import SourceAtlas.Proofs.Survey.Steps
import SourceAtlas.Proofs.Survey.Workers
import SourceAtlas.Proofs.Survey.Listing
import SourceAtlas.Proofs.Survey.Numbering
import SourceAtlas.Proofs.Survey.Indexing
import SourceAtlas.Proofs.Source.LineStates
import SourceAtlas.Proofs.Extraction.SilentLines
import SourceAtlas.Proofs.Extraction.Unlinked
import SourceAtlas.Proofs.Survey.LinkOrder
import SourceAtlas.Proofs.Survey.Cancellation
import SourceAtlas.Proofs.Text.ByteOrder
import SourceAtlas.Proofs.FileSystem.Trails
import SourceAtlas.Proofs.Survey.Faithfulness
import SourceAtlas.Proofs.Survey.Exactness
import SourceAtlas.Proofs.RuleFile.WellFormed
import SourceAtlas.Proofs.Source.Turns
import SourceAtlas.Proofs.Extraction.Tracing
import SourceAtlas.Proofs.Extraction.Resolution
import SourceAtlas.Proofs.Survey.Resolution
import SourceAtlas.Proofs.FileSystem.Relative
import SourceAtlas.Proofs.Entity.Traversal
import SourceAtlas.Proofs.Report.Picture
import SourceAtlas.Proofs.Survey.Picture
import SourceAtlas.Proofs.Extraction.Conditions
import SourceAtlas.Proofs.Extraction.Attempts
import SourceAtlas.Proofs.Extraction.ConstantRules
import SourceAtlas.Proofs.Extraction.RuleMarks
import SourceAtlas.Proofs.Survey.LinksBack
import SourceAtlas.Proofs.Source.Splitting
import SourceAtlas.Proofs.Text.Searching
import SourceAtlas.Proofs.Source.LiteralEnds
import SourceAtlas.Proofs.Extraction.Decisions
import SourceAtlas.Proofs.Extraction.Templates
import SourceAtlas.Proofs.Extraction.Quotation
import SourceAtlas.Proofs.RuleFile.Beginnings
import SourceAtlas.Proofs.RuleFile.Blocks
import SourceAtlas.Proofs.Extraction.Substitution
import SourceAtlas.Proofs.Survey.EdgeCount
import SourceAtlas.Proofs.FileType.Lookup
import SourceAtlas.Proofs.Entity.Assembly
import SourceAtlas.Proofs.Survey.Statistics
import SourceAtlas.Proofs.Survey.Colors
import SourceAtlas.Proofs.ByteCount
import SourceAtlas.Proofs.Source.LineCount
