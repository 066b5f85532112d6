import MiniPascal.Main
import MiniPascal.Proofs.Parsing.Standing
import MiniPascal.RunText
import MiniPascal.Proofs.Parsing.ExpressionRuns
import MiniPascal.Proofs.Parsing.StatementRuns
import MiniPascal.Proofs.Parsing.StatementFollowing
import MiniPascal.Proofs.Parsing.ProgramRuns
import MiniPascal.Proofs.Parsing.Declaration
import MiniPascal.Proofs.Parsing.Grammar
import MiniPascal.Proofs.Parsing.GrammarSoundness
import MiniPascal.Proofs.Parsing.ExpressionCompleteness
import MiniPascal.Proofs.Parsing.StatementCompleteness
import MiniPascal.Proofs.Parsing.Locality
import MiniPascal.Proofs.Scanning.Pieces
import MiniPascal.Proofs.Scanning.Prefix
import MiniPascal.Proofs.Scanning.Runs
import MiniPascal.Proofs.Parsing.Acceptance
import MiniPascal.Proofs.Running.Actions
import MiniPascal.Proofs.Running.Desugaring
import MiniPascal.Proofs.Running.BigStep
import MiniPascal.Proofs.Trees.Shape
import MiniPascal.Proofs.Trees.Views
import MiniPascal.Proofs.Numbers.Patterns
import MiniPascal.Proofs.Numbers.Rounding
import MiniPascal.Proofs.Running.Queries
import MiniPascal.Proofs.Running.Stores
import MiniPascal.Proofs.Running.Faults
import MiniPascal.Proofs.Parsing.Bounds
import MiniPascal.Proofs.Parsing.LikeReadings
import MiniPascal.Proofs.Parsing.Relaid
import MiniPascal.Proofs.Parsing.Termination
import MiniPascal.Proofs.Running.FaultyRuns
import MiniPascal.Proofs.Running.Invariants
import MiniPascal.Proofs.Running.TypedRuns
import MiniPascal.Proofs.Trees.Parsed
import MiniPascal.Proofs.Parsing.AlikePrograms
import MiniPascal.Proofs.Parsing.Names
import MiniPascal.Proofs.Parsing.Following
import MiniPascal.Proofs.Parsing.Sequence
import MiniPascal.Proofs.Parsing.Separation
import MiniPascal.Proofs.Running.AlikeRuns
import MiniPascal.Proofs.Running.Frames
import MiniPascal.Proofs.Running.Values
import MiniPascal.Proofs.Running.Renaming
import MiniPascal.Proofs.Running.Unrelated
import MiniPascal.Proofs.Running.Composition
import MiniPascal.Proofs.Running.Respelled
import MiniPascal.Proofs.Trees.Relabel
import MiniPascal.Proofs.Scanning.Lookahead
import MiniPascal.Proofs.Scanning.Respelling
import MiniPascal.Proofs.Processing.Work
import MiniPascal.Proofs.Processing.Shown
import MiniPascal.Proofs.Trees.Places
import MiniPascal.Proofs.Trees.Enumeration
import MiniPascal.Proofs.Trees.OutlineText
import MiniPascal.Proofs.Processing.Sessions
import MiniPascal.Proofs.Parsing.Phrases
import MiniPascal.Proofs.Parsing.FaithfulTrees
import MiniPascal.Proofs.Parsing.Segments
import MiniPascal.Proofs.Parsing.SegmentRuns
import MiniPascal.Proofs.Parsing.SegmentLists
import MiniPascal.Proofs.Numbers.FixedPoint
import MiniPascal.Proofs.Running.Checks
import MiniPascal.Proofs.Running.Atomicity
import MiniPascal.Proofs.Parsing.SurfaceParsing
import MiniPascal.Proofs.Scanning.Lines
import MiniPascal.Proofs.Scanning.Calls
import MiniPascal.Proofs.Parsing.Among
import MiniPascal.Proofs.Parsing.Reports
import MiniPascal.Proofs.Parsing.Marked
import MiniPascal.Proofs.Parsing.SpelledPrograms
import MiniPascal.Proofs.Trees.Unambiguous
import MiniPascal.Proofs.Running.Located
import MiniPascal.Proofs.Parsing.Entering
import MiniPascal.Proofs.Parsing.Entered
import MiniPascal.Proofs.Parsing.Attachment
import MiniPascal.Proofs.Trees.SourceOrder
import MiniPascal.Proofs.Parsing.LineOrder
import MiniPascal.Proofs.Scanning.LongestMatch
import MiniPascal.Proofs.Trees.StringLiterals
import MiniPascal.Proofs.Trees.Rebuilt
import MiniPascal.Proofs.Trees.GraphLabels
import MiniPascal.Proofs.Numbers.Nearest
import MiniPascal.Proofs.Running.LiteralValues
import MiniPascal.Proofs.Numbers.ShortestText
import MiniPascal.Proofs.Json.Grammar
import MiniPascal.Proofs.Json.Rendered
import MiniPascal.Proofs.Json.ReadBack
import MiniPascal.Proofs.Json.Dumped
