import SqlDiagnosis.Text.Case
import SqlDiagnosis.Text.Identifier
import SqlDiagnosis.Text.Integer
import SqlDiagnosis.Text.Quoted
import SqlDiagnosis.Text.WordChar
import SqlDiagnosis.Text.WordSubstitution
import SqlDiagnosis.Text.Similarity
import SqlDiagnosis.Number.Shortest
import SqlDiagnosis.Value.Display
import SqlDiagnosis.RawTree.Comparison
import SqlDiagnosis.RawTree.Order
import SqlDiagnosis.RawTree.Table
import SqlDiagnosis.Token
import SqlDiagnosis.Catalog
import SqlDiagnosis.Node.Search
import SqlDiagnosis.Node.Render
import SqlDiagnosis.Finding
import SqlDiagnosis.Check.Semicolon
import SqlDiagnosis.Check.Operator
import SqlDiagnosis.Check.Spelling
import SqlDiagnosis.Check.Typing
import SqlDiagnosis.Check.Aggregate
import SqlDiagnosis.Check.Clause
import SqlDiagnosis.Check.Bracket
import SqlDiagnosis.Check.Subquery
import SqlDiagnosis.Check.Grouping
import SqlDiagnosis.Check.Condition
import SqlDiagnosis.Check.Wildcard
import SqlDiagnosis.Check.Join
import SqlDiagnosis.Check.Projection
import SqlDiagnosis.Diagnosis
import SqlDiagnosis.Proofs.Answer
import SqlDiagnosis.Proofs.Composition
import SqlDiagnosis.Proofs.Redundancy
import SqlDiagnosis.Proofs.Acceptance
import SqlDiagnosis.Proofs.Rewriting
import SqlDiagnosis.Proofs.WordRun
import SqlDiagnosis.Proofs.Insertion
import SqlDiagnosis.Proofs.Interchange
import SqlDiagnosis.Proofs.Effect
import SqlDiagnosis.Proofs.Closing
import SqlDiagnosis.Proofs.Distinctness
import SqlDiagnosis.Proofs.Lookup
import SqlDiagnosis.Proofs.Blindness
import SqlDiagnosis.Proofs.SolutionSet
import SqlDiagnosis.Proofs.Closeness
import SqlDiagnosis.Proofs.NameText
import SqlDiagnosis.Proofs.Proposal
import SqlDiagnosis.Proofs.Rearrangement
import SqlDiagnosis.Proofs.DottedName
import SqlDiagnosis.Proofs.Placement
import SqlDiagnosis.Proofs.JoinVerdict
import SqlDiagnosis.Proofs.HiddenGap
import SqlDiagnosis.Proofs.ProjectionVerdict
import SqlDiagnosis.Proofs.ClauseRepetition
import SqlDiagnosis.Proofs.ClauseSequence
import SqlDiagnosis.Proofs.Subtree
import SqlDiagnosis.Proofs.SelectAnswer
import SqlDiagnosis.Proofs.GroupedColumn
import SqlDiagnosis.Proofs.AggregatedColumn
import SqlDiagnosis.Proofs.GroupPlace
import SqlDiagnosis.Proofs.PlainGrouping
import SqlDiagnosis.Proofs.Conversion
import SqlDiagnosis.Proofs.Excuse
import SqlDiagnosis.Proofs.BranchType
import SqlDiagnosis.Proofs.Occurrence
import SqlDiagnosis.Proofs.Nesting
import SqlDiagnosis.Proofs.Balance
import SqlDiagnosis.Proofs.FirstText
import SqlDiagnosis.Proofs.Sameness
import SqlDiagnosis.Proofs.LiteralInsertion
import SqlDiagnosis.Proofs.Hashing
import SqlDiagnosis.Proofs.Absorption
import SqlDiagnosis.Proofs.WordSplit
import SqlDiagnosis.Proofs.OrderDirection
import SqlDiagnosis.Proofs.TableUnion
