import ArchLint.Text.Search
import ArchLint.Text.Lower
import ArchLint.Text.Identifier
import ArchLint.Text.Quoted
import ArchLint.Number.Decimal
import ArchLint.Syntax.Walk
import ArchLint.Syntax.Name
import ArchLint.Syntax.Printer
import ArchLint.Finding
import ArchLint.Context
import ArchLint.Analysis
import ArchLint.Report.Text
import ArchLint.Disk.Selection
import ArchLint.Main
import ArchLint.Syntax.Spelling
import ArchLint.Proofs.LevelOrder
import ArchLint.Proofs.ScopeMap
import ArchLint.Proofs.Judgement
import ArchLint.Proofs.Traversal
import ArchLint.Proofs.Decoding
import ArchLint.Proofs.Grouping
import ArchLint.Proofs.Counting
import ArchLint.Proofs.WellFormed
import ArchLint.Proofs.Pieces
import ArchLint.Proofs.Printing
import ArchLint.Proofs.Writing
import ArchLint.Proofs.Expressions
import ArchLint.Proofs.Brackets
import ArchLint.Proofs.Faults
import ArchLint.Proofs.Embedding
import ArchLint.Proofs.Parsing.Yields
import ArchLint.Proofs.Parsing.Literal
import ArchLint.Proofs.Parsing.Expression
import ArchLint.Proofs.Parsing.Pattern
import ArchLint.Proofs.Parsing.Statement
import ArchLint.Proofs.Safety
import ArchLint.Proofs.MissingFields
import ArchLint.Proofs.Gathering
import ArchLint.Proofs.Partition
import ArchLint.Proofs.RepeatedLiterals
import ArchLint.Proofs.Merging
import ArchLint.Proofs.Independence
import ArchLint.Proofs.TypeChecking
import ArchLint.Proofs.TypeGuards
import ArchLint.Proofs.ValidationScopes
import ArchLint.Proofs.Descriptions
import ArchLint.Proofs.LazyInitialization
import ArchLint.Proofs.ContextRuns
import ArchLint.Proofs.Grades
import ArchLint.Proofs.FirstLines
import ArchLint.Proofs.Paths
import ArchLint.Proofs.Trees
import ArchLint.Proofs.Listing
import ArchLint.Proofs.PackagePaths
