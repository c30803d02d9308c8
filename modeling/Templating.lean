import Templating.Text
import Templating.Text.Case
import Templating.Text.Escape
import Templating.Double
import Templating.Double.Decimal
import Templating.Double.Shortest
import Templating.Value
import Templating.Value.Json
import Templating.Value.Coercion
import Templating.Error
import Templating.Filter
import Templating.Tag
import Templating.Draft
import Templating.Block
import Templating.Node
import Templating.Entries
import Templating.Log
import Templating.Store
import Templating.Run
import Templating.Compilation
import Templating.Rendering
import Templating.Builder
import Templating.TemplateCache
import Templating.Folder
import Templating.Lifetime
import Templating.Text.Hidden
import Templating.Report
import Templating.Session
import Templating.Proofs.Text.Search
import Templating.Proofs.Text.Lines
import Templating.Proofs.Text.Escape
import Templating.Proofs.Tag
import Templating.Proofs.Text.Position
import Templating.Proofs.Tag.Position
import Templating.Proofs.Tag.Lines
import Templating.Proofs.Draft
import Templating.Proofs.Run
import Templating.Proofs.Passes
import Templating.Proofs.Settling
import Templating.Proofs.Piece
import Templating.Proofs.OnePass
import Templating.Proofs.Block
import Templating.Proofs.Block.Position
import Templating.Proofs.Store
import Templating.Proofs.Extraction
import Templating.Proofs.Scan
import Templating.Proofs.Block.Alternatives
import Templating.Proofs.Document
import Templating.Proofs.Reference
import Templating.Proofs.Tidy
import Templating.Proofs.Preservation
import Templating.Proofs.Meaning
import Templating.Proofs.Correctness
import Templating.Proofs.Building
import Templating.Proofs.History
import Templating.Proofs.References
import Templating.Proofs.Growth
import Templating.Proofs.Slots
import Templating.Proofs.Retention
import Templating.Proofs.Caching
import Templating.Proofs.Recency
import Templating.Proofs.Verdict
import Templating.Proofs.Reuse
import Templating.Proofs.Expansion
import Templating.Proofs.Leniency
import Templating.Proofs.Scope
import Templating.Proofs.Vacancy
import Templating.Proofs.Twins
import Templating.Proofs.Swap
import Templating.Proofs.Negation
import Templating.Proofs.Indentation
import Templating.Proofs.Capacity
import Templating.Proofs.Double.Rounding
import Templating.Proofs.Integers
import Templating.Proofs.Builder
import Templating.Proofs.Repetition
import Templating.Proofs.Doubling
import Templating.Proofs.Path
import Templating.Proofs.Double.Numeral
import Templating.Proofs.Double.Leading
import Templating.Proofs.Order
