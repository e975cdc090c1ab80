import Databook.Main
import Databook.Pages.Memory
import Databook.Proofs.Columns.FormulaValues
import Databook.Proofs.Columns.LinkCalls
import Databook.Proofs.Pages.Cache
import Databook.Proofs.View.CacheCalls
import Databook.Proofs.Columns.ClearedCells
import Databook.Proofs.View.ClearedCells
import Databook.Proofs.Formula.Grammar
import Databook.Proofs.Formula.Parser
import Databook.Proofs.Formula.Spelling
import Databook.Proofs.Formula.Writing
import Databook.Proofs.Formula.Spans
import Databook.Proofs.Formula.Blanks
import Databook.Proofs.Formula.SyntaxErrors
import Databook.Proofs.Formula.Safety
import Databook.Proofs.Decimal.Shortest
import Databook.Proofs.Json.NumberText
import Databook.Proofs.Json.Gives
import Databook.Proofs.Document.Reloaded
import Databook.Proofs.Document.ComputedCells
import Databook.Proofs.Document.RowEdits
import Databook.Proofs.Display.Option
import Databook.Proofs.Display.Markdown
import Databook.Proofs.Display.Number
import Databook.Proofs.Pages.Session
import Databook.Proofs.Columns.ResolvedLinks
import Databook.Proofs.Columns.FormulaOutcomes
import Databook.Proofs.Columns.FormulaErrors
import Databook.Proofs.Columns.FormulaIsolation
import Databook.Proofs.Columns.RolledFormulas
import Databook.Proofs.Columns.RollupValues
import Databook.Proofs.Query.Filter
import Databook.Proofs.Query.Group
import Databook.Proofs.Query.Sorted
import Databook.Proofs.View.Materialized
import Databook.Proofs.Pages.Transactions
import Databook.Proofs.Pages.Agreement
import Databook.Proofs.CommandLine.Records
import Databook.Proofs.Validation.References
import Databook.Proofs.CommandLine.Labels
import Databook.Proofs.Validation.Labels
import Databook.Proofs.Formula.DateUnits
import Databook.Proofs.Formula.DateTexts
import Databook.Proofs.Summary.DateRange
import Databook.Proofs.Summary.Distinct
