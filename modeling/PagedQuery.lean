import PagedQuery.Text.CaseMap
import PagedQuery.Text.DecimalDigit
import PagedQuery.Text.Fields
import PagedQuery.Text.Quoted
import PagedQuery.Text.WordChar
import PagedQuery.Numeric.Decimal
import PagedQuery.Calendar.Reading
import PagedQuery.Failure
import PagedQuery.Value.Order
import PagedQuery.Coercion
import PagedQuery.Filter.Criteria
import PagedQuery.Filter.Request
import PagedQuery.Predicate.Evaluation
import PagedQuery.Page
import PagedQuery.WrittenPage
import PagedQuery.Journal
import PagedQuery.Query.Text
import PagedQuery.Value.Whole
import PagedQuery.Value.JsonReader
import PagedQuery.Repository.Paging
import PagedQuery.Collection.Backend
import PagedQuery.Collection.Responders
import PagedQuery.Relational.Cell
import PagedQuery.Relational.Like
import PagedQuery.Relational.Selection
import PagedQuery.Relational.Backend
import PagedQuery.Relational.Directory
import PagedQuery.Settings.Paging
import PagedQuery.Proofs.StableSort
import PagedQuery.Proofs.KeyOrder
import PagedQuery.Proofs.PageRuns
import PagedQuery.Proofs.Matching
import PagedQuery.Proofs.Preservation
import PagedQuery.Proofs.PagePartition
import PagedQuery.Proofs.SortedRows
import PagedQuery.Proofs.FilterMeaning
import PagedQuery.Proofs.FilterRejections
import PagedQuery.Proofs.ConditionTruth
import PagedQuery.Proofs.ThreeValued
import PagedQuery.Proofs.TypedTables
import PagedQuery.Proofs.Sessions
import PagedQuery.Proofs.StatementRuns
import PagedQuery.Proofs.RecordOrder
import PagedQuery.Proofs.Negations
import PagedQuery.Proofs.PageAgreement
import PagedQuery.Proofs.BadArguments
import PagedQuery.Proofs.RefusedCalls
import PagedQuery.Proofs.RefusedRows
import PagedQuery.Proofs.ValueEquality
import PagedQuery.Proofs.KeyedRows
import PagedQuery.Proofs.ObjectCalls
import PagedQuery.Proofs.RoundedQuotients
import PagedQuery.Proofs.PageWalk
import PagedQuery.Proofs.Counting
import PagedQuery.Proofs.TextPages
import PagedQuery.Proofs.CountTexts
import PagedQuery.Proofs.NewObjects
import PagedQuery.Proofs.RefusedPages
import PagedQuery.Proofs.RefusedWrites
import PagedQuery.Proofs.TextSearches
import PagedQuery.Proofs.LiteralSearches
import PagedQuery.Proofs.NamedBindings
import PagedQuery.Proofs.PositionalBindings
import PagedQuery.Proofs.LoadedSettings
import PagedQuery.Proofs.FilterFailures
import PagedQuery.Proofs.EmptyColumns
import PagedQuery.Proofs.RemovedRows
import PagedQuery.Proofs.PredicateLaws
import PagedQuery.Proofs.CommaLists
import PagedQuery.Proofs.PageOrders
import PagedQuery.Proofs.ListReaders
import PagedQuery.Proofs.MappedPages
import PagedQuery.Proofs.PageFills
import PagedQuery.Proofs.RoundedDoubles
import PagedQuery.Proofs.NearestDoubles
import PagedQuery.Proofs.PageTotals
import PagedQuery.Proofs.CountReports
import PagedQuery.Proofs.RequestValues
import PagedQuery.Proofs.PlainNumerals
import PagedQuery.Proofs.DecimalTexts
import PagedQuery.Proofs.DecimalDoubles
import PagedQuery.Proofs.TypedSettings
import PagedQuery.Proofs.ReportTexts
