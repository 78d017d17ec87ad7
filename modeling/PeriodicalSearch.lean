import PeriodicalSearch.Api.Service
import PeriodicalSearch.Json.Printer
import PeriodicalSearch.Json.Reader
import PeriodicalSearch.Query.Printer
import PeriodicalSearch.Record.Related
import PeriodicalSearch.Proofs.Agreement
import PeriodicalSearch.Proofs.Text.Decimals
import PeriodicalSearch.Proofs.Search.LetterCase
import PeriodicalSearch.Proofs.FirstFailure
import PeriodicalSearch.Proofs.Calendar.DayOrder
import PeriodicalSearch.Proofs.Calendar.IsoText
import PeriodicalSearch.Proofs.Text.Capitals
import PeriodicalSearch.Proofs.Text.Letters
import PeriodicalSearch.Proofs.Text.Trimming
import PeriodicalSearch.Proofs.Query.Attempts
import PeriodicalSearch.Proofs.Query.Concatenation
import PeriodicalSearch.Proofs.Query.DayRange
import PeriodicalSearch.Proofs.Query.Derivation
import PeriodicalSearch.Proofs.Query.Exchange
import PeriodicalSearch.Proofs.Query.FilterLookup
import PeriodicalSearch.Proofs.Query.ImpossibleDays
import PeriodicalSearch.Proofs.Query.Items
import PeriodicalSearch.Proofs.Query.Octets
import PeriodicalSearch.Proofs.Query.OpenQuotes
import PeriodicalSearch.Proofs.Query.Pieces
import PeriodicalSearch.Proofs.Query.Reference
import PeriodicalSearch.Proofs.Query.Resolution
import PeriodicalSearch.Proofs.Query.RoundTrip
import PeriodicalSearch.Proofs.Query.Stops
import PeriodicalSearch.Proofs.Query.UnclosedQuotes
import PeriodicalSearch.Proofs.Query.ViablePrefix
import PeriodicalSearch.Proofs.Query.Words
import PeriodicalSearch.Proofs.Query.WrittenSize
import PeriodicalSearch.Proofs.Predicate.Truth
import PeriodicalSearch.Proofs.Sql.CellOrder
import PeriodicalSearch.Proofs.Sql.Connectives
import PeriodicalSearch.Proofs.Sql.Containment
import PeriodicalSearch.Proofs.Sql.Erasure
import PeriodicalSearch.Proofs.Sql.Marks
import PeriodicalSearch.Proofs.Sql.Placeholders
import PeriodicalSearch.Proofs.Sql.Queries
import PeriodicalSearch.Proofs.Sql.Wildcards
import PeriodicalSearch.Proofs.Condition.Binding
import PeriodicalSearch.Proofs.Condition.Comparisons
import PeriodicalSearch.Proofs.Condition.Expression
import PeriodicalSearch.Proofs.Condition.Height
import PeriodicalSearch.Proofs.Condition.Leaves
import PeriodicalSearch.Proofs.Condition.Meaning
import PeriodicalSearch.Proofs.Condition.UnknownField
import PeriodicalSearch.Proofs.Search.AddedFilter
import PeriodicalSearch.Proofs.Search.Calls
import PeriodicalSearch.Proofs.Search.Directives
import PeriodicalSearch.Proofs.Search.Fragments
import PeriodicalSearch.Proofs.Search.Totality
import PeriodicalSearch.Proofs.Search.Union
import PeriodicalSearch.Proofs.Api.Lists
import PeriodicalSearch.Proofs.Api.Pages
import PeriodicalSearch.Proofs.Api.Refusals
import PeriodicalSearch.Proofs.Store.DayRanges
import PeriodicalSearch.Proofs.Store.Selection
import PeriodicalSearch.Proofs.Store.Ties
import PeriodicalSearch.Proofs.Article.Fragments
import PeriodicalSearch.Proofs.Article.Meaning
import PeriodicalSearch.Proofs.Article.OwnText
import PeriodicalSearch.Proofs.Article.Search
import PeriodicalSearch.Proofs.Query.ItemCount
import PeriodicalSearch.Proofs.Api.SearchLimits
import PeriodicalSearch.Proofs.Api.IndependentPages
import PeriodicalSearch.Proofs.Issue.CodeText
import PeriodicalSearch.Proofs.Issue.Codes
import PeriodicalSearch.Proofs.Issue.Search
import PeriodicalSearch.Proofs.Api.ExactFilters
import PeriodicalSearch.Proofs.User.Roles
import PeriodicalSearch.Proofs.User.Search
