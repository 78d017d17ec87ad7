import PeriodicalSearch.Api.Failure
import PeriodicalSearch.Api.Options
import PeriodicalSearch.Resource.Settings
import PeriodicalSearch.Search.Filter
import PeriodicalSearch.Search.Sorting
import PeriodicalSearch.Store

/-!
Lists of records: the query that a request stands for, and one page of what it selects together
with the number of all records selected.
-/
namespace PeriodicalSearch

structure Page (resource : Resource) where
  records : List (Record resource)
  total : Nat

namespace Listing

/-- The query that the options stand for. A fault in the search is told before one in the sort
directive. -/
def select (resource : Resource) (options : ListOptions) :
    Except ApiFailure (Sql.Select resource) := do
  let condition ← (resource.searchProfile.filter resource options.search).mapError
    ApiFailure.ofSearchFailure
  let sortKey ← (Sql.SortKey.choose resource.usualSort options.sort).mapError
    ApiFailure.ofSearchFailure
  return ⟨condition.map ConditionGroup.expression, some sortKey⟩

def paginate {resource : Resource} (options : ListOptions) (records : List (Record resource)) :
    Page resource :=
  ⟨(records.drop options.offset).take options.limit, records.length⟩

def page (store : Store) (resource : Resource) (options : ListOptions) :
    Except ApiFailure (Page resource) := do
  let query ← select resource options
  match store.select? query with
  | some records => return paginate options records
  | none => .error .database

end Listing

end PeriodicalSearch
