import PeriodicalSearch.Query.Fault

/-!
Why a search cannot be carried out.
-/
namespace PeriodicalSearch

inductive SearchFailure where
  | rejected (query : RejectedQuery)
  | unknownField (field : String)
  | unknownSortField (field : String)
  | transformer (reason : String)
  deriving DecidableEq

namespace SearchFailure

def message : SearchFailure → String
  | .rejected query => query.message
  | .unknownField field => "unknown search field '" ++ field ++ "'"
  | .unknownSortField field => "unknown sort field '" ++ field ++ "'"
  | .transformer reason => "search transformer failed: " ++ reason

def cause? : SearchFailure → Option String
  | .transformer reason => some reason
  | _ => none

end SearchFailure

end PeriodicalSearch
