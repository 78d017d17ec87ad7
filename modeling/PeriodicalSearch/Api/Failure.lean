import PeriodicalSearch.Json.Basic
import PeriodicalSearch.Search.Failure

/-!
What a client is told when a request fails. Details of the database and of transformers are kept
from it.
-/
namespace PeriodicalSearch

inductive ApiFailure where
  | badRequest (message : String)
  | database
  | internal (message : String)
  deriving DecidableEq

namespace ApiFailure

def status : ApiFailure → Nat
  | .badRequest _ => 400
  | .database => 500
  | .internal _ => 500

def message : ApiFailure → String
  | .badRequest message => message
  | .database => "A database error occurred"
  | .internal message => message

def body (failure : ApiFailure) : Json := .record [("error", .text failure.message)]

def ofSearchFailure : SearchFailure → ApiFailure
  | .rejected query => .badRequest ("Invalid search query: " ++ query.reason)
  | .unknownField field => .badRequest ("Cannot search by '" ++ field ++ "'")
  | .unknownSortField field => .badRequest ("Cannot sort by '" ++ field ++ "'")
  | .transformer _ => .internal "Search failed"

end ApiFailure

end PeriodicalSearch
