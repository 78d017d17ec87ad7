import PeriodicalSearch.Condition
import PeriodicalSearch.Query.Parser
import PeriodicalSearch.Search.Profile

/-!
From the text of a search to a condition on rows. A search that names a field which the collection
lacks matches nothing at all, so that a mistyped filter never widens a result.
-/
namespace PeriodicalSearch.SearchProfile

def searchPredicate? (profile : SearchProfile) (search : String) :
    Except SearchFailure (Option Predicate) :=
  match Query.parse search with
  | .ok query => profile.predicate? query
  | .error fault => .error (.rejected (.ofFault search fault))

/-- The condition of a predicate, where an unknown field makes the whole condition fail. -/
def closedCondition (entity : Entity) (predicate : Predicate) :
    Except SearchFailure (ConditionGroup entity) :=
  match ConditionGroup.ofPredicate entity predicate with
  | .ok group => .ok group
  | .error (.unknownField _) => .ok .never
  | .error failure => .error failure

/-- The condition of a search text; none if the search does not restrict anything. -/
def condition? (profile : SearchProfile) (entity : Entity) (search : String) :
    Except SearchFailure (Option (ConditionGroup entity)) := do
  match ← profile.searchPredicate? search with
  | none => return none
  | some predicate => return some (← closedCondition entity predicate)

def filter (profile : SearchProfile) (entity : Entity) (search : Option String) :
    Except SearchFailure (Option (ConditionGroup entity)) :=
  match search with
  | none => .ok none
  | some search => profile.condition? entity search

end PeriodicalSearch.SearchProfile
