import PeriodicalSearch.Search.Failure
import PeriodicalSearch.Sql.Statement
import PeriodicalSearch.Text.Blank

/-!
Sort directives: the name of a column, with a hyphen before it for descending order.
-/
namespace PeriodicalSearch.Sql.SortKey

def nameAndDirection (directive : List Char) : List Char × Direction :=
  match directive with
  | '-' :: name => (name, .descending)
  | name => (name, .ascending)

def ofDirective? (entity : Entity) (directive : String) :
    Except SearchFailure (Option (SortKey entity)) :=
  match Text.trimBlanks directive.toList with
  | [] => .ok none
  | trimmed =>
    let (name, direction) := nameAndDirection trimmed
    match entity.column? (String.ofList name) with
    | some column => .ok (some ⟨column, direction⟩)
    | none => .error (.unknownSortField (String.ofList name))

/-- The sort key of a directive that may be missing or blank, in which case it is the usual one. -/
def choose {entity : Entity} (usual : SortKey entity) (directive : Option String) :
    Except SearchFailure (SortKey entity) :=
  match directive with
  | none => .ok usual
  | some directive => (ofDirective? entity directive).map (·.getD usual)

end PeriodicalSearch.Sql.SortKey
