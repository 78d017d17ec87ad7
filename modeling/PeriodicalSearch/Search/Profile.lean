import PeriodicalSearch.Predicate
import PeriodicalSearch.Search.Failure
import PeriodicalSearch.Text.Quoted

/-!
How a collection is searched. A profile names the fields in which bare terms are looked up, and may
hand single fields, or all terms, to a transformer. A query becomes one predicate that matches a
record when any of its terms is found or any of its filters holds.
-/
namespace PeriodicalSearch

inductive Transformer where
  /-- The usual comparison, on this column. -/
  | column (name : String)
  /-- The predicate that the function makes of the text, or its reason for making none. -/
  | function (transform : String → Except String Predicate)

def Transformer.describe : Transformer → String
  | .column name => "Rename(" ++ Text.quoted name ++ ")"
  | .function _ => "Function(..)"

structure SearchProfile where
  fields : List String
  /-- Transformers by field; of several for one field the first counts. -/
  transformers : List (String × Transformer)
  termTransformer : Option Transformer

namespace SearchProfile

def termKey : String := "__term"

def ofFields (fields : List String) : SearchProfile := ⟨fields, [], none⟩

def register (profile : SearchProfile) (field : String) (transformer : Transformer) :
    SearchProfile :=
  if field = termKey then { profile with termTransformer := some transformer }
  else { profile with transformers := (field, transformer) :: profile.transformers }

def transformer? (profile : SearchProfile) (field : String) : Option Transformer :=
  profile.transformers.lookup field

def transformTerm (transformer : Transformer) (term : String) : Except SearchFailure Predicate :=
  match transformer with
  | .column name => .ok (.compare name (.contains term))
  | .function transform => (transform term).mapError .transformer

/-- The predicates of bare terms: one for each term where a transformer takes them over, otherwise
one for each field and term. -/
def termPredicates (profile : SearchProfile) (terms : List String) :
    Except SearchFailure (List Predicate) :=
  match profile.termTransformer with
  | some transformer => terms.mapM (transformTerm transformer)
  | none => .ok (profile.fields.flatMap fun field =>
      terms.map fun term => .compare field (.contains term))

def columnName (profile : SearchProfile) (field : String) : String :=
  match profile.transformer? field with
  | some (.column name) => name
  | _ => field

def textLookup (comparison : Comparison) (value : String) : Lookup :=
  match comparison with
  | .contains => .contains value
  | .equals => .equals value

/-- The predicate of a filter. A range is compared with the column, whether or not a function is
registered for the field. -/
def filterPredicate (profile : SearchProfile) (field : String) (value : FilterValue Date) :
    Except SearchFailure Predicate :=
  match value with
  | .range range => .ok (.compare (profile.columnName field) (.within range))
  | .text comparison value =>
    match profile.transformer? field with
    | some (.function transform) => (transform value).mapError .transformer
    | _ => .ok (.compare (profile.columnName field) (textLookup comparison value))

/-- The predicate of a query; none if the query does not restrict anything. -/
def predicate? (profile : SearchProfile) (query : Query) :
    Except SearchFailure (Option Predicate) := do
  let terms ← profile.termPredicates query.terms
  let filters ← query.filters.entries.mapM fun entry => profile.filterPredicate entry.1 entry.2
  match terms ++ filters with
  | [] => return none
  | fragments => return some (.any fragments)

end SearchProfile

end PeriodicalSearch
