import PeriodicalSearch.Query.Basic

/-!
Predicates over the records of a collection. Fields are names here; whether a collection has them
is decided when a predicate becomes a condition.
-/
namespace PeriodicalSearch

inductive Operand where
  | text (value : String)
  | integer (value : Int)
  | boolean (value : Bool)
  | date (value : Date)
  deriving DecidableEq

inductive Lookup where
  /-- The text of the field contains this text, whatever the case of the letters. -/
  | contains (text : String)
  /-- The text of the field is this text, whatever the case of the letters. -/
  | equals (text : String)
  | exact (operand : Operand)
  /-- The field is null, or for `false` is not null. -/
  | isNull (null : Bool)
  | within (range : Range Date)
  deriving DecidableEq

inductive Predicate where
  /-- At least one member holds; without members nothing matches. -/
  | any (members : List Predicate)
  /-- Every member holds; without members everything matches. -/
  | all (members : List Predicate)
  | compare (field : String) (lookup : Lookup)
  | nothing

end PeriodicalSearch
