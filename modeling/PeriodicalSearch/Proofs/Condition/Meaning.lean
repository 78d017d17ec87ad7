import PeriodicalSearch.Proofs.Condition.Comparisons
import PeriodicalSearch.Proofs.Condition.Expression
import PeriodicalSearch.Resource.Basic

/-! What predicates mean, and that their conditions are true exactly where they hold. Of the tests
nothing is assumed but what SQL says of nulls, so a predicate keeps its meaning whatever a database
makes of texts and days; on the rows of SQLite the tests are comparisons of cells. The condition of
a predicate exists when the table has every field of the predicate. -/

namespace PeriodicalSearch

open Sql

variable {entity : Entity}

namespace Sql

/-- The expression is null where these columns are: the column itself, and what is made of it. -/
def Scalar.IsNull (null : entity.Column → Bool) : Scalar entity → Prop
  | .column named => null named = true
  | .bound _ => False
  | .textOf scalar => scalar.IsNull null
  | .upper scalar => scalar.IsNull null
  | .dayOf scalar => scalar.IsNull null

/-- What SQL says of the tests of a row with these columns null: a test of a null is not true, but
for the one that asks for nulls, and 1 is not 0. -/
structure NullRules (truth : Test entity → Truth) (null : entity.Column → Bool) : Prop where
  relation : ∀ how left right, left.IsNull null → truth (.relation how left right) ≠ some true
  like : ∀ subject pattern, subject.IsNull null → truth (.like subject pattern) ≠ some true
  between : ∀ subject low high, subject.IsNull null → truth (.between subject low high) ≠ some true
  isNull : ∀ column wanted, truth (.isNull (.column column) wanted) = some (null column == wanted)
  never : truth (.relation .equal (.bound (.int 1)) (.bound (.int 0))) ≠ some true

end Sql

namespace Predicate

def holdsUnder (truth : Test entity → Truth) (predicate : Predicate) : Bool :=
  predicate.holds fun field lookup =>
    match entity.column? field with
    | some column => truth (lookup.test column) == some true
    | none => false

theorem isTrue_expression {truth : Test entity → Truth}
    (never : truth (.relation .equal (.bound (.int 1)) (.bound (.int 0))) ≠ some true)
    (predicate : Predicate) :
    (predicate.expression entity).isTrue truth = predicate.holdsUnder truth := by
  have isTrue_never : ConditionGroup.never.expression.isTrue truth = false := by
    rw [ConditionGroup.never, ConditionGroup.expression_single]
    exact beq_eq_false_iff_ne.2 never
  induction predicate with
  | any members each =>
    cases members with
    -- Without alternatives the condition is the one that no row meets, not an empty chain.
    | nil => rw [expression_any_nil, isTrue_never, holdsUnder, holds_any, List.any_nil]
    | cons first others =>
      rw [expression_any_cons, Expression.isTrue_joined_any, List.any_map, holdsUnder, holds_any]
      have whole := congrArg (List.any · id) (List.map_congr_left each)
      rw [List.any_map, List.any_map] at whole
      exact whole
  | all members each =>
    rw [expression_all, Expression.isTrue_joined_all, List.all_map, holdsUnder, holds_all]
    have whole := congrArg (List.all · id) (List.map_congr_left each)
    rw [List.all_map, List.all_map] at whole
    exact whole
  | compare field lookup =>
    rw [holdsUnder, holds_compare]
    cases found : entity.column? field with
    | none =>
      rw [expression, found]
      exact isTrue_never
    | some column =>
      rw [expression_compare found]
      rfl
  | nothing => rw [expression_nothing, isTrue_never, holdsUnder, holds_nothing]

end Predicate

namespace ConditionGroup

end ConditionGroup

namespace Sql

variable (row : Row entity)

theorem Scalar.eval_of_isNull {scalar : Scalar entity}
    (none : scalar.IsNull fun column => row column == .null) :
    scalar.eval row = .cell .null := by
  induction scalar with
  | column named => exact congrArg Content.cell (beq_iff_eq.1 none)
  | bound value => cases none
  | textOf scalar step => rw [eval, step none]; rfl
  | upper scalar step => rw [eval, step none]; rfl
  | dayOf scalar step => rw [eval, step none]; rfl

theorem Relation.eval_of_isNull (how : Relation) {left : Scalar entity} (right : Scalar entity)
    (none : left.IsNull fun column => row column == .null) : how.eval row left right = .none :=
  if_pos (.inl (left.eval_of_isNull row none))

theorem nullRules_eval : NullRules (Test.eval row) fun column => row column == .null where
  relation how left right none := by
    rw [Test.eval, how.eval_of_isNull row right none]
    exact Option.some_ne_none true |>.symm
  like subject pattern none := by
    rw [Test.eval, subject.eval_of_isNull row none]
    exact Option.some_ne_none true |>.symm
  between subject low high none := by
    rw [Test.eval, Relation.eval_of_isNull row _ low none, Relation.eval_of_isNull row _ high none]
    exact Option.some_ne_none true |>.symm
  isNull column wanted := by
    have same : (Content.cell (row column) == .cell .null) = (row column == .null) := by
      cases row column <;> rfl
    rw [Test.eval, Scalar.eval, same]
  never := by
    change some false ≠ some true
    decide

end Sql

def Predicate.holdsOn (row : Row entity) (predicate : Predicate) : Bool :=
  predicate.holds fun field lookup =>
    match entity.column? field with
    | some column => lookup.accepts (row column)
    | none => false

theorem Predicate.holdsOn_any (row : Row entity) (members : List Predicate) :
    (any members).holdsOn row = members.any (holdsOn row) := by
  rw [holdsOn, holds_any]
  rfl

theorem Predicate.holdsOn_all (row : Row entity) (members : List Predicate) :
    (all members).holdsOn row = members.all (holdsOn row) := by
  rw [holdsOn, holds_all]
  rfl

theorem Predicate.holdsOn_compare {row : Row entity} {field : String} {column : entity.Column}
    (named : entity.column? field = some column) (lookup : Lookup) :
    (compare field lookup).holdsOn row = lookup.accepts (row column) := by
  rw [holdsOn, holds_compare, named]

theorem Predicate.holdsOn_nothing {row : Row entity} : nothing.holdsOn row = false := by
  rw [holdsOn, holds_nothing]

theorem Predicate.keeps_expression (row : Row entity) (predicate : Predicate) :
    (predicate.expression entity).keeps row = predicate.holdsOn row := by
  rw [Expression.keeps, ← Expression.isTrue, isTrue_expression (nullRules_eval row).never,
    holdsUnder, holdsOn]
  congr 1
  funext field lookup
  cases entity.column? field with
  | none => rfl
  | some column => exact lookup.test_eval_eq_true column

theorem ConditionGroup.ofPredicate_of_known {predicate : Predicate}
    (known : ∀ field ∈ predicate.fields, entity.Knows field) :
    ∃ group, ofPredicate entity predicate = .ok group ∧
      ∀ row, group.expression.keeps row = predicate.holdsOn row := by
  obtain ⟨group, made, same⟩ := exists_ofPredicate known
  exact ⟨group, made, fun row => by rw [same, Predicate.keeps_expression]⟩

end PeriodicalSearch
