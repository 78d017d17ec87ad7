import PeriodicalSearch.Proofs.Api.Lists
import PeriodicalSearch.Proofs.Condition.Height
import PeriodicalSearch.Proofs.Search.Parts
import PeriodicalSearch.Proofs.Search.Totality
import PeriodicalSearch.Proofs.Sql.PatternSize

/-! Which records of a table a predicate selects. The condition of a single comparison is never too
high, so the comparison selects exactly the records of whose cells it holds, unless it has a pattern
that is too long for the database. -/

namespace PeriodicalSearch

namespace Predicate

theorem forall_fields_union? {members : List Predicate} {property : String → Prop}
    (each : ∀ member ∈ members, ∀ field ∈ member.fields, property field) :
    ∀ predicate ∈ union? members, ∀ field ∈ predicate.fields, property field := by
  intro predicate found
  cases members with
  | nil => cases found
  | cons first others =>
    cases found
    rw [fields_any]
    exact List.forall_mem_flatMap.2 each

theorem all_holdsOn_union? {entity : Entity} (row : Sql.Row entity) (members : List Predicate) :
    (union? members).all (holdsOn row) =
      (members.isEmpty || members.any (holdsOn row)) := by
  cases members with
  | nil => rfl
  | cons first others => exact holdsOn_any row (first :: others)

end Predicate

namespace Store

variable {resource : Resource}

def Selects (store : Store) (predicate : Predicate) (record : Record resource) : Prop :=
  ∃ group rows, ConditionGroup.ofPredicate resource.entity predicate = .ok group ∧
    store.select? ⟨some group.expression, none⟩ = some rows ∧ record ∈ rows

theorem select?_unsorted {store : Store} {records : List (Record resource)}
    (table : store.table resource = some records) (condition : Option (Sql.Expression resource)) :
    store.select? ⟨condition, none⟩ =
      if isEvaluable condition records then some (records.filter (isSelected condition))
        else none := by
  rw [select?, table]
  rfl

theorem isEvaluable_test_iff {records : List (Record resource)} (filled : records ≠ [])
    (column : resource.entity.Column) (lookup : Lookup) :
    isEvaluable (some (.test (lookup.test column))) records = true ↔ lookup.IsTaken := by
  have low : (Sql.Expression.test (lookup.test column)).height ≤ Sql.maxHeight :=
    Nat.le_trans (lookup.height_test_le column) (by decide)
  change (decide _ && records.all fun record => (lookup.test column).completes record.cell) = true ↔ _
  rw [decide_eq_true low, Bool.true_and, List.all_eq_true]
  simp only [lookup.completes_test_iff]
  -- A pattern is too long on every row or on none, so one record tells of all.
  obtain ⟨record, member⟩ := List.exists_mem_of_ne_nil records filled
  exact ⟨fun each => each record member, fun taken _ _ => taken⟩

theorem selects_compare_iff {store : Store} {records : List (Record resource)}
    (table : store.table resource = some records) {record : Record resource}
    (member : record ∈ records) {field : String} {column : resource.entity.Column}
    (named : resource.entity.column? field = some column) (lookup : Lookup) :
    store.Selects (.compare field lookup) record ↔
      lookup.IsTaken ∧ lookup.accepts (record.cell column) = true := by
  have made : ConditionGroup.ofPredicate resource.entity (.compare field lookup) =
      .ok (.single (lookup.test column)) := by
    rw [ConditionGroup.ofPredicate, named]
  have evaluable := isEvaluable_test_iff (List.ne_nil_of_mem member) column lookup
  have rows := select?_unsorted table (some (.test (lookup.test column)))
  have kept : isSelected (some (Sql.Expression.test (lookup.test column))) record =
      lookup.accepts (record.cell column) :=
    lookup.test_eval_eq_true column
  rw [← kept, ← evaluable]
  constructor
  · rintro ⟨group, found, same, selected, among⟩
    cases made.symm.trans same
    rw [ConditionGroup.expression_single, rows] at selected
    split at selected
    next taken =>
      cases selected
      exact ⟨taken, (List.mem_filter.1 among).2⟩
    next => cases selected
  · rintro ⟨taken, keeps⟩
    refine ⟨_, _, made, ?_, List.mem_filter.2 ⟨member, keeps⟩⟩
    rw [ConditionGroup.expression_single, rows, if_pos taken]

/-- A search selects the records on which its predicate holds; without one it selects every
record. -/
theorem isSelected_of_conditions {found : Option Predicate}
    {condition : Option (ConditionGroup resource)}
    (conditions : SearchProfile.Conditions resource.entity found condition)
    (known : ∀ predicate ∈ found, ∀ field ∈ predicate.fields, resource.entity.Knows field)
    (record : Record resource) :
    isSelected (condition.map ConditionGroup.expression) record =
      found.all (Predicate.holdsOn record.cell) := by
  cases conditions with
  | unrestricted => rfl
  | @known predicate group made =>
    change group.expression.keeps record.cell = predicate.holdsOn record.cell
    rw [ConditionGroup.expression_of_ofPredicate made, Predicate.keeps_expression]
  | unknown lacks => exact absurd (known _ rfl) lacks

end Store

end PeriodicalSearch
