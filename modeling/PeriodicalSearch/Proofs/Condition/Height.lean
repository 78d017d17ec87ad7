import PeriodicalSearch.Proofs.Condition.Meaning

/-! The height of the condition that a union of comparisons becomes. Its comparisons are one below
the other, and each adds one. -/

namespace PeriodicalSearch

open Sql

variable {entity : Entity}

def Predicate.IsLeaf : Predicate → Prop
  | .any _ => False
  | .all _ => False
  | .compare _ _ => True
  | .nothing => True

namespace Lookup

def maxTestHeight : Nat := 5

theorem height_test_contains (text : String) (column : entity.Column) :
    ((contains text).test column).height = maxTestHeight := rfl

theorem height_test_le (lookup : Lookup) (column : entity.Column) :
    (lookup.test column).height ≤ maxTestHeight := by
  cases lookup with
  | within range => cases range <;> exact Nat.le_of_ble_eq_true rfl
  | _ => exact Nat.le_of_ble_eq_true rfl

end Lookup

theorem ConditionGroup.height_never :
    (never : ConditionGroup entity).expression.height ≤ Lookup.maxTestHeight :=
  Nat.le_of_ble_eq_true rfl

theorem Predicate.height_expression_le {predicate : Predicate} (leaf : predicate.IsLeaf) :
    (predicate.expression entity).height ≤ Lookup.maxTestHeight := by
  cases predicate with
  | any members => cases leaf
  | all members => cases leaf
  | compare field lookup =>
    rw [expression]
    cases entity.column? field with
    | none => exact ConditionGroup.height_never
    | some column => exact lookup.height_test_le column
  | nothing =>
    rw [expression]
    exact ConditionGroup.height_never

theorem Predicate.height_expression_any_le {first : Predicate} {others : List Predicate}
    (leaves : ∀ predicate ∈ first :: others, predicate.IsLeaf) :
    ((any (first :: others)).expression entity).height ≤
      Lookup.maxTestHeight + others.length := by
  rw [expression_any_cons, ← List.length_map (expression entity)]
  refine Expression.height_joined_le _ _ fun member found => ?_
  rw [← List.map_cons] at found
  obtain ⟨predicate, listed, rfl⟩ := List.mem_map.1 found
  exact height_expression_le (leaves predicate listed)

theorem Predicate.height_expression_exact_le (field : String) (operand : Operand) :
    ((compare field (.exact operand)).expression entity).height ≤ 3 := by
  rw [expression]
  cases entity.column? field <;> exact Nat.le_of_ble_eq_true rfl

namespace ConditionGroup

section

variable {first : Predicate} {others : List Predicate} {group : ConditionGroup entity}
  (made : ofPredicate entity (.any (first :: others)) = .ok group)
include made

theorem height_any_le (leaves : ∀ predicate ∈ first :: others, predicate.IsLeaf) :
    group.expression.height ≤ Lookup.maxTestHeight + others.length := by
  rw [expression_of_ofPredicate made]
  exact Predicate.height_expression_any_le leaves

theorem height_any_ge {field text : String} {column : entity.Column}
    (contained : first = .compare field (.contains text))
    (found : entity.column? field = some column) :
    Lookup.maxTestHeight + others.length ≤ group.expression.height := by
  rw [expression_of_ofPredicate made, Predicate.expression_any_cons, List.map_cons, contained,
    Predicate.expression_compare found, ← List.length_map (Predicate.expression entity),
    ← Lookup.height_test_contains text column]
  exact Expression.height_joined_ge (.test ((Lookup.contains text).test column)) _

end

end ConditionGroup

end PeriodicalSearch
