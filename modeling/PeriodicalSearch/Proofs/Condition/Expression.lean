import PeriodicalSearch.Condition
import PeriodicalSearch.Proofs.FirstFailure
import PeriodicalSearch.Proofs.Predicate.Truth

/-! The expression that a predicate becomes. The way there, through groups that may be replaced by
their only member, leaves the expression as it would be without groups. It is there when the table
has every field of the predicate, and otherwise the first field that it lacks is reported. -/

namespace PeriodicalSearch

open Sql

variable {entity : Entity}

namespace Entity

def Knows (entity : Entity) (field : String) : Prop :=
  ∃ column ∈ entity.columns, field = column.name ∨ field = column.camelName

instance (field : String) : Decidable (entity.Knows field) :=
  inferInstanceAs (Decidable (∃ column ∈ entity.columns, _))

theorem column?_eq_none {field : String} : entity.column? field = none ↔ ¬entity.Knows field := by
  rw [column?, List.find?_eq_none, Knows]
  simp only [Bool.or_eq_true, beq_iff_eq, not_exists, not_and]

theorem knows_of_column? {field : String} {column : entity.Column}
    (found : entity.column? field = some column) : entity.Knows field := by
  refine Decidable.byContradiction fun unknown => ?_
  rw [column?_eq_none.2 unknown] at found
  cases found

def fault? (entity : Entity) (field : String) : Option SearchFailure :=
  match entity.column? field with
  | some _ => none
  | none => some (.unknownField field)

theorem fault?_eq_none {field : String} : entity.fault? field = none ↔ entity.Knows field := by
  rw [← not_iff_not (b := entity.Knows field), ← column?_eq_none, fault?]
  cases entity.column? field with
  | none => exact iff_of_true (fun known => nomatch known) rfl
  | some column => exact iff_of_false (fun unknown => unknown rfl) (fun none => nomatch none)

theorem fault?_eq_some {field : String} {fault : SearchFailure} :
    entity.fault? field = some fault ↔ ¬entity.Knows field ∧ fault = .unknownField field := by
  rw [← column?_eq_none, fault?]
  cases entity.column? field with
  | none => exact ⟨fun found => ⟨rfl, (Option.some.inj found).symm⟩, fun found => by rw [found.2]⟩
  | some column => exact iff_of_false (fun none => nomatch none) (fun none => nomatch none.1)

end Entity

namespace Predicate

mutual

/-- The predicate as an expression. A comparison of a field that the table lacks is one that no row
meets here. -/
def expression (entity : Entity) : Predicate → Expression entity
  | .any [] => ConditionGroup.never.expression
  | .any (first :: others) => .joined .any (expressionsOf entity (first :: others))
  | .all members => .joined .all (expressionsOf entity members)
  | .compare field lookup =>
    match entity.column? field with
    | some column => .test (lookup.test column)
    | none => ConditionGroup.never.expression
  | .nothing => ConditionGroup.never.expression

def expressionsOf (entity : Entity) : List Predicate → List (Expression entity)
  | [] => []
  | first :: others => first.expression entity :: expressionsOf entity others

end

theorem expressionsOf_eq (members : List Predicate) :
    expressionsOf entity members = members.map (expression entity) := by
  induction members with
  | nil => rfl
  | cons first others step => rw [expressionsOf, step, List.map_cons]

@[simp] theorem expression_any_nil :
    (any []).expression entity = ConditionGroup.never.expression := by
  rw [expression]

@[simp] theorem expression_any_cons (first : Predicate) (others : List Predicate) :
    (any (first :: others)).expression entity =
      .joined .any ((first :: others).map (expression entity)) := by
  rw [expression, expressionsOf_eq]

@[simp] theorem expression_all (members : List Predicate) :
    (all members).expression entity = .joined .all (members.map (expression entity)) := by
  rw [expression, expressionsOf_eq]

theorem expression_compare {field : String} {column : entity.Column}
    (found : entity.column? field = some column) (lookup : Lookup) :
    (compare field lookup).expression entity = .test (lookup.test column) := by
  rw [expression, found]

@[simp] theorem expression_nothing :
    nothing.expression entity = ConditionGroup.never.expression := by
  rw [expression]

end Predicate

namespace ConditionGroup

theorem expression_asMember (group : ConditionGroup entity) :
    group.asMember.expression = group.expression := by
  obtain ⟨connective, members⟩ := group
  match members with
  | [] => rw [asMember, expression, Condition.expression]
  | [member] =>
    rw [asMember, expression, Condition.expressions, Condition.expressions]
    rfl
  | first :: second :: others => rw [asMember, expression, Condition.expression]

theorem expression_single (test : Test entity) : (single test).expression = .test test := by
  rw [single, expression, Condition.expressions, Condition.expressions, Condition.expression]
  rfl

theorem reportsFirst_membersOf {predicates : List Predicate}
    (each : ∀ predicate ∈ predicates, ReportsFirst entity.fault? predicate.fields
      (ofPredicate entity predicate) fun group => group.expression = predicate.expression entity) :
    ReportsFirst entity.fault? (predicates.flatMap Predicate.fields) (membersOf entity predicates)
      fun members =>
        Condition.expressions members = predicates.map (Predicate.expression entity) := by
  induction predicates with
  | nil =>
    rw [membersOf]
    exact .ok (by rw [Condition.expressions]; rfl)
  | cons predicate predicates step =>
    rw [membersOf, List.flatMap_cons]
    have later := step fun other found => each other (List.mem_cons_of_mem _ found)
    refine (each predicate List.mem_cons_self).bind fun group same => later.map ?_
    intro members others
    rw [Condition.expressions, expression_asMember, List.map_cons, same, others]

theorem reportsFirst_ofPredicate (predicate : Predicate) :
    ReportsFirst entity.fault? predicate.fields (ofPredicate entity predicate) fun group =>
      group.expression = predicate.expression entity := by
  induction predicate with
  | any members each =>
    rw [Predicate.fields_any]
    cases members with
    | nil =>
      -- An empty group of alternatives becomes the condition that no row meets, not an empty group.
      rw [ofPredicate]
      exact .ok Predicate.expression_any_nil.symm
    | cons first others =>
      rw [ofPredicate, Predicate.expression_any_cons]
      refine (reportsFirst_membersOf each).map fun members same => ?_
      rw [expression, same]
  | all members each =>
    rw [Predicate.fields_all, ofPredicate, Predicate.expression_all]
    refine (reportsFirst_membersOf each).map fun members same => ?_
    rw [expression, same]
  | compare field lookup =>
    rw [Predicate.fields_compare, ofPredicate]
    cases found : entity.column? field with
    | none =>
      have fault : entity.fault? field = some (.unknownField field) := by rw [Entity.fault?, found]
      constructor
      · intro none
        rw [List.findSome?_cons, fault] at none
        cases none
      · intro reported first
        rw [List.findSome?_cons, fault] at first
        rw [Option.some.inj first]
    | some column =>
      have known : entity.fault? field = none := by rw [Entity.fault?, found]
      constructor
      · intro _
        refine ⟨_, rfl, ?_⟩
        rw [expression_single, Predicate.expression_compare found]
      · intro reported first
        rw [List.findSome?_cons, known] at first
        cases first
  | nothing =>
    rw [Predicate.fields_nothing, ofPredicate]
    exact .ok Predicate.expression_nothing.symm

theorem exists_ofPredicate {predicate : Predicate}
    (known : ∀ field ∈ predicate.fields, entity.Knows field) :
    ∃ group, ofPredicate entity predicate = .ok group ∧
      group.expression = predicate.expression entity :=
  (reportsFirst_ofPredicate predicate).succeeds
    (List.findSome?_eq_none_iff.2 fun field found => Entity.fault?_eq_none.2 (known field found))

theorem expression_of_ofPredicate {predicate : Predicate} {group : ConditionGroup entity}
    (made : ofPredicate entity predicate = .ok group) :
    group.expression = predicate.expression entity :=
  ((reportsFirst_ofPredicate predicate).of_eq_ok made).2

end ConditionGroup

end PeriodicalSearch
