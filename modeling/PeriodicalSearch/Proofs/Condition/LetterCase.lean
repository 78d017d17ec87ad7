import PeriodicalSearch.Proofs.Sql.Containment
import PeriodicalSearch.Search.Filter

/-! Predicates that become the same condition, whatever the table. Comparisons with texts do so if
the texts differ in the case of ASCII letters only, since both are compared in capitals. -/

namespace PeriodicalSearch

open Text (SameLetters)

/-- The predicates become the same condition on the rows of every table, or fail alike. -/
def Predicate.Alike (one other : Predicate) : Prop :=
  ∀ entity, ConditionGroup.ofPredicate entity one = ConditionGroup.ofPredicate entity other

namespace Predicate

theorem Alike.refl (predicate : Predicate) : Alike predicate predicate := fun _ => rfl

theorem membersOf_congr (entity : Entity) {members others : List Predicate}
    (pairs : List.Forall₂ Alike members others) :
    ConditionGroup.membersOf entity members = ConditionGroup.membersOf entity others := by
  induction pairs with
  | nil => rfl
  | cons first rest step =>
    rw [ConditionGroup.membersOf, ConditionGroup.membersOf, first entity, step]

theorem Alike.any {members others : List Predicate} (pairs : List.Forall₂ Alike members others) :
    Alike (.any members) (.any others) := by
  intro entity
  cases pairs with
  | nil => rfl
  | cons first rest =>
    rw [ConditionGroup.ofPredicate, ConditionGroup.ofPredicate,
      membersOf_congr entity (.cons first rest)]

end Predicate

namespace Lookup

variable {one other : String} (same : SameLetters one.toList other.toList)
include same

theorem containsPattern_congr : containsPattern one = containsPattern other := by
  rw [containsPattern, containsPattern, capitals_escapeWildcards, capitals_escapeWildcards,
    same.capitals_eq]

theorem test_textLookup_congr {entity : Entity} (column : entity.Column) (comparison : Comparison) :
    (SearchProfile.textLookup comparison one).test column =
      (SearchProfile.textLookup comparison other).test column := by
  cases comparison with
  | contains =>
    rw [SearchProfile.textLookup, test, containsPattern_congr same]
    rfl
  | equals =>
    rw [SearchProfile.textLookup, test, Text.upperCase, same.capitals_eq]
    rfl

theorem alike_textLookup (field : String) (comparison : Comparison) :
    Predicate.Alike (.compare field (SearchProfile.textLookup comparison one))
      (.compare field (SearchProfile.textLookup comparison other)) := by
  intro entity
  rw [ConditionGroup.ofPredicate, ConditionGroup.ofPredicate]
  cases entity.column? field with
  | none => rfl
  | some column => simp only [test_textLookup_congr same column comparison]

end Lookup

end PeriodicalSearch
