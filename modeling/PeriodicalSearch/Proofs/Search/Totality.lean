import PeriodicalSearch.Proofs.Condition.UnknownField
import PeriodicalSearch.Proofs.Search.Transformers
import PeriodicalSearch.Resource.Settings

/-! Transformers that make a predicate of every text, as those of the collections do. Under them a
search fails only where it cannot be read. -/

namespace PeriodicalSearch

def Transformer.NeverFails : Transformer → Prop
  | .column _ => True
  | .function transform => ∀ text, ∃ predicate, transform text = .ok predicate

theorem Transformer.neverFails_column (name : String) : (column name).NeverFails := trivial

theorem Transformer.neverFails_ok (made : String → Predicate) :
    (function fun text => .ok (made text)).NeverFails :=
  fun text => ⟨made text, rfl⟩

namespace SearchProfile

structure NeverFails (profile : SearchProfile) : Prop where
  term : ∀ transformer ∈ profile.termTransformer, transformer.NeverFails
  field : ∀ entry ∈ profile.transformers, entry.2.NeverFails

variable {profile : SearchProfile}

theorem neverFails_iff_every : profile.NeverFails ↔ profile.Every Transformer.NeverFails :=
  ⟨fun never => ⟨never.term, never.field⟩, fun every => ⟨every.term, every.field⟩⟩

variable (never : profile.NeverFails)
include never

theorem itemFailure?_eq_none (item : Query.Item Date) : profile.itemFailure? item = none := by
  cases item with
  | term text =>
    cases transformed : profile.termTransformer with
    | none =>
      rw [itemFailure?, itemPredicates, termPredicates, transformed]
      rfl
    | some transformer =>
      rw [itemFailure?_of_single (itemPredicates_term_of_transformer transformed text)]
      cases transformer with
      | column name => rfl
      | function transform =>
        obtain ⟨predicate, made⟩ := never.term _ transformed text
        rw [transformTerm, made]
        rfl
  | filter field value =>
    rw [itemFailure?_of_single rfl]
    cases value with
    | range range => rfl
    | text comparison value =>
      rw [filterPredicate]
      split
      next transform transformed =>
        obtain ⟨predicate, made⟩ :=
          (neverFails_iff_every.1 never).of_transformer? transformed value
        rw [made]
        rfl
      next => rfl

/-- An accepted search has a predicate, if it restricts anything. -/
theorem exists_predicate? (query : Query) : ∃ found, profile.predicate? query = .ok found := by
  have none : query.items.findSome? profile.itemFailure? = none :=
    List.findSome?_eq_none_iff.2 fun item _ => itemFailure?_eq_none never item
  obtain ⟨found, made, -⟩ := (reportsFirst_predicate? query).succeeds none
  exact ⟨found, made⟩

theorem condition?_eq_error_iff {entity : Entity} {search : String} {failure : SearchFailure} :
    profile.condition? entity search = .error failure ↔ ∃ fault,
      Query.parse search = .error fault ∧ failure = .rejected (.ofFault search fault) := by
  cases parsed : Query.parse search with
  | error fault =>
    have refused :
        profile.condition? entity search = .error (.rejected (.ofFault search fault)) := by
      rw [condition?, searchPredicate?, parsed]
      rfl
    rw [refused]
    constructor
    · rintro ⟨⟩
      exact ⟨fault, rfl, rfl⟩
    · rintro ⟨other, ⟨⟩, rfl⟩
      rfl
  | ok query =>
    obtain ⟨found, made⟩ := exists_predicate? never query
    have compiled : profile.searchPredicate? search = .ok found := by
      rw [searchPredicate?_of_parse parsed, made]
    constructor
    · intro failed
      cases found with
      | none =>
        rw [condition?, compiled] at failed
        cases failed
      | some predicate =>
        obtain ⟨group, closed⟩ := exists_closedCondition entity predicate
        rw [condition?_of_predicate compiled, closed] at failed
        cases failed
    · rintro ⟨fault, refused, -⟩
      cases refused

/-- The condition that a search gets for its predicate: none without one, and one that no row meets
if the table lacks a field of the predicate. -/
inductive Conditions (entity : Entity) :
    Option Predicate → Option (ConditionGroup entity) → Prop
  | unrestricted : Conditions entity none none
  | known {predicate : Predicate} {group : ConditionGroup entity}
      (made : ConditionGroup.ofPredicate entity predicate = .ok group) :
      Conditions entity (some predicate) (some group)
  | unknown {predicate : Predicate} (lacks : ¬∀ field ∈ predicate.fields, entity.Knows field) :
      Conditions entity (some predicate) (some .never)

theorem exists_condition? (entity : Entity) {search : String} {query : Query}
    (accepted : Query.parse search = .ok query) :
    ∃ found condition, profile.predicate? query = .ok found ∧
      profile.condition? entity search = .ok condition ∧ Conditions entity found condition := by
  obtain ⟨found, made⟩ := exists_predicate? never query
  have compiled : profile.searchPredicate? search = .ok found := by
    rw [searchPredicate?_of_parse accepted, made]
  cases found with
  | none =>
    refine ⟨none, none, made, ?_, .unrestricted⟩
    rw [condition?, compiled]
    rfl
  | some predicate =>
    by_cases known : ∀ field ∈ predicate.fields, entity.Knows field
    · obtain ⟨group, conditioned, -⟩ := ConditionGroup.ofPredicate_of_known known
      refine ⟨some predicate, some group, made, ?_, .known conditioned⟩
      rw [condition?_of_predicate compiled, closedCondition_of_known conditioned]
      rfl
    · refine ⟨some predicate, some .never, made, ?_, .unknown known⟩
      rw [condition?_of_predicate compiled, closedCondition_of_unknown known]
      rfl

end SearchProfile

open Transformer in
theorem Resource.neverFails (resource : Resource) : resource.searchProfile.NeverFails :=
  SearchProfile.neverFails_iff_every.2
    (resource.every_of_makes neverFails_column fun made _ => neverFails_ok made)

end PeriodicalSearch
