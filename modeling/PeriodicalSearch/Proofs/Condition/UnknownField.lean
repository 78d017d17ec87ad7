import PeriodicalSearch.Proofs.Condition.Meaning
import PeriodicalSearch.Proofs.Search.Fragments

/-! Searches for fields that a table lacks. One such field anywhere in the predicate empties the
whole result; what the rest of the predicate would match does not count. -/

namespace PeriodicalSearch

variable {entity : Entity}

namespace ConditionGroup

theorem ofPredicate_eq_error_iff {predicate : Predicate} {failure : SearchFailure} :
    ofPredicate entity predicate = .error failure ↔ ∃ before field after,
      predicate.fields = before ++ field :: after ∧ (∀ known ∈ before, entity.Knows known) ∧
        ¬entity.Knows field ∧ failure = .unknownField field := by
  rw [(reportsFirst_ofPredicate predicate).eq_error_iff, List.findSome?_eq_some_iff]
  simp only [Entity.fault?_eq_some, Entity.fault?_eq_none]
  refine exists_congr fun before => exists_congr fun field => exists_congr fun after => ?_
  refine and_congr_right fun _ => ?_
  rw [and_comm]

theorem exists_ofPredicate_eq_error {predicate : Predicate}
    (unknown : ¬∀ field ∈ predicate.fields, entity.Knows field) :
    ∃ field, ofPredicate entity predicate = .error (.unknownField field) := by
  cases found : predicate.fields.findSome? entity.fault? with
  | none =>
    rw [List.findSome?_eq_none_iff] at found
    exact absurd (fun field member => Entity.fault?_eq_none.1 (found field member)) unknown
  | some failure =>
    have failed := (reportsFirst_ofPredicate predicate).fails failure found
    obtain ⟨-, field, -, -, -, -, same⟩ := ofPredicate_eq_error_iff.1 failed
    exact ⟨field, same ▸ failed⟩

end ConditionGroup

namespace SearchProfile

variable {profile : SearchProfile}

theorem searchPredicate?_ne_unknownField (profile : SearchProfile) (search field : String) :
    profile.searchPredicate? search ≠ .error (.unknownField field) := by
  rw [searchPredicate?]
  intro failed
  cases parsed : Query.parse search with
  | error fault =>
    rw [parsed] at failed
    cases failed
  | ok query =>
    rw [parsed] at failed
    have found := (reportsFirst_predicate? query).eq_error_iff.1 failed
    obtain ⟨item, -, failed⟩ := List.exists_of_findSome?_eq_some found
    obtain ⟨reason, same⟩ := itemFailure?_eq_transformer failed
    cases same

theorem closedCondition_of_known {predicate : Predicate} {group : ConditionGroup entity}
    (made : ConditionGroup.ofPredicate entity predicate = .ok group) :
    closedCondition entity predicate = .ok group := by
  rw [closedCondition, made]

theorem closedCondition_of_unknown {predicate : Predicate}
    (unknown : ¬∀ field ∈ predicate.fields, entity.Knows field) :
    closedCondition entity predicate = .ok .never := by
  obtain ⟨field, failed⟩ := ConditionGroup.exists_ofPredicate_eq_error unknown
  rw [closedCondition, failed]

theorem exists_closedCondition (entity : Entity) (predicate : Predicate) :
    ∃ group, closedCondition entity predicate = .ok group := by
  by_cases known : ∀ field ∈ predicate.fields, entity.Knows field
  · obtain ⟨group, made, -⟩ := ConditionGroup.ofPredicate_of_known known
    exact ⟨group, closedCondition_of_known made⟩
  · exact ⟨.never, closedCondition_of_unknown known⟩

theorem condition?_of_predicate {search : String} {predicate : Predicate}
    (compiled : profile.searchPredicate? search = .ok (some predicate)) :
    profile.condition? entity search = (closedCondition entity predicate).map some := by
  rw [condition?, compiled]
  rfl

theorem condition?_ne_unknownField (search field : String) :
    profile.condition? entity search ≠ .error (.unknownField field) := by
  cases compiled : profile.searchPredicate? search with
  | error failure =>
    have other := searchPredicate?_ne_unknownField profile search field
    rw [compiled] at other
    rw [condition?, compiled]
    intro failed
    injection failed with same
    exact other (congrArg Except.error same)
  | ok found =>
    cases found with
    | none =>
      rw [condition?, compiled]
      exact fun none => nomatch none
    | some predicate =>
      obtain ⟨group, closed⟩ := exists_closedCondition entity predicate
      rw [condition?_of_predicate compiled, closed]
      exact fun none => nomatch none

/-- A search never fails for an unknown field. Its condition is that of its predicate when the
table has every field of the predicate, and is met by no row otherwise. The predicate alone fails
in the second case only, at its first field that the table lacks. -/
theorem condition?_closed_to_unknown_fields (profile : SearchProfile) (entity : Entity)
    (search : String) :
    (∀ field, profile.condition? entity search ≠ .error (.unknownField field)) ∧
    ∀ predicate, profile.searchPredicate? search = .ok (some predicate) →
      ((∀ field ∈ predicate.fields, entity.Knows field) →
        ∃ group, ConditionGroup.ofPredicate entity predicate = .ok group ∧
          profile.condition? entity search = .ok (some group)) ∧
      ((∃ field ∈ predicate.fields, ¬entity.Knows field) →
        profile.condition? entity search = .ok (some .never)) ∧
      ∀ failure, ConditionGroup.ofPredicate entity predicate = .error failure ↔
        ∃ before field after, predicate.fields = before ++ field :: after ∧
          (∀ known ∈ before, entity.Knows known) ∧ ¬entity.Knows field ∧
            failure = .unknownField field := by
  refine ⟨condition?_ne_unknownField search, fun predicate compiled => ⟨?_, ?_, ?_⟩⟩
  · intro known
    obtain ⟨group, made, -⟩ := ConditionGroup.ofPredicate_of_known known
    refine ⟨group, made, ?_⟩
    rw [condition?_of_predicate compiled, closedCondition_of_known made]
    rfl
  · intro unknown
    obtain ⟨field, member, unknown⟩ := unknown
    rw [condition?_of_predicate compiled,
      closedCondition_of_unknown fun known => unknown (known field member)]
    rfl
  · intro failure
    exact ConditionGroup.ofPredicate_eq_error_iff

/-- A field that is misspelt empties a search of the issues, whatever the term in it would find; in
its other spelling the field is known. -/
theorem condition?_of_misspelt_field :
    (ofFields ["volume_num"]).condition? Resource.issues.entity "3 volumeNumber=3" =
      .ok (some .never) ∧
    ∃ group, (ofFields ["volume_num"]).condition? Resource.issues.entity "3 volumeNum=3" =
      .ok (some group) := by
  constructor
  · have compiled : (ofFields ["volume_num"]).searchPredicate? "3 volumeNumber=3" = .ok (some (.any
        [.compare "volume_num" (.contains "3"), .compare "volumeNumber" (.equals "3")])) := by cbv
    have closed := condition?_closed_to_unknown_fields (ofFields ["volume_num"])
      Resource.issues.entity "3 volumeNumber=3"
    exact (closed.2 _ compiled).2.1 ⟨"volumeNumber", by decide, by decide +kernel⟩
  · have compiled : (ofFields ["volume_num"]).searchPredicate? "3 volumeNum=3" = .ok (some (.any
        [.compare "volume_num" (.contains "3"), .compare "volumeNum" (.equals "3")])) := by cbv
    have closed := condition?_closed_to_unknown_fields (ofFields ["volume_num"])
      Resource.issues.entity "3 volumeNum=3"
    obtain ⟨group, -, conditioned⟩ := (closed.2 _ compiled).1 (by decide +kernel)
    exact ⟨group, conditioned⟩

end SearchProfile

end PeriodicalSearch
