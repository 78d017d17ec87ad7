import PeriodicalSearch.Proofs.Condition.Expression
import PeriodicalSearch.Proofs.Sql.Erasure

/-! The comparisons of a predicate, with and without what they compare with. The expression of a
predicate has the fragments of its comparisons in their order, and what they compare with is all
that bound values can differ in. -/

namespace PeriodicalSearch

open Sql

variable {entity : Entity}

namespace Lookup

def erasedDay : Date := ⟨0, 1, 1, by decide⟩

def erased : Lookup → Lookup
  | .contains _ => .contains ""
  | .equals _ => .equals ""
  | .exact _ => .exact (.boolean false)
  | .isNull null => .isNull null
  | .within (.upTo _) => .within (.upTo erasedDay)
  | .within (.since _) => .within (.since erasedDay)
  | .within (.between _ _) => .within (.between erasedDay erasedDay)

/-- The values that a comparison binds: none for a null, the first day before the last. -/
def boundValues : Lookup → List Value
  | .contains text => [.string (containsPattern text)]
  | .equals text => [.string (Text.upperCase text)]
  | .exact operand => [operandValue operand]
  | .isNull _ => []
  | .within (.upTo last) => [.date last]
  | .within (.since first) => [.date first]
  | .within (.between first last) => [.date first, .date last]

theorem erased_test_erased (lookup : Lookup) (column : entity.Column) :
    (lookup.erased.test column).erased = (lookup.test column).erased := by
  cases lookup with
  | within range =>
    cases range <;> simp only [erased, test, rangeTest, Test.erased, Scalar.erased]
  | _ => simp only [erased, test, Test.erased, Scalar.erased]

theorem values_test (lookup : Lookup) (column : entity.Column) (dialect : Dialect) :
    Fragment.values ((lookup.test column).fragments dialect) = lookup.boundValues := by
  cases lookup with
  | within range => cases range <;> rfl
  | _ => rfl

end Lookup

namespace Predicate

mutual

def erased : Predicate → Predicate
  | .any members => .any (erasedOf members)
  | .all members => .all (erasedOf members)
  | .compare field lookup => .compare field lookup.erased
  | .nothing => .nothing

def erasedOf : List Predicate → List Predicate
  | [] => []
  | first :: others => first.erased :: erasedOf others

end

theorem erasedOf_eq (members : List Predicate) : erasedOf members = members.map erased := by
  induction members with
  | nil => rfl
  | cons first others step => rw [erasedOf, step, List.map_cons]

@[simp] theorem erased_any (members : List Predicate) :
    (any members).erased = any (members.map erased) := by
  rw [erased, erasedOf_eq]

@[simp] theorem erased_all (members : List Predicate) :
    (all members).erased = all (members.map erased) := by
  rw [erased, erasedOf_eq]

theorem fields_erased (predicate : Predicate) : predicate.erased.fields = predicate.fields := by
  induction predicate with
  | any members each => simp [List.flatMap_map, List.flatMap_congr each]
  | all members each => simp [List.flatMap_map, List.flatMap_congr each]
  | compare field lookup => simp [erased]
  | nothing => rfl

theorem erased_expression_erased (predicate : Predicate) :
    (predicate.erased.expression entity).erased = (predicate.expression entity).erased := by
  induction predicate with
  | any members each =>
    cases members with
    | nil => simp
    | cons first others =>
      rw [erased_any, List.map_cons, expression_any_cons, expression_any_cons, ← List.map_cons]
      simp only [Expression.erased_joined, List.map_map]
      exact congrArg _ (List.map_congr_left each)
  | all members each =>
    simp only [erased_all, expression_all, Expression.erased_joined, List.map_map]
    exact congrArg _ (List.map_congr_left each)
  | compare field lookup =>
    rw [erased, expression, expression]
    cases entity.column? field with
    | none => rfl
    | some column => exact congrArg Expression.test (lookup.erased_test_erased column)
  | nothing => rfl

mutual

/-- The comparisons of a predicate, and what in it matches nothing, from the left and into each
group. -/
def leaves : Predicate → List Predicate
  | .any [] => [.nothing]
  | .any (first :: others) => leavesOf (first :: others)
  | .all members => leavesOf members
  | .compare field lookup => [.compare field lookup]
  | .nothing => [.nothing]

def leavesOf : List Predicate → List Predicate
  | [] => []
  | first :: others => first.leaves ++ leavesOf others

end

theorem leavesOf_eq (members : List Predicate) : leavesOf members = members.flatMap leaves := by
  induction members with
  | nil => rfl
  | cons first others step => rw [leavesOf, step, List.flatMap_cons]

@[simp] theorem leaves_any_nil : (any []).leaves = [nothing] := by
  rw [leaves]

@[simp] theorem leaves_any_cons (first : Predicate) (others : List Predicate) :
    (any (first :: others)).leaves = (first :: others).flatMap leaves := by
  rw [leaves, leavesOf_eq]

@[simp] theorem leaves_all (members : List Predicate) :
    (all members).leaves = members.flatMap leaves := by
  rw [leaves, leavesOf_eq]

@[simp] theorem leaves_compare (field : String) (lookup : Lookup) :
    (compare field lookup).leaves = [compare field lookup] := by
  rw [leaves]

@[simp] theorem leaves_nothing : nothing.leaves = [nothing] := by
  rw [leaves]

/-- The values that a leaf binds: those of its comparison, or 1 and 0 where nothing matches. -/
def leafValues : Predicate → List Value
  | .compare _ lookup => lookup.boundValues
  | _ => [.int 1, .int 0]

def boundValues (predicate : Predicate) : List Value := predicate.leaves.flatMap leafValues

def fragments (entity : Entity) (dialect : Dialect) (predicate : Predicate) : List Fragment :=
  (predicate.expression entity).fragments dialect

theorem encloses_leaves (dialect : Dialect) (predicate : Predicate) :
    Fragment.Encloses (predicate.fragments entity dialect)
      (predicate.leaves.map (fragments entity dialect)) := by
  induction predicate with
  | any members each =>
    cases members with
    | nil =>
      rw [leaves_any_nil, fragments, expression_any_nil, ← expression_nothing]
      exact .single _
    | cons first others =>
      rw [leaves_any_cons, fragments, expression_any_cons, List.map_flatMap]
      exact Expression.encloses_joined .any _ _ _ each
  | all members each =>
    rw [leaves_all, fragments, expression_all, List.map_flatMap]
    exact Expression.encloses_joined .all _ _ _ each
  | compare field lookup =>
    rw [leaves_compare]
    exact .single _
  | nothing =>
    rw [leaves_nothing]
    exact .single _

theorem leaf_of_mem_leaves {predicate leaf : Predicate} (member : leaf ∈ predicate.leaves) :
    leaf = nothing ∨ ∃ field ∈ predicate.fields, ∃ lookup, leaf = compare field lookup := by
  induction predicate with
  | any members each =>
    cases members with
    | nil =>
      rw [leaves_any_nil, List.mem_singleton] at member
      exact .inl member
    | cons first others =>
      rw [leaves_any_cons] at member
      obtain ⟨inner, found, member⟩ := List.mem_flatMap.1 member
      refine (each inner found member).imp_right fun ⟨field, compared, same⟩ => ?_
      exact ⟨field, fields_any _ ▸ List.mem_flatMap.2 ⟨inner, found, compared⟩, same⟩
  | all members each =>
    rw [leaves_all] at member
    obtain ⟨inner, found, member⟩ := List.mem_flatMap.1 member
    refine (each inner found member).imp_right fun ⟨field, compared, same⟩ => ?_
    exact ⟨field, fields_all _ ▸ List.mem_flatMap.2 ⟨inner, found, compared⟩, same⟩
  | compare field lookup =>
    rw [leaves_compare, List.mem_singleton] at member
    exact .inr ⟨field, fields_compare field lookup ▸ List.mem_singleton_self field, lookup, member⟩
  | nothing =>
    rw [leaves_nothing, List.mem_singleton] at member
    exact .inl member

theorem values_leaf {predicate leaf : Predicate}
    (known : ∀ field ∈ predicate.fields, entity.Knows field) (member : leaf ∈ predicate.leaves)
    (dialect : Dialect) : Fragment.values (leaf.fragments entity dialect) = leaf.leafValues := by
  rcases leaf_of_mem_leaves member with rfl | ⟨field, compared, lookup, rfl⟩
  · rfl
  · cases found : entity.column? field with
    | none => exact absurd (known field compared) (Entity.column?_eq_none.1 found)
    | some column =>
      rw [fragments, expression_compare found]
      exact lookup.values_test column dialect

end Predicate

end PeriodicalSearch
