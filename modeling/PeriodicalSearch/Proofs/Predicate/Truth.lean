import PeriodicalSearch.Predicate

/-! What a predicate says once it is settled which comparisons hold, and the fields that it
compares. -/

namespace PeriodicalSearch.Predicate

/-- Induction over a predicate, with the hypothesis for every member of a group. -/
@[elab_as_elim, induction_eliminator]
theorem induct {motive : Predicate → Prop}
    (any : ∀ members, (∀ member ∈ members, motive member) → motive (.any members))
    (all : ∀ members, (∀ member ∈ members, motive member) → motive (.all members))
    (compare : ∀ field lookup, motive (.compare field lookup))
    (nothing : motive .nothing) (predicate : Predicate) : motive predicate := by
  refine @Predicate.rec motive (fun members => ∀ member ∈ members, motive member)
    any all compare nothing ?_ ?_ predicate
  · intro member none
    cases none
  · intro first others firstHolds othersHold member found
    rcases List.mem_cons.1 found with same | later
    · exact same ▸ firstHolds
    · exact othersHold member later

variable (truth : String → Lookup → Bool)

mutual

def holds : Predicate → Bool
  | .any members => anyHolds members
  | .all members => allHold members
  | .compare field lookup => truth field lookup
  | .nothing => false

def anyHolds : List Predicate → Bool
  | [] => false
  | first :: others => first.holds || anyHolds others

def allHold : List Predicate → Bool
  | [] => true
  | first :: others => first.holds && allHold others

end

variable {truth}

@[simp] theorem holds_any (members : List Predicate) :
    (any members).holds truth = members.any (holds truth) := by
  rw [holds]
  induction members with
  | nil => rfl
  | cons first others step => rw [anyHolds, step, List.any_cons]

@[simp] theorem holds_all (members : List Predicate) :
    (all members).holds truth = members.all (holds truth) := by
  rw [holds]
  induction members with
  | nil => rfl
  | cons first others step => rw [allHold, step, List.all_cons]

@[simp] theorem holds_compare (field : String) (lookup : Lookup) :
    (compare field lookup).holds truth = truth field lookup := by
  rw [holds]

@[simp] theorem holds_nothing : nothing.holds truth = false := by
  rw [holds]

mutual

def fields : Predicate → List String
  | .any members => fieldsOf members
  | .all members => fieldsOf members
  | .compare field _ => [field]
  | .nothing => []

def fieldsOf : List Predicate → List String
  | [] => []
  | first :: others => first.fields ++ fieldsOf others

end

theorem fieldsOf_eq (members : List Predicate) : fieldsOf members = members.flatMap fields := by
  induction members with
  | nil => rfl
  | cons first others step => rw [fieldsOf, step, List.flatMap_cons]

@[simp] theorem fields_any (members : List Predicate) :
    (any members).fields = members.flatMap fields := by
  rw [fields, fieldsOf_eq]

@[simp] theorem fields_all (members : List Predicate) :
    (all members).fields = members.flatMap fields := by
  rw [fields, fieldsOf_eq]

@[simp] theorem fields_compare (field : String) (lookup : Lookup) :
    (compare field lookup).fields = [field] := by
  rw [fields]

@[simp] theorem fields_nothing : nothing.fields = [] := by
  rw [fields]

end PeriodicalSearch.Predicate
