import PeriodicalSearch.Proofs.Condition.Meaning
import PeriodicalSearch.Proofs.Text.Trimming
import PeriodicalSearch.Record.Basic

/-! Roles, and whom a filter for a role finds. A text names a role when its core is the name of the
role in letters of either case, and no text names two roles. The predicate of a text holds on the
row of a user exactly if the user has at least the privileges of the role that the text names. -/

namespace PeriodicalSearch

open Text

namespace Role

/-- The text is the name of the role; blanks around it and the case of its letters do not count. -/
def IsNamedBy (role : Role) (text : String) : Prop :=
  SameLetters (trimBlanks text.toList) role.name.toList

instance (role : Role) (text : String) : Decidable (role.IsNamedBy text) :=
  inferInstanceAs (Decidable (SameLetters _ _))

theorem mem_list (role : Role) : role ∈ list := by
  cases role <;> decide

theorem mem_implied_iff {role minimum : Role} :
    role ∈ minimum.implied ↔ role.atLeast minimum = true := by
  rw [implied, List.mem_filter, and_iff_right (mem_list role)]

theorem ofName?_eq_some_iff {name : String} {role : Role} :
    ofName? name = some role ↔ role.name = name := by
  constructor
  · intro found
    have same := List.find?_some found
    exact beq_iff_eq.1 same
  · rintro rfl
    cases role <;> decide

theorem read_eq_ok_iff {text : String} {role : Role} :
    read text = .ok role ↔ role.IsNamedBy text := by
  have lower : folded role.name.toList = role.name.toList := by
    cases role <;> decide
  rw [IsNamedBy, sameLetters_iff_toLower role.name lower, @eq_comm String, ← ofName?_eq_some_iff,
    read]
  cases ofName? (String.ofList ((trimBlanks text.toList).map Char.toLower)) <;> simp

theorem fields_predicate (text : String) : ∀ field ∈ (predicate text).fields, field = "role" := by
  rw [predicate]
  split
  next minimum _ => simp
  next => simp

end Role

namespace User

abbrev row (user : User) : Sql.Row Resource.users.entity := user.cell

def HasRole (user : User) (text : String) : Prop :=
  ∃ minimum : Role, minimum.IsNamedBy text ∧ user.role.atLeast minimum = true

instance (user : User) (text : String) : Decidable (user.HasRole text) :=
  decidable_of_iff
    (∃ minimum ∈ Role.list, minimum.IsNamedBy text ∧ user.role.atLeast minimum = true)
    (exists_congr fun minimum => and_iff_right minimum.mem_list)

theorem column?_role : Resource.users.entity.column? "role" = some Column.role := by decide

theorem holdsOn_role (user : User) (role : Role) :
    (Predicate.compare "role" (.equals role.name)).holdsOn user.row = true ↔ role = user.role := by
  have accepts : ∀ own : Role,
      (Lookup.equals role.name).accepts (.text own.name.toList) = true ↔ role = own := by
    cases role <;> intro own <;> cases own <;> decide
  rw [Predicate.holdsOn_compare column?_role]
  exact accepts user.role

theorem holdsOn_rolePredicate (user : User) (text : String) :
    (Role.predicate text).holdsOn user.row = true ↔ user.HasRole text := by
  rw [Role.predicate]
  cases read : Role.read text with
  | error unknown =>
    rw [Predicate.holdsOn_nothing]
    refine iff_of_false (fun none => nomatch none) fun ⟨minimum, named, _⟩ => ?_
    cases read.symm.trans (Role.read_eq_ok_iff.2 named)
  | ok minimum =>
    have named : ∀ role : Role, role.IsNamedBy text ↔ role = minimum := fun role => by
      rw [← Role.read_eq_ok_iff, read, Except.ok.injEq, eq_comm]
    have holds : (Predicate.any (minimum.implied.map fun role =>
        .compare "role" (.equals role.name))).holdsOn user.row = true ↔
          user.role ∈ minimum.implied := by
      rw [Predicate.holdsOn_any, List.any_map, List.any_eq_true]
      simp only [Function.comp_apply, holdsOn_role, exists_eq_right]
    rw [HasRole]
    simp only [holds, named, exists_eq_left, Role.mem_implied_iff]

end User

end PeriodicalSearch
