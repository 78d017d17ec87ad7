import PeriodicalSearch.Proofs.Api.Answers
import PeriodicalSearch.Proofs.Query.RoundTrip
import PeriodicalSearch.Proofs.Search.AddedFilter
import PeriodicalSearch.Proofs.Search.Height
import PeriodicalSearch.Proofs.Store.Selection
import PeriodicalSearch.Proofs.User.Roles

/-! Searches of the users from the request to the response. A filter for a role lists the users with
at least the privileges of the role, and adds them to what any other search lists, as long as the
database can evaluate the search with the filter. -/

namespace PeriodicalSearch

open Sql (maxHeight)

namespace User

def IsColumnQuery (query : Query) : Prop :=
  ∀ entry ∈ query.filters.entries, Resource.users.entity.Knows entry.1

def searchHeight (query : Query) : Nat :=
  2 * query.terms.length + query.filters.entries.length + 4

theorem width_eq (query : Query) : Resource.users.searchProfile.width query =
    2 * query.terms.length + query.filters.entries.length := rfl

theorem mem_names_of_knows {field : String} (known : Resource.users.entity.Knows field) :
    field ∈ ["id", "username", "email", "role"] := by
  obtain ⟨column, -, spelled⟩ := known
  cases column <;> rcases spelled with rfl | rfl <;> decide

theorem knows_role : Resource.users.entity.Knows "role" := Entity.knows_of_column? column?_role

theorem filterPredicate_role (comparison : Comparison) (value : String) :
    Resource.users.searchProfile.filterPredicate "role" (.text comparison value) =
      .ok (Role.predicate value) := rfl

/-- A filter compares the column of its own name and no other. -/
theorem fields_of_filterPredicate {field : String} {value : FilterValue Date} {predicate : Predicate}
    (made : Resource.users.searchProfile.filterPredicate field value = .ok predicate) :
    ∀ other ∈ predicate.fields, other = field := by
  have registered : Resource.users.searchProfile.transformer? field = if field = "role" then
      some (.function fun value => .ok (Role.predicate value)) else none :=
    Filters.lookup_cons_eq_if field "role" _ []
  have unrenamed : Resource.users.searchProfile.columnName field = field := by
    rw [SearchProfile.columnName, registered]
    split_ifs <;> rfl
  have compared (lookup : Lookup) :
      ∀ other ∈ (Predicate.compare field lookup).fields, other = field := by
    rw [Predicate.fields_compare]
    exact fun other => List.mem_singleton.1
  cases value with
  | range range =>
    cases made
    rw [unrenamed]
    exact compared _
  | text comparison value =>
    rw [SearchProfile.filterPredicate, registered, unrenamed] at made
    by_cases role : field = "role"
    · rw [if_pos role] at made
      cases made
      rw [role]
      exact Role.fields_predicate value
    · rw [if_neg role] at made
      cases made
      exact compared _

variable {query : Query} {found : Option Predicate}

theorem known_of_predicate? (columns : IsColumnQuery query)
    (compiled : Resource.users.searchProfile.predicate? query = .ok found) :
    ∀ predicate ∈ found, ∀ field ∈ predicate.fields, Resource.users.entity.Knows field := by
  obtain ⟨ofTerms, ofFilters, parts, rfl⟩ := SearchProfile.exists_parts compiled
  have searched : ∀ field ∈ Resource.users.searchProfile.fields,
      Resource.users.entity.Knows field := by
    decide
  refine Predicate.forall_fields_union? (List.forall_mem_append.2 ⟨?_, ?_⟩)
  · refine parts.forall_terms (fun field member text _ => ?_) fun transformer none => nomatch none
    rw [Predicate.fields_compare]
    exact List.forall_mem_singleton.2 (searched field member)
  · refine parts.forall_filters fun entry member predicate made field inside => ?_
    rw [fields_of_filterPredicate made field inside]
    exact columns entry member

theorem exists_some_predicate? (nonempty : query.isEmpty = false) :
    ∃ predicate, Resource.users.searchProfile.predicate? query = .ok (some predicate) := by
  obtain ⟨found, compiled⟩ := SearchProfile.exists_predicate? (Resource.neverFails .users) query
  obtain ⟨ofTerms, ofFilters, parts, rfl⟩ := SearchProfile.exists_parts compiled
  have length := parts.length
  cases whole : ofTerms ++ ofFilters with
  | cons first others =>
    rw [whole] at compiled
    exact ⟨_, compiled⟩
  | nil =>
    rw [whole, List.length_nil, width_eq] at length
    rw [Query.isEmpty, Bool.and_eq_false_iff, List.isEmpty_eq_false_iff, List.isEmpty_eq_false_iff,
      ← List.length_pos_iff, ← List.length_pos_iff] at nonempty
    omega

/-- The condition of a search for columns keeps the users on whose rows its predicate holds, and the
database can evaluate it unless it has too many levels. -/
theorem exists_condition {search : String} (accepted : Query.parse search = .ok query)
    (columns : IsColumnQuery query)
    (compiled : Resource.users.searchProfile.predicate? query = .ok found) :
    ∃ condition, Resource.users.searchProfile.filter Resource.users (some search) =
        .ok condition ∧
      (∀ user : User, Store.isSelected (condition.map ConditionGroup.expression) user =
        found.all (Predicate.holdsOn user.row)) ∧
      ((∀ group ∈ condition, group.expression.height ≤ maxHeight) ↔
        searchHeight query ≤ maxHeight) := by
  obtain ⟨other, condition, made, conditioned, conditions⟩ :=
    SearchProfile.exists_condition? (Resource.neverFails .users) Resource.users.entity accepted
  cases compiled.symm.trans made
  have known := known_of_predicate? columns compiled
  have username : Resource.users.entity.column? "username" = some Column.username := by decide
  have few : query.filters.entries.length ≤ 4 :=
    Filters.length_entries_le fun entry member => mem_names_of_knows (columns entry member)
  have limit : maxHeight = 1000 := rfl
  refine ⟨condition, conditioned, fun user => ?_, ?_⟩
  · exact Store.isSelected_of_conditions conditions known user
  · exact Resource.height_le_iff rfl rfl username (by omega) compiled known conditions

section

variable {field : String} (unset : query.filters.get? field = none) (value : FilterValue Date)
include unset

theorem searchHeight_withFilter :
    searchHeight (query.withFilter field value) = searchHeight query + 1 := by
  have width : Resource.users.searchProfile.width (query.withFilter field value) = _ :=
    SearchProfile.width_withFilter unset
  rw [width_eq, width_eq] at width
  rw [searchHeight, searchHeight, width]

theorem isColumnQuery_withFilter (columns : IsColumnQuery query)
    (known : Resource.users.entity.Knows field) : IsColumnQuery (query.withFilter field value) := by
  intro entry member
  rcases List.mem_cons.1 ((Filters.perm_set unset value).mem_iff.1 member) with rfl | member
  · exact known
  · exact columns entry member

end

end User

namespace Service

section

variable {store : Store} {users : List User} {sort : Option String}
  {key : Sql.SortKey Resource.users} (table : store.users = some users)
  (sorted : Sql.SortKey.choose (Resource.usualSort .users) sort = .ok key)
include table sorted

/-- A search for columns lists the users on whose rows its predicate holds, if it has not too many
levels, and fails otherwise. -/
theorem answers_of_columnQuery {search : String} {query : Query} {predicate : Predicate}
    (accepted : Query.parse search = .ok query) (columns : User.IsColumnQuery query)
    (compiled : Resource.users.searchProfile.predicate? query = .ok (some predicate)) :
    (User.searchHeight query ≤ maxHeight →
      Lists store .users search sort (users.filter fun user => predicate.holdsOn user.row)) ∧
    (maxHeight < User.searchHeight query → Fails store .users search sort) := by
  have table : store.table .users = some users := table
  obtain ⟨condition, conditioned, selected, low⟩ := User.exists_condition accepted columns compiled
  constructor
  · intro few
    have lists := lists_of_condition table conditioned sorted (low.2 few)
    rw [List.filter_congr fun user _ => selected user] at lists
    exact lists
  · intro many
    exact fails_of_condition table conditioned sorted fun few => Nat.not_lt.2 (low.1 few) many

/-- The list handler answers a search for columns, if it has not too many levels. -/
theorem listed_of_columnQuery {search : String} {query : Query} {options : ListOptions}
    (accepted : Query.parse search = .ok query) (columns : User.IsColumnQuery query)
    (nonempty : query.isEmpty = false) (searched : options.search = some search)
    (directed : options.sort = sort) :
    (User.searchHeight query ≤ maxHeight → (listed store .users options).status = 200) ∧
    (maxHeight < User.searchHeight query → listed store .users options = failed .database) := by
  have table : store.table .users = some users := table
  obtain ⟨predicate, compiled⟩ := User.exists_some_predicate? nonempty
  obtain ⟨condition, conditioned, -, low⟩ := User.exists_condition accepted columns compiled
  rw [← searched] at conditioned
  rw [← directed] at sorted
  rw [← low]
  refine ⟨fun few => ?_, fun many => ?_⟩
  · rw [listed_of_low table conditioned sorted few]
    rfl
  · exact listed_of_high table conditioned sorted fun few => Nat.not_lt.2 (low.1 few) many

theorem lists_of_role {search : String} {comparison : Comparison} {value : String}
    (accepted : Query.parse search = .ok (.ofItems [.filter "role" (.text comparison value)])) :
    Lists store .users search sort (users.filter fun user => user.HasRole value) := by
  have compiled : Resource.users.searchProfile.predicate?
      (.ofItems [.filter "role" (.text comparison value)]) =
        .ok (some (.any [Role.predicate value])) :=
    (SearchProfile.parts_of_filter (User.filterPredicate_role comparison value)).predicate?_eq
  have columns : User.IsColumnQuery (.ofItems [.filter "role" (.text comparison value)]) :=
    List.forall_mem_singleton.2 User.knows_role
  have holds (user : User) : (Predicate.any [Role.predicate value]).holdsOn user.row =
      decide (user.HasRole value) := by
    rw [Predicate.holdsOn_any, List.any_cons, List.any_nil, Bool.or_false, Bool.eq_iff_iff,
      decide_eq_true_iff]
    exact User.holdsOn_rolePredicate user value
  rw [← List.filter_congr fun user _ => holds user]
  have low : 5 ≤ maxHeight := by decide
  exact (answers_of_columnQuery table sorted accepted columns compiled).1 low

/-- A filter for a role, behind either delimiter and with any text in quotes, lists the users with
at least the privileges of the role that the text names, and nobody if it names none. Beside another
search, whose filters are of columns other than the role, it adds these users to those that the
search lists, as long as the database can evaluate the search with one level more. -/
theorem get_of_role_search :
    (∀ (comparison : Comparison) (value : String),
      ((Query.filterSearch "role" comparison (Query.quotedForm value.toList)).utf8ByteSize ≤
          Query.maxLength →
        Query.parse (Query.filterSearch "role" comparison (Query.quotedForm value.toList)) =
          .ok (.ofItems [.filter "role" (.text comparison value)])) ∧
      ∀ search, Query.parse search = .ok (.ofItems [.filter "role" (.text comparison value)]) →
        Lists store .users search sort (users.filter fun user => user.HasRole value)) ∧
    ∀ other : Query.Accepted, other.query.isEmpty = false → User.IsColumnQuery other.query →
      other.setting? "role" = none →
      ∃ finds : User → Bool,
        (User.searchHeight other.query ≤ maxHeight →
          Lists store .users other.text sort (users.filter finds)) ∧
        ∀ (comparison : Comparison) (value : String),
          (∀ search, Query.parse search = .ok (.ofItems [.filter "role" (.text comparison value)]) →
            ∀ joined ∈ [other.text ++ " " ++ search, search ++ " " ++ other.text],
              joined.utf8ByteSize ≤ Query.maxLength → Query.parse joined =
                .ok (other.query.withFilter "role" (.text comparison value))) ∧
          ∀ joined, Query.parse joined =
              .ok (other.query.withFilter "role" (.text comparison value)) →
            (User.searchHeight other.query + 1 ≤ maxHeight →
              Lists store .users joined sort
                (users.filter fun user => finds user ∨ user.HasRole value)) ∧
            (maxHeight < User.searchHeight other.query + 1 → Fails store .users joined sort) := by
  refine ⟨fun comparison value => ⟨fun short => ?_, fun search accepted => ?_⟩,
    fun other nonempty columns unset => ?_⟩
  · have parsed := Query.parse_filterSearch_quoted (by decide) short
    rw [String.ofList_toList] at parsed
    exact parsed
  · exact lists_of_role table sorted accepted
  obtain ⟨predicate, compiled⟩ := User.exists_some_predicate? nonempty
  refine ⟨fun user => predicate.holdsOn user.row,
    (answers_of_columnQuery table sorted other.accepted columns compiled).1,
    fun comparison value => ⟨fun search accepted => ?_, fun joined accepted => ?_⟩⟩
  · exact other.parse_beside_filter unset accepted
  obtain ⟨whole, compiledWhole, holds⟩ := SearchProfile.predicate?_withFilter unset compiled
    (User.filterPredicate_role comparison value)
  have columnsWhole := User.isColumnQuery_withFilter unset (.text comparison value) columns
    User.knows_role
  have height := User.searchHeight_withFilter unset (.text comparison value)
  have answers := answers_of_columnQuery table sorted accepted columnsWhole compiledWhole
  rw [height] at answers
  have finds (user : User) : whole.holdsOn user.row =
      decide (predicate.holdsOn user.row = true ∨ user.HasRole value) := by
    rw [Predicate.holdsOn, holds, Bool.eq_iff_iff, Bool.or_eq_true, decide_eq_true_iff]
    exact or_congr_right (User.holdsOn_rolePredicate user value)
  rw [List.filter_congr fun user _ => finds user] at answers
  exact answers

end

def staff : List User :=
  [⟨⟨1⟩, "ann", "ann@press.example", .contributor⟩, ⟨⟨2⟩, "cleo", "cleo@press.example", .copyeditor⟩,
    ⟨⟨3⟩, "bob", "bob@post.org", .editor⟩]

/-- A filter for copyeditors lists the copyeditor and the editor, and adds them to the users with
`ann` in name or address. -/
theorem get_of_copyeditors :
    (∃ found : List (Record .users), found.Perm (staff.drop 1) ∧
      get ⟨some [], some [], some staff⟩ "/api/v1/users?search=role=%22+COPYEDITOR%22" =
        shown ⟨some "role=\" COPYEDITOR\"", none, none, none⟩ found) ∧
    ∃ finds : User → Bool,
      Lists ⟨some [], some [], some staff⟩ .users "ann" none (staff.filter finds) ∧
      ∃ found : List (Record .users),
        found.Perm (staff.filter fun user => finds user ∨ user ∈ staff.drop 1) ∧
        get ⟨some [], some [], some staff⟩ "/api/v1/users?search=ann+role=%22+COPYEDITOR%22" =
          shown ⟨some "ann role=\" COPYEDITOR\"", none, none, none⟩ found := by
  have table : (⟨some [], some [], some staff⟩ : Store).users = some staff := rfl
  have sorted : Sql.SortKey.choose (Resource.usualSort .users) none =
      .ok (Resource.usualSort .users) := rfl
  have term : Query.parse "ann" = .ok (.ofItems [.term "ann"]) := by cbv
  have role : Query.parse "role=\" COPYEDITOR\"" =
      .ok (.ofItems [.filter "role" (.text .equals " COPYEDITOR")]) := by cbv
  have named : ∀ user ∈ staff, user.HasRole " COPYEDITOR" ↔ user ∈ staff.drop 1 := by
    decide +kernel
  have short : ("ann" ++ " " ++ "role=\" COPYEDITOR\"").utf8ByteSize ≤ Query.maxLength := by decide
  have low : User.searchHeight (.ofItems [.term "ann"]) + 1 ≤ maxHeight := by decide
  have columns : User.IsColumnQuery (.ofItems [.term "ann"]) :=
    fun entry none => absurd none List.not_mem_nil
  obtain ⟨alone, beside⟩ := get_of_role_search table sorted
  constructor
  · obtain ⟨found, perm, response, -⟩ := (alone .equals " COPYEDITOR").2 _ role
    have asks : AsksFor "/api/v1/users?search=role=%22+COPYEDITOR%22" .users
        ⟨some "role=\" COPYEDITOR\"", none, none, none⟩ :=
      ⟨"search=role=%22+COPYEDITOR%22".toList, by cbv, by cbv⟩
    have kept : staff.filter (fun user => user.HasRole " COPYEDITOR") = staff.drop 1 := by
      decide +kernel
    exact ⟨found, kept ▸ perm, response _ _ asks rfl rfl⟩
  · obtain ⟨finds, lists, added⟩ := beside ⟨"ann", _, term⟩ rfl columns rfl
    obtain ⟨parsed, answers⟩ := added .equals " COPYEDITOR"
    have accepted := parsed _ role _ List.mem_cons_self short
    obtain ⟨found, perm, response, -⟩ := (answers _ accepted).1 low
    have asks : AsksFor "/api/v1/users?search=ann+role=%22+COPYEDITOR%22" .users
        ⟨some "ann role=\" COPYEDITOR\"", none, none, none⟩ :=
      ⟨"search=ann+role=%22+COPYEDITOR%22".toList, by cbv, by cbv⟩
    have same : staff.filter (fun user => finds user ∨ user.HasRole " COPYEDITOR") =
        staff.filter (fun user => finds user ∨ user ∈ staff.drop 1) :=
      List.filter_congr fun user member => by simp only [named user member]
    exact ⟨finds, lists (Nat.le_of_succ_le low), found, same ▸ perm, response _ _ asks rfl rfl⟩

def manyLetters : Query := ⟨List.replicate 498 "a", Filters.empty⟩

theorem parse_manyLetters : Query.parse manyLetters.text = .ok manyLetters := by
  refine Query.parse_text_of_isWritable ⟨?_, ?_⟩ (by decide +kernel)
  · exact fun entry none => nomatch none
  · exact fun entry none => nomatch none

/-- The search for letters and the filter for editors are both answered, but together they have a
level too many. -/
theorem listed_of_manyLetters :
    (listed ⟨some [], some [], some staff⟩ .users
        ⟨some manyLetters.text, none, none, none⟩).status = 200 ∧
    (listed ⟨some [], some [], some staff⟩ .users
        ⟨some "role:\"editor\"", none, none, none⟩).status = 200 ∧
    (∃ user ∈ staff, user.HasRole "editor") ∧
    (manyLetters.text ++ " " ++ "role:\"editor\"").utf8ByteSize ≤ Query.maxLength ∧
    Query.parse (manyLetters.text ++ " " ++ "role:\"editor\"") =
      .ok (manyLetters.withFilter "role" (.text .contains "editor")) ∧
    listed ⟨some [], some [], some staff⟩ .users
        ⟨some (manyLetters.text ++ " " ++ "role:\"editor\""), none, none, none⟩ =
      failed .database ∧
    (failed .database).status = 500 := by
  have table : (⟨some [], some [], some staff⟩ : Store).users = some staff := rfl
  have sorted : Sql.SortKey.choose (Resource.usualSort .users) none =
      .ok (Resource.usualSort .users) := rfl
  have role : Query.parse "role:\"editor\"" =
      .ok (.ofItems [.filter "role" (.text .contains "editor")]) := by cbv
  have short : (manyLetters.text ++ " " ++ "role:\"editor\"").utf8ByteSize ≤ Query.maxLength := by
    decide +kernel
  have unset : manyLetters.filters.get? "role" = none := rfl
  have joined : Query.parse (manyLetters.text ++ " " ++ "role:\"editor\"") =
      .ok (manyLetters.withFilter "role" (.text .contains "editor")) := by
    let other : Query.Accepted := ⟨manyLetters.text, _, parse_manyLetters⟩
    exact other.parse_beside_filter unset role _ List.mem_cons_self short
  have letters : User.IsColumnQuery manyLetters := fun entry none => absurd none List.not_mem_nil
  have height : User.searchHeight manyLetters = maxHeight := by decide +kernel
  have high : maxHeight < User.searchHeight
      (manyLetters.withFilter "role" (.text .contains "editor")) := by
    rw [User.searchHeight_withFilter unset, height]
    exact Nat.lt_succ_self _
  refine ⟨?_, ?_, ⟨_, List.mem_of_getElem? (i := 2) rfl, by decide +kernel⟩, short, joined, ?_, rfl⟩
  · exact (listed_of_columnQuery table sorted parse_manyLetters letters rfl rfl rfl).1 height.le
  · have column : User.IsColumnQuery (.ofItems [.filter "role" (.text .contains "editor")]) :=
      List.forall_mem_singleton.2 User.knows_role
    exact (listed_of_columnQuery table sorted role column rfl rfl rfl).1 (by decide)
  · have columns := User.isColumnQuery_withFilter unset (.text .contains "editor") letters
      User.knows_role
    exact (listed_of_columnQuery table sorted joined columns rfl rfl rfl).2 high

end Service

end PeriodicalSearch
