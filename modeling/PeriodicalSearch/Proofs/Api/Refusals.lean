import PeriodicalSearch.Api.Listing
import PeriodicalSearch.Proofs.Search.Directives
import PeriodicalSearch.Proofs.Search.Totality

/-! Requests for lists that are refused. No text makes a transformer of the collections fail, and a
field that a collection lacks is no reason to refuse a search. What is left is a search that cannot
be read and, behind it, a sort directive that names no column. -/

namespace PeriodicalSearch

namespace ApiFailure

/-- Messages that begin apart are apart. -/
theorem append_ne_append {one other : String} (apart : ¬one.toList <+: other.toList)
    (apart' : ¬other.toList <+: one.toList) (rest more : String) : one ++ rest ≠ other ++ more := by
  intro same
  have characters := congrArg String.toList same
  rw [String.toList_append, String.toList_append] at characters
  rcases List.prefix_or_prefix_of_prefix (characters ▸ List.prefix_append _ _)
    (List.prefix_append _ _) with inside | inside
  · exact apart inside
  · exact apart' inside

theorem invalidQuery_ne_cannotSort (reason rest : String) :
    "Invalid search query: " ++ reason ≠ "Cannot sort by '" ++ rest :=
  append_ne_append (by decide) (by decide) reason rest

theorem invalidQuery_ne_cannotSearch (reason rest : String) :
    "Invalid search query: " ++ reason ≠ "Cannot search by '" ++ rest :=
  append_ne_append (by decide) (by decide) reason rest

theorem cannotSort_ne_cannotSearch (rest more : String) :
    "Cannot sort by '" ++ rest ≠ "Cannot search by '" ++ more :=
  append_ne_append (by decide) (by decide) rest more

theorem cannotSort_inj {name other : String} :
    "Cannot sort by '" ++ name ++ "'" = "Cannot sort by '" ++ other ++ "'" ↔ name = other := by
  rw [String.append_left_inj, String.append_right_inj]

end ApiFailure

namespace Listing

open Sql.SortKey (Directs IsChosen)

variable {resource : Resource} {options : ListOptions}

def IsAccepted (search : Option String) : Prop :=
  ∀ text ∈ search, ∃ query, Query.parse text = .ok query

theorem filter_eq_error_iff {search : Option String} {failure : SearchFailure} :
    resource.searchProfile.filter resource search = .error failure ↔ ∃ text ∈ search, ∃ fault,
      Query.parse text = .error fault ∧ failure = .rejected (.ofFault text fault) := by
  cases search with
  | none => exact iff_of_false (fun none => nomatch none) fun found => nomatch found.choose_spec.1
  | some text =>
    simp only [Option.mem_some, exists_eq_left']
    exact SearchProfile.condition?_eq_error_iff resource.neverFails

theorem exists_filter_iff {search : Option String} :
    (∃ condition, resource.searchProfile.filter resource search = .ok condition) ↔
      IsAccepted search := by
  cases filtered : resource.searchProfile.filter resource search with
  | error failure =>
    obtain ⟨text, given, fault, refused, -⟩ := filter_eq_error_iff.1 filtered
    refine iff_of_false (fun none => nomatch none) fun accepted => ?_
    obtain ⟨query, parsed⟩ := accepted text given
    cases parsed.symm.trans refused
  | ok condition =>
    refine iff_of_true ⟨condition, rfl⟩ fun text given => ?_
    cases parsed : Query.parse text with
    | ok query => exact ⟨query, rfl⟩
    | error fault =>
      cases filtered.symm.trans (filter_eq_error_iff.2 ⟨text, given, fault, parsed, rfl⟩)

theorem select_of_refused {fault : Query.Fault} {search : String} (given : search ∈ options.search)
    (refused : Query.parse search = .error fault) : select resource options =
      .error (.badRequest ("Invalid search query: " ++ fault.reason)) := by
  rw [select, filter_eq_error_iff.2 ⟨search, given, fault, refused, rfl⟩]
  rfl

theorem select_of_undirected {directive name : String} {direction : Sql.Direction}
    (accepted : IsAccepted options.search) (given : directive ∈ options.sort)
    (directs : Directs directive name direction) (unknown : ¬resource.entity.Knows name) :
    select resource options = .error (.badRequest ("Cannot sort by '" ++ name ++ "'")) := by
  obtain ⟨condition, filtered⟩ := exists_filter_iff.2 accepted
  have refused : Sql.SortKey.choose resource.usualSort options.sort =
      .error (.unknownSortField name) :=
    Sql.SortKey.choose_eq_error_iff.2 ⟨directive, given, name, direction, directs, unknown, rfl⟩
  rw [select, filtered, refused]
  rfl

theorem select_of_chosen (accepted : IsAccepted options.search)
    {key : Sql.SortKey resource} (chosen : IsChosen resource.usualSort options.sort key) :
    ∃ query, select resource options = .ok query ∧ query.sortKey = some key := by
  obtain ⟨condition, filtered⟩ := exists_filter_iff.2 accepted
  rw [select, filtered, Sql.SortKey.choose_eq_ok_iff.2 chosen]
  exact ⟨_, rfl, rfl⟩

theorem refused_or_chosen (resource : Resource) (options : ListOptions) :
    (∃ search ∈ options.search, ∃ fault, Query.parse search = .error fault) ∨
    IsAccepted options.search ∧
      ((∃ directive ∈ options.sort, ∃ name direction, Directs directive name direction ∧
        ¬resource.entity.Knows name) ∨ ∃ key, IsChosen resource.usualSort options.sort key) := by
  cases filtered : resource.searchProfile.filter resource options.search with
  | error failure =>
    obtain ⟨search, given, fault, refused, -⟩ := filter_eq_error_iff.1 filtered
    exact .inl ⟨search, given, fault, refused⟩
  | ok condition =>
    refine .inr ⟨exists_filter_iff.1 ⟨condition, filtered⟩, ?_⟩
    cases chosen : Sql.SortKey.choose resource.usualSort options.sort with
    | error failure =>
      obtain ⟨directive, given, name, direction, directs, unknown, -⟩ :=
        Sql.SortKey.choose_eq_error_iff.1 chosen
      exact .inl ⟨directive, given, name, direction, directs, unknown⟩
    | ok key => exact .inr ⟨key, Sql.SortKey.choose_eq_ok_iff.1 chosen⟩

theorem select_eq_error_iff {failure : ApiFailure} : select resource options = .error failure ↔
    (∃ search ∈ options.search, ∃ fault, Query.parse search = .error fault ∧
      failure = .badRequest ("Invalid search query: " ++ fault.reason)) ∨
    IsAccepted options.search ∧ ∃ directive ∈ options.sort, ∃ name direction,
      Directs directive name direction ∧ ¬resource.entity.Knows name ∧
        failure = .badRequest ("Cannot sort by '" ++ name ++ "'") := by
  constructor
  · intro failed
    rcases refused_or_chosen resource options with refusal | ⟨accepted, undirected | ⟨key, chosen⟩⟩
    · obtain ⟨search, given, fault, refused⟩ := refusal
      cases failed.symm.trans (select_of_refused given refused)
      exact .inl ⟨search, given, fault, refused, rfl⟩
    · obtain ⟨directive, given, name, direction, directs, unknown⟩ := undirected
      cases failed.symm.trans (select_of_undirected accepted given directs unknown)
      exact .inr ⟨accepted, directive, given, name, direction, directs, unknown, rfl⟩
    · obtain ⟨query, selected, -⟩ := select_of_chosen accepted chosen
      cases failed.symm.trans selected
  · rintro (⟨search, given, fault, refused, rfl⟩ |
      ⟨accepted, directive, given, name, direction, directs, unknown, rfl⟩)
    · exact select_of_refused given refused
    · exact select_of_undirected accepted given directs unknown

theorem exists_select_iff : (∃ query, select resource options = .ok query) ↔
    IsAccepted options.search ∧ ∀ directive ∈ options.sort, ∀ name direction,
      Directs directive name direction → resource.entity.Knows name := by
  rcases refused_or_chosen resource options with refusal | ⟨accepted, undirected | ⟨key, chosen⟩⟩
  · obtain ⟨search, given, fault, refused⟩ := refusal
    rw [select_of_refused given refused]
    refine iff_of_false (fun none => nomatch none) fun readable => ?_
    obtain ⟨query, parsed⟩ := readable.1 search given
    cases parsed.symm.trans refused
  · obtain ⟨directive, given, name, direction, directs, unknown⟩ := undirected
    rw [select_of_undirected accepted given directs unknown]
    exact iff_of_false (fun none => nomatch none) fun known =>
      unknown (known.2 directive given name direction directs)
  · obtain ⟨query, selected, -⟩ := select_of_chosen accepted chosen
    refine iff_of_true ⟨query, selected⟩ ⟨accepted, fun directive given name _ directs => ?_⟩
    refine Decidable.byContradiction fun unknown => ?_
    cases selected.symm.trans (select_of_undirected accepted given directs unknown)

theorem select_sortKey {query : Sql.Select resource}
    (selected : select resource options = .ok query) : ∃ key, query.sortKey = some key ∧
      ∀ other, IsChosen resource.usualSort options.sort other ↔ other = key := by
  rcases refused_or_chosen resource options with refusal | ⟨accepted, undirected | ⟨key, chosen⟩⟩
  · obtain ⟨search, given, fault, refused⟩ := refusal
    cases selected.symm.trans (select_of_refused given refused)
  · obtain ⟨directive, given, name, direction, directs, unknown⟩ := undirected
    cases selected.symm.trans (select_of_undirected accepted given directs unknown)
  · obtain ⟨other, again, sorted⟩ := select_of_chosen accepted chosen
    cases selected.symm.trans again
    refine ⟨key, sorted, fun other => ?_⟩
    rw [← Sql.SortKey.choose_eq_ok_iff] at chosen
    rw [← Sql.SortKey.choose_eq_ok_iff, chosen, Except.ok.injEq, eq_comm]

/-- Every request for a list has one of three outcomes, whatever its search and its directive are.
A search that cannot be read is refused with the reason. Any other search is refused for a
directive, if that names no column of the collection. All other requests are queries, sorted by the
one column and direction that the directive names or, without a directive, in the usual order. A
refusal is always the client's fault, and is never for a field of the search. -/
theorem select_outcome (resource : Resource) (options : ListOptions) :
    (∀ reason, select resource options =
      .error (.badRequest ("Invalid search query: " ++ reason)) ↔
        ∃ search ∈ options.search, ∃ fault,
          Query.parse search = .error fault ∧ fault.reason = reason) ∧
    (∀ name, select resource options =
      .error (.badRequest ("Cannot sort by '" ++ name ++ "'")) ↔
        IsAccepted options.search ∧ ∃ directive ∈ options.sort, ∃ direction,
          Directs directive name direction ∧ ¬resource.entity.Knows name) ∧
    ((∃ query, select resource options = .ok query) ↔
      IsAccepted options.search ∧ ∀ directive ∈ options.sort, ∀ name direction,
        Directs directive name direction → resource.entity.Knows name) ∧
    (∀ query, select resource options = .ok query → ∃ key, query.sortKey = some key ∧
      ∀ other, IsChosen resource.usualSort options.sort other ↔ other = key) ∧
    ∀ failure, select resource options = .error failure → failure.status = 400 ∧
      (∀ field, failure.message ≠ "Cannot search by '" ++ field ++ "'") ∧
      ((∃ reason, failure = .badRequest ("Invalid search query: " ++ reason)) ∨
        ∃ name, failure = .badRequest ("Cannot sort by '" ++ name ++ "'")) := by
  refine ⟨fun reason => ?invalid, fun name => ?unsorted, exists_select_iff,
    fun query => select_sortKey, fun failure failed => ?others⟩
  case invalid =>
    constructor
    · intro failed
      rcases select_eq_error_iff.1 failed with ⟨search, given, fault, refused, same⟩ |
        ⟨-, -, -, name, -, -, -, same⟩
      · rw [ApiFailure.badRequest.injEq, String.append_right_inj] at same
        exact ⟨search, given, fault, refused, same.symm⟩
      · rw [ApiFailure.badRequest.injEq, String.append_assoc] at same
        exact absurd same (ApiFailure.invalidQuery_ne_cannotSort _ _)
    · rintro ⟨search, given, fault, refused, rfl⟩
      exact select_of_refused given refused
  case unsorted =>
    constructor
    · intro failed
      rcases select_eq_error_iff.1 failed with ⟨-, -, fault, -, same⟩ |
        ⟨accepted, directive, given, other, direction, directs, unknown, same⟩
      · rw [ApiFailure.badRequest.injEq, String.append_assoc] at same
        exact absurd same.symm (ApiFailure.invalidQuery_ne_cannotSort _ _)
      · rw [ApiFailure.badRequest.injEq, ApiFailure.cannotSort_inj] at same
        subst same
        exact ⟨accepted, directive, given, direction, directs, unknown⟩
    · rintro ⟨accepted, directive, given, direction, directs, unknown⟩
      exact select_of_undirected accepted given directs unknown
  case others =>
    rcases select_eq_error_iff.1 failed with ⟨-, -, fault, -, rfl⟩ |
      ⟨-, -, -, name, -, -, -, rfl⟩
    · refine ⟨rfl, fun field => ?_, .inl ⟨fault.reason, rfl⟩⟩
      rw [ApiFailure.message, String.append_assoc]
      exact ApiFailure.invalidQuery_ne_cannotSearch _ _
    · refine ⟨rfl, fun field => ?_, .inr ⟨name, rfl⟩⟩
      rw [ApiFailure.message, String.append_assoc, String.append_assoc]
      exact ApiFailure.cannotSort_ne_cannotSearch _ _

end Listing

end PeriodicalSearch
