import PeriodicalSearch.Proofs.Search.Parts
import PeriodicalSearch.Proofs.Search.Union
import PeriodicalSearch.Proofs.Query.SingleItem

/-! Searches with one more filter. A text of a single filter, before or behind a search that has no
filter of that field, adds the filter to the search, and the search then matches besides what the
filter matches. -/

namespace PeriodicalSearch

namespace Query

def withFilter (query : Query) (field : String) (value : FilterValue Date) : Query :=
  ⟨query.terms, query.filters.set field value⟩

variable {query : Query} {field : String} {value : FilterValue Date}

theorem eq_withFilter {joined : Query} (terms : joined.terms = query.terms)
    (filters : ∀ name, joined.filters.get? name =
      if name = field then some value else query.filters.get? name) :
    joined = query.withFilter field value := by
  have same : joined.filters = query.filters.set field value := Filters.eq_of_get?_eq fun name => by
    rw [filters, Filters.get?_set]
  cases joined
  cases terms
  cases same
  rfl

theorem mem_items_withFilter (unset : query.filters.get? field = none) {item : Item Date} :
    item ∈ (query.withFilter field value).items ↔
      item ∈ query.items ∨ item = .filter field value := by
  cases item with
  | term text => simp [mem_items_term, withFilter]
  | filter name other =>
    rw [mem_items_filter, mem_items_filter, withFilter, Filters.get?_set]
    by_cases same : name = field
    · rw [if_pos same, same, unset]
      simp [eq_comm]
    · rw [if_neg same]
      simp [same]

theorem items_ofItems_filter (field : String) (value : FilterValue Date) :
    (ofItems [.filter field value]).items = [.filter field value] := rfl

theorem get?_ofItems_filter (field name : String) (value : FilterValue Date) :
    (ofItems [.filter field value]).filters.get? name =
      if name = field then some value else none :=
  Filters.lookup_cons_eq_if name field value []

/-- The text of a single filter adds the filter, wherever it stands. -/
theorem Accepted.parse_beside_filter {other : Accepted} {filter : String}
    (unset : other.setting? field = none)
    (accepted : parse filter = .ok (ofItems [.filter field value])) :
    ∀ joined ∈ [other.text ++ " " ++ filter, filter ++ " " ++ other.text],
      joined.utf8ByteSize ≤ maxLength → parse joined = .ok (other.query.withFilter field value) := by
  have unset : other.query.filters.get? field = none := unset
  intro joined member short
  rcases List.mem_cons.1 member with rfl | member
  · obtain ⟨whole, parsed, terms, filters⟩ := parse_behind_space other ⟨filter, _, accepted⟩ short
    rw [parsed, eq_withFilter (terms.trans (List.append_nil _)) fun name => ?_]
    rw [filters]
    change ((ofItems [.filter field value]).filters.get? name).or (other.query.filters.get? name) = _
    rw [get?_ofItems_filter]
    split <;> rfl
  · obtain rfl := List.mem_singleton.1 member
    obtain ⟨whole, parsed, terms, filters⟩ := parse_behind_space ⟨filter, _, accepted⟩ other short
    rw [parsed, eq_withFilter terms fun name => ?_]
    rw [filters]
    change (other.query.filters.get? name).or ((ofItems [.filter field value]).filters.get? name) = _
    rw [get?_ofItems_filter]
    by_cases same : name = field
    · rw [if_pos same, if_pos same, same, unset]
      rfl
    · rw [if_neg same, if_neg same, Option.or_none]

end Query

namespace SearchProfile

variable {profile : SearchProfile} {query : Query} {field : String} {value : FilterValue Date}

/-- A search by one filter has the predicate of the filter and no other. -/
theorem parts_of_filter {predicate : Predicate}
    (made : profile.filterPredicate field value = .ok predicate) :
    profile.Parts (.ofItems [.filter field value]) [] [predicate] where
  terms := by
    rw [Query.ofItems_filter, termPredicates]
    cases profile.termTransformer with
    | none => simp
    | some transformer => rfl
  filters := by
    rw [Query.ofItems_filter, List.mapM_cons, made]
    rfl

section

variable (unset : query.filters.get? field = none)
include unset

theorem width_withFilter :
    profile.width (query.withFilter field value) = profile.width query + 1 := by
  have length := (Filters.perm_set unset value).length_eq
  rw [width, width, Query.withFilter, length, List.length_cons, Nat.add_assoc]

/-- A search with one more filter matches what it did without, and what the filter matches. -/
theorem predicate?_withFilter {found : Option Predicate} {predicate : Predicate}
    (compiled : profile.predicate? query = .ok found)
    (made : profile.filterPredicate field value = .ok predicate) :
    ∃ joined, profile.predicate? (query.withFilter field value) = .ok (some joined) ∧
      ∀ truth, joined.holds truth = (found.any (Predicate.holds truth) || predicate.holds truth) := by
  have alone : profile.predicate? (.ofItems [.filter field value]) =
      .ok (some (.any [predicate])) := (parts_of_filter made).predicate?_eq
  have parts : ∀ item, item ∈ (query.withFilter field value).items ↔
      ∃ part ∈ [(query, found), (Query.ofItems [.filter field value], some (.any [predicate]))],
        item ∈ part.1.items := fun item => by
    rw [Query.mem_items_withFilter unset]
    simp [Query.items_ofItems_filter]
  obtain ⟨joined, whole, restricts, holds⟩ := predicate?_of_parts profile parts
    (by simp [compiled, alone])
  cases joined with
  | none => cases restricts.1 rfl _ (List.mem_cons_of_mem _ List.mem_cons_self)
  | some joined =>
    refine ⟨joined, whole, fun truth => ?_⟩
    have same := holds truth
    simpa using same

end

end SearchProfile

end PeriodicalSearch
