import PeriodicalSearch.Proofs.Api.Lists
import PeriodicalSearch.Proofs.Api.Pages

/-! Answers to all requests with one search. Either every such request shows a page of one list of
records, or every one fails; which of the two depends on the height of the condition alone. -/

namespace PeriodicalSearch

namespace Service

variable {store : Store} {resource : Resource} {search : String} {sort : Option String}

/-- Every request with this search and this sort directive is answered with the number of these
records and the page that it asks for. The pages of one size are the list of these records, and the
pages behind the last one are empty, if the number of the records is one of 64 bits. -/
def Lists (store : Store) (resource : Resource) (search : String) (sort : Option String)
    (wanted : List (Record resource)) : Prop :=
  ∃ found : List (Record resource), found.Perm wanted ∧
    (∀ address options, AsksFor address resource options → options.search = some search →
      options.sort = sort → get store address = shown options found) ∧
    (found.length ≤ Text.maxInt64 →
      (∀ (options : ListOptions) (count : Nat), count < 2 ^ 64 →
        found.length ≤ count * options.limit →
        ((List.range count).flatMap fun index =>
          (Listing.paginate (options.onPage (UInt64.ofNat (index + 1))) found).records) = found) ∧
      ∀ options : ListOptions, found.length ≤ options.before →
        (Listing.paginate options found).records = [])

def Fails (store : Store) (resource : Resource) (search : String) (sort : Option String) : Prop :=
  ∀ address options, AsksFor address resource options → options.search = some search →
    options.sort = sort → get store address = failed .database

variable {records : List (Record resource)} {condition : Option (ConditionGroup resource)}
  {key : Sql.SortKey resource} (table : store.table resource = some records)
  (conditioned : resource.searchProfile.filter resource (some search) = .ok condition)
  (sorted : Sql.SortKey.choose resource.usualSort sort = .ok key)
include table conditioned sorted

/-- Requests with a search whose condition is low are answered from one list, which has the records
that the condition keeps. -/
theorem exists_found_of_condition
    (low : ∀ group ∈ condition, group.expression.height ≤ Sql.maxHeight) :
    ∃ found : List (Record resource),
      found.Perm (records.filter (Store.isSelected (condition.map ConditionGroup.expression))) ∧
      ∀ address options, AsksFor address resource options → options.search = some search →
        options.sort = sort → get store address = shown options found := by
  refine ⟨_, Store.perm_found records (condition.map ConditionGroup.expression) key, ?_⟩
  intro address options asks searched directed
  rw [← searched] at conditioned
  rw [← directed] at sorted
  rw [get_eq_listed asks, listed_of_low table conditioned sorted low]

theorem lists_of_condition
    (low : ∀ group ∈ condition, group.expression.height ≤ Sql.maxHeight) :
    Lists store resource search sort
      (records.filter (Store.isSelected (condition.map ConditionGroup.expression))) := by
  obtain ⟨found, perm, answers⟩ := exists_found_of_condition table conditioned sorted low
  refine ⟨found, perm, answers, fun short => ⟨?_, ?_⟩⟩
  · intro options count numbered enough
    exact Listing.flatMap_pages short options numbered enough
  · intro options beyond
    exact Listing.records_paginate_beyond short beyond

theorem fails_of_condition
    (high : ¬∀ group ∈ condition, group.expression.height ≤ Sql.maxHeight) :
    Fails store resource search sort := by
  intro address options asks searched directed
  rw [← searched] at conditioned
  rw [← directed] at sorted
  rw [get_eq_listed asks]
  exact listed_of_high table conditioned sorted high

end Service

end PeriodicalSearch
