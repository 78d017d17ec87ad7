import PeriodicalSearch.Proofs.Api.Answers
import PeriodicalSearch.Proofs.Article.Search
import PeriodicalSearch.Proofs.Query.ItemCount
import PeriodicalSearch.Proofs.Search.Height

/-! Which accepted searches the database can evaluate. The condition of a search is about as high as
the search has predicates, and their number is bounded by the length of its text. A short search is
never too high for the database; a longer one may be, long before its text is too long to be
accepted. -/

namespace PeriodicalSearch

/-- A term of a search becomes one predicate, or one for each of two fields. -/
theorem Resource.termWidth_le (resource : Resource) : resource.searchProfile.termWidth ≤ 2 := by
  cases resource <;> decide

theorem Resource.width_le (resource : Resource) (query : Query) :
    resource.searchProfile.width query ≤ 2 * query.size := by
  have terms := Nat.mul_le_mul_right query.terms.length resource.termWidth_le
  rw [SearchProfile.width, Query.size]
  omega

namespace Service

/-- The longest text whose searches are never too high for the database. -/
def shortSearch : Nat := 747

/-- Two items of an accepted search take three octets at least, and every item becomes one predicate
or two. The condition has at most four levels more than the search has predicates, or seven more
than it has filters, and not fewer levels than predicates if the table has all their fields. The
database answers a request with the search exactly if the condition is not too high, which it never
is for a text of at most `shortSearch` octets. -/
theorem get_of_accepted_search (resource : Resource) {search : String} {query : Query}
    (accepted : Query.parse search = .ok query) :
    3 * query.size ≤ 2 * search.utf8ByteSize + 1 ∧
    resource.searchProfile.width query ≤ 2 * query.size ∧
    ∃ found condition, resource.searchProfile.predicate? query = .ok found ∧
      resource.searchProfile.filter resource (some search) = .ok condition ∧
      (∀ group ∈ condition,
        group.expression.height ≤ max (resource.searchProfile.width query + 4)
          (query.filters.entries.length + 7) ∧
        ((∀ predicate ∈ found, ∀ field ∈ predicate.fields, resource.entity.Knows field) →
          resource.searchProfile.width query ≤ group.expression.height)) ∧
      (search.utf8ByteSize ≤ shortSearch →
        ∀ group ∈ condition, group.expression.height ≤ Sql.maxHeight) ∧
      ∀ (store : Store) (records : List (Record resource)) (sort : Option String)
        (key : Sql.SortKey resource), store.table resource = some records →
        Sql.SortKey.choose resource.usualSort sort = .ok key →
        ((∀ group ∈ condition, group.expression.height ≤ Sql.maxHeight) →
          ∀ address options, AsksFor address resource options → options.search = some search →
            options.sort = sort → (get store address).status = 200) ∧
        ((∃ group ∈ condition, Sql.maxHeight < group.expression.height) →
          Fails store resource search sort) := by
  have count := Query.size_le_of_parse accepted
  have width := resource.width_le query
  obtain ⟨found, condition, compiled, conditioned, conditions⟩ :=
    SearchProfile.exists_condition? resource.neverFails resource.entity accepted
  have bounds := resource.height_bounds compiled conditions
  refine ⟨count, width, found, condition, compiled, conditioned, bounds, ?_, ?_⟩
  · intro short group member
    have upper := (bounds group member).1
    have few : query.filters.entries.length ≤ query.size := Nat.le_add_left ..
    have limit : Sql.maxHeight = 1000 := rfl
    rw [shortSearch] at short
    omega
  · intro store records sort key table sorted
    refine ⟨fun low address options asks searched directed => ?_, fun high => ?_⟩
    · obtain ⟨found, -, answers⟩ := exists_found_of_condition table conditioned sorted low
      rw [answers address options asks searched directed]
      rfl
    · obtain ⟨group, member, high⟩ := high
      exact fails_of_condition table conditioned sorted fun low =>
        Nat.not_lt.2 (low group member) high

/-- A search of the users by a term and a role is answered. -/
theorem status_of_search_for_editors :
    (get ⟨some [], some [], some []⟩ "/api/v1/users?search=ann+role:editor").status = 200 := by
  have accepted : Query.parse "ann role:editor" =
      .ok (.ofItems [.term "ann", .filter "role" (.text .contains "editor")]) := by cbv
  have asks : AsksFor "/api/v1/users?search=ann+role:editor" .users
      ⟨some "ann role:editor", none, none, none⟩ :=
    ⟨"search=ann+role:editor".toList, by cbv, by cbv⟩
  obtain ⟨-, -, found, condition, -, -, -, short, answers⟩ :=
    get_of_accepted_search .users accepted
  have answered := answers ⟨some [], some [], some []⟩ [] none _ rfl rfl
  exact answered.1 (short (by decide)) _ _ asks rfl rfl

theorem isPlainQuery_packedTerms (pairs : Nat) :
    Article.IsPlainQuery ⟨Query.packedTerms pairs, Filters.empty⟩ where
  terms term member := by
    rcases Query.mem_packedTerms member with rfl | rfl
    · exact Text.isPlain_of_all (by decide)
    · exact Text.isPlain_of_all (by decide)
  filters entry none := nomatch none

/-- A search of one octet more than a short one, which is accepted, is too high for the database, so
that a request for the articles with it fails. -/
theorem listed_of_packedTerms :
    Query.parse (String.ofList (Query.packed 249)) =
      .ok ⟨Query.packedTerms 249, Filters.empty⟩ ∧
    (String.ofList (Query.packed 249)).utf8ByteSize = shortSearch + 1 ∧
    (∃ group, Resource.articles.searchProfile.filter Resource.articles.entity
      (some (String.ofList (Query.packed 249))) = .ok (some group) ∧
        Sql.maxHeight < group.expression.height) ∧
    listed ⟨some [], some [palace], some []⟩ .articles
      ⟨some (String.ofList (Query.packed 249)), none, none, none⟩ = failed .database ∧
    (failed .database).status = 500 := by
  have accepted : Query.parse (String.ofList (Query.packed 249)) =
      .ok ⟨Query.packedTerms 249, Filters.empty⟩ := Query.parse_packed (by decide)
  have size : (String.ofList (Query.packed 249)).utf8ByteSize = shortSearch + 1 := by
    rw [Text.utf8ByteSize_ofList, Query.utf8Length_packed]
    rfl
  obtain ⟨condition, conditioned, -, low⟩ :=
    Article.exists_condition (isPlainQuery_packedTerms 249) accepted
  have high : ¬Article.searchHeight ⟨Query.packedTerms 249, Filters.empty⟩ ≤ Sql.maxHeight := by
    rw [Article.searchHeight, Query.length_packedTerms]
    decide
  rw [← low] at high
  have table : (⟨some [], some [palace], some []⟩ : Store).table .articles = some [palace] := rfl
  have sorted : Sql.SortKey.choose (Resource.usualSort .articles) none =
      .ok (Resource.usualSort .articles) := rfl
  refine ⟨accepted, size, ?_, ?_, rfl⟩
  · cases condition with
    | none => exact absurd (fun group none => by cases none) high
    | some group =>
      refine ⟨group, conditioned, Nat.lt_of_not_le fun low => high ?_⟩
      exact fun other same => Option.some.inj same ▸ low
  · exact listed_of_high table conditioned sorted high

end Service

end PeriodicalSearch
