import PeriodicalSearch.Proofs.Article.Search
import PeriodicalSearch.Proofs.Store.Selection

/-! Searches for a text that a record has. A search makes capitals of all letters, the database of
ASCII letters only. So a record is found by the text of one of its columns exactly if no character
of the text beyond ASCII has a capital other than itself. A text that is sought within a column must
besides be short enough for a pattern. -/

namespace PeriodicalSearch

open Text

namespace Sql

/-- The database reads some characters as another one, but none of them has capitals. -/
theorem map_readCharacter_capital_iff {c : Char} :
    (capital c).map readCharacter = [readCharacter c.toUpper] ↔ c.toNat < 0x80 ∨ capital c = [c] := by
  rw [← capital_eq_toUpper_iff]
  refine ⟨fun same => ?_, fun same => by rw [same, List.map_singleton]⟩
  by_cases ascii : c.toNat < 0x80
  · exact capital_eq_toUpper_iff.2 (.inl ascii)
  obtain ⟨d, single, read⟩ := List.map_eq_singleton_iff.1 same
  rw [toUpper_of_beyond ascii] at read ⊢
  -- Only a character that is read like another could pass for its capital, and such have none.
  by_cases odd : c = '\uFFFD' ∨ c = '\uFFFE' ∨ c = '\uFFFF'
  · rcases odd with rfl | rfl | rfl <;> decide +kernel
  · obtain ⟨other, plain⟩ := not_or.1 odd
    rw [readCharacter, readCharacter, if_neg plain] at read
    split at read
    · exact absurd read.symm other
    · rw [single, read]

theorem map_readCharacter_capitals_iff {text : List Char} :
    (capitals text).map readCharacter = (text.map Char.toUpper).map readCharacter ↔
      HasAsciiCase text := by
  rw [map_capitals_eq_iff]
  exact forall₂_congr fun c _ => map_readCharacter_capital_iff

end Sql

namespace Lookup

variable {text : String} (free : '\x00' ∉ text.toList)
include free

theorem accepts_contains_own_text_iff :
    (contains text).accepts (.text text.toList) = true ↔ HasAsciiCase text.toList := by
  refine decide_eq_true_iff.trans ?_
  rw [findsIn_capitals_iff free, Sql.readText, Sql.visible_map_toUpper, Sql.visible_of_free free,
    ← Sql.map_readCharacter_capitals_iff]
  constructor
  · intro contained
    refine contained.eq_of_length_le ?_
    simp only [List.length_map]
    exact length_le_length_capitals text.toList
  · intro same
    rw [same]

omit free in
theorem accepts_equals_own_text_iff :
    (equals text).accepts (.text text.toList) = true ↔ HasAsciiCase text.toList := by
  rw [← capitals_eq_map_toUpper_iff, eq_comm (a := capitals _)]
  change (text.toList.map Char.toUpper == capitals text.toList) = true ↔ _
  rw [beq_iff_eq]

theorem accepts_of_isInfix (cased : HasAsciiCase text.toList) {content : List Char}
    (part : text.toList <:+: Sql.visible content) :
    (contains text).accepts (.text content) = true := by
  refine decide_eq_true_iff.2 ((findsIn_capitals_iff free).2 ?_)
  rw [capitals_eq_map_toUpper_iff.2 cased, Sql.readText, Sql.visible_map_toUpper]
  exact (part.map Char.toUpper).map Sql.readCharacter

end Lookup

namespace Article

def quotedFields : List String := ["title", "sub_title", "author", "by", "body"]

/-- The search is for this text and nothing else, and the article has the text: as its title, or in
the field of a filter. -/
def Quotes (query : Query) (article : Article) (text : String) : Prop :=
  text = article.title ∧ query = ⟨[text], Filters.empty⟩ ∨
    ∃ field ∈ quotedFields, article.filterText? field = some text ∧ ∃ comparison,
      query = ⟨[], Filters.empty.set field (.text comparison text)⟩

theorem exists_column_of_quotedField {field : String} (quoted : field ∈ quotedFields) :
    ∃ name column, Resource.articles.entity.column? name = some column ∧
      (∀ (article : Article) (text : String), article.filterText? field = some text →
        article.row column = .text text.toList) ∧
      ∀ comparison text, fragments ⟨[], Filters.empty.set field (.text comparison text)⟩ =
        [.compare name (SearchProfile.textLookup comparison text)] := by
  simp only [quotedFields, List.mem_cons, List.not_mem_nil, or_false] at quoted
  rcases quoted with rfl | rfl | rfl | rfl | rfl
  · exact ⟨"title", .title, by decide, fun _ _ same => by cases same; rfl, fun _ _ => rfl⟩
  · exact ⟨"sub_title", .subTitle, by decide, fun _ _ same => by cases same; rfl, fun _ _ => rfl⟩
  · exact ⟨"author", .author, by decide, fun _ _ same => by cases same; rfl, fun _ _ => rfl⟩
  · exact ⟨"author", .author, by decide, fun _ _ same => by cases same; rfl, fun _ _ => rfl⟩
  · exact ⟨"body", .body, by decide, fun _ _ same => by cases same; rfl, fun _ _ => rfl⟩

section

variable {text : String} (free : '\x00' ∉ text.toList) (cased : HasAsciiCase text.toList)
include free cased

theorem holdsOn_own_text {article : Article} {name : String} {column : Column .articles}
    (named : Resource.articles.entity.column? name = some column)
    (own : article.row column = .text text.toList) (comparison : Comparison) :
    (Predicate.compare name (SearchProfile.textLookup comparison text)).holdsOn article.row =
      true := by
  rw [Predicate.holdsOn_compare named, own]
  cases comparison with
  | contains => exact (Lookup.accepts_contains_own_text_iff free).2 cased
  | equals => exact Lookup.accepts_equals_own_text_iff.2 cased

/-- One of the predicates of the search, which are few, holds of the article. -/
theorem holdsOn_of_quotes {query : Query} {article : Article} (quotes : Quotes query article text) :
    ∃ first others, fragments query = first :: others ∧ others.length ≤ 1 ∧
      (∀ fragment ∈ first :: others, IsColumnar fragment) ∧ first.holdsOn article.row = true := by
  rcases quotes with ⟨title, rfl⟩ | ⟨field, quoted, own, comparison, rfl⟩
  · have own : article.row Column.title = .text text.toList := title ▸ rfl
    refine ⟨.compare "title" (.contains text), [.compare "body" (.contains text)], rfl,
      Nat.le_refl _, fun fragment member => ?_,
      holdsOn_own_text free cased column?_title own .contains⟩
    simp only [List.mem_cons, List.not_mem_nil, or_false] at member
    rcases member with rfl | rfl
    · exact isColumnar_compare column?_title _
    · exact isColumnar_compare column?_body _
  · obtain ⟨name, column, named, holds, whole⟩ := exists_column_of_quotedField quoted
    refine ⟨_, [], whole comparison text, Nat.zero_le _, fun fragment member => ?_,
      holdsOn_own_text free cased named (holds article text own) comparison⟩
    rw [List.mem_singleton.1 member]
    exact isColumnar_compare named _

end

end Article

namespace Service

theorem exists_found_of_quotes {store : Store} {articles : List Article} {search : String}
    {query : Query} {sort : Option String} {key : Sql.SortKey Resource.articles}
    (table : store.articles = some articles) {article : Article} (member : article ∈ articles)
    {text : String} (free : '\x00' ∉ text.toList) (cased : HasAsciiCase text.toList)
    (accepted : Query.parse search = .ok query) (quotes : Article.Quotes query article text)
    (sorted : Sql.SortKey.choose (Resource.usualSort .articles) sort = .ok key) :
    ∃ found : List (Record .articles), article ∈ found ∧
      ∀ address options, AsksFor address .articles options → options.search = some search →
        options.sort = sort → get store address = shown options found := by
  obtain ⟨first, others, whole, few, columnar, holds⟩ := Article.holdsOn_of_quotes free cased quotes
  obtain ⟨predicate, condition, compiled, conditioned, conditions⟩ :=
    SearchProfile.exists_condition? (Resource.neverFails .articles) Resource.articles.entity accepted
  have made : predicate = Predicate.union? (first :: others) :=
    Except.ok.inj (compiled.symm.trans (whole ▸ Article.predicate?_eq query))
  have known : ∀ found ∈ predicate, ∀ field ∈ found.fields, Resource.articles.entity.Knows field :=
    made ▸ Predicate.forall_fields_union? fun fragment member => (columnar fragment member).known
  have low : ∀ group ∈ condition, group.expression.height ≤ Sql.maxHeight := by
    intro group member
    cases conditions with
    | unrestricted => cases member
    | unknown lacks => exact absurd (known _ rfl) lacks
    | known conditioned =>
      cases made
      cases member
      have bound := ConditionGroup.height_any_le conditioned fun fragment found =>
        (columnar fragment found).leaf
      have test : Lookup.maxTestHeight = 5 := rfl
      have limit : Sql.maxHeight = 1000 := rfl
      omega
  have selected : Store.isSelected (condition.map ConditionGroup.expression) article = true := by
    rw [Store.isSelected_of_conditions conditions known, made, Predicate.all_holdsOn_union?,
      Bool.or_eq_true]
    exact .inr (List.any_eq_true.2 ⟨first, List.mem_cons_self, holds⟩)
  have table : store.table .articles = some articles := table
  obtain ⟨found, perm, answers⟩ := exists_found_of_condition table conditioned sorted low
  exact ⟨found, perm.mem_iff.2 (List.mem_filter.2 ⟨member, selected⟩), answers⟩

/-- The text of a column finds its own record, and a search for the title, the author or another
text of an article finds the article, as far as only ASCII letters of the text have capitals. With
any other letter in it the text of a column does not even find its own record. To be found within a
column, a text must give a pattern that the database takes; the text of a search always does. -/
theorem selects_own_text_iff (store : Store) :
    (∀ (resource : Resource) (records : List (Record resource)),
      store.table resource = some records → ∀ record ∈ records,
      ∀ (field : String) (column : Column resource), resource.entity.column? field = some column →
      ∀ text : String, '\x00' ∉ text.toList →
        (record.cell column = .text text.toList →
          (store.Selects (.compare field (.contains text)) record ↔
            (Lookup.containsPattern text).utf8ByteSize ≤ Sql.maxPatternSize ∧
              HasAsciiCase text.toList) ∧
          (store.Selects (.compare field (.equals text)) record ↔ HasAsciiCase text.toList)) ∧
        ∀ content, record.cell column = .text content → text.toList <:+: Sql.visible content →
          (Lookup.containsPattern text).utf8ByteSize ≤ Sql.maxPatternSize →
          HasAsciiCase text.toList → store.Selects (.compare field (.contains text)) record) ∧
    ∀ articles : List Article, store.articles = some articles → ∀ article ∈ articles,
      ∀ text : String, '\x00' ∉ text.toList → HasAsciiCase text.toList →
      ∀ search query, Query.parse search = .ok query → Article.Quotes query article text →
      ∀ sort key, Sql.SortKey.choose (Resource.usualSort .articles) sort = .ok key →
        ∃ found : List (Record .articles), article ∈ found ∧
          ∀ address options, AsksFor address .articles options → options.search = some search →
            options.sort = sort → get store address = shown options found := by
  constructor
  · intro resource records table record member field column named text free
    have selects := Store.selects_compare_iff table member named
    refine ⟨fun own => ?_, fun content shown part short cased => ?_⟩
    · rw [selects, selects, own, Lookup.accepts_contains_own_text_iff free,
        Lookup.accepts_equals_own_text_iff]
      exact ⟨Iff.rfl, iff_of_eq (true_and _)⟩
    · rw [selects, shown]
      exact ⟨short, Lookup.accepts_of_isInfix free cased part⟩
  · intro articles table article member text free cased search query accepted quotes sort key sorted
    exact exists_found_of_quotes table member free cased accepted quotes sorted

def cafe : Record .articles := (⟨⟨1⟩, "Café", "", "ÅSA", "", none, none⟩ : Article)

def cafeStore : Store := ⟨some [], some [cafe], some []⟩

/-- The author, in capitals already, finds the article, and so does a part of the name. -/
theorem selects_own_author_in_capitals :
    cafeStore.Selects (.compare "author" (.equals "ÅSA")) cafe ∧
      cafeStore.Selects (.compare "author" (.contains "ÅSA")) cafe ∧
      cafeStore.Selects (.compare "author" (.contains "SA")) cafe := by
  have finds := (selects_own_text_iff cafeStore).1 .articles [cafe] rfl cafe List.mem_cons_self
    "author" .author (by decide)
  have cased : HasAsciiCase "ÅSA".toList := by decide +kernel
  obtain ⟨contains, equals⟩ := (finds "ÅSA" (by decide)).1 rfl
  have part := (finds "SA" (by decide)).2 "ÅSA".toList rfl (by decide)
  exact ⟨equals.2 cased, contains.2 ⟨by decide +kernel, cased⟩,
    part (by decide +kernel) (by decide +kernel)⟩

/-- The title, which ends in a small letter beyond ASCII, does not find the article. -/
theorem not_selects_own_title_in_small_letters :
    cafe.cell .title = .text "Café".toList ∧ '\x00' ∉ "Café".toList ∧
      ¬cafeStore.Selects (.compare "title" (.contains "Café")) cafe ∧
      ¬cafeStore.Selects (.compare "title" (.equals "Café")) cafe := by
  have table : cafeStore.table .articles = some [cafe] := rfl
  have selects := Store.selects_compare_iff table List.mem_cons_self Article.column?_title
  refine ⟨rfl, by decide, fun found => ?_, fun found => ?_⟩
  · exact absurd ((selects _).1 found).2 (by decide +kernel)
  · exact absurd ((selects _).1 found).2 (by decide +kernel)

end Service

end PeriodicalSearch
