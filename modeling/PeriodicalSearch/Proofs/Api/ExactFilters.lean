import PeriodicalSearch.Proofs.Api.SearchLimits
import PeriodicalSearch.Proofs.Record.ShownText
import PeriodicalSearch.Proofs.Search.AddedFilter
import PeriodicalSearch.Proofs.Store.Selection

/-! Searches by a filter of one column, and filters for the text that a response shows of a column.
The shown text of a number or a day lists the records with this number or day. That of a moment or
an identifier lists nothing, not even the record that shows it. -/

namespace PeriodicalSearch

open Text

def Query.exactSearch (column : String) (text : List Char) : String :=
  filterSearch column .equals ('"' :: (text ++ ['"']))

namespace Column

variable {resource : Resource} (column : resource.entity.Column)

theorem column?_name : resource.entity.column? column.name = some column := by
  cases resource <;> cases column <;> decide

theorem isBare_name : Query.isBare column.name.toList = true := by
  cases resource <;> cases column <;> decide

theorem utf8ByteSize_name_le : column.name.utf8ByteSize ≤ 12 := by
  cases resource <;> cases column <;> decide

/-- A column that does not hold text has no transformer. -/
theorem filterPredicate_name {column : resource.entity.Column} (untexted : kind column ≠ .text)
    (value : String) : resource.searchProfile.filterPredicate column.name (.text .equals value) =
      .ok (.compare column.name (.equals value)) := by
  cases resource <;> cases column <;> first | rfl | exact absurd rfl untexted

theorem parse_exactSearch {text : List Char} (marks : ∀ c ∈ text, IsMark c)
    (width : text.length ≤ 36) : Query.parse (Query.exactSearch column.name text) =
      .ok (.ofItems [.filter column.name (.text .equals (String.ofList text))]) := by
  have quoted := quotedForm_of_marks marks
  have size : (Query.exactSearch column.name text).utf8ByteSize ≤ Query.maxLength := by
    have name := utf8ByteSize_name_le column
    have inner := utf8Length_of_ascii fun c member => (marks c member).isPlain.1
    have one : '"'.utf8Size = 1 ∧ '='.utf8Size = 1 := by decide
    rw [Query.exactSearch, Query.filterSearch, String.utf8ByteSize_append, utf8ByteSize_ofList]
    simp only [Comparison.delimiter, utf8Length_cons, utf8Length_append, utf8Length_nil, inner, one]
    have limit : Query.maxLength = 10000 := rfl
    omega
  rw [Query.exactSearch, ← quoted] at size ⊢
  exact Query.parse_filterSearch_quoted (isBare_name column) size

end Column

namespace Service

theorem shown_nil {resource : Resource} (options : ListOptions) :
    shown options ([] : List (Record resource)) = ⟨200, some 0, .json (.array [])⟩ := by
  rw [shown, Listing.paginate]
  simp

section

variable {store : Store} {resource : Resource} {records : List (Record resource)}
  {sort : Option String} {key : Sql.SortKey resource}
  (table : store.table resource = some records)
  (sorted : Sql.SortKey.choose resource.usualSort sort = .ok key)
include table sorted

/-- A search by one filter that compares a column lists the records of whose cell the comparison
holds. -/
theorem lists_of_comparison {search field name : String} {value : FilterValue Date}
    {lookup : Lookup} {column : resource.entity.Column}
    (accepted : Query.parse search = .ok (.ofItems [.filter field value]))
    (made : resource.searchProfile.filterPredicate field value = .ok (.compare name lookup))
    (named : resource.entity.column? name = some column) :
    Lists store resource search sort
      (records.filter fun record => lookup.accepts (record.cell column)) := by
  obtain ⟨found, condition, compiled, conditioned, conditions⟩ :=
    SearchProfile.exists_condition? resource.neverFails resource.entity accepted
  have whole : found = Predicate.union? [.compare name lookup] :=
    Except.ok.inj (compiled.symm.trans (SearchProfile.parts_of_filter made).predicate?_eq)
  have known : ∀ predicate ∈ found, ∀ field ∈ predicate.fields, resource.entity.Knows field := by
    rw [whole]
    refine Predicate.forall_fields_union? (List.forall_mem_singleton.2 ?_)
    rw [Predicate.fields_compare]
    exact List.forall_mem_singleton.2 (Entity.knows_of_column? named)
  have selected (record : Record resource) :
      Store.isSelected (condition.map ConditionGroup.expression) record =
        lookup.accepts (record.cell column) := by
    rw [Store.isSelected_of_conditions conditions known, whole, Predicate.all_holdsOn_union?,
      List.any_cons, Predicate.holdsOn_compare named]
    exact Bool.or_false _
  have low : ∀ group ∈ condition, group.expression.height ≤ Sql.maxHeight := by
    intro group member
    have upper := (resource.height_bounds compiled conditions group member).1
    have one : (Query.ofItems [.filter field value]).size ≤ 1 := Query.size_ofItems_le [_]
    have width := resource.width_le (.ofItems [.filter field value])
    have filters : (Query.ofItems [.filter field value]).filters.entries.length ≤
        (Query.ofItems [.filter field value]).size := Nat.le_add_left ..
    have limit : Sql.maxHeight = 1000 := rfl
    omega
  rw [← List.filter_congr fun record _ => selected record]
  exact lists_of_condition table conditioned sorted low

section

variable {record : Record resource} {column : resource.entity.Column}
  (untexted : Column.kind column ≠ .text) {shown : List Char}
  (shows : (record.json.member? column.name).bind Json.shownText? = some shown)
include untexted shows

/-- The text that a response shows of a column lists the records of whose cells it is the text. -/
theorem lists_of_shown_text : Lists store resource (Query.exactSearch column.name shown) sort
    (records.filter fun other =>
      (Column.kind column).isKeptAsShown ∧ other.cell column = record.cell column) := by
  rw [Record.shownText?_json] at shows
  have ofKind := record.kind?_of_shows shows
  have own : (record.cell column).kind? ≠ some .text := fun same =>
    untexted (Option.some.inj (ofKind.symm.trans same))
  have marks := Sql.Cell.marks_shownText own shows
  have width := Sql.Cell.length_shownText_le own (fun _ => record.natAbs_lt_of_cell) shows
  have lists := lists_of_comparison table sorted (Column.parse_exactSearch column marks width)
    (Column.filterPredicate_name untexted (String.ofList shown)) (Column.column?_name column)
  have accepts (other : Record resource) :
      (Lookup.equals (String.ofList shown)).accepts (other.cell column) =
        decide ((Column.kind column).isKeptAsShown ∧ other.cell column = record.cell column) := by
    rw [Bool.eq_iff_iff, decide_eq_true_iff]
    exact Lookup.accepts_equals_shown untexted ofKind (other.kind_of_cell column) shows
  rw [← List.filter_congr fun other _ => accepts other]
  exact lists

theorem lists_nothing_of_shown_text (unkept : (Column.kind column).isKeptAsShown = false) :
    Lists store resource (Query.exactSearch column.name shown) sort [] := by
  have none : (records.filter fun other =>
      (Column.kind column).isKeptAsShown ∧ other.cell column = record.cell column) = [] :=
    List.filter_eq_nil_iff.2 fun other _ => by simp [unkept]
  rw [← none]
  exact lists_of_shown_text table sorted untexted shows

/-- The text that a response shows of a number or a day of a record, in quotes behind the name of
the column, lists the records that have this number or day in the column, the record itself among
them. The text that is shown of a moment or an identifier lists no record. -/
theorem get_of_shown_text (member : record ∈ records) :
    ((Column.kind column).isKeptAsShown = true →
      record ∈ (records.filter fun other => other.cell column = record.cell column) ∧
      Lists store resource (Query.exactSearch column.name shown) sort
        (records.filter fun other => other.cell column = record.cell column)) ∧
    ((Column.kind column).isKeptAsShown = false →
      Lists store resource (Query.exactSearch column.name shown) sort []) := by
  refine ⟨fun kept => ⟨List.mem_filter.2 ⟨member, decide_eq_true rfl⟩, ?_⟩,
    lists_nothing_of_shown_text table sorted untexted shows⟩
  have lists := lists_of_shown_text table sorted untexted shows
  simp only [kept, true_and] at lists
  exact lists

end

end

def dated : Record .issues := (⟨1, 3, 2, Date.ofYmd? 2020 6 1⟩ : Issue)

def undated : Record .issues := (⟨2, 3, 1, none⟩ : Issue)

/-- The day that is shown of the issue finds the issue. -/
theorem get_of_shown_day :
    (dated.json.member? "publish_date").bind Json.shownText? = some "2020-06-01".toList ∧
      ∃ found : List (Record .issues), found.Perm [dated] ∧
        get ⟨some [dated, undated], some [], some []⟩
          "/api/v1/issues?search=publish_date=%222020-06-01%22" =
            shown ⟨some "publish_date=\"2020-06-01\"", none, none, none⟩ found := by
  have shows : (dated.json.member? "publish_date").bind Json.shownText? =
      some "2020-06-01".toList := by cbv
  have untexted : Column.kind (Column.publishDate : Column .issues) ≠ .text := by decide
  have table : (⟨some [dated, undated], some [], some []⟩ : Store).table .issues =
      some [dated, undated] := rfl
  have sorted : Sql.SortKey.choose (Resource.usualSort .issues) none =
      .ok (Resource.usualSort .issues) := rfl
  obtain ⟨-, found, perm, response, -⟩ := (get_of_shown_text table sorted
    untexted shows List.mem_cons_self).1 rfl
  have asks : AsksFor "/api/v1/issues?search=publish_date=%222020-06-01%22" .issues
      ⟨some "publish_date=\"2020-06-01\"", none, none, none⟩ :=
    ⟨"search=publish_date=%222020-06-01%22".toList, by cbv, by cbv⟩
  have search : Query.exactSearch "publish_date" "2020-06-01".toList =
      "publish_date=\"2020-06-01\"" := by cbv
  exact ⟨shows, found, perm, response _ _ asks (congrArg some search.symm) rfl⟩

def almanac : Record .articles :=
  (⟨⟨1⟩, "Almanac", "", "Ann", "", none, some ⟨⟨2020, 1, 1, by decide⟩, 0, 0, 0, by decide⟩⟩ :
    Article)

/-- Neither the moment nor the identifier that is shown of the article finds the article. -/
theorem get_of_shown_moment_and_identifier :
    ((almanac.json.member? "published_at").bind Json.shownText? =
        some "2020-01-01T00:00:00Z".toList ∧
      get ⟨some [], some [almanac], some []⟩
        "/api/v1/articles?search=published_at=%222020-01-01T00:00:00Z%22" =
          ⟨200, some 0, .json (.array [])⟩) ∧
    (almanac.json.member? "id").bind Json.shownText? =
        some "00000000-0000-0000-0000-000000000001".toList ∧
      get ⟨some [], some [almanac], some []⟩
        "/api/v1/articles?search=id=%2200000000-0000-0000-0000-000000000001%22" =
          ⟨200, some 0, .json (.array [])⟩ := by
  have table : (⟨some [], some [almanac], some []⟩ : Store).table .articles = some [almanac] := rfl
  have sorted : Sql.SortKey.choose (Resource.usualSort .articles) none =
      .ok (Resource.usualSort .articles) := rfl
  have misses (column : Resource.articles.entity.Column) (untexted : Column.kind column ≠ .text)
      (unkept : (Column.kind column).isKeptAsShown = false) {shown : List Char}
      (shows : (almanac.json.member? column.name).bind Json.shownText? = some shown)
      {address : String} (asks : AsksFor address .articles
        ⟨some (Query.exactSearch column.name shown), none, none, none⟩) :
      get ⟨some [], some [almanac], some []⟩ address = ⟨200, some 0, .json (.array [])⟩ := by
    obtain ⟨found, perm, response, -⟩ :=
      lists_nothing_of_shown_text table sorted untexted shows unkept
    rw [response _ _ asks rfl rfl, perm.eq_nil, shown_nil]
  have moment : (almanac.json.member? "published_at").bind Json.shownText? =
      some "2020-01-01T00:00:00Z".toList := by cbv
  have identifier : (almanac.json.member? "id").bind Json.shownText? =
      some "00000000-0000-0000-0000-000000000001".toList := by cbv
  refine ⟨⟨moment, misses Column.publishedAt (by decide) rfl moment ?_⟩, identifier,
    misses Column.id (by decide) rfl identifier ?_⟩
  · exact ⟨"search=published_at=%222020-01-01T00:00:00Z%22".toList, by cbv, by cbv⟩
  · exact ⟨"search=id=%2200000000-0000-0000-0000-000000000001%22".toList, by cbv, by cbv⟩

end Service

end PeriodicalSearch
