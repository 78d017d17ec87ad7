import PeriodicalSearch.Proofs.Api.SearchLimits
import PeriodicalSearch.Proofs.Issue.Codes
import PeriodicalSearch.Proofs.Query.SingleItem
import PeriodicalSearch.Proofs.Query.WrittenSize
import PeriodicalSearch.Proofs.Sql.CellText
import PeriodicalSearch.Proofs.Store.Selection

/-! Searches of the issues from the request to the response. A search for codes and numbers lists
exactly the issues that one of its terms or filters names, whatever its other terms are, as long as
the database can evaluate it. -/

namespace PeriodicalSearch

open Text

namespace Issue

def codeFields : List String := ["code", "volume", "issue"]

def IsFilter (field : String) : FilterValue Date → Prop
  | .text _ _ => field ∈ codeFields
  | .range _ => False

def IsCodeQuery (query : Query) : Prop :=
  ∀ entry ∈ query.filters.entries, IsFilter entry.1 entry.2

/-- The filter of a field holds of the issue; blanks around its text do not count. -/
def Satisfies (issue : Issue) (field : String) : FilterValue Date → Prop
  | .text _ value =>
    field = "code" ∧ issue.IsNamedBy (trimBlanks value.toList) ∨
      field = "volume" ∧ WritesNumber (trimBlanks value.toList) issue.volumeNum.toInt ∨
        field = "issue" ∧ WritesNumber (trimBlanks value.toList) issue.issueNum.toInt
  | .range _ => False

instance (issue : Issue) (field : String) : (value : FilterValue Date) →
    Decidable (issue.Satisfies field value)
  | .text _ _ => inferInstanceAs (Decidable (_ ∨ _))
  | .range _ => inferInstanceAs (Decidable False)

/-- A search finds the issue: the search is empty, or one of its terms is a code of the issue, or
one of its filters holds. -/
def Matches (query : Query) (issue : Issue) : Prop :=
  query.isEmpty = true ∨ (∃ term ∈ query.terms, issue.IsNamedBy (trimBlanks term.toList)) ∨
    ∃ entry ∈ query.filters.entries, issue.Satisfies entry.1 entry.2

instance (query : Query) (issue : Issue) : Decidable (Matches query issue) :=
  inferInstanceAs (Decidable (_ ∨ _))

def filterFragment (field : String) : FilterValue Date → Predicate
  | .text _ value =>
    if field = "code" then codePredicate value
    else if field = "volume" then numberPredicate "volume_num" value
    else numberPredicate "issue_num" value
  | .range _ => .nothing

def fragments (query : Query) : List Predicate :=
  query.terms.map codePredicate ++
    query.filters.entries.map fun entry => filterFragment entry.1 entry.2

theorem filterPredicate_eq {field : String} {value : FilterValue Date}
    (filters : IsFilter field value) :
    searchProfile.filterPredicate field value = .ok (filterFragment field value) := by
  cases value with
  | range range => cases filters
  | text comparison value =>
    rw [IsFilter, codeFields, List.mem_cons, List.mem_cons, List.mem_singleton] at filters
    rcases filters with rfl | rfl | rfl <;> rfl

theorem holdsOn_filterFragment {issue : Issue} {field : String} {value : FilterValue Date}
    (filters : IsFilter field value) :
    (filterFragment field value).holdsOn issue.row = true ↔ issue.Satisfies field value := by
  cases value with
  | range range => cases filters
  | text comparison value =>
    rw [IsFilter, codeFields, List.mem_cons, List.mem_cons, List.mem_singleton] at filters
    rw [filterFragment, Satisfies]
    rcases filters with rfl | rfl | rfl
    · simp [holdsOn_codePredicate]
    · simp [holdsOn_numberPredicate column?_volumeNum rfl]
    · simp [holdsOn_numberPredicate column?_issueNum rfl]

theorem known_codePredicate (text : String) :
    ∀ field ∈ (codePredicate text).fields, Resource.issues.entity.Knows field := by
  have volume := Entity.knows_of_column? column?_volumeNum
  have number := Entity.knows_of_column? column?_issueNum
  rw [codePredicate]
  split
  next code _ =>
    rw [IssueCode.predicate]
    split
    next => simp [volume, number]
    next => simp [volume]
  next => simp

theorem known_numberPredicate {field : String} (known : Resource.issues.entity.Knows field)
    (value : String) :
    ∀ other ∈ (numberPredicate field value).fields, Resource.issues.entity.Knows other := by
  rw [numberPredicate]
  split
  next => simp [known]
  next => simp

theorem known_filterFragment (field : String) (value : FilterValue Date) :
    ∀ other ∈ (filterFragment field value).fields, Resource.issues.entity.Knows other := by
  cases value with
  | range range =>
    rw [filterFragment]
    simp
  | text comparison value =>
    rw [filterFragment]
    split
    · exact known_codePredicate value
    · split
      · exact known_numberPredicate (Entity.knows_of_column? column?_volumeNum) value
      · exact known_numberPredicate (Entity.knows_of_column? column?_issueNum) value

theorem known_fragments (query : Query) : ∀ predicate ∈ Predicate.union? (fragments query),
    ∀ field ∈ predicate.fields, Resource.issues.entity.Knows field := by
  refine Predicate.forall_fields_union? ?_
  rw [fragments, List.forall_mem_append, List.forall_mem_map, List.forall_mem_map]
  exact ⟨fun term _ => known_codePredicate term, fun entry _ => known_filterFragment _ _⟩

theorem length_fragments (query : Query) : (fragments query).length = query.size := by
  rw [fragments, List.length_append, List.length_map, List.length_map, Query.size]

theorem width_eq_size (query : Query) : searchProfile.width query = query.size := by
  have one : searchProfile.termWidth = 1 := rfl
  rw [SearchProfile.width, one, Nat.one_mul, Query.size]

section

variable {query : Query} (codes : IsCodeQuery query)
include codes

theorem parts : searchProfile.Parts query (query.terms.map codePredicate)
    (query.filters.entries.map fun entry => filterFragment entry.1 entry.2) where
  terms := mapM_eq_ok_map fun _ _ => rfl
  filters := mapM_eq_ok_map fun entry member => filterPredicate_eq (codes entry member)

theorem holdsOn_fragments (issue : Issue) :
    (Predicate.union? (fragments query)).all (Predicate.holdsOn issue.row) = true ↔
      Matches query issue := by
  have filters : ∀ entry ∈ query.filters.entries,
      ((filterFragment entry.1 entry.2).holdsOn issue.row = true ↔
        issue.Satisfies entry.1 entry.2) := fun entry member =>
    holdsOn_filterFragment (codes entry member)
  have empty : (fragments query).isEmpty = query.isEmpty := by
    rw [fragments, Query.isEmpty, Bool.eq_iff_iff]
    simp
  rw [Predicate.all_holdsOn_union?, Bool.or_eq_true, empty, List.any_eq_true, Matches]
  simp only [fragments, List.mem_append, List.mem_map, or_and_right, exists_or,
    exists_exists_and_eq_and, holdsOn_codePredicate]
  refine or_congr_right (or_congr_right ?_)
  exact exists_congr fun entry => and_congr_right fun member => filters entry member

theorem length_filters_le : query.filters.entries.length ≤ codeFields.length := by
  refine Filters.length_entries_le fun entry member => ?_
  obtain ⟨field, value⟩ := entry
  have filters := codes _ member
  cases value with
  | text comparison value => exact filters
  | range range => cases filters

/-- The condition of a search keeps the issues that the search finds. It has a level for each term
and filter, and hardly more. -/
theorem exists_condition {search : String} (accepted : Query.parse search = .ok query) :
    ∃ condition, Resource.issues.searchProfile.filter Resource.issues (some search) =
        .ok condition ∧
      (∀ issue : Issue, Store.isSelected (condition.map ConditionGroup.expression) issue =
        decide (Matches query issue)) ∧
      (query.size + 4 ≤ Sql.maxHeight →
        ∀ group ∈ condition, group.expression.height ≤ Sql.maxHeight) ∧
      (Sql.maxHeight < query.size →
        ¬∀ group ∈ condition, group.expression.height ≤ Sql.maxHeight) := by
  obtain ⟨found, condition, compiled, conditioned, conditions⟩ :=
    SearchProfile.exists_condition? (Resource.neverFails .issues) Resource.issues.entity accepted
  have whole : found = Predicate.union? (fragments query) :=
    Except.ok.inj (compiled.symm.trans (parts codes).predicate?_eq)
  have known : ∀ predicate ∈ found, ∀ field ∈ predicate.fields, Resource.issues.entity.Knows field :=
    whole ▸ known_fragments query
  have bounds := Resource.height_bounds .issues compiled conditions
  have width : Resource.issues.searchProfile.width query = query.size :=
    width_eq_size query
  rw [width] at bounds
  refine ⟨condition, conditioned, fun issue => ?_, ?_, ?_⟩
  · rw [Store.isSelected_of_conditions conditions known, whole, Bool.eq_iff_iff,
      decide_eq_true_iff]
    exact holdsOn_fragments codes issue
  · intro few group member
    have filters := length_filters_le codes
    have fields : codeFields.length = 3 := rfl
    have limit : Sql.maxHeight = 1000 := rfl
    have upper := (bounds group member).1
    omega
  · intro many low
    cases condition with
    | none =>
      cases conditions
      have length := length_fragments query
      cases made : fragments query with
      | nil =>
        rw [made, List.length_nil] at length
        omega
      | cons first others =>
        rw [made] at whole
        cases whole
    | some group =>
      have lower := (bounds group rfl).2 known
      have upper := low group rfl
      omega

end

theorem matches_term {text : String} {issue : Issue} :
    Matches (.ofItems [.term text]) issue ↔ issue.IsNamedBy (trimBlanks text.toList) := by
  simp [Matches, Query.ofItems_term, Query.isEmpty, Filters.empty]

theorem matches_filter {field : String} {value : FilterValue Date} {issue : Issue} :
    Matches (.ofItems [.filter field value]) issue ↔ issue.Satisfies field value := by
  simp [Matches, Query.ofItems_filter, Query.isEmpty]

def codeSearches (code : List Char) : List String :=
  [String.ofList code, Query.filterSearch "code" .contains code,
    Query.filterSearch "code" .equals code]

theorem shortName_eq {issue : Issue} (volume : 0 ≤ issue.volumeNum.toInt)
    (number : 0 ≤ issue.issueNum.toInt) : issue.shortName = String.ofList
      ('v' :: (digits issue.volumeNum.toInt.natAbs ++ 'i' :: digits issue.issueNum.toInt.natAbs)) := by
  have name : issue.shortName =
      "v" ++ toString issue.volumeNum.toInt ++ "i" ++ toString issue.issueNum.toInt := rfl
  rw [← String.toList_inj, name, String.toList_ofList]
  simp only [String.toList_append, Sql.toList_toString_of_nonneg volume,
    Sql.toList_toString_of_nonneg number]
  simp

theorem alphanum_of_letter {c d : Char} (letter : c.toLower = d) (inWord : d.isAlphanum = true) :
    c.isAlphanum = true := by
  have same : c.toLower.isAlphanum = c.isAlphanum := apply_toLower (by decide) c
  rw [← same, letter, inWord]

theorem alphanum_of_code {v i : Char} {volume number : List Char} (letter : v.toLower = 'v')
    (separator : i.toLower = 'i') (ofVolume : IsNumeral volume) (ofIssue : IsNumeral number) :
    ∀ c ∈ v :: (volume ++ i :: number), c.isAlphanum = true := by
  rw [List.forall_mem_cons, List.forall_mem_append, List.forall_mem_cons]
  exact ⟨alphanum_of_letter letter rfl, alphanum_of_numeral ofVolume,
    alphanum_of_letter separator rfl, alphanum_of_numeral ofIssue⟩

theorem utf8ByteSize_shortName_le {issue : Issue} (volume : 0 ≤ issue.volumeNum.toInt)
    (number : 0 ≤ issue.issueNum.toInt) : issue.shortName.utf8ByteSize ≤ Query.maxLength := by
  have width (value : Int32) : (digits value.toInt.natAbs).length ≤ 10 := by
    have lower := value.le_toInt
    have upper := value.toInt_lt
    exact (Nat.length_toDigits_le_iff (by decide) (by decide)).2 (by omega)
  have inWord := @alphanum_of_code 'v' 'i' _ _ rfl rfl
    (isNumeral_digits issue.volumeNum.toInt.natAbs) (isNumeral_digits issue.issueNum.toInt.natAbs)
  rw [shortName_eq volume number, utf8ByteSize_ofList,
    utf8Length_of_ascii fun c member => ascii_of_isAlphanum (inWord c member)]
  have volumes := width issue.volumeNum
  have numbers := width issue.issueNum
  have limit : Query.maxLength = 10000 := rfl
  simp only [List.length_cons, List.length_append]
  omega

end Issue

namespace Service

section

variable {store : Store} {issues : List Issue} {sort : Option String}
  {key : Sql.SortKey Resource.issues} (table : store.issues = some issues)
  (sorted : Sql.SortKey.choose (Resource.usualSort .issues) sort = .ok key)
include table sorted

/-- A search for codes and numbers lists the issues that it finds, if it has not too many terms and
filters. -/
theorem lists_of_codeQuery {search : String} {query : Query}
    (accepted : Query.parse search = .ok query) (codes : Issue.IsCodeQuery query)
    (small : query.size + 4 ≤ Sql.maxHeight) :
    Lists store .issues search sort (issues.filter fun issue => Issue.Matches query issue) := by
  have table : store.table .issues = some issues := table
  obtain ⟨condition, conditioned, selected, low, -⟩ := Issue.exists_condition codes accepted
  rw [← List.filter_congr fun issue _ => selected issue]
  exact lists_of_condition table conditioned sorted (low small)

theorem lists_of_item {search : String} {item : Query.Item Date}
    (accepted : Query.parse search = .ok (.ofItems [item]))
    (codes : Issue.IsCodeQuery (.ofItems [item])) {wanted : Issue → Bool}
    (finds : ∀ issue, Issue.Matches (.ofItems [item]) issue ↔ wanted issue = true) :
    Lists store .issues search sort (issues.filter wanted) := by
  have one : (Query.ofItems [item]).size ≤ 1 := Query.size_ofItems_le [item]
  have limit : Sql.maxHeight = 1000 := rfl
  have same : (fun issue => decide (Issue.Matches (.ofItems [item]) issue)) = wanted :=
    funext fun issue => Bool.eq_iff_iff.2 (decide_eq_true_iff.trans (finds issue))
  rw [← same]
  exact lists_of_codeQuery table sorted accepted codes (by omega)

theorem lists_of_filter {field : String} {comparison : Comparison} {text : List Char}
    (named : field ∈ Issue.codeFields) (nonempty : text ≠ [])
    (inWord : ∀ c ∈ text, c.isAlphanum = true)
    (short : (Query.filterSearch field comparison text).utf8ByteSize ≤ Query.maxLength)
    {wanted : Issue → Bool}
    (finds : ∀ issue : Issue, issue.Satisfies field (.text comparison (String.ofList text)) ↔
      wanted issue = true) :
    Lists store .issues (Query.filterSearch field comparison text) sort
      (issues.filter wanted) := by
  have name : Query.isBare field.toList = true := by
    rw [Issue.codeFields, List.mem_cons, List.mem_cons, List.mem_singleton] at named
    rcases named with rfl | rfl | rfl <;> decide
  have noRange : text.head? ≠ some '(' := fun opening => by
    cases inWord '(' (List.mem_of_mem_head? opening)
  have accepted := Query.parse_filterSearch name (Query.isBare_of_alphanum nonempty inWord)
    noRange short
  refine lists_of_item table sorted accepted (fun entry member => ?_) fun issue =>
    Issue.matches_filter.trans (finds issue)
  rw [Query.ofItems_filter] at member
  rw [List.mem_singleton.1 member]
  exact named

theorem lists_of_code {code : List Char} (nonempty : code ≠ [])
    (inWord : ∀ c ∈ code, c.isAlphanum = true) {wanted : Issue → Bool}
    (names : ∀ issue : Issue, issue.IsNamedBy code ↔ wanted issue = true) :
    ∀ search ∈ Issue.codeSearches code, search.utf8ByteSize ≤ Query.maxLength →
      Lists store .issues search sort (issues.filter wanted) := by
  have trimmed : trimBlanks (String.ofList code).toList = code := by
    rw [String.toList_ofList, trimBlanks_of_alphanum inWord]
  have bare := Query.isBare_of_alphanum nonempty inWord
  have satisfies (comparison : Comparison) (issue : Issue) :
      issue.Satisfies "code" (.text comparison (String.ofList code)) ↔ wanted issue = true := by
    rw [← names, Issue.Satisfies, trimmed]
    simp
  intro search member short
  rw [Issue.codeSearches, List.mem_cons, List.mem_cons, List.mem_singleton] at member
  rcases member with rfl | rfl | rfl
  · refine lists_of_item table sorted (Query.parse_of_term bare short)
      (fun entry none => nomatch none) fun issue => ?_
    rw [Issue.matches_term, trimmed, names]
  · exact lists_of_filter table sorted (by decide) nonempty inWord short (satisfies _)
  · exact lists_of_filter table sorted (by decide) nonempty inWord short (satisfies _)

theorem lists_of_number {field : String} {comparison : Comparison} {text : List Char}
    (named : field ∈ Issue.codeFields) (numeral : IsNumeral text)
    (short : (Query.filterSearch field comparison text).utf8ByteSize ≤ Query.maxLength)
    {column : Issue → Int32}
    (satisfies : ∀ issue : Issue, issue.Satisfies field (.text comparison (String.ofList text)) ↔
      WritesNumber (trimBlanks (String.ofList text).toList) (column issue).toInt) :
    Lists store .issues (Query.filterSearch field comparison text) sort
      (issues.filter fun issue => (column issue).toInt = decimalValue text) := by
  have inWord := alphanum_of_numeral numeral
  refine lists_of_filter table sorted named numeral.1 inWord short fun issue => ?_
  rw [satisfies, String.toList_ofList, trimBlanks_of_alphanum inWord, decide_eq_true_iff, eq_comm]
  exact and_iff_right numeral

/-- A request for the issues by a code, as a term or as a filter, lists the issues that the code
names, in whatever case its letters and however long its numbers are; so does the short name of an
issue. A filter for a volume or a number lists the issues with that number. A search for several of
these lists every issue that one of them finds, and terms that are no codes find none, as long as
the search has not more terms and filters than the database can evaluate. -/
theorem get_of_issue_codes :
    (∀ issue ∈ issues, 0 ≤ issue.volumeNum.toInt → 0 ≤ issue.issueNum.toInt →
      Lists store .issues issue.shortName sort (issues.filter fun other =>
        other.volumeNum = issue.volumeNum ∧ other.issueNum = issue.issueNum)) ∧
    (∀ (v i : Char) (volume number : List Char), v.toLower = 'v' → i.toLower = 'i' →
      IsNumeral volume → IsNumeral number →
      ∀ search ∈ Issue.codeSearches (v :: (volume ++ i :: number)),
        search.utf8ByteSize ≤ Query.maxLength →
          Lists store .issues search sort (issues.filter fun issue =>
            issue.volumeNum.toInt = decimalValue volume ∧
              issue.issueNum.toInt = decimalValue number)) ∧
    (∀ (v : Char) (volume : List Char), v.toLower = 'v' → IsNumeral volume →
      ∀ search ∈ Issue.codeSearches (v :: volume), search.utf8ByteSize ≤ Query.maxLength →
        Lists store .issues search sort (issues.filter fun issue =>
          issue.volumeNum.toInt = decimalValue volume)) ∧
    (∀ (comparison : Comparison) (digits : List Char), IsNumeral digits →
      ((Query.filterSearch "volume" comparison digits).utf8ByteSize ≤ Query.maxLength →
        Lists store .issues (Query.filterSearch "volume" comparison digits) sort
          (issues.filter fun issue => issue.volumeNum.toInt = decimalValue digits)) ∧
      ((Query.filterSearch "issue" comparison digits).utf8ByteSize ≤ Query.maxLength →
        Lists store .issues (Query.filterSearch "issue" comparison digits) sort
          (issues.filter fun issue => issue.issueNum.toInt = decimalValue digits))) ∧
    ∀ (search : String) (query : Query), Query.parse search = .ok query →
      Issue.IsCodeQuery query →
      (query.size + 4 ≤ Sql.maxHeight →
        Lists store .issues search sort
          (issues.filter fun issue => Issue.Matches query issue)) ∧
      (Sql.maxHeight < query.size → Fails store .issues search sort) := by
  have codes : ∀ (v i : Char) (volume number : List Char), v.toLower = 'v' → i.toLower = 'i' →
      IsNumeral volume → IsNumeral number →
      ∀ search ∈ Issue.codeSearches (v :: (volume ++ i :: number)),
        search.utf8ByteSize ≤ Query.maxLength →
          Lists store .issues search sort (issues.filter fun issue =>
            issue.volumeNum.toInt = decimalValue volume ∧
              issue.issueNum.toInt = decimalValue number) := by
    intro v i volume number letter separator ofVolume ofIssue
    refine lists_of_code table sorted (List.cons_ne_nil _ _) ?_ fun issue => ?_
    · exact Issue.alphanum_of_code letter separator ofVolume ofIssue
    · rw [Issue.isNamedBy_both_iff letter separator ofVolume ofIssue, decide_eq_true_iff, eq_comm,
        @eq_comm _ (decimalValue number : Int)]
  refine ⟨?_, codes, ?_, ?_, ?_⟩
  · intro issue _ volume number
    have name := Issue.shortName_eq volume number
    have lists := codes 'v' 'i' _ _ rfl rfl (isNumeral_digits issue.volumeNum.toInt.natAbs)
      (isNumeral_digits issue.issueNum.toInt.natAbs) issue.shortName
      (name ▸ List.mem_cons_self) (Issue.utf8ByteSize_shortName_le volume number)
    have same {other own : Int32} (nonneg : 0 ≤ own.toInt) :
        other.toInt = ((decimalValue (digits own.toInt.natAbs) : Nat) : Int) ↔ other = own := by
      rw [decimalValue_digits, Int.natAbs_of_nonneg nonneg, Int32.toInt_inj]
    simp only [same volume, same number] at lists
    exact lists
  · intro v volume letter numeral
    refine lists_of_code table sorted (List.cons_ne_nil _ _) ?_ fun issue => ?_
    · exact List.forall_mem_cons.2 ⟨Issue.alphanum_of_letter letter rfl,
        alphanum_of_numeral numeral⟩
    · rw [Issue.isNamedBy_volume_iff letter numeral, decide_eq_true_iff, eq_comm]
  · intro comparison digits numeral
    constructor
    · intro short
      exact lists_of_number table sorted (by decide) numeral short fun issue => by
        simp [Issue.Satisfies]
    · intro short
      exact lists_of_number table sorted (by decide) numeral short fun issue => by
        simp [Issue.Satisfies]
  · intro search query accepted filters
    refine ⟨lists_of_codeQuery table sorted accepted filters, fun many => ?_⟩
    obtain ⟨condition, conditioned, -, -, high⟩ := Issue.exists_condition filters accepted
    have table : store.table .issues = some issues := table
    exact fails_of_condition table conditioned sorted (high many)

end

def thirdVolume : List Issue := [⟨1, 3, 2, none⟩, ⟨2, 3, 1, none⟩]

/-- The short name of the first issue lists this issue alone, and so does a filter with the same
code in capitals and with zeros in front of its numbers. -/
theorem get_of_short_name :
    (∃ found : List (Record .issues), found.Perm [⟨1, 3, 2, none⟩] ∧
      get ⟨some thirdVolume, some [], some []⟩ "/api/v1/issues?search=v3i2" =
        shown ⟨some "v3i2", none, none, none⟩ found) ∧
    ∃ found : List (Record .issues), found.Perm [⟨1, 3, 2, none⟩] ∧
      get ⟨some thirdVolume, some [], some []⟩ "/api/v1/issues?search=code=V03I02" =
        shown ⟨some "code=V03I02", none, none, none⟩ found := by
  have table : (⟨some thirdVolume, some [], some []⟩ : Store).issues = some thirdVolume := rfl
  have sorted : Sql.SortKey.choose (Resource.usualSort .issues) none =
      .ok (Resource.usualSort .issues) := rfl
  obtain ⟨names, codes, -⟩ := get_of_issue_codes table sorted
  constructor
  · obtain ⟨found, perm, response, -⟩ :=
      names ⟨1, 3, 2, none⟩ List.mem_cons_self (by decide) (by decide)
    have asks : AsksFor "/api/v1/issues?search=v3i2" .issues ⟨some "v3i2", none, none, none⟩ :=
      ⟨"search=v3i2".toList, by cbv, by cbv⟩
    have name : (⟨1, 3, 2, none⟩ : Issue).shortName = "v3i2" := by cbv
    exact ⟨found, perm, response _ _ asks (congrArg some name.symm) rfl⟩
  · have code : "code=V03I02" = Query.filterSearch "code" .equals
        ('V' :: (['0', '3'] ++ 'I' :: ['0', '2'])) := by
      rw [← String.toList_inj, Query.toList_filterSearch]
      decide
    have short : "code=V03I02".utf8ByteSize ≤ Query.maxLength := by
      rw [utf8ByteSize_eq]
      decide
    obtain ⟨found, perm, response, -⟩ := codes 'V' 'I' ['0', '3'] ['0', '2'] rfl rfl
      (by decide) (by decide) "code=V03I02"
      (code ▸ List.mem_cons_of_mem _ (List.mem_cons_of_mem _ List.mem_cons_self)) short
    have asks : AsksFor "/api/v1/issues?search=code=V03I02" .issues
        ⟨some "code=V03I02", none, none, none⟩ :=
      ⟨"search=code=V03I02".toList, by cbv, by cbv⟩
    exact ⟨found, perm, response _ _ asks rfl rfl⟩

def codeAmongOthers : Query := ⟨"v3i2" :: List.replicate 1000 "x", Filters.empty⟩

theorem parse_codeAmongOthers : Query.parse codeAmongOthers.text = .ok codeAmongOthers := by
  have items : codeAmongOthers.items = .term "v3i2" :: List.replicate 1000 (.term "x") := by
    rw [Query.items, codeAmongOthers, List.map_cons, List.map_replicate]
    exact List.append_nil _
  have size : Query.spacedSize codeAmongOthers.items = 2005 := by
    rw [items, Query.spacedSize_cons, Query.spacedSize_replicate]
    decide
  refine Query.parse_text_of_isWritable ⟨?_, ?_⟩ ?_
  · exact fun entry none => absurd none List.not_mem_nil
  · exact fun entry none => absurd none List.not_mem_nil
  · exact Nat.le_trans (Query.utf8ByteSize_text_le _) (size ▸ by decide)

/-- The search is accepted and would find the issue, but its other terms make it too high for the
database, so that it fails. -/
theorem listed_of_codeAmongOthers :
    Query.parse codeAmongOthers.text = .ok codeAmongOthers ∧ IssueCode.read "x" = .error ⟨"x"⟩ ∧
      Issue.Matches codeAmongOthers ⟨1, 3, 2, none⟩ ∧
      listed ⟨some thirdVolume, some [], some []⟩ .issues
        ⟨some codeAmongOthers.text, none, none, none⟩ = failed .database ∧
      (failed .database).status = 500 := by
  have accepted := parse_codeAmongOthers
  have codes : Issue.IsCodeQuery codeAmongOthers := fun entry none => nomatch none
  have finds : Issue.Matches codeAmongOthers ⟨1, 3, 2, none⟩ :=
    .inr (.inl ⟨"v3i2", List.mem_cons_self, by decide +kernel⟩)
  refine ⟨accepted, by cbv, finds, ?_, rfl⟩
  obtain ⟨condition, conditioned, -, -, high⟩ := Issue.exists_condition codes accepted
  have many : Sql.maxHeight < codeAmongOthers.size := by
    rw [Query.size, codeAmongOthers, List.length_cons, List.length_replicate]
    decide
  have table : (⟨some thirdVolume, some [], some []⟩ : Store).table .issues = some thirdVolume := rfl
  have sorted : Sql.SortKey.choose (Resource.usualSort .issues) none =
      .ok (Resource.usualSort .issues) := rfl
  exact listed_of_high table conditioned sorted (high many)

end Service

end PeriodicalSearch
