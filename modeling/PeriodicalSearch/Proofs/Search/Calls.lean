import PeriodicalSearch.Proofs.Query.FilterLookup
import PeriodicalSearch.Proofs.Search.Parts

/-! The calls of functions that a search makes: one for each term where a function takes terms over,
and then, by field, one for each filter of a text whose field has a function. A search fails exactly
if one of its calls does, and reports the first. Otherwise every term and every filter has its place
in the predicate of the search. -/

namespace PeriodicalSearch

structure Call where
  transform : String → Except String Predicate
  text : String

namespace Call

def outcome (call : Call) : Except String Predicate := call.transform call.text

def Succeeds (call : Call) : Prop := ∃ predicate, call.outcome = .ok predicate

def fault? (call : Call) : Option SearchFailure :=
  failure? (call.outcome.mapError SearchFailure.transformer)

theorem fault?_eq_some_iff {call : Call} {failure : SearchFailure} :
    call.fault? = some failure ↔
      ∃ reason, call.outcome = .error reason ∧ failure = .transformer reason := by
  rw [fault?]
  cases call.outcome with
  | ok predicate =>
    exact iff_of_false (fun none => nomatch none) fun failed => nomatch failed.choose_spec.1
  | error reason =>
    constructor
    · intro same
      exact ⟨reason, rfl, (Option.some.inj same).symm⟩
    · rintro ⟨other, same, rfl⟩
      cases same
      rfl

theorem fault?_eq_none_iff {call : Call} : call.fault? = none ↔ call.Succeeds := by
  rw [fault?, Succeeds]
  cases call.outcome with
  | ok predicate => exact iff_of_true rfl ⟨predicate, rfl⟩
  | error reason =>
    exact iff_of_false (fun none => nomatch none) fun made => nomatch made.choose_spec

theorem reportsFirst (call : Call) :
    ReportsFirst fault? [call] (call.outcome.mapError .transformer) fun predicate =>
      call.outcome = .ok predicate := by
  refine ReportsFirst.mono (.single rfl) fun predicate made => ?_
  cases result : call.outcome with
  | ok other => rw [result] at made; cases made; rfl
  | error reason => rw [result] at made; cases made

end Call

inductive Transformer.Makes : Transformer → String → Predicate → Prop
  | compared (name term : String) : (column name).Makes term (.compare name (.contains term))
  | called {transform : String → Except String Predicate} {term : String} {predicate : Predicate}
      (made : transform term = .ok predicate) : (function transform).Makes term predicate

namespace SearchProfile

def termCalls (profile : SearchProfile) (terms : List String) : List Call :=
  match profile.termTransformer with
  | some (.function transform) => terms.map (Call.mk transform)
  | _ => []

def filterCall? (profile : SearchProfile) : String × FilterValue Date → Option Call
  | (field, .text _ value) =>
    match profile.transformer? field with
    | some (.function transform) => some ⟨transform, value⟩
    | _ => none
  | (_, .range _) => none

def calls (profile : SearchProfile) (query : Query) : List Call :=
  profile.termCalls query.terms ++ query.filters.entries.filterMap profile.filterCall?

/-- The members for terms: one for each field and term, or one for each term that a transformer
takes over. -/
inductive TermMembers (profile : SearchProfile) (terms : List String) : List Predicate → Prop
  | searched (untransformed : profile.termTransformer = none) :
      TermMembers profile terms (profile.fields.flatMap fun field =>
        terms.map fun term => .compare field (.contains term))
  | transformed {transformer : Transformer} {made : List Predicate}
      (registered : profile.termTransformer = some transformer)
      (each : List.Forall₂ transformer.Makes terms made) : TermMembers profile terms made

/-- The member for a filter. A range is compared with the column of its field, and so is a text
unless the field has a function, which makes the predicate then. -/
inductive FilterMember (profile : SearchProfile) : String × FilterValue Date → Predicate → Prop
  | range (field : String) (range : Range Date) :
      FilterMember profile (field, .range range)
        (.compare (profile.columnName field) (.within range))
  | compared {field : String} (comparison : Comparison) (value : String)
      (uncalled : ∀ transform, profile.transformer? field ≠ some (.function transform)) :
      FilterMember profile (field, .text comparison value)
        (.compare (profile.columnName field) (textLookup comparison value))
  | called {field value : String} {transform : String → Except String Predicate}
      {predicate : Predicate} (comparison : Comparison)
      (registered : profile.transformer? field = some (.function transform))
      (made : transform value = .ok predicate) :
      FilterMember profile (field, .text comparison value) predicate

/-- The members of the predicate of a search: those for its terms, and behind them one for each of
its filters. -/
inductive Members (profile : SearchProfile) (query : Query) : List Predicate → Prop
  | append {ofTerms ofFilters : List Predicate} (terms : profile.TermMembers query.terms ofTerms)
      (filters : List.Forall₂ profile.FilterMember query.filters.entries ofFilters) :
      Members profile query (ofTerms ++ ofFilters)

/-- The search has nothing to compare: no filters, and no terms or nothing to look terms up in. -/
def IsIdle (profile : SearchProfile) (query : Query) : Prop :=
  query.filters.entries = [] ∧
    (query.terms = [] ∨ profile.termTransformer = none ∧ profile.fields = [])

variable {profile : SearchProfile} {query : Query}

theorem TermMembers.eq_nil_iff {terms : List String} {made : List Predicate}
    (members : profile.TermMembers terms made) :
    made = [] ↔ terms = [] ∨ profile.termTransformer = none ∧ profile.fields = [] := by
  cases members with
  | searched untransformed =>
    rw [List.flatMap_eq_nil_iff, untransformed, and_iff_right rfl]
    cases profile.fields with
    | nil => simp
    | cons field fields => simp +contextual
  | transformed registered each =>
    rw [registered, ← List.length_eq_zero_iff, ← each.length_eq, List.length_eq_zero_iff]
    simp

theorem Members.eq_nil_iff {members : List Predicate} (made : profile.Members query members) :
    members = [] ↔ profile.IsIdle query := by
  obtain ⟨terms, filters⟩ := made
  rw [List.append_eq_nil_iff, terms.eq_nil_iff, IsIdle, and_comm, ← List.length_eq_zero_iff,
    ← filters.length_eq, List.length_eq_zero_iff]

theorem reportsFirst_termCalls (profile : SearchProfile) (terms : List String) :
    ReportsFirst Call.fault? (profile.termCalls terms) (profile.termPredicates terms)
      (profile.TermMembers terms) := by
  rw [termCalls, termPredicates]
  cases registered : profile.termTransformer with
  | none => exact .ok (.searched registered)
  | some transformer =>
    cases transformer with
    | column name =>
      have each : terms.mapM (transformTerm (.column name)) =
          .ok (terms.map fun term => .compare name (.contains term)) :=
        mapM_eq_ok_map fun _ _ => rfl
      dsimp only
      rw [each]
      refine .ok (.transformed registered ?_)
      rw [List.forall₂_map_right_iff]
      exact List.forall₂_same.2 fun term _ => .compared name term
    | function transform =>
      dsimp only
      rw [← List.filterMap_eq_map]
      refine (ReportsFirst.mapM_filterMap terms fun term => ?_).mono fun made each =>
        .transformed registered each
      exact (Call.reportsFirst ⟨transform, term⟩).mono fun predicate => .called

theorem reportsFirst_filterCall? (profile : SearchProfile) (entry : String × FilterValue Date) :
    ReportsFirst Call.fault? (profile.filterCall? entry).toList
      (profile.filterPredicate entry.1 entry.2) (profile.FilterMember entry) := by
  obtain ⟨field, value⟩ := entry
  cases value with
  | range range => exact .ok (.range field range)
  | text comparison value =>
    have usual (uncalled : ∀ transform, profile.transformer? field ≠ some (.function transform)) :
        ReportsFirst Call.fault? [] (.ok (.compare (profile.columnName field)
          (textLookup comparison value))) (profile.FilterMember (field, .text comparison value)) :=
      .ok (.compared comparison value uncalled)
    simp only [filterCall?, filterPredicate]
    cases registered : profile.transformer? field with
    | none =>
      refine usual fun transform same => ?_
      cases registered.symm.trans same
    | some transformer =>
      cases transformer with
      | column name =>
        refine usual fun transform same => ?_
        cases registered.symm.trans same
      | function transform =>
        exact (Call.reportsFirst ⟨transform, value⟩).mono fun predicate made =>
          .called comparison registered made

theorem reportsFirst_calls (profile : SearchProfile) (query : Query) :
    ReportsFirst Call.fault? (profile.calls query) (profile.predicate? query)
      fun found => ∃ members, profile.Members query members ∧ found = Predicate.union? members := by
  rw [predicate?, calls, ← List.append_nil (List.filterMap _ query.filters.entries)]
  refine (reportsFirst_termCalls profile query.terms).bind fun ofTerms terms => ?_
  refine (ReportsFirst.mapM_filterMap query.filters.entries
    (reportsFirst_filterCall? profile)).bind fun ofFilters filters => ?_
  have members : profile.Members query (ofTerms ++ ofFilters) := .append terms filters
  cases whole : ofTerms ++ ofFilters with
  | nil => exact .ok ⟨_, members, by rw [whole]; rfl⟩
  | cons first others => exact .ok ⟨_, members, by rw [whole]; rfl⟩

/-- The profiles agree but for the functions that they may have for one field. -/
structure AgreeBut (field : String) (one other : SearchProfile) : Prop where
  fields : one.fields = other.fields
  termTransformer : one.termTransformer = other.termTransformer
  columnName : one.columnName field = other.columnName field
  others : ∀ name, name ≠ field → one.transformer? name = other.transformer? name

theorem agreeBut_register {field : String} (notTerms : field ≠ termKey)
    (unrenamed : ∀ name, profile.transformer? field ≠ some (.column name))
    (transform : String → Except String Predicate) :
    AgreeBut field (profile.register field (.function transform)) profile := by
  have registered (name : String) : (profile.register field (.function transform)).transformer?
      name = if name = field then some (.function transform) else profile.transformer? name := by
    rw [register, if_neg notTerms]
    exact Filters.lookup_cons_eq_if name field _ profile.transformers
  constructor
  · rw [register, if_neg notTerms]
  · rw [register, if_neg notTerms]
  · rw [columnName, columnName, registered, if_pos rfl]
    cases found : profile.transformer? field with
    | none => rfl
    | some transformer =>
      cases transformer with
      | column name => exact absurd found (unrenamed name)
      | function transform => rfl
  · intro name other
    rw [registered, if_neg other]

theorem predicate?_of_agreeBut {field : String} {other : SearchProfile}
    (agree : AgreeBut field other profile)
    (untexted : ∀ comparison value, query.filters.get? field ≠ some (.text comparison value)) :
    other.predicate? query = profile.predicate? query := by
  have terms : other.termPredicates query.terms = profile.termPredicates query.terms := by
    rw [termPredicates, termPredicates, agree.fields, agree.termTransformer]
  have columns (name : String) : other.columnName name = profile.columnName name := by
    by_cases same : name = field
    · rw [same, agree.columnName]
    · rw [columnName, columnName, agree.others name same]
  have filters : ∀ entry ∈ query.filters.entries,
      other.filterPredicate entry.1 entry.2 = profile.filterPredicate entry.1 entry.2 := by
    intro entry member
    obtain ⟨name, value⟩ := entry
    cases value with
    | range range => rw [filterPredicate, filterPredicate, columns]
    | text comparison value =>
      have apart : name ≠ field := fun same =>
        untexted comparison value (same ▸ Filters.mem_entries_iff.1 member)
      simp only [filterPredicate, agree.others name apart, columns]
  rw [predicate?, predicate?, terms, mapM_congr filters]

/-- A search fails exactly if one of its calls does, and then for the reason of the first that does.
Otherwise it has a predicate unless it has nothing to compare, and the members of the predicate are
those for its terms and, behind them, one for each filter. A function for a field does not count
where the field has no filter of a text. -/
theorem predicate?_reports_first_failed_call (profile : SearchProfile) (query : Query) :
    (∀ failure, profile.predicate? query = .error failure ↔
      ∃ before call behind reason, profile.calls query = before ++ call :: behind ∧
        (∀ earlier ∈ before, earlier.Succeeds) ∧ call.outcome = .error reason ∧
        failure = .transformer reason) ∧
    ((∃ failure, profile.predicate? query = .error failure) ↔
      ∃ call ∈ profile.calls query, ¬call.Succeeds) ∧
    ((∀ call ∈ profile.calls query, call.Succeeds) →
      (profile.predicate? query = .ok none ↔ profile.IsIdle query) ∧
      (¬profile.IsIdle query → ∃ members, profile.predicate? query = .ok (some (.any members)) ∧
        profile.Members query members)) ∧
    ∀ field other, AgreeBut field other profile →
      (∀ comparison value, query.filters.get? field ≠ some (.text comparison value)) →
      other.predicate? query = profile.predicate? query := by
  have reports := reportsFirst_calls profile query
  refine ⟨fun failure => ?_, ?_, fun succeed => ?_, fun field other agree untexted => ?_⟩
  · rw [reports.eq_error_iff, List.findSome?_eq_some_iff]
    simp only [Call.fault?_eq_some_iff, Call.fault?_eq_none_iff]
    constructor
    · rintro ⟨before, call, behind, calls, ⟨reason, failed, same⟩, earlier⟩
      exact ⟨before, call, behind, reason, calls, earlier, failed, same⟩
    · rintro ⟨before, call, behind, reason, calls, earlier, failed, same⟩
      exact ⟨before, call, behind, calls, ⟨reason, failed, same⟩, earlier⟩
  · simp only [reports.eq_error_iff, ← Call.fault?_eq_none_iff]
    rw [← Option.isSome_iff_exists, List.findSome?_isSome_iff]
    simp only [Option.isSome_iff_ne_none, ne_eq]
  · have unfailed : (profile.calls query).findSome? Call.fault? = none :=
      List.findSome?_eq_none_iff.2 fun call member => Call.fault?_eq_none_iff.2 (succeed call member)
    obtain ⟨found, made, members, isMade, rfl⟩ := reports.succeeds unfailed
    rw [made, ← isMade.eq_nil_iff]
    cases members with
    | nil => exact ⟨iff_of_true rfl rfl, fun some => absurd rfl some⟩
    | cons first others =>
      exact ⟨iff_of_false (fun none => nomatch none) (List.cons_ne_nil first others),
        fun _ => ⟨_, rfl, isMade⟩⟩
  · exact predicate?_of_agreeBut agree untexted

def choosy : SearchProfile :=
  ofFields ["title"]
    |>.register termKey (.function fun term => if term = "x" then .error term else .ok .nothing)
    |>.register "status" (.function fun status => .error status)

def datedStatus : Query :=
  ⟨["y"], ⟨[("status", .range (.since ⟨2021, 3, 1, by decide⟩))], List.pairwise_singleton _ _⟩⟩

/-- Of two calls that fail the one for a term comes first, whatever the filter; a range is compared
as it would be without a function. -/
theorem predicate?_of_choosy :
    choosy.predicate? ⟨["y", "x"], ⟨[("status", .text .equals "draft")],
      List.pairwise_singleton _ _⟩⟩ = .error (.transformer "x") ∧
    (∃ members, choosy.predicate? datedStatus = .ok (some (.any members)) ∧
      choosy.Members datedStatus members) ∧
    (choosy.register "status" (.function fun _ => .ok .nothing)).predicate? datedStatus =
      choosy.predicate? datedStatus := by
  obtain ⟨first, -⟩ := predicate?_reports_first_failed_call choosy
    ⟨["y", "x"], ⟨[("status", .text .equals "draft")], List.pairwise_singleton _ _⟩⟩
  obtain ⟨-, -, found, ranges⟩ := predicate?_reports_first_failed_call choosy datedStatus
  have registered : choosy.transformer? "status" = some (.function fun status => .error status) :=
    rfl
  refine ⟨(first _).2 ?_, (found ?_).2 ?_, ranges "status" _ ?_ ?_⟩
  · exact ⟨[⟨_, "y"⟩], ⟨_, "x"⟩, [⟨_, "draft"⟩], "x", rfl,
      List.forall_mem_singleton.2 ⟨.nothing, rfl⟩, rfl, rfl⟩
  · exact List.forall_mem_singleton.2 ⟨.nothing, rfl⟩
  · exact fun idle => nomatch idle.1
  · exact agreeBut_register (by decide) (fun name same => nomatch registered.symm.trans same) _
  · intro comparison value same
    cases same

end SearchProfile

end PeriodicalSearch
