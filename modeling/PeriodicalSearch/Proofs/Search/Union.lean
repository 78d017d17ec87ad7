import PeriodicalSearch.Proofs.Query.Concatenation
import PeriodicalSearch.Proofs.Search.Fragments

/-! A search is the union of its parts. What is matched by texts behind each other is what one of
them matches, so their order does not count as long as every field keeps the order of its
settings, and a part behind others takes no match away. -/

namespace PeriodicalSearch

namespace Query

structure Accepted where
  text : String
  query : Query
  accepted : parse text = .ok query

namespace Accepted

def setting? (field : String) (part : Accepted) : Option (FilterValue Date) :=
  part.query.filters.get? field

def spaced (parts : List Accepted) : String := " ".intercalate (parts.map Accepted.text)

theorem spaced_cons_cons (first second : Accepted) (others : List Accepted) :
    spaced (first :: second :: others) = first.text ++ " " ++ spaced (second :: others) :=
  String.intercalate_cons_cons

theorem utf8ByteSize_spaced (parts : List Accepted) :
    (spaced parts).utf8ByteSize =
      (parts.map fun part => part.text.utf8ByteSize).sum + (parts.length - 1) := by
  induction parts with
  | nil => rfl
  | cons first others step =>
    cases others with
    | nil =>
      rw [spaced, List.map_singleton, String.intercalate_singleton]
      rfl
    | cons second others =>
      have one : " ".utf8ByteSize = 1 := by decide
      rw [spaced_cons_cons, String.utf8ByteSize_append, String.utf8ByteSize_append, step, one]
      simp only [List.map_cons, List.sum_cons, List.length_cons]
      omega

theorem utf8ByteSize_spaced_of_perm {parts others : List Accepted} (perm : parts.Perm others) :
    (spaced parts).utf8ByteSize = (spaced others).utf8ByteSize := by
  rw [utf8ByteSize_spaced, utf8ByteSize_spaced, perm.length_eq,
    (perm.map fun part => part.text.utf8ByteSize).sum_nat]

theorem parse_behind_space (first second : Accepted)
    (short : (first.text ++ " " ++ second.text).utf8ByteSize ≤ maxLength) :
    ∃ joined, parse (first.text ++ " " ++ second.text) = .ok joined ∧
      joined.terms = first.query.terms ++ second.query.terms ∧
      ∀ field, joined.filters.get? field = (second.setting? field).or (first.setting? field) :=
  parse_behind_ok first.accepted (by decide) (List.all_eq_true.1 (by decide)) short second.accepted

theorem parse_spaced (parts : List Accepted) (short : (spaced parts).utf8ByteSize ≤ maxLength) :
    ∃ joined, parse (spaced parts) = .ok joined ∧
      joined.terms = parts.flatMap (·.query.terms) ∧
      ∀ field, joined.filters.get? field = (parts.filterMap (setting? field)).getLast? := by
  induction parts with
  | nil => exact ⟨ofItems [], by cbv, rfl, fun field => rfl⟩
  | cons first others step =>
    cases others with
    | nil =>
      rw [spaced, List.map_singleton, String.intercalate_singleton]
      refine ⟨first.query, first.accepted, (List.append_nil _).symm, fun field => ?_⟩
      rw [List.filterMap_cons, setting?]
      cases first.query.filters.get? field <;> rfl
    | cons second others =>
      rw [spaced_cons_cons] at short ⊢
      have shortRest : (spaced (second :: others)).utf8ByteSize ≤ maxLength := by
        rw [String.utf8ByteSize_append] at short
        omega
      -- The first part stands in front of all others, so where both set a field it gives way.
      obtain ⟨later, accepted, terms, filters⟩ := step shortRest
      obtain ⟨joined, whole, joinedTerms, joinedFilters⟩ :=
        parse_behind_space first ⟨_, later, accepted⟩ short
      refine ⟨joined, whole, ?_, fun field => ?_⟩
      · rw [joinedTerms, terms]
        rfl
      · have first? : (first :: second :: others).filterMap (setting? field) =
            (first.query.filters.get? field).toList ++
              (second :: others).filterMap (setting? field) := by
          rw [List.filterMap_cons, setting?]
          cases first.query.filters.get? field <;> rfl
        rw [joinedFilters]
        change (later.filters.get? field).or (first.query.filters.get? field) = _
        rw [filters, first?, List.getLast?_append]
        cases first.query.filters.get? field <;> rfl

end Accepted

end Query

namespace SearchProfile

variable {profile : SearchProfile}

/-- A query whose items are those of some parts matches what one of the parts matches. -/
theorem predicate?_of_parts (profile : SearchProfile) {whole : Query}
    {parts : List (Query × Option Predicate)}
    (same : ∀ item, item ∈ whole.items ↔ ∃ part ∈ parts, item ∈ part.1.items)
    (made : ∀ part ∈ parts, profile.predicate? part.1 = .ok part.2) :
    ∃ joined, profile.predicate? whole = .ok joined ∧
      (joined = none ↔ ∀ part ∈ parts, part.2 = none) ∧
      ∀ truth, joined.any (Predicate.holds truth) =
        parts.any fun part => part.2.any (Predicate.holds truth) := by
  have reports : ∀ part ∈ parts, part.1.items.findSome? profile.itemFailure? = none ∧
      IsUnion (profile.YieldedBy part.1.items) part.2 := fun part member =>
    (reportsFirst_predicate? part.1).of_eq_ok (made part member)
  have yielded : ∀ fragment, profile.YieldedBy whole.items fragment ↔
      ∃ part ∈ parts, profile.YieldedBy part.1.items fragment := by
    intro fragment
    simp only [YieldedBy, same]
    constructor
    · rintro ⟨item, ⟨part, member, found⟩, yields⟩
      exact ⟨part, member, item, found, yields⟩
    · rintro ⟨part, member, item, found, yields⟩
      exact ⟨item, ⟨part, member, found⟩, yields⟩
  have unfailed : whole.items.findSome? profile.itemFailure? = none := by
    refine List.findSome?_eq_none_iff.2 fun item found => ?_
    obtain ⟨part, member, found⟩ := (same item).1 found
    exact List.findSome?_eq_none_iff.1 (reports part member).1 item found
  -- No item fails, and the whole yields what its parts yield; so it is their union.
  obtain ⟨joined, compiled, union⟩ := (reportsFirst_predicate? whole).succeeds unfailed
  refine ⟨joined, compiled, ?_, fun truth => ?_⟩
  · rw [union.restricts]
    constructor
    · intro silent part member
      exact (reports part member).2.restricts.2 fun fragment yields =>
        silent fragment ((yielded fragment).2 ⟨part, member, yields⟩)
    · intro silent fragment yields
      obtain ⟨part, member, yields⟩ := (yielded fragment).1 yields
      exact (reports part member).2.restricts.1 (silent part member) fragment yields
  · rw [Bool.eq_iff_iff, union.holds, List.any_eq_true]
    constructor
    · rintro ⟨fragment, yields, holds⟩
      obtain ⟨part, member, yields⟩ := (yielded fragment).1 yields
      exact ⟨part, member, ((reports part member).2.holds truth).2 ⟨fragment, yields, holds⟩⟩
    · rintro ⟨part, member, holds⟩
      obtain ⟨fragment, yields, holds⟩ := ((reports part member).2.holds truth).1 holds
      exact ⟨fragment, (yielded fragment).2 ⟨part, member, yields⟩, holds⟩

/-- What two searches find together: nothing restricts if neither does, and otherwise holds what one
of the two predicates does. -/
structure Joins (left right joined : Option Predicate) : Prop where
  restricts : joined = none ↔ left = none ∧ right = none
  holds : ∀ truth, joined.any (Predicate.holds truth) =
    (left.any (Predicate.holds truth) || right.any (Predicate.holds truth))

theorem Joins.swap {left right joined : Option Predicate} (joins : Joins left right joined) :
    Joins right left joined where
  restricts := joins.restricts.trans and_comm
  holds truth := (joins.holds truth).trans (Bool.or_comm ..)

/-- A search that restricts still restricts next to another, and matches no less. -/
theorem Joins.larger {left right joined : Option Predicate} (joins : Joins left right joined)
    {restricting : Predicate} (restricts : left = some restricting) :
    ∃ larger, joined = some larger ∧
      ∀ truth, restricting.holds truth = true → larger.holds truth = true := by
  cases joined with
  | none =>
    have unrestricted := (joins.restricts.1 rfl).1
    cases restricts.symm.trans unrestricted
  | some larger =>
    refine ⟨larger, rfl, fun truth holds => ?_⟩
    have whole := joins.holds truth
    rw [restricts, Option.any_some, Option.any_some, holds, Bool.true_or] at whole
    exact whole

/-- The items of two texts behind each other are those of one and the other, if they set no field in
common. -/
theorem mem_items_of_joined {first second : Query.Accepted}
    (apart : ∀ field, first.setting? field = none ∨ second.setting? field = none) {joined : Query}
    (terms : joined.terms = first.query.terms ++ second.query.terms)
    (filters : ∀ field, joined.filters.get? field =
      (second.setting? field).or (first.setting? field)) (item : Query.Item Date) :
    item ∈ joined.items ↔ item ∈ first.query.items ∨ item ∈ second.query.items := by
  cases item with
  | term text => simp only [Query.mem_items_term, terms, List.mem_append]
  | filter field value =>
    rw [Query.mem_items_filter, Query.mem_items_filter, Query.mem_items_filter, filters]
    change _ ↔ first.setting? field = some value ∨ second.setting? field = some value
    rcases apart field with unset | unset
    · rw [unset, Option.or_none, or_iff_right fun none => nomatch none]
    · rw [unset, Option.none_or, or_iff_left fun none => nomatch none]

theorem searchPredicate?_of_two {first second : Query.Accepted}
    (apart : ∀ field, first.setting? field = none ∨ second.setting? field = none)
    (short : (first.text ++ " " ++ second.text).utf8ByteSize ≤ Query.maxLength)
    {left right : Option Predicate} (madeLeft : profile.predicate? first.query = .ok left)
    (madeRight : profile.predicate? second.query = .ok right) :
    ∃ joined, profile.searchPredicate? (first.text ++ " " ++ second.text) = .ok joined ∧
      Joins left right joined := by
  obtain ⟨query, accepted, terms, filters⟩ := Query.Accepted.parse_behind_space first second short
  have parts : ∀ item, item ∈ query.items ↔
      ∃ part ∈ [(first.query, left), (second.query, right)], item ∈ part.1.items := fun item => by
    rw [mem_items_of_joined apart terms filters]
    simp
  obtain ⟨joined, compiled, restricts, holds⟩ := predicate?_of_parts profile parts
    (by simp [madeLeft, madeRight])
  refine ⟨joined, (searchPredicate?_of_parse accepted).trans compiled, ?_, fun truth => ?_⟩
  · simp [restricts]
  · simp [holds]

theorem searchPredicate?_of_perm {parts others : List Query.Accepted} (perm : parts.Perm others)
    (settings : ∀ field, parts.filterMap (Query.Accepted.setting? field) =
      others.filterMap (Query.Accepted.setting? field))
    (short : (Query.Accepted.spaced parts).utf8ByteSize ≤ Query.maxLength) {left : Option Predicate}
    (made : profile.searchPredicate? (Query.Accepted.spaced parts) = .ok left) :
    ∃ right, profile.searchPredicate? (Query.Accepted.spaced others) = .ok right ∧
      (right = none ↔ left = none) ∧
      ∀ truth, right.any (Predicate.holds truth) = left.any (Predicate.holds truth) := by
  obtain ⟨one, accepted, terms, filters⟩ := Query.Accepted.parse_spaced parts short
  obtain ⟨other, acceptedOther, termsOther, filtersOther⟩ := Query.Accepted.parse_spaced others
    (Query.Accepted.utf8ByteSize_spaced_of_perm perm ▸ short)
  rw [searchPredicate?_of_parse accepted] at made
  have same : ∀ item, item ∈ other.items ↔ ∃ part ∈ [(one, left)], item ∈ part.1.items := by
    have values : other.filters.get? = one.filters.get? := by
      funext field
      rw [filtersOther, ← settings, filters]
    have texts : ∀ text, text ∈ other.terms ↔ text ∈ one.terms := fun text => by
      rw [termsOther, terms]
      exact (perm.flatMap_right _).symm.mem_iff
    intro item
    cases item with
    | term text => simp [Query.mem_items_term, texts]
    | filter field value => simp [Query.mem_items_filter, values]
  obtain ⟨right, compiled, restricts, holds⟩ := predicate?_of_parts profile same
    (by simp [made])
  refine ⟨right, (searchPredicate?_of_parse acceptedOther).trans compiled, ?_, fun truth => ?_⟩
  · simp [restricts]
  · simp [holds]

/-- The search for two texts behind each other, which set no field in common, matches what one of
them matches; a text that does not restrict adds nothing. So another text behind or before one that
restricts takes no match away, and the parts of a text may stand in any order in which each field
keeps the order of its settings. -/
theorem searchPredicate?_union (profile : SearchProfile) :
    (∀ first second : Query.Accepted,
      (∀ field, first.setting? field = none ∨ second.setting? field = none) →
      (first.text ++ " " ++ second.text).utf8ByteSize ≤ Query.maxLength →
      ∀ left right, profile.predicate? first.query = .ok left →
        profile.predicate? second.query = .ok right →
        ∃ behind before, profile.searchPredicate? (first.text ++ " " ++ second.text) = .ok behind ∧
          profile.searchPredicate? (second.text ++ " " ++ first.text) = .ok before ∧
          Joins left right behind ∧ Joins left right before ∧
          ∀ restricting, left = some restricting → ∀ joined ∈ [behind, before],
            ∃ larger, joined = some larger ∧
              ∀ truth, restricting.holds truth = true → larger.holds truth = true) ∧
    ∀ parts others : List Query.Accepted, parts.Perm others →
      (∀ field, parts.filterMap (Query.Accepted.setting? field) =
        others.filterMap (Query.Accepted.setting? field)) →
      (Query.Accepted.spaced parts).utf8ByteSize ≤ Query.maxLength →
      ∀ left, profile.searchPredicate? (Query.Accepted.spaced parts) = .ok left →
        ∃ right, profile.searchPredicate? (Query.Accepted.spaced others) = .ok right ∧
          (right = none ↔ left = none) ∧
          ∀ truth, right.any (Predicate.holds truth) = left.any (Predicate.holds truth) := by
  constructor
  · intro first second apart short left right madeLeft madeRight
    have shortSwapped : (second.text ++ " " ++ first.text).utf8ByteSize ≤ Query.maxLength := by
      simp only [String.utf8ByteSize_append] at short ⊢
      omega
    have apartSwapped : ∀ field, second.setting? field = none ∨ first.setting? field = none :=
      fun field => (apart field).symm
    obtain ⟨behind, compiled, joins⟩ := searchPredicate?_of_two apart short madeLeft madeRight
    obtain ⟨before, compiledSwapped, joinsSwapped⟩ :=
      searchPredicate?_of_two apartSwapped shortSwapped madeRight madeLeft
    refine ⟨behind, before, compiled, compiledSwapped, joins, joinsSwapped.swap, ?_⟩
    intro restricting restricts joined member
    rcases List.mem_cons.1 member with rfl | member
    · exact joins.larger restricts
    · rw [List.mem_singleton.1 member]
      exact joinsSwapped.swap.larger restricts
  · intro parts others perm settings short left made
    exact searchPredicate?_of_perm perm settings short made

/-- A term that is looked up in titles and a filter by author match one or the other, in either
order. -/
theorem searchPredicate?_of_term_and_author :
    ∃ joined swapped, (ofFields ["title"]).searchPredicate? "x author=y" = .ok (some joined) ∧
      (ofFields ["title"]).searchPredicate? "author=y x" = .ok swapped ∧
      ∀ truth, joined.holds truth =
          (truth "title" (.contains "x") || truth "author" (.equals "y")) ∧
        swapped.any (Predicate.holds truth) = joined.holds truth := by
  have termAccepted : Query.parse "x" = .ok (Query.ofItems [.term "x"]) := by cbv
  have authorAccepted : Query.parse "author=y" =
      .ok (Query.ofItems [.filter "author" (.text .equals "y")]) := by cbv
  have short : ("x" ++ " " ++ "author=y").utf8ByteSize ≤ Query.maxLength := by decide
  obtain ⟨union, reordered⟩ := searchPredicate?_union (ofFields ["title"])
  obtain ⟨behind, _, compiled, -, joins, -, larger⟩ := union ⟨"x", _, termAccepted⟩
    ⟨"author=y", _, authorAccepted⟩ (fun field => .inl rfl) short
    (some (.any [.compare "title" (.contains "x")]))
    (some (.any [.compare "author" (.equals "y")])) rfl rfl
  obtain ⟨joined, rfl, -⟩ := larger _ rfl behind List.mem_cons_self
  obtain ⟨swapped, compiledSwapped, -, same⟩ := reordered
    [⟨"x", _, termAccepted⟩, ⟨"author=y", _, authorAccepted⟩]
    [⟨"author=y", _, authorAccepted⟩, ⟨"x", _, termAccepted⟩]
    (List.Perm.swap ..) (fun field => rfl) short (some joined) compiled
  refine ⟨joined, swapped, compiled, compiledSwapped, fun truth => ⟨?_, same truth⟩⟩
  have holds := joins.holds truth
  simpa using holds

end SearchProfile

end PeriodicalSearch
