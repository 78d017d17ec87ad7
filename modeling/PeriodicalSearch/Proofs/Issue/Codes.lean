import PeriodicalSearch.Proofs.Condition.Meaning
import PeriodicalSearch.Proofs.Query.Words
import PeriodicalSearch.Proofs.Text.Decimals
import PeriodicalSearch.Proofs.Text.Trimming
import PeriodicalSearch.Record.Basic

/-! Codes of issues, and what they select. A number of any length is read as the number that its
digits write; one beyond 32 bits is no number of an issue, so the code that has it selects nothing,
just as a text that is no code. -/

namespace PeriodicalSearch

open Text

def Text.WritesNumber (text : List Char) (number : Int) : Prop :=
  IsNumeral text ∧ (decimalValue text : Int) = number

instance (text : List Char) (number : Int) : Decidable (WritesNumber text number) :=
  inferInstanceAs (Decidable (_ ∧ _))

/-- The text is a code of the issue: `v` and the number of its volume, alone or with `i` and the
number of the issue behind it, in letters of either case. -/
def Issue.IsNamedBy (issue : Issue) (text : List Char) : Prop :=
  ∃ v volume, v.toLower = 'v' ∧ WritesNumber volume issue.volumeNum.toInt ∧
    (text = v :: volume ∨ ∃ i number, i.toLower = 'i' ∧ WritesNumber number issue.issueNum.toInt ∧
      text = v :: (volume ++ i :: number))

namespace Text

theorem isDigit_toLower (c : Char) : c.toLower.isDigit = c.isDigit :=
  apply_toLower (by decide) c

theorem toLower_of_isDigit {c : Char} (digit : c.isDigit = true) : c.toLower = c := by
  apply Char.toLower_eq_of_not_isUpper
  have bounds := digit_bounds digit
  simp only [Char.isUpper, decide_eq_true_eq, ge_iff_le, UInt32.le_iff_toNat_le]
  intro upper
  have bound : 65 ≤ c.toNat := upper.1
  omega

/-- Digits are the lower case of themselves only. -/
theorem folded_eq_iff_of_digits {text digits : List Char}
    (decimal : ∀ c ∈ digits, c.isDigit = true) : folded text = digits ↔ text = digits := by
  have fixed : ∀ {text : List Char}, (∀ c ∈ text, c.isDigit = true) → folded text = text :=
    fun decimal => (List.map_congr_left fun c member => toLower_of_isDigit (decimal c member)).trans
      (List.map_id' _)
  constructor
  · intro same
    have own : ∀ c ∈ text, c.isDigit = true := fun c member => by
      rw [← isDigit_toLower]
      exact decimal _ (same ▸ List.mem_map_of_mem member)
    rw [← same, fixed own]
  · rintro rfl
    exact fixed decimal

end Text

namespace IssueCode

theorem number?_eq_some_iff {digits : List Char} {number : Int32} :
    number? digits = some number ↔ WritesNumber digits number.toInt := by
  have small : (maxInt32 : Int) < 2 ^ 31 := by decide
  rw [number?]
  constructor
  · intro read
    cases result : readDigits maxInt32 .tooLarge digits with
    | error fault =>
      rw [result] at read
      cases read
    | ok value =>
      rw [result] at read
      cases read
      obtain ⟨numeral, same, within⟩ := readDigits_eq_ok_iff.1 result
      have fits : value < 2 ^ 31 := Nat.lt_succ_of_le within
      exact ⟨numeral, by rw [same, Int32.toInt_ofNat_of_lt fits]⟩
  · rintro ⟨numeral, same⟩
    have upper := number.toInt_lt
    have within : decimalValue digits ≤ maxInt32 := by
      have limit : maxInt32 = 2 ^ 31 - 1 := rfl
      omega
    have fits : decimalValue digits < 2 ^ 31 := Nat.lt_succ_of_le within
    rw [readDigits_of_isNumeral numeral, if_pos within]
    refine congrArg some (Int32.toInt_inj.1 ?_)
    rw [Int32.toInt_ofNat_of_lt fits, same]

/-- A text in lower case is a code in one way at most: its letters stand apart from its digits. -/
theorem ofLower?_eq_some_iff {text : List Char} {code : IssueCode} : ofLower? text = some code ↔
    ∃ volume, WritesNumber volume code.volume.toInt ∧
      (code.issue = none ∧ text = 'v' :: volume ∨
        ∃ issue number, code.issue = some issue ∧ WritesNumber number issue.toInt ∧
          text = 'v' :: (volume ++ 'i' :: number)) := by
  constructor
  · intro read
    unfold ofLower? at read
    split at read
    next rest =>
      split at read
      next whole =>
        obtain ⟨volume, writes, rfl⟩ := Option.map_eq_some_iff.1 read
        exact ⟨rest, number?_eq_some_iff.1 writes, .inl ⟨rfl, rfl⟩⟩
      next letter number behind =>
        have parts := List.takeWhile_append_dropWhile (p := (· != 'i')) (l := rest)
        have isLetter : letter = 'i' := by
          have stops := Query.head_dropWhile (· != 'i') rest letter (by rw [behind]; rfl)
          simpa using stops
        rw [behind, isLetter] at parts
        cases ofNumber : number? number with
        | none => rw [ofNumber] at read; cases read
        | some issue =>
          cases ofVolume : number? (rest.takeWhile (· != 'i')) with
          | none => rw [ofNumber, ofVolume] at read; cases read
          | some volume =>
            rw [ofNumber, ofVolume] at read
            cases read
            exact ⟨_, number?_eq_some_iff.1 ofVolume, .inr ⟨issue, number, rfl,
              number?_eq_some_iff.1 ofNumber, congrArg ('v' :: ·) parts.symm⟩⟩
    next => cases read
  · rintro ⟨volume, writes, rest⟩
    have apart : ∀ c ∈ volume, (c != 'i') = true := fun c member => by
      have digit := writes.1.2 c member
      rw [bne_iff_ne]
      rintro rfl
      cases digit
    obtain ⟨volumeNumber, issueNumber⟩ := code
    rcases rest with ⟨alone, rfl⟩ | ⟨issue, number, both, writesIssue, rfl⟩
    · cases alone
      have none : volume.dropWhile (· != 'i') = [] := List.dropWhile_eq_nil_iff.2 apart
      simp only [ofLower?, none, number?_eq_some_iff.2 writes, Option.map_some]
    · cases both
      have stops : ∀ c ∈ ('i' :: number).head?, (c != 'i') = false := fun c same => by
        cases same
        rfl
      simp only [ofLower?, Query.dropWhile_run apart stops, Query.takeWhile_run apart stops,
        number?_eq_some_iff.2 writes, number?_eq_some_iff.2 writesIssue]
      rfl

def Names (code : IssueCode) (issue : Issue) : Prop :=
  code.volume = issue.volumeNum ∧ ∀ number ∈ code.issue, number = issue.issueNum

instance (code : IssueCode) (issue : Issue) : Decidable (code.Names issue) :=
  decidable_of_iff
    (code.volume = issue.volumeNum ∧ code.issue.all (· == issue.issueNum) = true)
    (and_congr_right' (by simp [Option.all_eq_true]))

end IssueCode

namespace Issue

variable {issue : Issue}

theorem isNamedBy_iff {text : List Char} : issue.IsNamedBy text ↔
    ∃ code ∈ IssueCode.ofLower? (folded text), code.Names issue := by
  have folded_cons (c : Char) (rest : List Char) :
      folded (c :: rest) = c.toLower :: folded rest := rfl
  constructor
  · rintro ⟨v, volume, letter, writes, rest⟩
    have digits := (folded_eq_iff_of_digits writes.1.2).2 rfl
    rcases rest with rfl | ⟨i, number, separator, writesIssue, rfl⟩
    · refine ⟨⟨issue.volumeNum, none⟩, ?_, rfl, fun other none => nomatch none⟩
      rw [folded_cons, letter, digits]
      exact IssueCode.ofLower?_eq_some_iff.2 ⟨volume, writes, .inl ⟨rfl, rfl⟩⟩
    · refine ⟨⟨issue.volumeNum, some issue.issueNum⟩, ?_, rfl, fun other same => ?_⟩
      · have others := (folded_eq_iff_of_digits writesIssue.1.2).2 rfl
        rw [folded_cons, letter, folded, List.map_append, ← folded, digits, ← folded, folded_cons,
          separator, others]
        exact IssueCode.ofLower?_eq_some_iff.2
          ⟨volume, writes, .inr ⟨issue.issueNum, number, rfl, writesIssue, rfl⟩⟩
      · exact (Option.some.inj same).symm
  · rintro ⟨⟨volumeNumber, issueNumber⟩, read, rfl, names⟩
    obtain ⟨volume, writes, rest⟩ := IssueCode.ofLower?_eq_some_iff.1 read
    rcases rest with ⟨-, same⟩ | ⟨number, digits, both, writesIssue, same⟩
    · obtain ⟨v, others, rfl, letter, lower⟩ := List.map_eq_cons_iff.1 same
      obtain rfl := (folded_eq_iff_of_digits writes.1.2).1 lower
      exact ⟨v, others, letter, writes, .inl rfl⟩
    · obtain ⟨v, others, rfl, letter, lower⟩ := List.map_eq_cons_iff.1 same
      obtain ⟨before, behind, rfl, lowerBefore, lowerBehind⟩ := List.map_eq_append_iff.1 lower
      obtain ⟨i, after, rfl, separator, lowerAfter⟩ := List.map_eq_cons_iff.1 lowerBehind
      obtain rfl := (folded_eq_iff_of_digits writes.1.2).1 lowerBefore
      obtain rfl := (folded_eq_iff_of_digits writesIssue.1.2).1 lowerAfter
      have own := names number both
      exact ⟨v, before, letter, writes, .inr ⟨i, after, separator, own ▸ writesIssue, rfl⟩⟩

instance (text : List Char) : Decidable (issue.IsNamedBy text) :=
  decidable_of_iff ((IssueCode.ofLower? (folded text)).any (·.Names issue) = true) <| by
    rw [isNamedBy_iff, Option.any_eq_true]
    simp

section

variable {v i : Char} {volume number : List Char}

theorem isNamedBy_volume_iff (letter : v.toLower = 'v') (numeral : IsNumeral volume) :
    issue.IsNamedBy (v :: volume) ↔ (decimalValue volume : Int) = issue.volumeNum.toInt := by
  constructor
  · rintro ⟨w, others, -, writes, same | ⟨separator, rest, lower, -, same⟩⟩
    · cases same
      exact writes.2
    · -- The separator would be a digit.
      have digit : separator.isDigit = true := by
        refine numeral.2 separator ?_
        rw [(List.cons.inj same).2]
        exact List.mem_append_right _ List.mem_cons_self
      rw [toLower_of_isDigit digit] at lower
      rw [lower] at digit
      cases digit
  · intro same
    exact ⟨v, volume, letter, ⟨numeral, same⟩, .inl rfl⟩

theorem isNamedBy_both_iff (letter : v.toLower = 'v') (separator : i.toLower = 'i')
    (ofVolume : IsNumeral volume) (ofIssue : IsNumeral number) :
    issue.IsNamedBy (v :: (volume ++ i :: number)) ↔
      (decimalValue volume : Int) = issue.volumeNum.toInt ∧
        (decimalValue number : Int) = issue.issueNum.toInt := by
  have notDigit : ∀ {c : Char}, c.toLower = 'i' → c.isDigit = false := fun {c} lower => by
    rw [← isDigit_toLower, lower]
    rfl
  constructor
  · rintro ⟨w, others, -, writes, same | ⟨j, rest, lower, writesIssue, same⟩⟩
    · have digit : i.isDigit = true := by
        refine writes.1.2 i ?_
        rw [← (List.cons.inj same).2]
        exact List.mem_append_right _ List.mem_cons_self
      cases (notDigit separator).symm.trans digit
    · have stops : ∀ {c : Char} {rest : List Char}, c.toLower = 'i' →
          ∀ d ∈ (c :: rest).head?, d.isDigit = false := fun lower d head =>
        Option.some.inj head ▸ notDigit lower
      obtain ⟨rfl, behind⟩ := Query.split_unique ofVolume.2 (stops separator) writes.1.2
        (stops lower) (List.cons.inj same).2
      cases behind
      exact ⟨writes.2, writesIssue.2⟩
  · rintro ⟨sameVolume, sameIssue⟩
    exact ⟨v, volume, letter, ⟨ofVolume, sameVolume⟩,
      .inr ⟨i, number, separator, ⟨ofIssue, sameIssue⟩, rfl⟩⟩

end

abbrev row (issue : Issue) : Sql.Row Resource.issues.entity := issue.cell

theorem column?_volumeNum :
    Resource.issues.entity.column? "volume_num" = some Column.volumeNum := by decide

theorem column?_issueNum :
    Resource.issues.entity.column? "issue_num" = some Column.issueNum := by decide

theorem holdsOn_number {field : String} {column : Column .issues} {number : Int32}
    (named : Resource.issues.entity.column? field = some column)
    (stored : issue.row column = .integer number.toInt) (wanted : Int32) :
    (Predicate.compare field (.exact (.integer wanted.toInt))).holdsOn issue.row = true ↔
      wanted = number := by
  rw [Predicate.holdsOn_compare named, stored]
  change (number.toInt == wanted.toInt) = true ↔ _
  rw [beq_iff_eq, Int32.toInt_inj, eq_comm]

theorem holdsOn_code (code : IssueCode) :
    code.predicate.holdsOn issue.row = true ↔ code.Names issue := by
  have volume : _ ↔ code.volume = issue.volumeNum :=
    holdsOn_number column?_volumeNum rfl code.volume
  rw [IssueCode.predicate, IssueCode.Names]
  cases code.issue with
  | none =>
    dsimp only
    rw [volume]
    exact (and_iff_left fun number none => nomatch none).symm
  | some wanted =>
    have number : _ ↔ wanted = issue.issueNum := holdsOn_number column?_issueNum rfl wanted
    dsimp only
    rw [Predicate.holdsOn_all, List.all_cons, List.all_cons, List.all_nil, Bool.and_true,
      Bool.and_eq_true, volume, number]
    simp

theorem holdsOn_codePredicate (text : String) :
    (codePredicate text).holdsOn issue.row = true ↔ issue.IsNamedBy (trimBlanks text.toList) := by
  rw [isNamedBy_iff, codePredicate, IssueCode.read]
  change _ ↔ ∃ code ∈ IssueCode.ofLower? ((trimBlanks text.toList).map Char.toLower), _
  cases IssueCode.ofLower? ((trimBlanks text.toList).map Char.toLower) with
  | none =>
    dsimp only
    rw [Predicate.holdsOn_nothing]
    exact iff_of_false (fun none => nomatch none) fun found => nomatch found.choose_spec.1
  | some code =>
    dsimp only
    rw [holdsOn_code]
    simp

theorem holdsOn_numberPredicate {field : String} {column : Column .issues} {number : Int32}
    (named : Resource.issues.entity.column? field = some column)
    (stored : issue.row column = .integer number.toInt) (value : String) :
    (numberPredicate field value).holdsOn issue.row = true ↔
      WritesNumber (trimBlanks value.toList) number.toInt := by
  rw [numberPredicate, ← IssueCode.number?_eq_some_iff]
  cases IssueCode.number? (trimBlanks value.toList) with
  | none =>
    dsimp only
    rw [Predicate.holdsOn_nothing]
    exact iff_of_false (fun none => nomatch none) fun none => nomatch none
  | some wanted =>
    dsimp only
    rw [holdsOn_number named stored, Option.some.injEq]

end Issue

end PeriodicalSearch
