import PeriodicalSearch.Proofs.Issue.Codes
import PeriodicalSearch.Proofs.Sql.CellText

/-! Codes of issues as texts. A text is read as a code when what is left of it without blanks around
it spells one in letters of either case, with numbers that 32 bits hold. The text of a code is read
again unless one of its numbers is negative: a sign is written but never read. -/

namespace PeriodicalSearch

open Text

namespace IssueCode

/-- The text spells these numbers in small letters: `v` and the digits of a volume, alone or with
`i` and the digits of an issue behind them. -/
inductive Spells : List Char → Nat → Option Nat → Prop where
  | volume {volume : List Char} (numeral : IsNumeral volume) :
      Spells ('v' :: volume) (decimalValue volume) none
  | issue {volume issue : List Char} (ofVolume : IsNumeral volume) (ofIssue : IsNumeral issue) :
      Spells ('v' :: (volume ++ 'i' :: issue)) (decimalValue volume) (some (decimalValue issue))

def Has (code : IssueCode) (volume : Nat) (issue : Option Nat) : Prop :=
  code.volume.toInt = volume ∧ code.issue.map Int32.toInt = issue.map Int.ofNat

def IsUnsigned (code : IssueCode) : Prop :=
  0 ≤ code.volume.toInt ∧ ∀ issue ∈ code.issue, 0 ≤ issue.toInt

theorem ofLower?_eq_some_iff_spells {text : List Char} {code : IssueCode} :
    ofLower? text = some code ↔
      ∃ volume issue, Spells text volume issue ∧ code.Has volume issue := by
  rw [ofLower?_eq_some_iff]
  constructor
  · rintro ⟨volume, ⟨numeral, value⟩, ⟨alone, rfl⟩ | ⟨issue, number, both, ⟨other, same⟩, rfl⟩⟩
    · exact ⟨_, _, .volume numeral, value.symm, by rw [alone]; rfl⟩
    · refine ⟨_, _, .issue numeral other, value.symm, ?_⟩
      rw [both, Option.map_some, ← same]
      rfl
  · rintro ⟨_, _, spells, volume, issue⟩
    cases spells with
    | volume numeral =>
      exact ⟨_, ⟨numeral, volume.symm⟩, .inl ⟨Option.map_eq_none_iff.1 issue, rfl⟩⟩
    | issue numeral other =>
      obtain ⟨number, own, same⟩ := Option.map_eq_some_iff.1 issue
      exact ⟨_, ⟨numeral, volume.symm⟩, .inr ⟨number, _, own, ⟨other, same.symm⟩, rfl⟩⟩

/-- A text is read as a code if its core spells the code. -/
theorem read_eq_ok_iff {text : String} {code : IssueCode} : read text = .ok code ↔
    ∃ core volume issue, TrimsTo text.toList core ∧ Spells (core.map Char.toLower) volume issue ∧
      code.Has volume issue := by
  have trims := trimsTo_trimBlanks text.toList
  have opened : read text = .ok code ↔
      ofLower? ((trimBlanks text.toList).map Char.toLower) = some code := by
    rw [read]
    cases ofLower? ((trimBlanks text.toList).map Char.toLower) <;> simp
  rw [opened, ofLower?_eq_some_iff_spells]
  constructor
  · rintro ⟨volume, issue, spells, has⟩
    exact ⟨_, volume, issue, trims, spells, has⟩
  · rintro ⟨core, volume, issue, own, spells, has⟩
    rw [trimBlanks_of_trimsTo own]
    exact ⟨volume, issue, spells, has⟩

theorem exists_toInt_iff {number : Nat} :
    (∃ value : Int32, value.toInt = number) ↔ number ≤ 2147483647 := by
  constructor
  · rintro ⟨value, same⟩
    have upper := value.toInt_lt
    omega
  · intro within
    exact ⟨Int32.ofNat number, Int32.toInt_ofNat_of_lt (Nat.lt_succ_of_le within)⟩

/-- Only numbers of 32 bits are those of a code. -/
theorem exists_has_iff {volume : Nat} {issue : Option Nat} : (∃ code, Has code volume issue) ↔
    volume ≤ 2147483647 ∧ ∀ number ∈ issue, number ≤ 2147483647 := by
  constructor
  · rintro ⟨code, ofVolume, ofIssue⟩
    refine ⟨exists_toInt_iff.1 ⟨_, ofVolume⟩, ?_⟩
    rintro number rfl
    obtain ⟨own, -, same⟩ := Option.map_eq_some_iff.1 ofIssue
    exact exists_toInt_iff.1 ⟨own, same⟩
  · rintro ⟨small, others⟩
    obtain ⟨value, ofVolume⟩ := exists_toInt_iff.2 small
    cases issue with
    | none => exact ⟨⟨value, none⟩, ofVolume, rfl⟩
    | some number =>
      obtain ⟨own, ofIssue⟩ := exists_toInt_iff.2 (others number rfl)
      exact ⟨⟨value, some own⟩, ofVolume, congrArg some ofIssue⟩

theorem Has.isUnsigned {code : IssueCode} {volume : Nat} {issue : Option Nat}
    (has : code.Has volume issue) : code.IsUnsigned := by
  obtain ⟨ofVolume, ofIssue⟩ := has
  refine ⟨ofVolume ▸ Int.natCast_nonneg volume, fun own member => ?_⟩
  rw [Option.mem_def.1 member] at ofIssue
  obtain ⟨number, -, same⟩ := Option.map_eq_some_iff.1 ofIssue.symm
  exact same ▸ Int.natCast_nonneg number

theorem Spells.alphanum {text : List Char} {volume : Nat} {issue : Option Nat}
    (spells : Spells text volume issue) : ∀ c ∈ text, c.isAlphanum = true := by
  cases spells with
  | volume numeral => exact List.forall_mem_cons.2 ⟨rfl, alphanum_of_numeral numeral⟩
  | issue ofVolume ofIssue =>
    rw [List.forall_mem_cons, List.forall_mem_append, List.forall_mem_cons]
    exact ⟨rfl, alphanum_of_numeral ofVolume, rfl, alphanum_of_numeral ofIssue⟩

theorem Spells.map_toLower {text : List Char} {volume : Nat} {issue : Option Nat}
    (spells : Spells text volume issue) : text.map Char.toLower = text := by
  have digits {numeral : List Char} (decimal : IsNumeral numeral) :
      numeral.map Char.toLower = numeral := (folded_eq_iff_of_digits decimal.2).2 rfl
  cases spells with
  | volume numeral => rw [List.map_cons, digits numeral]; rfl
  | issue ofVolume ofIssue =>
    rw [List.map_cons, List.map_append, List.map_cons, digits ofVolume, digits ofIssue]
    rfl

theorem spells_text {code : IssueCode} (unsigned : code.IsUnsigned) :
    Spells code.text.toList code.volume.toInt.natAbs
      (code.issue.map fun issue => issue.toInt.natAbs) := by
  obtain ⟨volume, issue⟩ := code
  obtain ⟨positive, others⟩ := unsigned
  have ofVolume := isNumeral_digits volume.toInt.natAbs
  cases issue with
  | none =>
    have written : (text ⟨volume, none⟩).toList = 'v' :: digits volume.toInt.natAbs := by
      change ("v" ++ toString volume.toInt).toList = _
      rw [String.toList_append, Sql.toList_toString_of_nonneg positive]
      rfl
    have spells := Spells.volume ofVolume
    rwa [decimalValue_digits, ← written] at spells
  | some issue =>
    have written : (text ⟨volume, some issue⟩).toList =
        'v' :: (digits volume.toInt.natAbs ++ 'i' :: digits issue.toInt.natAbs) := by
      change ("v" ++ toString volume.toInt ++ "i" ++ toString issue.toInt).toList = _
      simp only [String.toList_append, Sql.toList_toString_of_nonneg positive,
        Sql.toList_toString_of_nonneg (others issue rfl)]
      simp
    have spells := Spells.issue ofVolume (isNumeral_digits issue.toInt.natAbs)
    rwa [decimalValue_digits, decimalValue_digits, ← written] at spells

theorem has_natAbs {code : IssueCode} (unsigned : code.IsUnsigned) :
    code.Has code.volume.toInt.natAbs (code.issue.map fun own => own.toInt.natAbs) := by
  obtain ⟨volume, issue⟩ := code
  obtain ⟨positive, others⟩ := unsigned
  refine ⟨(Int.natAbs_of_nonneg positive).symm, ?_⟩
  cases issue with
  | none => rfl
  | some issue => exact congrArg some (Int.natAbs_of_nonneg (others issue rfl)).symm

/-- The text of a code is read again exactly if the code has no negative number. -/
theorem read_text_eq_ok_iff {code : IssueCode} : read code.text = .ok code ↔ code.IsUnsigned := by
  rw [read_eq_ok_iff]
  constructor
  · rintro ⟨core, volume, issue, trims, spells, has⟩
    exact has.isUnsigned
  · intro unsigned
    have spells := spells_text unsigned
    refine ⟨code.text.toList, _, _, ?_, ?_, has_natAbs unsigned⟩
    · exact trimBlanks_eq_iff.1 (trimBlanks_of_alphanum spells.alphanum)
    · rwa [spells.map_toLower]

theorem text_of_read_eq_error {text : String} {fault : InvalidIssueCode}
    (failed : read text = .error fault) : fault.text = text := by
  rw [read] at failed
  split at failed
  · cases failed
  · cases failed
    rfl

/-- A text is read as a code exactly if without blanks around it and in small letters it spells
numbers of 32 bits. The code has these numbers, and a text that is no code is reported as it is. The
text of a code is read as the code unless a number is negative, so that of a code that was read
always is. -/
theorem read_iff_spells :
    (∀ text, (∃ code, read text = .ok code) ↔
      ∃ core volume issue, TrimsTo text.toList core ∧
        Spells (core.map Char.toLower) volume issue ∧
        volume ≤ 2147483647 ∧ ∀ number ∈ issue, number ≤ 2147483647) ∧
    (∀ text code, read text = .ok code ↔
      ∃ core volume issue, TrimsTo text.toList core ∧
        Spells (core.map Char.toLower) volume issue ∧ code.Has volume issue) ∧
    (∀ text fault, read text = .error fault → fault.text = text) ∧
    (∀ code, read code.text = .ok code ↔ code.IsUnsigned) ∧
    ∀ text code, read text = .ok code → read code.text = .ok code := by
  refine ⟨fun text => ⟨?_, ?_⟩, fun text code => read_eq_ok_iff,
    fun text fault => text_of_read_eq_error, fun code => read_text_eq_ok_iff,
    fun text code found => ?_⟩
  · rintro ⟨code, found⟩
    obtain ⟨core, volume, issue, trims, spells, has⟩ := read_eq_ok_iff.1 found
    exact ⟨core, volume, issue, trims, spells, exists_has_iff.1 ⟨code, has⟩⟩
  · rintro ⟨core, volume, issue, trims, spells, small⟩
    obtain ⟨code, has⟩ := exists_has_iff.2 small
    exact ⟨code, read_eq_ok_iff.2 ⟨core, volume, issue, trims, spells, has⟩⟩
  · obtain ⟨core, volume, issue, trims, spells, has⟩ := read_eq_ok_iff.1 found
    exact read_text_eq_ok_iff.2 has.isUnsigned

/-- Capitals, zeros in front and an ideographic space make no difference. -/
theorem read_iff_spells_zeros :
    read " V007I02\u3000" = .ok ⟨7, some 2⟩ ∧ read "v7i2" = .ok ⟨7, some 2⟩ := by
  obtain ⟨-, spelt, -, -, again⟩ := read_iff_spells
  have trims : TrimsTo " V007I02\u3000".toList "V007I02".toList := trimBlanks_eq_iff.1 (by decide)
  have spells : Spells ("V007I02".toList.map Char.toLower) 7 (some 2) :=
    .issue (by decide : IsNumeral "007".toList) (by decide : IsNumeral "02".toList)
  have has : Has ⟨7, some 2⟩ 7 (some 2) := ⟨rfl, rfl⟩
  have found : read " V007I02\u3000" = .ok ⟨7, some 2⟩ :=
    (spelt _ _).2 ⟨_, _, _, trims, spells, has⟩
  have written : text ⟨7, some 2⟩ = "v7i2" := by cbv
  exact ⟨found, written ▸ again _ _ found⟩

-- A number is too large by its value, not by its length.
example : (read "v2147483648").isOk = false := by cbv

example : (read "v00000002147483647").isOk = true := by cbv

end IssueCode

end PeriodicalSearch
