import PeriodicalSearch.Proofs.Text.Letters

/-! The characters that capitals are. Beyond ASCII a letter becomes letters from `A` to `Z` and
characters beyond ASCII, so nothing in a text of capitals has another capital in ASCII. A text that
has letters beyond ASCII to capitalize is not found in itself by its capitals, whatever the case of
ASCII letters. -/

namespace PeriodicalSearch.Text

def IsCapitalCode (code : Nat) : Prop := 0x41 ≤ code ∧ code ≤ 0x5A ∨ 0x80 ≤ code

instance (code : Nat) : Decidable (IsCapitalCode code) := inferInstanceAs (Decidable (_ ∨ _))

theorem expansions_are_capital : ∀ entry ∈ caseExpansions, entry.2 ≠ [] ∧
    ∀ code ∈ entry.2, Nat.isValidChar code ∧ IsCapitalCode code := by
  decide +kernel

theorem runs_are_capital : ∀ run ∈ caseRuns, ∀ offset ≤ run.last - run.first,
    Nat.isValidChar (run.capital + offset) ∧ IsCapitalCode (run.capital + offset) := by
  decide +kernel

theorem toNat_ofNat_of_valid {code : Nat} (valid : Nat.isValidChar code) :
    (Char.ofNat code).toNat = code := by
  rw [Char.toNat_ofNat, if_pos valid]

theorem entry_of_lookup {code : Nat} {codes : List Nat}
    (found : caseExpansions.lookup code = some codes) : (code, codes) ∈ caseExpansions := by
  obtain ⟨before, after, entries, -⟩ := List.lookup_eq_some_iff.1 found
  rw [entries]
  exact List.mem_append_right _ List.mem_cons_self

theorem isCapitalCode_of_mem_capital {c d : Char} (beyond : ¬c.toNat < 0x80)
    (member : d ∈ capital c) : IsCapitalCode d.toNat := by
  rw [capital, if_neg beyond] at member
  split at member
  next codes found =>
    obtain ⟨code, listed, rfl⟩ := List.mem_map.1 member
    obtain ⟨valid, capital⟩ := (expansions_are_capital _ (entry_of_lookup found)).2 code listed
    rw [toNat_ofNat_of_valid valid]
    exact capital
  next =>
    split at member
    next code found =>
      obtain ⟨run, listed, shifted⟩ := List.exists_of_findSome?_eq_some found
      unfold CaseRun.capital? at shifted
      split at shifted
      next within =>
        have offset : c.toNat - run.first ≤ run.last - run.first := by omega
        obtain ⟨valid, capital⟩ := runs_are_capital run listed _ offset
        cases shifted
        rw [List.mem_singleton.1 member, toNat_ofNat_of_valid valid]
        exact capital
      next => cases shifted
    next =>
      rw [List.mem_singleton.1 member]
      exact .inr (Nat.not_lt.1 beyond)

theorem capital_ne_nil (c : Char) : capital c ≠ [] := by
  rw [capital]
  split
  · exact List.cons_ne_nil _ _
  · split
    next codes found =>
      exact fun none => (expansions_are_capital _ (entry_of_lookup found)).1
        (List.map_eq_nil_iff.1 none)
    next => split <;> exact List.cons_ne_nil _ _

theorem toUpper_of_isCapitalCode {d : Char} (capital : IsCapitalCode d.toNat) : d.toUpper = d := by
  refine Char.toUpper_eq_of_not_isLower fun lower => ?_
  simp only [Char.isLower, Bool.and_eq_true, decide_eq_true_eq, ge_iff_le,
    UInt32.le_iff_toNat_le] at lower
  have low : 97 ≤ d.toNat := lower.1
  have high : d.toNat ≤ 122 := lower.2
  unfold IsCapitalCode at capital
  omega

theorem toUpper_of_beyond {c : Char} (beyond : ¬c.toNat < 0x80) : c.toUpper = c :=
  toUpper_of_isCapitalCode (.inr (Nat.not_lt.1 beyond))

theorem toUpper_toUpper (c : Char) : c.toUpper.toUpper = c.toUpper := by
  rw [← Char.toUpper_toLower_eq_toUpper c.toUpper, Char.toLower_toUpper_eq_toLower,
    Char.toUpper_toLower_eq_toUpper]

theorem toUpper_of_mem_capital {c d : Char} (member : d ∈ capital c) : d.toUpper = d := by
  by_cases ascii : c.toNat < 0x80
  · rw [capital, if_pos ascii] at member
    rw [List.mem_singleton.1 member, toUpper_toUpper]
  · exact toUpper_of_isCapitalCode (isCapitalCode_of_mem_capital ascii member)

theorem map_toUpper_capitals (text : List Char) :
    (capitals text).map Char.toUpper = capitals text := by
  refine (List.map_congr_left fun d member => ?_).trans (List.map_id _)
  obtain ⟨c, -, made⟩ := List.mem_flatMap.1 member
  exact toUpper_of_mem_capital made

theorem null_mem_capital_iff {c : Char} : '\x00' ∈ capital c ↔ c = '\x00' := by
  by_cases ascii : c.toNat < 0x80
  · rw [capital, if_pos ascii, List.mem_singleton, eq_comm, toUpper_eq_null]
  · refine iff_of_false (fun member => ?_) fun null => ascii (null ▸ by decide)
    have code := isCapitalCode_of_mem_capital ascii member
    revert code
    decide

theorem null_mem_capitals_iff {text : List Char} : '\x00' ∈ capitals text ↔ '\x00' ∈ text := by
  simp only [capitals, List.mem_flatMap, null_mem_capital_iff, exists_eq_right]

/-- Only letters of ASCII have capitals of their own in the text; every other character of it is its
own capital. -/
def HasAsciiCase (text : List Char) : Prop := ∀ c ∈ text, c.toNat < 0x80 ∨ capital c = [c]

instance (text : List Char) : Decidable (HasAsciiCase text) := List.decidableBAll _ text

theorem capital_eq_toUpper_iff {c : Char} :
    capital c = [c.toUpper] ↔ c.toNat < 0x80 ∨ capital c = [c] := by
  by_cases ascii : c.toNat < 0x80
  · exact iff_of_true (if_pos ascii) (.inl ascii)
  · rw [toUpper_of_beyond ascii, or_iff_right ascii]

theorem length_le_length_capitals (text : List Char) : text.length ≤ (capitals text).length := by
  induction text with
  | nil => exact Nat.le_refl _
  | cons c text step =>
    have room := List.length_pos_iff.2 (capital_ne_nil c)
    rw [capitals, List.flatMap_cons, List.length_append, List.length_cons, ← capitals]
    omega

/-- No character of the text becomes several ones, since the others make up for none of them. -/
theorem map_capitals_eq_iff {α : Type} (f : Char → α) {text : List Char} :
    (capitals text).map f = (text.map Char.toUpper).map f ↔
      ∀ c ∈ text, (capital c).map f = [f c.toUpper] := by
  induction text with
  | nil => exact iff_of_true rfl fun c none => absurd none List.not_mem_nil
  | cons c text step =>
    rw [List.forall_mem_cons, ← step, capitals, List.flatMap_cons, ← capitals, List.map_append,
      List.map_cons, List.map_cons]
    constructor
    · intro same
      have length := congrArg List.length same
      have room := List.length_pos_iff.2 (capital_ne_nil c)
      have others := length_le_length_capitals text
      simp only [List.length_append, List.length_cons, List.length_map] at length
      have single : ((capital c).map f).length = [f c.toUpper].length := by
        rw [List.length_map, List.length_singleton]
        omega
      exact List.append_inj same single
    · rintro ⟨first, others⟩
      rw [first, others]
      rfl

theorem capitals_eq_map_toUpper_iff {text : List Char} :
    capitals text = text.map Char.toUpper ↔ HasAsciiCase text := by
  have own : (capitals text).map id = (text.map Char.toUpper).map id ↔ _ := map_capitals_eq_iff id
  simp only [List.map_id, id_eq, capital_eq_toUpper_iff] at own
  exact own

end PeriodicalSearch.Text
