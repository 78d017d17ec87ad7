import Mathlib
import PeriodicalSearch.Text.UpperCase

/-! Letters whatever their case. Only the case of ASCII letters is overlooked here; the capitals of
a text of ASCII characters overlook nothing else. -/

namespace PeriodicalSearch.Text

def folded (text : List Char) : List Char := text.map Char.caseFoldAsciiOnly

def SameLetters (one other : List Char) : Prop := folded one = folded other

def ContainsLetters (text part : List Char) : Prop := folded part <:+: folded text

def EndsInLetters (text part : List Char) : Prop := folded part <:+ folded text

instance (one other : List Char) : Decidable (SameLetters one other) :=
  inferInstanceAs (Decidable (_ = _))

instance (text part : List Char) : Decidable (ContainsLetters text part) :=
  inferInstanceAs (Decidable (_ <:+: _))

instance (text part : List Char) : Decidable (EndsInLetters text part) :=
  inferInstanceAs (Decidable (_ <:+ _))

@[simp] theorem folded_map_toUpper (text : List Char) :
    folded (text.map Char.toUpper) = folded text := by
  simp only [folded, List.map_map]
  congr 1
  funext c
  exact Char.toLower_toUpper_eq_toLower c

@[simp] theorem map_toUpper_folded (text : List Char) :
    (folded text).map Char.toUpper = text.map Char.toUpper := by
  simp only [folded, List.map_map]
  congr 1
  funext c
  exact Char.toUpper_toLower_eq_toUpper c

theorem sameLetters_iff {one other : List Char} :
    SameLetters one other ↔ one.map Char.toUpper = other.map Char.toUpper := by
  constructor
  · intro same
    rw [← map_toUpper_folded one, ← map_toUpper_folded other]
    exact congrArg (List.map Char.toUpper) same
  · intro same
    rw [SameLetters, ← folded_map_toUpper one, ← folded_map_toUpper other, same]

theorem sameLetters_iff_toLower {text : List Char} (word : String)
    (lower : folded word.toList = word.toList) :
    SameLetters text word.toList ↔ String.ofList (text.map Char.toLower) = word := by
  rw [SameLetters, lower, ← String.toList_inj, String.toList_ofList]
  rfl

theorem containsLetters_iff {text part : List Char} :
    ContainsLetters text part ↔ part.map Char.toUpper <:+: text.map Char.toUpper := by
  constructor
  · intro contained
    rw [← map_toUpper_folded text, ← map_toUpper_folded part]
    exact contained.map Char.toUpper
  · intro contained
    rw [ContainsLetters, ← folded_map_toUpper text, ← folded_map_toUpper part]
    exact contained.map Char.caseFoldAsciiOnly

theorem endsInLetters_iff {text part : List Char} :
    EndsInLetters text part ↔ part.map Char.toUpper <:+ text.map Char.toUpper := by
  constructor
  · intro ends
    rw [← map_toUpper_folded text, ← map_toUpper_folded part]
    exact ends.map Char.toUpper
  · intro ends
    rw [EndsInLetters, ← folded_map_toUpper text, ← folded_map_toUpper part]
    exact ends.map Char.caseFoldAsciiOnly

/-- The character belongs to ASCII and is not the null character. -/
def IsPlain (c : Char) : Prop := c.toNat < 0x80 ∧ c ≠ '\x00'

instance (c : Char) : Decidable (IsPlain c) := inferInstanceAs (Decidable (_ ∧ _))

theorem isPlain_of_all {text : List Char} (all : (text.all fun c => decide (IsPlain c)) = true) :
    ∀ c ∈ text, IsPlain c :=
  fun c member => of_decide_eq_true (List.all_eq_true.1 all c member)

theorem capitals_of_plain {text : List Char} (plain : ∀ c ∈ text, IsPlain c) :
    capitals text = text.map Char.toUpper := by
  induction text with
  | nil => rfl
  | cons c rest step =>
    have first : capital c = [c.toUpper] := if_pos (plain c List.mem_cons_self).1
    have others := step fun d member => plain d (List.mem_cons_of_mem c member)
    rw [capitals, List.flatMap_cons, first, ← capitals, others]
    rfl

/-- What holds of the 128 characters of ASCII can be checked one by one. -/
theorem forall_ascii (property : Char → Prop)
    (checked : ∀ code < 0x80, property (Char.ofNat code)) (c : Char) (ascii : c.toNat < 0x80) :
    property c :=
  Char.ofNat_toNat c ▸ checked c.toNat ascii

theorem ascii_of_isAlphanum {c : Char} (inWord : c.isAlphanum = true) : c.toNat < 0x80 := by
  simp only [Char.isAlphanum, Char.isAlpha, Char.isUpper, Char.isLower, Char.isDigit,
    Bool.or_eq_true, Bool.and_eq_true, decide_eq_true_eq, ge_iff_le,
    UInt32.le_iff_toNat_le] at inWord
  rcases inWord with (upper | lower) | digit
  · exact Nat.lt_of_le_of_lt upper.2 (by decide)
  · exact Nat.lt_of_le_of_lt lower.2 (by decide)
  · exact Nat.lt_of_le_of_lt digit.2 (by decide)

theorem isAlphanum_of_isDigit {c : Char} (digit : c.isDigit = true) : c.isAlphanum = true := by
  rw [Char.isAlphanum, digit, Bool.or_true]

/-- A function on characters that does not see the case of ASCII letters, checked code by code. -/
theorem apply_toLower {α : Type} {f : Char → α}
    (checked : ∀ code < 0x80, f (Char.ofNat code).toLower = f (Char.ofNat code)) (c : Char) :
    f c.toLower = f c := by
  by_cases ascii : c.toNat < 0x80
  · exact forall_ascii (fun c => f c.toLower = f c) checked c ascii
  · rw [Char.toLower_eq_of_not_isUpper]
    intro upper
    simp only [Char.isUpper, decide_eq_true_eq, ge_iff_le, UInt32.le_iff_toNat_le] at upper
    have bound : c.toNat ≤ 90 := upper.2
    omega

theorem capital_toLower (c : Char) : capital c.toLower = capital c :=
  apply_toLower (f := capital) (by decide) c

@[simp] theorem capitals_folded (text : List Char) : capitals (folded text) = capitals text := by
  rw [capitals, folded, List.flatMap_map]
  exact List.flatMap_congr fun c _ => capital_toLower c

theorem SameLetters.capitals_eq {one other : List Char} (same : SameLetters one other) :
    capitals one = capitals other := by
  rw [← capitals_folded one, ← capitals_folded other, same]

theorem toUpper_eq_null {c : Char} : c.toUpper = '\x00' ↔ c = '\x00' := by
  by_cases ascii : c.toNat < 0x80
  · exact forall_ascii (fun c => c.toUpper = '\x00' ↔ c = '\x00') (by decide) c ascii
  · rw [Char.toUpper_eq_of_not_isLower]
    intro lower
    simp only [Char.isLower, Bool.and_eq_true, decide_eq_true_eq, ge_iff_le,
      UInt32.le_iff_toNat_le] at lower
    have bound : c.toNat ≤ 122 := lower.2
    omega

end PeriodicalSearch.Text
