import PeriodicalSearch.Condition
import PeriodicalSearch.Proofs.Text.Capitals
import PeriodicalSearch.Sql.Like

/-! What the pattern of a containment test matches. Escaping leaves no wildcard of the searched text
in force, and making capitals of the escaped text adds none, so the pattern fits the texts that
contain the capitals of the searched text, whatever the case of ASCII letters. -/

namespace PeriodicalSearch

open Text

def IsWildcard (c : Char) : Prop := c = '\\' ∨ c = '%' ∨ c = '_'

instance (c : Char) : Decidable (IsWildcard c) := inferInstanceAs (Decidable (_ ∨ _))

namespace Lookup

theorem isWildcard_toUpper {c : Char} (ascii : c.toNat < 0x80) :
    IsWildcard c.toUpper ↔ IsWildcard c :=
  forall_ascii (fun c => IsWildcard c.toUpper ↔ IsWildcard c) (by decide) c ascii

theorem capital_of_isWildcard {c : Char} (wildcard : IsWildcard c) : capital c = [c] := by
  rcases wildcard with rfl | rfl | rfl <;> rfl

theorem not_isWildcard_of_mem_capital {c d : Char} (plain : ¬ IsWildcard c)
    (member : d ∈ capital c) : ¬ IsWildcard d := by
  by_cases ascii : c.toNat < 0x80
  · rw [capital, if_pos ascii, List.mem_singleton] at member
    rw [member, isWildcard_toUpper ascii]
    exact plain
  · have code := isCapitalCode_of_mem_capital ascii member
    rintro (rfl | rfl | rfl) <;> revert code <;> decide

theorem escapeWildcards_cons (c : Char) (text : List Char) :
    escapeWildcards (c :: text) =
      (if IsWildcard c then ['\\', c] else [c]) ++ escapeWildcards text :=
  rfl

theorem escapeWildcards_append (one other : List Char) :
    escapeWildcards (one ++ other) = escapeWildcards one ++ escapeWildcards other :=
  List.flatMap_append

theorem escapeWildcards_of_free {text : List Char} (free : ∀ c ∈ text, ¬ IsWildcard c) :
    escapeWildcards text = text := by
  induction text with
  | nil => rfl
  | cons c text step =>
    rw [escapeWildcards_cons, if_neg (free c List.mem_cons_self),
      step fun d member => free d (List.mem_cons_of_mem c member)]
    rfl

/-- Capitals may be made before or after escaping. -/
theorem capitals_escapeWildcards (text : List Char) :
    capitals (escapeWildcards text) = escapeWildcards (capitals text) := by
  induction text with
  | nil => rfl
  | cons c text step =>
    have escaped : capitals (if IsWildcard c then ['\\', c] else [c]) =
        escapeWildcards (capital c) := by
      by_cases wildcard : IsWildcard c
      · rw [if_pos wildcard, capital_of_isWildcard wildcard, escapeWildcards_cons,
          if_pos wildcard, capitals, List.flatMap_cons, List.flatMap_cons,
          capital_of_isWildcard wildcard, capital_of_isWildcard (.inl rfl)]
        rfl
      · rw [if_neg wildcard, capitals, List.flatMap_cons, List.flatMap_nil, List.append_nil,
          escapeWildcards_of_free fun d member => not_isWildcard_of_mem_capital wildcard member]
    rw [escapeWildcards_cons, capitals_append, escaped, step, ← escapeWildcards_append]
    rfl

end Lookup

namespace Sql

open Lookup (escapeWildcards escapeWildcards_cons)

theorem patternParts?_escaped (text rest : List Char) :
    patternParts? (escapeWildcards text ++ rest) =
      (patternParts? rest).map (text.map PatternPart.literal ++ ·) := by
  induction text with
  | nil => exact Option.map_id'.symm
  | cons c text step =>
    rw [escapeWildcards_cons]
    by_cases wildcard : IsWildcard c
    · rw [if_pos wildcard]
      change (patternParts? (escapeWildcards text ++ rest)).map _ = _
      rw [step, Option.map_map]
      rfl
    · have noEscape : c ≠ '\\' := fun same => wildcard (.inl same)
      have noRun : c ≠ '%' := fun same => wildcard (.inr (.inl same))
      have noOne : c ≠ '_' := fun same => wildcard (.inr (.inr same))
      rw [if_neg wildcard, List.append_assoc, List.singleton_append, patternParts?]
      · rw [if_neg noEscape, if_neg noRun, if_neg noOne, step, Option.map_map]
        rfl
      · intro d others same
        exact absurd same noEscape

theorem patternParts?_anyRun (rest : List Char) :
    patternParts? ('%' :: rest) = (patternParts? rest).map (.anyRun :: ·) := by
  rw [patternParts?]
  · rfl
  · intro d others same
    cases same

theorem fits_nil {text : List Char} : fits [] text = true ↔ text = [] := by
  rw [fits, List.isEmpty_iff]

theorem fits_anyRun {parts : List PatternPart} {text : List Char} :
    fits (.anyRun :: parts) text = true ↔ ∃ rest, rest <:+ text ∧ fits parts rest = true := by
  induction text with
  | nil =>
    rw [fits]
    constructor
    · exact fun fit => ⟨[], List.suffix_rfl, fit⟩
    · rintro ⟨rest, suffix, fit⟩
      rwa [List.suffix_nil.1 suffix] at fit
  | cons c text step =>
    rw [fits, Bool.or_eq_true, step]
    constructor
    · rintro (here | ⟨rest, suffix, fit⟩)
      · exact ⟨c :: text, List.suffix_rfl, here⟩
      · exact ⟨rest, suffix.trans (List.suffix_cons c text), fit⟩
    · rintro ⟨rest, suffix, fit⟩
      rcases List.suffix_cons_iff.1 suffix with same | later
      · exact .inl (same ▸ fit)
      · exact .inr ⟨rest, later, fit⟩

/-- A word in a pattern stands for itself, in letters of either case. -/
theorem fits_literals {word : List Char} {parts : List PatternPart} {text : List Char} :
    fits (word.map .literal ++ parts) text = true ↔ ∃ start rest, text = start ++ rest ∧
      start.map Char.toUpper = word.map Char.toUpper ∧ fits parts rest = true := by
  induction word generalizing text with
  | nil =>
    constructor
    · exact fun fit => ⟨[], text, rfl, rfl, fit⟩
    · rintro ⟨start, rest, rfl, same, fit⟩
      rw [List.map_eq_nil_iff.1 same]
      exact fit
  | cons c word step =>
    cases text with
    | nil =>
      rw [List.map_cons, List.cons_append, fits]
      constructor
      · intro never
        cases never
      · rintro ⟨start, rest, none, same, -⟩
        rw [(List.append_eq_nil_iff.1 none.symm).1] at same
        cases same
    | cons d text =>
      rw [List.map_cons, List.cons_append, fits, Bool.and_eq_true, beq_iff_eq, step]
      constructor
      · rintro ⟨first, start, rest, rfl, same, fit⟩
        exact ⟨d :: start, rest, rfl, by rw [List.map_cons, List.map_cons, first, same], fit⟩
      · rintro ⟨start, rest, split, same, fit⟩
        cases start with
        | nil => cases same
        | cons e start =>
          injection split with first others
          injection same with letter letters
          exact ⟨by rw [first, letter], start, rest, others, letters, fit⟩

theorem fits_anyRun_last {text : List Char} : fits [.anyRun] text = true :=
  fits_anyRun.2 ⟨[], List.nil_suffix, fits_nil.2 rfl⟩

theorem fits_ending {word text : List Char} :
    fits (.anyRun :: word.map .literal) text = true ↔ EndsInLetters text word := by
  rw [fits_anyRun, endsInLetters_iff]
  constructor
  · rintro ⟨rest, ⟨skipped, rfl⟩, fit⟩
    rw [← List.append_nil (word.map PatternPart.literal), fits_literals] at fit
    obtain ⟨start, others, rfl, same, last⟩ := fit
    rw [fits_nil.1 last, List.append_nil, List.map_append, same]
    exact List.suffix_append ..
  · rintro ⟨skipped, same⟩
    obtain ⟨before, rest, rfl, -, letters⟩ := List.map_eq_append_iff.1 same.symm
    refine ⟨rest, List.suffix_append .., ?_⟩
    rw [← List.append_nil (word.map PatternPart.literal), fits_literals]
    exact ⟨rest, [], (List.append_nil rest).symm, letters, fits_nil.2 rfl⟩

theorem fits_containing {word text : List Char} :
    fits (.anyRun :: (word.map .literal ++ [.anyRun])) text = true ↔ ContainsLetters text word := by
  rw [fits_anyRun, containsLetters_iff]
  constructor
  · rintro ⟨rest, ⟨skipped, rfl⟩, fit⟩
    obtain ⟨start, others, rfl, same, -⟩ := fits_literals.1 fit
    refine ⟨skipped.map Char.toUpper, others.map Char.toUpper, ?_⟩
    rw [List.map_append, List.map_append, same, List.append_assoc]
  · rintro ⟨skipped, others, same⟩
    rw [List.append_assoc] at same
    obtain ⟨before, behind, rfl, -, later⟩ := List.map_eq_append_iff.1 same.symm
    obtain ⟨start, rest, rfl, letters, -⟩ := List.map_eq_append_iff.1 later
    exact ⟨start ++ rest, List.suffix_append ..,
      fits_literals.2 ⟨start, rest, rfl, letters, fits_anyRun_last⟩⟩

theorem visible_of_free {text : List Char} (free : '\x00' ∉ text) : visible text = text := by
  refine List.takeWhile_eq_self_iff.2 fun c member => ?_
  exact bne_iff_ne.2 fun null => free (null ▸ member)

theorem visible_append_of_mem {text : List Char} (null : '\x00' ∈ text) (more : List Char) :
    visible (text ++ more) = visible text := by
  induction text with
  | nil => cases null
  | cons c text step =>
    rw [List.cons_append, visible, visible, List.takeWhile_cons, List.takeWhile_cons]
    by_cases here : c = '\x00'
    · rw [here]
      rfl
    · have later := (List.mem_cons.1 null).resolve_left (Ne.symm here)
      have rest : (text ++ more).takeWhile (· != '\x00') = text.takeWhile (· != '\x00') :=
        step later
      rw [rest]

theorem visible_escapeWildcards (text : List Char) :
    visible (escapeWildcards text) = escapeWildcards (visible text) := by
  induction text with
  | nil => rfl
  | cons c text step =>
    by_cases null : c = '\x00'
    · rw [null]
      rfl
    · have kept : (c != '\x00') = true := bne_iff_ne.2 null
      have rest : (escapeWildcards text).takeWhile (· != '\x00') = escapeWildcards (visible text) :=
        step
      rw [visible, visible, List.takeWhile_cons, if_pos kept, escapeWildcards_cons,
        escapeWildcards_cons]
      by_cases wildcard : IsWildcard c
      · rw [if_pos wildcard, List.cons_append, List.takeWhile_cons, if_pos (by decide),
          List.singleton_append, List.takeWhile_cons, if_pos kept, rest]
        rfl
      · rw [if_neg wildcard, List.singleton_append, List.takeWhile_cons, if_pos kept, rest]
        rfl

theorem mem_escapeWildcards_null {text : List Char} :
    '\x00' ∈ escapeWildcards text ↔ '\x00' ∈ text := by
  induction text with
  | nil => exact Iff.rfl
  | cons c text step =>
    rw [escapeWildcards_cons, List.mem_append, step, List.mem_cons]
    refine or_congr_left ?_
    split
    · exact ⟨fun member => (List.mem_cons.1 member).elim (fun none => nomatch none)
        List.mem_singleton.1, fun same => same ▸ List.mem_cons_of_mem _ List.mem_cons_self⟩
    · exact List.mem_singleton

theorem readCharacter_of_ascii {c : Char} (ascii : c.toNat < 0x80) : readCharacter c = c := by
  refine if_neg ?_
  rintro (rfl | rfl) <;> revert ascii <;> decide

theorem toUpper_readCharacter (c : Char) : (readCharacter c).toUpper = readCharacter c.toUpper := by
  by_cases ascii : c.toNat < 0x80
  · have capital : c.toUpper.toNat < 0x80 :=
      forall_ascii (fun c => c.toUpper.toNat < 0x80) (by decide) c ascii
    rw [readCharacter_of_ascii ascii, readCharacter_of_ascii capital]
  · rw [toUpper_of_beyond ascii, readCharacter]
    split
    · rfl
    · exact toUpper_of_beyond ascii

/-- Characters that are read as another are no wildcards, and neither is the other one. -/
theorem map_readCharacter_escapeWildcards (text : List Char) :
    (escapeWildcards text).map readCharacter = escapeWildcards (text.map readCharacter) := by
  induction text with
  | nil => rfl
  | cons c text step =>
    rw [escapeWildcards_cons, List.map_append, step, List.map_cons, escapeWildcards_cons]
    by_cases wildcard : IsWildcard c
    · have same : readCharacter c = c := by
        rcases wildcard with rfl | rfl | rfl <;> rfl
      rw [same, if_pos wildcard, List.map_cons, List.map_singleton, same]
      rfl
    · have plain : ¬IsWildcard (readCharacter c) := by
        rw [readCharacter]
        split
        · decide
        · exact wildcard
      rw [if_neg wildcard, if_neg plain, List.map_singleton]

theorem readText_escapeWildcards (text : List Char) :
    readText (escapeWildcards text) = escapeWildcards (readText text) := by
  rw [readText, visible_escapeWildcards, map_readCharacter_escapeWildcards, readText]

end Sql

namespace Lookup

/-- A containment test finds the part, written in capitals, in what the database reads of a cell.
It reads of the part what is before a null character; where the part has one, the content has to end
there. -/
def FindsIn (content part : List Char) : Prop :=
  if '\x00' ∈ part then EndsInLetters content (Sql.readText part)
  else ContainsLetters content (Sql.readText part)

instance (content part : List Char) : Decidable (FindsIn content part) :=
  inferInstanceAs (Decidable (ite ..))

theorem like_containsPattern (text : String) (content : List Char) :
    Sql.like (Sql.readText (containsPattern text).toList) content = true ↔
      FindsIn content (capitals text.toList) := by
  -- A null character in the text hides the last wildcard of the pattern from the database.
  rw [containsPattern, String.toList_ofList, capitals_escapeWildcards, FindsIn]
  generalize capitals text.toList = part
  have first : Sql.readText ('%' :: (escapeWildcards part ++ ['%'])) =
      '%' :: Sql.readText (escapeWildcards part ++ ['%']) := rfl
  rw [Sql.like, first]
  by_cases null : '\x00' ∈ part
  · have hidden : Sql.readText (escapeWildcards part ++ ['%']) =
        escapeWildcards (Sql.readText part) := by
      rw [← Sql.readText_escapeWildcards, Sql.readText, Sql.readText,
        Sql.visible_append_of_mem (Sql.mem_escapeWildcards_null.2 null)]
    have parts : Sql.patternParts? (escapeWildcards (Sql.readText part)) =
        some ((Sql.readText part).map .literal) := by
      have escaped := Sql.patternParts?_escaped (Sql.readText part) []
      rwa [List.append_nil, Sql.patternParts?, Option.map_some, List.append_nil] at escaped
    rw [if_pos null, hidden, Sql.patternParts?_anyRun, parts]
    exact Sql.fits_ending
  · have free : '\x00' ∉ escapeWildcards part ++ ['%'] := fun member =>
      (List.mem_append.1 member).elim (fun early => null (Sql.mem_escapeWildcards_null.1 early))
        (fun last => nomatch List.mem_singleton.1 last)
    have shown : Sql.readText (escapeWildcards part ++ ['%']) =
        escapeWildcards (Sql.readText part) ++ ['%'] := by
      rw [Sql.readText, Sql.visible_of_free free, List.map_append,
        Sql.map_readCharacter_escapeWildcards, Sql.readText, Sql.visible_of_free null]
      rfl
    rw [if_neg null, shown, Sql.patternParts?_anyRun, Sql.patternParts?_escaped,
      Sql.patternParts?_anyRun]
    exact Sql.fits_containing

end Lookup

end PeriodicalSearch
