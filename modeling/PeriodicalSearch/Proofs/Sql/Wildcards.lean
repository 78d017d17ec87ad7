import PeriodicalSearch.Proofs.Sql.Containment

/-! The rules of `LIKE`, and the pattern of a containment test under them. `Matches` tells characters
apart as they are written, so it speaks of texts in capitals; on these the evaluation of a pattern
decides it. -/

namespace PeriodicalSearch

open Text

namespace Sql

/-- The text as a whole matches the pattern: `%` is any run of characters, `_` any one character, a
backslash and a character are that character, and any other character is itself. -/
inductive Matches : List Char → List Char → Prop where
  | nil : Matches [] []
  | anyRun {pattern text : List Char} (skipped : List Char) (later : Matches pattern text) :
      Matches ('%' :: pattern) (skipped ++ text)
  | anyOne {pattern text : List Char} (c : Char) (later : Matches pattern text) :
      Matches ('_' :: pattern) (c :: text)
  | escaped {pattern text : List Char} (c : Char) (later : Matches pattern text) :
      Matches ('\\' :: c :: pattern) (c :: text)
  | plain {pattern text : List Char} {c : Char} (plain : ¬ IsWildcard c)
      (later : Matches pattern text) : Matches (c :: pattern) (c :: text)

/-- Every backslash of the pattern is in front of a character that has a meaning of its own. -/
inductive WellEscaped : List Char → Prop where
  | nil : WellEscaped []
  | escaped {pattern : List Char} {c : Char} (wildcard : IsWildcard c)
      (later : WellEscaped pattern) : WellEscaped ('\\' :: c :: pattern)
  | plain {pattern : List Char} {c : Char} (noEscape : c ≠ '\\') (later : WellEscaped pattern) :
      WellEscaped (c :: pattern)

theorem matches_nil_iff {text : List Char} : Matches [] text ↔ text = [] := by
  constructor
  · intro fit
    cases fit
    rfl
  · rintro rfl
    exact .nil

theorem matches_anyRun_iff {pattern text : List Char} :
    Matches ('%' :: pattern) text ↔ ∃ rest, rest <:+ text ∧ Matches pattern rest := by
  constructor
  · intro fit
    cases fit with
    | anyRun skipped later => exact ⟨_, List.suffix_append .., later⟩
    | plain plain => exact absurd (.inr (.inl rfl)) plain
  · rintro ⟨rest, ⟨skipped, rfl⟩, later⟩
    exact .anyRun skipped later

theorem matches_anyOne_iff {pattern text : List Char} :
    Matches ('_' :: pattern) text ↔ ∃ rest, (∃ c, text = c :: rest) ∧ Matches pattern rest := by
  constructor
  · intro fit
    cases fit with
    | anyOne c later => exact ⟨_, ⟨c, rfl⟩, later⟩
    | plain plain => exact absurd (.inr (.inr rfl)) plain
  · rintro ⟨rest, ⟨c, rfl⟩, later⟩
    exact .anyOne c later

theorem matches_escaped_iff {pattern text : List Char} {c : Char} :
    Matches ('\\' :: c :: pattern) text ↔ ∃ rest, text = c :: rest ∧ Matches pattern rest := by
  constructor
  · intro fit
    cases fit with
    | escaped _ later => exact ⟨_, rfl, later⟩
    | plain plain => exact absurd (.inl rfl) plain
  · rintro ⟨rest, rfl, later⟩
    exact .escaped c later

theorem matches_plain_iff {pattern text : List Char} {c : Char} (plain : ¬ IsWildcard c) :
    Matches (c :: pattern) text ↔ ∃ rest, text = c :: rest ∧ Matches pattern rest := by
  constructor
  · intro fit
    cases fit with
    | anyRun => exact absurd (.inr (.inl rfl)) plain
    | anyOne => exact absurd (.inr (.inr rfl)) plain
    | escaped => exact absurd (.inl rfl) plain
    | plain _ later => exact ⟨_, rfl, later⟩
  · rintro ⟨rest, rfl, later⟩
    exact .plain plain later

theorem not_matches_escape (text : List Char) : ¬ Matches ['\\'] text := by
  intro fit
  cases fit with
  | plain plain => exact plain (.inl rfl)

open Lookup (escapeWildcards escapeWildcards_cons)

theorem matches_escape_append {word rest text : List Char} :
    Matches (escapeWildcards word ++ rest) text ↔
      ∃ behind, text = word ++ behind ∧ Matches rest behind := by
  induction word generalizing text with
  | nil =>
    constructor
    · exact fun fit => ⟨text, rfl, fit⟩
    · rintro ⟨behind, rfl, fit⟩
      exact fit
  | cons c word step =>
    have first : Matches (escapeWildcards (c :: word) ++ rest) text ↔
        ∃ tail, text = c :: tail ∧ Matches (escapeWildcards word ++ rest) tail := by
      rw [escapeWildcards_cons, List.append_assoc]
      by_cases wildcard : IsWildcard c
      · rw [if_pos wildcard]
        exact matches_escaped_iff
      · rw [if_neg wildcard]
        exact matches_plain_iff wildcard
    rw [first]
    constructor
    · rintro ⟨tail, rfl, fit⟩
      obtain ⟨behind, rfl, later⟩ := step.1 fit
      exact ⟨behind, rfl, later⟩
    · rintro ⟨behind, rfl, later⟩
      exact ⟨word ++ behind, rfl, step.2 ⟨behind, rfl, later⟩⟩

/-- An escaped word between two signs for any run matches the texts that contain the word. -/
theorem matches_containing_iff {word text : List Char} :
    Matches ('%' :: (escapeWildcards word ++ ['%'])) text ↔ word <:+: text := by
  rw [matches_anyRun_iff, List.infix_iff_prefix_suffix]
  constructor
  · rintro ⟨rest, suffix, fit⟩
    obtain ⟨behind, rfl, -⟩ := matches_escape_append.1 fit
    exact ⟨_, List.prefix_append .., suffix⟩
  · rintro ⟨rest, ⟨behind, rfl⟩, suffix⟩
    refine ⟨_, suffix, matches_escape_append.2 ⟨behind, rfl, ?_⟩⟩
    exact matches_anyRun_iff.2 ⟨[], List.nil_suffix, .nil⟩

theorem wellEscaped_escape_append {rest : List Char} (escaped : WellEscaped rest)
    (word : List Char) : WellEscaped (escapeWildcards word ++ rest) := by
  induction word with
  | nil => exact escaped
  | cons c word step =>
    rw [escapeWildcards_cons, List.append_assoc]
    by_cases wildcard : IsWildcard c
    · rw [if_pos wildcard]
      exact .escaped wildcard step
    · rw [if_neg wildcard]
      exact .plain (fun same => wildcard (.inl same)) step

def InCapitals (text : List Char) : Prop := ∀ c ∈ text, c.toUpper = c

theorem InCapitals.of_subset {text part : List Char} (capitals : InCapitals text)
    (subset : part ⊆ text) : InCapitals part := fun c member => capitals c (subset member)

theorem InCapitals.tail {c : Char} {text : List Char} (capitals : InCapitals (c :: text)) :
    InCapitals text := capitals.of_subset (List.subset_cons_self c text)

theorem InCapitals.readText {text : List Char} (capitals : InCapitals text) :
    InCapitals (readText text) := by
  intro c member
  obtain ⟨d, shown, rfl⟩ := List.mem_map.1 member
  rw [toUpper_readCharacter, capitals d (List.takeWhile_subset _ shown)]

def PatternPart.Leaves (text rest : List Char) : PatternPart → Prop
  | .anyRun => rest <:+ text
  | .anyOne => ∃ c, text = c :: rest
  | .literal c => text = c :: rest

theorem PatternPart.Leaves.suffix {part : PatternPart} {text rest : List Char}
    (leaves : part.Leaves text rest) : rest <:+ text := by
  cases part with
  | anyRun => exact leaves
  | anyOne =>
    obtain ⟨c, rfl⟩ := leaves
    exact List.suffix_cons ..
  | literal c =>
    obtain rfl := leaves
    exact List.suffix_cons ..

/-- Among texts in capitals a part of a pattern is evaluated without regard to letter case. -/
theorem fits_cons_iff {part : PatternPart} {parts : List PatternPart} {text : List Char}
    (written : ∀ c, part = .literal c → c.toUpper = c) (capitals : InCapitals text) :
    fits (part :: parts) text = true ↔ ∃ rest, part.Leaves text rest ∧ fits parts rest = true := by
  cases part with
  | anyRun => exact fits_anyRun
  | anyOne =>
    cases text with
    | nil =>
      rw [fits]
      refine iff_of_false Bool.false_ne_true ?_
      rintro ⟨rest, ⟨c, none⟩, -⟩
      cases none
    | cons d text =>
      rw [fits]
      constructor
      · exact fun later => ⟨text, ⟨d, rfl⟩, later⟩
      · rintro ⟨rest, ⟨c, same⟩, later⟩
        cases same
        exact later
  | literal c =>
    cases text with
    | nil =>
      rw [fits]
      refine iff_of_false Bool.false_ne_true ?_
      rintro ⟨rest, none, -⟩
      cases none
    | cons d text =>
      rw [fits, Bool.and_eq_true, beq_iff_eq, written c rfl, capitals d List.mem_cons_self]
      constructor
      · rintro ⟨rfl, later⟩
        exact ⟨text, rfl, later⟩
      · rintro ⟨rest, same, later⟩
        cases same
        exact ⟨rfl, later⟩

/-- The evaluation of a pattern goes on behind its first part. -/
theorem fits_map_cons_iff {part : PatternPart} {pattern text : List Char}
    (written : ∀ c, part = .literal c → c.toUpper = c) (capitals : InCapitals text)
    (step : ∀ rest, InCapitals rest → (Matches pattern rest ↔
      ∃ parts, patternParts? pattern = some parts ∧ fits parts rest = true)) :
    (∃ rest, part.Leaves text rest ∧ Matches pattern rest) ↔
      ∃ parts, (patternParts? pattern).map (part :: ·) = some parts ∧ fits parts text = true := by
  constructor
  · rintro ⟨rest, leaves, fit⟩
    have inside := capitals.of_subset leaves.suffix.subset
    obtain ⟨parts, read, fit⟩ := (step rest inside).1 fit
    exact ⟨part :: parts, by rw [read, Option.map_some],
      (fits_cons_iff written capitals).2 ⟨rest, leaves, fit⟩⟩
  · rintro ⟨parts, read, fit⟩
    obtain ⟨others, later, rfl⟩ := Option.map_eq_some_iff.1 read
    obtain ⟨rest, leaves, fit⟩ := (fits_cons_iff written capitals).1 fit
    have inside := capitals.of_subset leaves.suffix.subset
    exact ⟨rest, leaves, (step rest inside).2 ⟨others, later, fit⟩⟩

/-- On texts in capitals the parts of a pattern are evaluated as the rules of `LIKE` say. -/
theorem matches_iff_fits {pattern text : List Char} (written : InCapitals pattern)
    (capitals : InCapitals text) :
    Matches pattern text ↔
      ∃ parts, patternParts? pattern = some parts ∧ fits parts text = true := by
  fun_induction patternParts? pattern generalizing text with
  | case1 =>
    rw [matches_nil_iff, ← fits_nil]
    constructor
    · exact fun fit => ⟨[], rfl, fit⟩
    · rintro ⟨parts, same, fit⟩
      cases same
      exact fit
  | case2 c rest step =>
    have literal : ∀ d, PatternPart.literal c = .literal d → d.toUpper = d := by
      rintro _ ⟨⟩
      exact written.tail c List.mem_cons_self
    rw [matches_escaped_iff]
    exact fits_map_cons_iff literal capitals fun text => step written.tail.tail
  | case3 rest last =>
    -- An escape character at the end has no meaning by the rules, and the pattern no parts.
    obtain rfl : rest = [] := by
      cases rest with
      | nil => rfl
      | cons c rest => exact (last c rest rfl rfl).elim
    refine iff_of_false (not_matches_escape text) ?_
    rintro ⟨parts, never, -⟩
    cases never
  | case4 rest _ _ step =>
    rw [matches_anyRun_iff]
    have literal : ∀ d, PatternPart.anyRun = .literal d → d.toUpper = d := fun _ other => nomatch other
    exact fits_map_cons_iff literal capitals fun text => step written.tail
  | case5 rest _ _ _ step =>
    rw [matches_anyOne_iff]
    have literal : ∀ d, PatternPart.anyOne = .literal d → d.toUpper = d := fun _ other => nomatch other
    exact fits_map_cons_iff literal capitals fun text => step written.tail
  | case6 c rest _ noEscape noRun noOne step =>
    have plain : ¬ IsWildcard c := not_or.2 ⟨noEscape, not_or.2 ⟨noRun, noOne⟩⟩
    have literal : ∀ d, PatternPart.literal c = .literal d → d.toUpper = d := by
      rintro _ ⟨⟩
      exact written c List.mem_cons_self
    rw [matches_plain_iff plain]
    exact fits_map_cons_iff literal capitals fun text => step written.tail

/-- On texts in capitals the database follows the rules of `LIKE`. -/
theorem like_iff_matches {pattern text : List Char} (written : InCapitals pattern)
    (capitals : InCapitals text) : like pattern text = true ↔ Matches pattern text := by
  rw [matches_iff_fits written capitals, like]
  cases patternParts? pattern with
  | none =>
    refine iff_of_false Bool.false_ne_true ?_
    rintro ⟨parts, never, -⟩
    cases never
  | some parts =>
    constructor
    · exact fun fit => ⟨parts, rfl, fit⟩
    · rintro ⟨others, same, fit⟩
      cases same
      exact fit

end Sql

namespace Lookup

def escapeCharacter (escaped : Char) (text : List Char) : List Char :=
  text.flatMap fun c => if c = escaped then ['\\', c] else [c]

theorem escapeCharacter_append (escaped : Char) (one other : List Char) :
    escapeCharacter escaped (one ++ other) =
      escapeCharacter escaped one ++ escapeCharacter escaped other :=
  List.flatMap_append

/-- The backslash is escaped before the other two characters, so that none of the backslashes which
are put in front of these is escaped again. -/
theorem escapeWildcards_eq_escapeCharacter (text : List Char) :
    escapeWildcards text =
      escapeCharacter '_' (escapeCharacter '%' (escapeCharacter '\\' text)) := by
  induction text with
  | nil => rfl
  | cons c text step =>
    have single : escapeCharacter '_' (escapeCharacter '%' (escapeCharacter '\\' [c])) =
        if IsWildcard c then ['\\', c] else [c] := by
      by_cases wildcard : IsWildcard c
      · rw [if_pos wildcard]
        rcases wildcard with rfl | rfl | rfl <;> decide
      · obtain ⟨noEscape, others⟩ := not_or.1 wildcard
        obtain ⟨noRun, noOne⟩ := not_or.1 others
        simp only [escapeCharacter, List.flatMap_cons, List.flatMap_nil, List.append_nil,
          if_neg noEscape, if_neg noRun, if_neg noOne, if_neg wildcard]
    rw [escapeWildcards_cons, step, ← single, ← escapeCharacter_append, ← escapeCharacter_append,
      ← escapeCharacter_append]
    rfl

theorem toList_containsPattern (text : String) : (containsPattern text).toList =
    '%' :: (escapeWildcards (capitals text.toList) ++ ['%']) := by
  rw [containsPattern, String.toList_ofList, capitals_escapeWildcards]

theorem matches_containsPattern_iff {text : String} {content : List Char} :
    Sql.Matches (containsPattern text).toList content ↔ capitals text.toList <:+: content := by
  rw [toList_containsPattern, Sql.matches_containing_iff]

theorem inCapitals_containsPattern (text : String) :
    Sql.InCapitals (containsPattern text).toList := by
  intro c member
  rw [containsPattern, String.toList_ofList, List.mem_cons, List.mem_append,
    List.mem_singleton] at member
  rcases member with rfl | capital | rfl
  · rfl
  · obtain ⟨d, -, made⟩ := List.mem_flatMap.1 capital
    exact toUpper_of_mem_capital made
  · rfl

/-- The database reads the pattern of a text without null characters to its end. -/
theorem readText_containsPattern {text : String} (whole : '\x00' ∉ text.toList) :
    Sql.readText (containsPattern text).toList =
      '%' :: (escapeWildcards (Sql.readText (capitals text.toList)) ++ ['%']) := by
  have shown : '\x00' ∉ capitals text.toList := fun null => whole (null_mem_capitals_iff.1 null)
  have free : '\x00' ∉ (containsPattern text).toList := by
    rw [toList_containsPattern, List.mem_cons, List.mem_append, Sql.mem_escapeWildcards_null]
    simp [shown]
  rw [Sql.readText, Sql.visible_of_free free, toList_containsPattern, List.map_cons,
    List.map_append, Sql.map_readCharacter_escapeWildcards, Sql.readText,
    Sql.visible_of_free shown]
  rfl

/-- In a content in capitals the database finds the capitals of the text and nothing else. -/
theorem like_containsPattern_of_inCapitals {text : String} {content : List Char}
    (written : Sql.InCapitals content) (whole : '\x00' ∉ text.toList) :
    Sql.like (Sql.readText (containsPattern text).toList) content = true ↔
      Sql.readText (capitals text.toList) <:+: content := by
  have capital : Sql.InCapitals (Sql.readText (containsPattern text).toList) :=
    (inCapitals_containsPattern text).readText
  rw [Sql.like_iff_matches capital written, readText_containsPattern whole,
    Sql.matches_containing_iff]

variable {entity : Entity}

/-- The test whether a column contains a text binds a pattern that takes the text literally. The text
is escaped character by character, the backslash first, and put in capitals between two signs for
any run; by the rules of `LIKE` this matches exactly the contents in which the capitals of the text
stand together. No backslash of the pattern is the last character or in front of one without a
meaning of its own, and the empty text is found in every content. -/
theorem contains_matches_literally (column : entity.Column) (text : String) :
    (∃ pattern : String,
      Lookup.test column (.contains text) = .like (upperText column) (.bound (.string pattern)) ∧
      pattern.toList = '%' :: (capitals (escapeCharacter '_' (escapeCharacter '%'
        (escapeCharacter '\\' text.toList))) ++ ['%']) ∧
      (∀ content, Sql.Matches pattern.toList content ↔ capitals text.toList <:+: content) ∧
      Sql.WellEscaped pattern.toList) ∧
    ∀ content, Sql.Matches (containsPattern "").toList content := by
  have sign : Sql.WellEscaped ['%'] := .plain (by decide) .nil
  refine ⟨⟨containsPattern text, rfl, ?_, fun content => matches_containsPattern_iff, ?_⟩,
    fun content => ?_⟩
  · rw [← escapeWildcards_eq_escapeCharacter, containsPattern, String.toList_ofList]
  · rw [toList_containsPattern]
    exact .plain (by decide) (Sql.wellEscaped_escape_append sign _)
  · exact matches_containsPattern_iff.2 List.nil_infix

end Lookup

end PeriodicalSearch
