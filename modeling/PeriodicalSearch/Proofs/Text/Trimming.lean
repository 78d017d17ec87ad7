import PeriodicalSearch.Proofs.Query.Words
import PeriodicalSearch.Proofs.Text.Letters

/-! What trimming leaves of a text: the core that neither begins nor ends with a blank and that only
blanks surround. Every text has one such core. -/

namespace PeriodicalSearch.Text

open Query (Blank)

/-- The text is the core with blanks around it, and no blank begins or ends the core. -/
structure TrimsTo (text core : List Char) : Prop where
  surrounded : ∃ before after, Blank before ∧ Blank after ∧ text = before ++ (core ++ after)
  begins : ∀ c ∈ core.head?, isBlank c = false
  ends : ∀ c ∈ core.getLast?, isBlank c = false

theorem skipBlanks_append {before rest : List Char} (blank : Blank before)
    (begins : ∀ c ∈ rest.head?, isBlank c = false) : skipBlanks (before ++ rest) = rest :=
  Query.dropWhile_run blank begins

theorem skipBlanks_of_blank {text : List Char} (blank : Blank text) : skipBlanks text = [] := by
  rw [← List.append_nil text]
  exact skipBlanks_append blank fun c none => nomatch none

theorem trimBlanks_of_trimsTo {text core : List Char} (trims : TrimsTo text core) :
    trimBlanks text = core := by
  obtain ⟨before, after, early, late, rfl⟩ := trims.surrounded
  cases core with
  | nil =>
    have blank : Blank (before ++ ([] ++ after)) := fun c member =>
      (List.mem_append.1 member).elim (early c) (late c)
    rw [trimBlanks, skipBlanks_of_blank blank]
    rfl
  | cons c core =>
    have first : ∀ d ∈ (c :: core ++ after).head?, isBlank d = false := trims.begins
    have reversed : Blank after.reverse := fun d member => late d (List.mem_reverse.1 member)
    have last : ∀ d ∈ (c :: core).reverse.head?, isBlank d = false := fun d member =>
      trims.ends d (List.head?_reverse ▸ member)
    rw [trimBlanks, skipBlanks_append early first, List.reverse_append,
      skipBlanks_append reversed last, List.reverse_reverse]

theorem blank_takeWhile (text : List Char) : Blank (text.takeWhile isBlank) :=
  List.all_eq_true.1 List.all_takeWhile

theorem trimsTo_trimBlanks (text : List Char) : TrimsTo text (trimBlanks text) := by
  have front : text.takeWhile isBlank ++ skipBlanks text = text :=
    List.takeWhile_append_dropWhile
  have back : trimBlanks text ++ ((skipBlanks text).reverse.takeWhile isBlank).reverse =
      skipBlanks text := by
    rw [trimBlanks, ← List.reverse_append]
    exact List.reverse_eq_iff.2 List.takeWhile_append_dropWhile
  constructor
  · refine ⟨_, _, blank_takeWhile text, fun c member => ?_, (back ▸ front).symm⟩
    exact blank_takeWhile _ c (List.mem_reverse.1 member)
  · intro c member
    refine Query.head_dropWhile isBlank text c ?_
    change c ∈ (skipBlanks text).head?
    rw [← back, List.head?_append, Option.mem_def.1 member]
    rfl
  · intro c member
    rw [trimBlanks, List.getLast?_reverse] at member
    exact Query.head_dropWhile isBlank (skipBlanks text).reverse c member

theorem trimBlanks_eq_iff {text core : List Char} : trimBlanks text = core ↔ TrimsTo text core :=
  ⟨fun same => same ▸ trimsTo_trimBlanks text, trimBlanks_of_trimsTo⟩

theorem trimBlanks_of_inked {text : List Char} (inked : ∀ c ∈ text, isBlank c = false) :
    trimBlanks text = text :=
  trimBlanks_of_trimsTo
    ⟨⟨[], [], Query.blank_nil, Query.blank_nil, (List.append_nil _).symm⟩,
      fun c member => inked c (List.mem_of_mem_head? member),
      fun c member => inked c (List.mem_of_mem_getLast? member)⟩

theorem trimBlanks_of_alphanum {text : List Char} (inWord : ∀ c ∈ text, c.isAlphanum = true) :
    trimBlanks text = text :=
  trimBlanks_of_inked fun c member =>
    Query.isBlank_eq_false_of_isStrict (Query.isStrict_of_isAlphanum (inWord c member))

theorem trimBlanks_eq_nil_iff {text : List Char} : trimBlanks text = [] ↔ Blank text := by
  rw [trimBlanks_eq_iff]
  constructor
  · intro trims
    obtain ⟨before, after, early, late, rfl⟩ := trims.surrounded
    exact fun c member => (List.mem_append.1 member).elim (early c) (late c)
  · intro blank
    constructor
    · exact ⟨text, [], blank, fun c none => (nomatch none), (List.append_nil _).symm⟩
    · exact fun c none => nomatch none
    · exact fun c none => nomatch none

theorem isBlank_toLower (c : Char) : isBlank c.toLower = isBlank c :=
  apply_toLower (by decide) c

theorem skipBlanks_folded (text : List Char) : skipBlanks (folded text) = folded (skipBlanks text) := by
  have same : isBlank ∘ Char.caseFoldAsciiOnly = isBlank := funext isBlank_toLower
  rw [skipBlanks, folded, List.dropWhile_map, same]
  rfl

theorem trimBlanks_folded (text : List Char) : trimBlanks (folded text) = folded (trimBlanks text) := by
  have reversed (text : List Char) : (folded text).reverse = folded text.reverse :=
    List.map_reverse.symm
  rw [trimBlanks, skipBlanks_folded, reversed, skipBlanks_folded, reversed]
  rfl

theorem SameLetters.trimBlanks {one other : List Char} (same : SameLetters one other) :
    SameLetters (trimBlanks one) (trimBlanks other) := by
  rw [SameLetters, ← trimBlanks_folded, ← trimBlanks_folded, same]

end PeriodicalSearch.Text
