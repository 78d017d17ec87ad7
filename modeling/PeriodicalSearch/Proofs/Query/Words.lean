import PeriodicalSearch.Proofs.Query.DayRange

/-! The words of a query. A bare word is a maximal run of strict characters, and a text splits in
one way only into such a run and what is behind it; a quoted word lies between two quotes of one
kind. -/

namespace PeriodicalSearch.Query

open Grammar Rule

def IsQuote (c : Char) : Prop := c = '\'' ∨ c = '"'

def IsDelimiter (c : Char) : Prop := c = ':' ∨ c = '='

def EndsRun (rest : Place) : Prop := ∀ c ∈ rest.head?, isStrict c = false

def Blank (gap : List Char) : Prop := ∀ c ∈ gap, Text.isBlank c = true

theorem blank_nil : Blank [] := fun _ member => nomatch member

theorem Blank.append {gap more : List Char} (blank : Blank gap) (later : Blank more) :
    Blank (gap ++ more) := fun c member =>
  (List.mem_append.1 member).elim (blank c) (later c)

theorem isBare_iff {run : List Char} :
    isBare run = true ↔ run ≠ [] ∧ ∀ c ∈ run, isStrict c = true := by
  simp only [isBare, Bool.and_eq_true, Bool.not_eq_true', List.isEmpty_eq_false_iff,
    List.all_eq_true]

theorem takeWhile_run {accepts : Char → Bool} {run rest : List Char}
    (accepted : ∀ c ∈ run, accepts c = true) (stops : ∀ c ∈ rest.head?, accepts c = false) :
    (run ++ rest).takeWhile accepts = run := by
  rw [List.takeWhile_append_of_pos accepted]
  cases rest with
  | nil => simp
  | cons c rest => simp [stops c rfl]

theorem dropWhile_run {accepts : Char → Bool} {run rest : List Char}
    (accepted : ∀ c ∈ run, accepts c = true) (stops : ∀ c ∈ rest.head?, accepts c = false) :
    (run ++ rest).dropWhile accepts = rest := by
  rw [List.dropWhile_append_of_pos accepted]
  cases rest with
  | nil => rfl
  | cons c rest => simp [stops c rfl]

theorem head_dropWhile (accepts : Char → Bool) (text : List Char) :
    ∀ c ∈ (text.dropWhile accepts).head?, accepts c = false := by
  intro c member
  have head := List.head?_dropWhile_not accepts text
  rw [Option.mem_def.1 member] at head
  simpa using head

/-- A text splits in one way only into a run and what is behind it. -/
theorem split_unique {accepts : Char → Bool} {one other rest behind : List Char}
    (oneAccepted : ∀ c ∈ one, accepts c = true) (oneStops : ∀ c ∈ rest.head?, accepts c = false)
    (otherAccepted : ∀ c ∈ other, accepts c = true)
    (otherStops : ∀ c ∈ behind.head?, accepts c = false) (same : one ++ rest = other ++ behind) :
    one = other ∧ rest = behind := by
  constructor
  · rw [← takeWhile_run oneAccepted oneStops, same, takeWhile_run otherAccepted otherStops]
  · rw [← dropWhile_run oneAccepted oneStops, same, dropWhile_run otherAccepted otherStops]

theorem run_unique {one other rest behind : List Char} (oneStrict : ∀ c ∈ one, isStrict c = true)
    (oneStops : EndsRun rest) (otherStrict : ∀ c ∈ other, isStrict c = true)
    (otherStops : EndsRun behind) (same : one ++ rest = other ++ behind) :
    one = other ∧ rest = behind :=
  split_unique oneStrict oneStops otherStrict otherStops same

theorem isStrict_eq_true_iff {c : Char} :
    isStrict c = true ↔ Text.isBlank c = false ∧ ¬ IsQuote c ∧ ¬ IsDelimiter c := by
  simp [isStrict, IsQuote, IsDelimiter, not_or, and_assoc]

theorem isStrict_eq_false_of_isBlank {c : Char} (blank : Text.isBlank c = true) :
    isStrict c = false := by
  simp only [isStrict, blank, Bool.true_or, Bool.not_true]

theorem isBlank_eq_false_of_isStrict {c : Char} (strict : isStrict c = true) :
    Text.isBlank c = false :=
  Bool.eq_false_iff.2 fun blank => by
    rw [isStrict_eq_false_of_isBlank blank] at strict
    cases strict

theorem isStrict_delimiter (comparison : Comparison) :
    isStrict comparison.delimiter = false := by
  cases comparison <;> rfl

theorem isDelimiter_delimiter (comparison : Comparison) : IsDelimiter comparison.delimiter := by
  cases comparison with
  | contains => exact .inl rfl
  | equals => exact .inr rfl

theorem IsQuote.isStrict_eq_false {c : Char} (quote : IsQuote c) : isStrict c = false := by
  rcases quote with rfl | rfl <;> rfl

theorem EndsWord.endsRun {rest : Place} (ends : EndsWord rest) : EndsRun rest :=
  fun c member => isStrict_eq_false_of_isBlank (ends c member)

theorem isBare_of_writes {range : Range (List Char)} {word : List Char}
    (writes : range.Writes word) : isBare word = true :=
  isBare_iff.2 ⟨writes.1 ▸ List.cons_ne_nil _ _, isStrict_of_writes writes⟩

theorem Blank.skip {gap text : List Char} (blank : Blank gap) :
    Text.skipBlanks (gap ++ text) = Text.skipBlanks text :=
  List.dropWhile_append_of_pos blank

theorem skipBlanks_of_head {c : Char} {text : List Char} (inked : Text.isBlank c = false) :
    Text.skipBlanks (c :: text) = c :: text := by
  simp only [Text.skipBlanks, List.dropWhile_cons, inked, Bool.false_eq_true, if_false]

theorem skipBlanks_of_isBare {run rest : List Char} (bare : isBare run = true) :
    Text.skipBlanks (run ++ rest) = run ++ rest := by
  obtain ⟨nonempty, strict⟩ := isBare_iff.1 bare
  cases run with
  | nil => exact absurd rfl nonempty
  | cons c run =>
    exact skipBlanks_of_head (isBlank_eq_false_of_isStrict (strict c List.mem_cons_self))

theorem IsQuote.isBlank_eq_false {c : Char} (quote : IsQuote c) : Text.isBlank c = false := by
  rcases quote with rfl | rfl <;> rfl

theorem IsDelimiter.isBlank_eq_false {c : Char} (delimiter : IsDelimiter c) :
    Text.isBlank c = false := by
  rcases delimiter with rfl | rfl <;> rfl

theorem IsQuote.not_isDelimiter {c : Char} (quote : IsQuote c) : ¬ IsDelimiter c := by
  rcases quote with rfl | rfl <;> simp [IsDelimiter]

theorem not_isDelimiter_of_isBlank {c : Char} (blank : Text.isBlank c = true) :
    ¬ IsDelimiter c := by
  intro delimiter
  rw [delimiter.isBlank_eq_false] at blank
  cases blank

theorem EndsWord.not_isDelimiter {rest : Place} (ends : EndsWord rest) :
    ∀ c ∈ rest.head?, ¬ IsDelimiter c := fun c member =>
  not_isDelimiter_of_isBlank (ends c member)

theorem IsDelimiter.isStrict_eq_false {c : Char} (delimiter : IsDelimiter c) :
    isStrict c = false := by
  rcases delimiter with rfl | rfl <;> rfl

theorem head_not_delimiter_of_isBare {run rest : List Char} (bare : isBare run = true) :
    ∀ c ∈ (run ++ rest).head?, ¬ IsDelimiter c := by
  obtain ⟨nonempty, strict⟩ := isBare_iff.1 bare
  cases run with
  | nil => exact absurd rfl nonempty
  | cons d run =>
    intro c member delimiter
    cases member
    have notStrict := delimiter.isStrict_eq_false
    rw [strict d List.mem_cons_self] at notStrict
    cases notStrict

inductive Closes (quote : Char) : Place → List Char → Place → Prop where
  | quote (rest : Place) : Closes quote (quote :: rest) [] rest
  | escaped (c : Char) {text body rest : List Char} (later : Closes quote text body rest) :
      Closes quote ('\\' :: c :: text) (c :: body) rest
  | plain {c : Char} {text body rest : List Char} (noQuote : c ≠ quote) (noBackslash : c ≠ '\\')
      (later : Closes quote text body rest) : Closes quote (c :: text) (c :: body) rest

theorem closes_of_quotedText {quote : Char} {text body : List Char} {rest : Place}
    (closed : quotedText quote text = some (body, rest)) : Closes quote text body rest := by
  fun_induction quotedText quote text generalizing body with
  | case1 => cases closed
  | case2 c tail step =>
    obtain ⟨⟨inner, place⟩, before, same⟩ := Option.map_eq_some_iff.1 closed
    cases same
    exact .escaped c (step before)
  | case3 => cases closed; exact .quote rest
  | case4 => cases closed
  | case5 c tail escape other plain step =>
    obtain ⟨⟨inner, place⟩, before, same⟩ := Option.map_eq_some_iff.1 closed
    cases same
    exact .plain other plain (step before)

theorem IsQuote.ne_backslash {quote : Char} (isQuote : IsQuote quote) : quote ≠ '\\' := by
  rcases isQuote with rfl | rfl <;> decide

theorem Closes.quotedText_eq {quote : Char} (isQuote : IsQuote quote) {text body : List Char}
    {rest : Place} (closes : Closes quote text body rest) :
    quotedText quote text = some (body, rest) := by
  induction closes with
  | quote rest =>
    rw [quotedText, if_pos rfl]
    exact fun _ _ same => absurd same isQuote.ne_backslash
  | escaped c later step => rw [quotedText, step, Option.map_some]
  | plain noQuote noBackslash later step =>
    rw [quotedText, if_neg noQuote, if_neg noBackslash, step, Option.map_some]
    exact fun _ _ same => absurd same noBackslash

/-- What is behind the quoted text has no part in it. -/
theorem Closes.exists_before {quote : Char} {text body rest : List Char}
    (closes : Closes quote text body rest) :
    ∃ before, text = before ++ rest ∧ ∀ other, Closes quote (before ++ other) body other := by
  induction closes with
  | quote rest => exact ⟨[quote], rfl, .quote⟩
  | escaped c later step =>
    obtain ⟨before, rfl, keeps⟩ := step
    exact ⟨'\\' :: c :: before, rfl, fun other => .escaped c (keeps other)⟩
  | @plain c text body rest noQuote noBackslash later step =>
    obtain ⟨before, rfl, keeps⟩ := step
    exact ⟨c :: before, rfl, fun other => .plain noQuote noBackslash (keeps other)⟩

theorem Closes.passed {quote : Char} {text body rest : List Char}
    (closes : Closes quote text body rest) : Passed (fun _ => true) text rest := by
  obtain ⟨before, split, -⟩ := closes.exists_before
  exact ⟨before, split, fun _ _ => rfl⟩

def closing (quote : Char) : Rule String := fun text =>
  ⟨(quotedText quote text).map fun read => (String.ofList read.1, read.2), none⟩

theorem quotedWord_eq (quote : Char) :
    quotedWord quote = named (character quote >>= fun _ => closing quote) := rfl

theorem quotedWord_outcome_eq_some {quote : Char} {text rest : Place} {value : String} :
    (quotedWord quote text).outcome = some (value, rest) ↔
      ∃ tail body, text = quote :: tail ∧ quotedText quote tail = some (body, rest) ∧
        value = String.ofList body := by
  simp only [quotedWord_eq, closing, named_outcome, bind_outcome_eq_some, character_outcome_eq_some,
    Option.map_eq_some_iff, Prod.mk.injEq]
  constructor
  · intro found
    obtain ⟨_, tail, ⟨rfl, rfl⟩, ⟨body, _⟩, closed, rfl, rfl⟩ := found
    exact ⟨tail, body, rfl, closed, rfl⟩
  · intro found
    obtain ⟨tail, body, rfl, closed, rfl⟩ := found
    exact ⟨quote, tail, ⟨rfl, rfl⟩, (body, rest), closed, rfl, rfl⟩

theorem run_outcome_eq_some {characters : List Char} {text rest : Place} :
    (run isStrict text).outcome = some (characters, rest) ↔
      isBare characters = true ∧ EndsRun rest ∧ text = characters ++ rest := by
  unfold run
  constructor
  · intro read
    split at read
    · cases read
    next nonempty =>
      cases read
      exact ⟨isBare_iff.2 ⟨fun empty => nonempty (List.isEmpty_iff.2 empty),
        List.all_eq_true.1 List.all_takeWhile⟩, head_dropWhile isStrict text,
        List.takeWhile_append_dropWhile.symm⟩
  · intro found
    obtain ⟨bare, stops, rfl⟩ := found
    obtain ⟨nonempty, strict⟩ := isBare_iff.1 bare
    rw [takeWhile_run strict stops, dropWhile_run strict stops,
      if_neg fun empty => nonempty (List.isEmpty_iff.1 empty)]

theorem strictWord_outcome_eq_some {text rest : Place} {value : String} :
    (strictWord text).outcome = some (value, rest) ↔
      ∃ characters, isBare characters = true ∧ EndsRun rest ∧ text = characters ++ rest ∧
        value = String.ofList characters := by
  simp only [strictWord, named_outcome, bind_outcome_eq_some, run_outcome_eq_some, pure_outcome,
    Option.some.injEq, Prod.mk.injEq]
  constructor
  · intro found
    obtain ⟨characters, _, ⟨bare, stops, rfl⟩, rfl, rfl⟩ := found
    exact ⟨characters, bare, stops, rfl, rfl⟩
  · intro found
    obtain ⟨characters, bare, stops, rfl, rfl⟩ := found
    exact ⟨characters, rest, ⟨bare, stops, rfl⟩, rfl, rfl⟩

theorem reads_character (c : Char) (text : Place) : Reads (character c) (c :: text) c text :=
  .ofEq (by simp only [character, oneOf, beq_self_eq_true, if_true]) (Nat.le_succ _)

theorem refuses_character {c d : Char} (other : d ≠ c) (text : Place) :
    Refuses (character c) (d :: text) (d :: text) :=
  .ofEq (by simp only [character, oneOf, beq_iff_eq, if_neg other])

theorem refuses_run {c : Char} (notStrict : isStrict c = false) (text : Place) :
    Refuses (run isStrict) (c :: text) (c :: text) :=
  .ofEq (by simp only [run, List.takeWhile_cons, notStrict, Bool.false_eq_true, if_false,
    List.isEmpty_nil, if_true])

theorem reads_quotedWord {quote : Char} {text body rest : List Char}
    (closed : quotedText quote text = some (body, rest)) :
    Reads (quotedWord quote) (quote :: text) (String.ofList body) rest := by
  rw [quotedWord_eq]
  refine .named ((reads_character quote text).bind (.ofEq ?_ ?_))
  · simp only [closing, closed, Option.map_some]
  · exact Nat.le_of_lt (length_quotedText_lt closed)

theorem refuses_quotedWord {quote c : Char} (other : c ≠ quote) (text : Place) :
    Refuses (quotedWord quote) (c :: text) (c :: text) := by
  rw [quotedWord_eq]
  exact ((refuses_character other text).bindFirst _).named

theorem reads_strictWord {run rest : List Char} (bare : isBare run = true)
    (stops : EndsRun rest) : Reads strictWord (run ++ rest) (String.ofList run) rest := by
  obtain ⟨nonempty, strict⟩ := isBare_iff.1 bare
  refine .named (.bind (.ofEq ?_ ?_) (.pure _ rest))
  · rw [Rule.run, takeWhile_run strict stops, dropWhile_run strict stops,
      if_neg fun empty => nonempty (List.isEmpty_iff.1 empty)]
  · rw [List.length_append]
    exact Nat.le_add_left ..

theorem reads_word_of_quote {quote : Char} {text body rest : List Char} (isQuote : IsQuote quote)
    (closed : quotedText quote text = some (body, rest)) :
    Reads word (quote :: text) (String.ofList body) rest := by
  have reads := reads_quotedWord closed
  rcases isQuote with rfl | rfl
  · exact reads.orFirst _
  · have refuses := (refuses_quotedWord (by decide : '"' ≠ '\'') text).weaken reads.shorter
    exact .orSecond refuses (reads.orFirst _)

theorem reads_word_of_bare {run rest : List Char} (bare : isBare run = true)
    (stops : EndsRun rest) : Reads word (run ++ rest) (String.ofList run) rest := by
  have reads := reads_strictWord bare stops
  obtain ⟨nonempty, strict⟩ := isBare_iff.1 bare
  cases run with
  | nil => exact absurd rfl nonempty
  | cons c run =>
    have other : ∀ quote, isStrict quote = false → c ≠ quote := by
      intro quote notStrict same
      rw [← same, strict c List.mem_cons_self] at notStrict
      cases notStrict
    have single := (refuses_quotedWord (other '\'' rfl) (run ++ rest)).weaken reads.shorter
    have double := (refuses_quotedWord (other '"' rfl) (run ++ rest)).weaken reads.shorter
    exact .orSecond single (.orSecond double reads)

end PeriodicalSearch.Query
