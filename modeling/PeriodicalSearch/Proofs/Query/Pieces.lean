import PeriodicalSearch.Proofs.Query.FilterLookup
import PeriodicalSearch.Proofs.Query.Resolution

/-! A second reading of queries, by pieces. The text is first cut into maximal pieces, which needs
one character to tell which piece begins; then the pieces are read as filters and terms. No order of
choice, no lookahead into the text and no attempt that is given up takes part. The main statement
is that both readings accept the same texts and find the same in them. -/

namespace PeriodicalSearch.Query

inductive Piece where
  | blanks (run : List Char)
  /-- What stands between two quotes, backslashes and all. -/
  | quoted (body : List Char)
  /-- A run of characters that are no blanks, quotes or delimiters. -/
  | strict (run : List Char)
  | delimiter (comparison : Comparison)
  deriving DecidableEq

/-- The text up to the closing quote, backslashes and all, and what is behind it. A backslash skips
the character after it. -/
def quotedBody (quote : Char) : List Char → Option (List Char × Place)
  | [] => none
  | '\\' :: c :: rest =>
    (quotedBody quote rest).map fun read => ('\\' :: c :: read.1, read.2)
  | c :: rest =>
    if c = quote then some ([], rest)
    else (quotedBody quote rest).map fun read => (c :: read.1, read.2)

def unescape : List Char → List Char
  | [] => []
  | ['\\'] => []
  | '\\' :: c :: rest => c :: unescape rest
  | c :: rest => c :: unescape rest

instance : DecidablePred IsQuote := fun _ => inferInstanceAs (Decidable (_ ∨ _))

/-- The piece that begins with a character, and what is behind it. There is none when the character
is a quote that is not closed. -/
def firstPiece (c : Char) (rest : Place) : Option (Piece × Place) :=
  if IsQuote c then (quotedBody c rest).map fun read => (.quoted read.1, read.2)
  else if c = ':' then some (.delimiter .contains, rest)
  else if c = '=' then some (.delimiter .equals, rest)
  else if Text.isBlank c then
    some (.blanks (c :: rest.takeWhile Text.isBlank), rest.dropWhile Text.isBlank)
  else some (.strict (c :: rest.takeWhile isStrict), rest.dropWhile isStrict)

theorem length_quotedBody_lt {quote : Char} {text body : List Char} {rest : Place}
    (closed : quotedBody quote text = some (body, rest)) : rest.length < text.length := by
  fun_induction quotedBody quote text generalizing body with
  | case1 => cases closed
  | case2 c tail step =>
    obtain ⟨⟨inner, place⟩, before, same⟩ := Option.map_eq_some_iff.1 closed
    cases same
    exact Nat.lt_of_lt_of_le (step before) (Nat.le_add_right _ 2)
  | case3 => cases closed; exact Nat.lt_succ_self _
  | case4 c tail escape other step =>
    obtain ⟨⟨inner, place⟩, before, same⟩ := Option.map_eq_some_iff.1 closed
    cases same
    exact Nat.lt_succ_of_lt (step before)

theorem length_firstPiece_le {c : Char} {rest behind : Place} {piece : Piece}
    (first : firstPiece c rest = some (piece, behind)) : behind.length ≤ rest.length := by
  unfold firstPiece at first
  split at first
  · obtain ⟨read, closed, same⟩ := Option.map_eq_some_iff.1 first
    cases same
    exact Nat.le_of_lt (length_quotedBody_lt closed)
  repeat' split at first
  all_goals cases first
  · exact Nat.le_refl _
  · exact Nat.le_refl _
  · exact (List.dropWhile_suffix _).length_le
  · exact (List.dropWhile_suffix _).length_le

def pieces : List Char → Option (List Piece)
  | [] => some []
  | c :: rest =>
    match _first : firstPiece c rest with
    | some (piece, behind) => (pieces behind).map (piece :: ·)
    | none => none
termination_by text => text.length
decreasing_by exact Nat.lt_succ_of_le (length_firstPiece_le _first)

/-- The value of a filter that a piece writes, given the pieces behind it. A bare word is a range
when it has the form of one and a blank or the end of the text follows. -/
inductive WritesValue (comparison : Comparison) :
    Piece → List Piece → FilterValue (List Char) → Prop where
  | quoted {body : List Char} {rest : List Piece} :
      WritesValue comparison (.quoted body) rest
        (.text comparison (String.ofList (unescape body)))
  | range {run : List Char} {rest : List Piece} {range : Range (List Char)}
      (writes : range.Writes run) (ends : ∀ piece ∈ rest.head?, ∃ gap, piece = .blanks gap) :
      WritesValue comparison (.strict run) rest (.range range)
  | bare {run : List Char} {rest : List Piece}
      (noRange : (∀ piece ∈ rest.head?, ∃ gap, piece = .blanks gap) →
        ∀ range, ¬ Range.Writes range run) :
      WritesValue comparison (.strict run) rest (.text comparison (String.ofList run))

/-- The pieces read as the items in order: a filter is a strict run, immediately a delimiter, maybe
blanks, and a value; a term is a quoted text, or a strict run without a delimiter behind it. The
days of ranges are the texts that are written. -/
inductive ReadAs : List Piece → List (Item (List Char)) → Prop where
  | nil : ReadAs [] []
  | blanks {run : List Char} {rest : List Piece} {items : List (Item (List Char))}
      (others : ReadAs rest items) : ReadAs (.blanks run :: rest) items
  | quoted {body : List Char} {rest : List Piece} {items : List (Item (List Char))}
      (others : ReadAs rest items) :
      ReadAs (.quoted body :: rest) (.term (String.ofList (unescape body)) :: items)
  | bare {run : List Char} {rest : List Piece} {items : List (Item (List Char))}
      (noField : ∀ comparison, rest.head? ≠ some (.delimiter comparison))
      (others : ReadAs rest items) :
      ReadAs (.strict run :: rest) (.term (String.ofList run) :: items)
  | filter {field : List Char} {comparison : Comparison} {gap : List Piece} {piece : Piece}
      {rest : List Piece} {value : FilterValue (List Char)} {items : List (Item (List Char))}
      (spaced : gap = [] ∨ ∃ run, gap = [.blanks run])
      (writes : WritesValue comparison piece rest value) (others : ReadAs rest items) :
      ReadAs (.strict field :: .delimiter comparison :: (gap ++ piece :: rest))
        (.filter (String.ofList field) value :: items)

inductive Cuts : Place → Piece → Place → Prop where
  | blanks {run rest : List Char} (nonempty : run ≠ []) (blank : Blank run)
      (stops : ∀ c ∈ rest.head?, Text.isBlank c = false) : Cuts (run ++ rest) (.blanks run) rest
  | quoted {quote : Char} {text body rest : List Char} (isQuote : IsQuote quote)
      (closed : quotedBody quote text = some (body, rest)) :
      Cuts (quote :: text) (.quoted body) rest
  | strict {run rest : List Char} (bare : isBare run = true) (stops : EndsRun rest) :
      Cuts (run ++ rest) (.strict run) rest
  | delimiter (comparison : Comparison) (rest : List Char) :
      Cuts (comparison.delimiter :: rest) (.delimiter comparison) rest

theorem cuts_of_firstPiece {c : Char} {rest behind : Place} {piece : Piece}
    (first : firstPiece c rest = some (piece, behind)) : Cuts (c :: rest) piece behind := by
  unfold firstPiece at first
  split at first
  next isQuote =>
    obtain ⟨⟨body, after⟩, closed, same⟩ := Option.map_eq_some_iff.1 first
    cases same
    exact .quoted isQuote closed
  next noQuote =>
    split at first
    next colon => cases first; exact colon ▸ .delimiter .contains rest
    next noColon =>
      split at first
      next equals => cases first; exact equals ▸ .delimiter .equals rest
      next noEquals =>
        split at first
        next blank =>
          cases first
          have cut : Cuts ((c :: rest.takeWhile Text.isBlank) ++ rest.dropWhile Text.isBlank) _ _ :=
            .blanks (List.cons_ne_nil _ _) (fun d member => ?_) (head_dropWhile _ rest)
          · rw [List.cons_append, List.takeWhile_append_dropWhile] at cut
            exact cut
          · rcases List.mem_cons.1 member with rfl | later
            · exact blank
            · exact List.all_eq_true.1 List.all_takeWhile d later
        next inked =>
          cases first
          have strict : isStrict c = true :=
            isStrict_eq_true_iff.2 ⟨Bool.eq_false_iff.2 inked, noQuote,
              fun delimiter => delimiter.elim noColon noEquals⟩
          have bare : isBare (c :: rest.takeWhile isStrict) = true := by
            apply isBare_iff.2
            constructor
            · exact List.cons_ne_nil _ _
            intro d member
            rcases List.mem_cons.1 member with rfl | later
            · exact strict
            · exact List.all_eq_true.1 List.all_takeWhile d later
          have cut := Cuts.strict bare (head_dropWhile isStrict rest)
          rw [List.cons_append, List.takeWhile_append_dropWhile] at cut
          exact cut

theorem firstPiece_of_cuts {text rest : Place} {piece : Piece} (cuts : Cuts text piece rest) :
    ∃ c tail, text = c :: tail ∧ firstPiece c tail = some (piece, rest) := by
  cases cuts with
  | @blanks run rest nonempty blank stops =>
    cases run with
    | nil => exact absurd rfl nonempty
    | cons c run =>
      have first := blank c List.mem_cons_self
      have others : ∀ d ∈ run, Text.isBlank d = true :=
        fun d member => blank d (List.mem_cons_of_mem _ member)
      have noQuote : ¬ IsQuote c := fun quote => by
        rw [quote.isBlank_eq_false] at first
        cases first
      have noDelimiter := not_isDelimiter_of_isBlank first
      have noColon : c ≠ ':' := fun same => noDelimiter (.inl same)
      have noEquals : c ≠ '=' := fun same => noDelimiter (.inr same)
      refine ⟨c, run ++ rest, rfl, ?_⟩
      rw [firstPiece, if_neg noQuote, if_neg noColon, if_neg noEquals, if_pos first,
        takeWhile_run others stops, dropWhile_run others stops]
  | @quoted quote text body rest isQuote closed =>
    refine ⟨quote, text, rfl, ?_⟩
    rw [firstPiece, if_pos isQuote, closed, Option.map_some]
  | @strict run rest bare stops =>
    obtain ⟨nonempty, strict⟩ := isBare_iff.1 bare
    cases run with
    | nil => exact absurd rfl nonempty
    | cons c run =>
      obtain ⟨inked, noQuote, noDelimiter⟩ := isStrict_eq_true_iff.1 (strict c List.mem_cons_self)
      have others : ∀ d ∈ run, isStrict d = true :=
        fun d member => strict d (List.mem_cons_of_mem _ member)
      refine ⟨c, run ++ rest, rfl, ?_⟩
      rw [firstPiece, if_neg noQuote, if_neg fun colon => noDelimiter (.inl colon),
        if_neg fun equals => noDelimiter (.inr equals), if_neg (Bool.eq_false_iff.1 inked),
        takeWhile_run others stops, dropWhile_run others stops]
  | delimiter comparison rest => exact ⟨_, rest, rfl, by cases comparison <;> rfl⟩

theorem pieces_nil : pieces [] = some [] := by
  rw [pieces]

theorem eq_nil_of_pieces {text : Place} (cut : pieces text = some []) : text = [] := by
  cases text with
  | nil => rfl
  | cons c text =>
    rw [pieces] at cut
    split at cut
    · obtain ⟨later, -, same⟩ := Option.map_eq_some_iff.1 cut
      cases same
    · cases cut

theorem pieces_eq_cons_iff {text : Place} {piece : Piece} {others : List Piece} :
    pieces text = some (piece :: others) ↔
      ∃ rest, Cuts text piece rest ∧ pieces rest = some others := by
  constructor
  · intro cut
    cases text with
    | nil => rw [pieces_nil] at cut; cases cut
    | cons c text =>
      rw [pieces] at cut
      split at cut
      next first behind found =>
        obtain ⟨later, rest, same⟩ := Option.map_eq_some_iff.1 cut
        cases same
        exact ⟨behind, cuts_of_firstPiece found, rest⟩
      next => cases cut
  · intro found
    obtain ⟨rest, cuts, later⟩ := found
    obtain ⟨c, tail, rfl, first⟩ := firstPiece_of_cuts cuts
    rw [pieces]
    split
    next other behind found =>
      cases first.symm.trans found
      rw [later]
      rfl
    next found => cases first.symm.trans found

theorem Cuts.head {text rest : Place} {piece : Piece} (cuts : Cuts text piece rest) :
    ∃ c tail, text = c :: tail ∧ ((∃ gap, piece = .blanks gap) ↔ Text.isBlank c = true) ∧
      ((∃ comparison, piece = .delimiter comparison) ↔ IsDelimiter c) := by
  cases cuts with
  | @blanks run rest nonempty blank =>
    cases run with
    | nil => exact absurd rfl nonempty
    | cons c run =>
      have first := blank c List.mem_cons_self
      refine ⟨c, run ++ rest, rfl, by simp [first], ?_⟩
      simp [not_isDelimiter_of_isBlank first]
  | @quoted quote text body rest isQuote =>
    refine ⟨quote, text, rfl, by simp [isQuote.isBlank_eq_false], ?_⟩
    simp [isQuote.not_isDelimiter]
  | @strict run rest bare =>
    obtain ⟨nonempty, strict⟩ := isBare_iff.1 bare
    cases run with
    | nil => exact absurd rfl nonempty
    | cons c run =>
      obtain ⟨inked, -, noDelimiter⟩ := isStrict_eq_true_iff.1 (strict c List.mem_cons_self)
      exact ⟨c, run ++ rest, rfl, by simp [inked], by simp [noDelimiter]⟩
  | delimiter comparison rest =>
    refine ⟨_, rest, rfl, ?_, ?_⟩
    · simp [(isDelimiter_delimiter comparison).isBlank_eq_false]
    · simp [isDelimiter_delimiter comparison]

theorem endsWord_iff {rest : Place} {parts : List Piece} (cut : pieces rest = some parts) :
    EndsWord rest ↔ ∀ piece ∈ parts.head?, ∃ gap, piece = .blanks gap := by
  cases parts with
  | nil =>
    cases eq_nil_of_pieces cut
    exact ⟨fun _ _ member => (nomatch member), fun _ _ member => (nomatch member)⟩
  | cons piece others =>
    obtain ⟨behind, cuts, -⟩ := pieces_eq_cons_iff.1 cut
    obtain ⟨c, tail, rfl, blank, -⟩ := cuts.head
    simp only [EndsWord, List.head?_cons, Option.mem_some_iff, forall_eq', ← blank]

theorem noField_iff {rest : Place} {parts : List Piece} (cut : pieces rest = some parts) :
    (∀ c ∈ rest.head?, ¬ IsDelimiter c) ↔
      ∀ comparison, parts.head? ≠ some (.delimiter comparison) := by
  cases parts with
  | nil =>
    cases eq_nil_of_pieces cut
    exact ⟨fun _ _ none => (nomatch none), fun _ _ member => (nomatch member)⟩
  | cons piece others =>
    obtain ⟨behind, cuts, -⟩ := pieces_eq_cons_iff.1 cut
    obtain ⟨c, tail, rfl, -, delimiter⟩ := cuts.head
    simp only [List.head?_cons, Option.mem_some_iff, forall_eq', ← delimiter, not_exists, ne_eq,
      Option.some.injEq]

end PeriodicalSearch.Query
