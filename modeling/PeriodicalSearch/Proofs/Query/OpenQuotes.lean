import PeriodicalSearch.Proofs.Query.Items

/-! The search for a quote that is never closed. It passes over whatever holds no quote and over
whole quoted texts, so it passes over items. -/

namespace PeriodicalSearch.Query

theorem unclosedQuote_of_unquoted {run : List Char} (unquoted : ∀ c ∈ run, ¬ IsQuote c)
    (rest : Place) : unclosedQuote (run ++ rest) = unclosedQuote rest := by
  induction run with
  | nil => rfl
  | cons c run step =>
    have first : ¬ (c = '\'' ∨ c = '"') := unquoted c List.mem_cons_self
    rw [List.cons_append, unclosedQuote, if_neg first]
    exact step fun d member => unquoted d (List.mem_cons_of_mem _ member)

theorem Closes.behindQuote_eq {quote : Char} (isQuote : IsQuote quote) {text body rest : List Char}
    (closes : Closes quote text body rest) : behindQuote quote text = some rest := by
  induction closes with
  | quote rest =>
    rw [behindQuote, if_pos rfl]
    exact fun _ _ same => absurd same isQuote.ne_backslash
  | escaped c later step => rw [behindQuote, step]
  | plain noQuote noBackslash later step =>
    rw [behindQuote, if_neg noQuote, step]
    exact fun _ _ same => absurd same noBackslash

theorem unclosedQuote_of_quotedText {quote : Char} (isQuote : IsQuote quote)
    {text body : List Char} {rest : Place} (closed : quotedText quote text = some (body, rest)) :
    unclosedQuote (quote :: text) = unclosedQuote rest := by
  have opening : quote = '\'' ∨ quote = '"' := isQuote
  have behind := (closes_of_quotedText closed).behindQuote_eq isQuote
  rw [unclosedQuote, if_pos opening]
  split
  next after found =>
    cases behind.symm.trans found
    rfl
  next open' => cases behind.symm.trans open'

theorem unquoted_of_isBare {run : List Char} (bare : isBare run = true) :
    ∀ c ∈ run, ¬ IsQuote c := fun c member =>
  (isStrict_eq_true_iff.1 ((isBare_iff.1 bare).2 c member)).2.1

theorem Blank.unquoted {gap : List Char} (blank : Blank gap) : ∀ c ∈ gap, ¬ IsQuote c := by
  intro c member quote
  have notBlank := quote.isBlank_eq_false
  rw [blank c member] at notBlank
  cases notBlank

theorem unclosedQuote_delimiter (comparison : Comparison) (rest : Place) :
    unclosedQuote (comparison.delimiter :: rest) = unclosedQuote rest := by
  rw [← List.singleton_append, unclosedQuote_of_unquoted]
  intro c member quote
  rw [List.mem_singleton.1 member] at quote
  exact quote.not_isDelimiter (isDelimiter_delimiter comparison)

/-- Before the value of a filter there is no quote. -/
theorem unclosedQuote_of_field {field gap : List Char} (comparison : Comparison)
    (name : isBare field = true) (blank : Blank gap) (rest : Place) :
    unclosedQuote (field ++ comparison.delimiter :: (gap ++ rest)) = unclosedQuote rest := by
  rw [unclosedQuote_of_unquoted (unquoted_of_isBare name), unclosedQuote_delimiter,
    unclosedQuote_of_unquoted blank.unquoted]

theorem OpensWithValue.unclosedQuote_eq {comparison : Comparison} {text rest : Place}
    {value : FilterValue DayLiteral} (opens : OpensWithValue comparison text value rest) :
    unclosedQuote text = unclosedQuote rest := by
  cases opens with
  | quoted isQuote closed => exact unclosedQuote_of_quotedText isQuote closed
  | range writes => exact unclosedQuote_of_unquoted (unquoted_of_isBare (isBare_of_writes writes)) _
  | bare bare => exact unclosedQuote_of_unquoted (unquoted_of_isBare bare) _

/-- An item leaves no quote open. -/
theorem Opens.unclosedQuote_eq {text rest : Place} {item : Item DayLiteral}
    (opens : Opens text item rest) : unclosedQuote text = unclosedQuote rest := by
  cases opens with
  | quoted isQuote closed => exact unclosedQuote_of_quotedText isQuote closed
  | bare bare => exact unclosedQuote_of_unquoted (unquoted_of_isBare bare) _
  | filter name blank opens =>
    rw [unclosedQuote_of_field _ name blank]
    exact opens.unclosedQuote_eq

theorem suffix_of_behindQuote {quote : Char} {text rest : Place}
    (closed : behindQuote quote text = some rest) : rest <:+ text := by
  fun_induction behindQuote quote text with
  | case1 => cases closed
  | case2 c tail step =>
    exact (step closed).trans ((List.suffix_cons ..).trans (List.suffix_cons ..))
  | case3 => cases closed; exact List.suffix_cons ..
  | case4 c tail escape other step => exact (step closed).trans (List.suffix_cons ..)

theorem suffix_of_unclosedQuote {text place : Place} (found : unclosedQuote text = some place) :
    place <:+ text := by
  fun_induction unclosedQuote text with
  | case1 => cases found
  | case2 c rest quote after closed step =>
    exact (step found).trans ((suffix_of_behindQuote closed).trans (List.suffix_cons ..))
  | case3 c rest quote open' => cases found; exact List.suffix_refl _
  | case4 c rest other step => exact (step found).trans (List.suffix_cons ..)

end PeriodicalSearch.Query
