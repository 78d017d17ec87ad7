import PeriodicalSearch.Query.Rule

/-!
Quotes that are never closed. A quote opens where none is open, and the next quote of its kind
closes it.
-/
namespace PeriodicalSearch.Query

/-- What is left behind the next quote of a kind; a backslash takes the character after it out. -/
def behindQuote (quote : Char) : List Char → Option Place
  | [] => none
  | '\\' :: _ :: rest => behindQuote quote rest
  | c :: rest => if c = quote then some rest else behindQuote quote rest

theorem length_behindQuote_lt {quote : Char} {text : List Char} {rest : Place}
    (closed : behindQuote quote text = some rest) : rest.length < text.length := by
  fun_induction behindQuote quote text with
  | case1 => cases closed
  | case2 c tail step => exact Nat.lt_of_lt_of_le (step closed) (Nat.le_add_right _ 2)
  | case3 => cases closed; exact Nat.lt_succ_self _
  | case4 c tail escape other step => exact Nat.lt_succ_of_lt (step closed)

def unclosedQuote : List Char → Option Place
  | [] => none
  | c :: rest =>
    if c = '\'' ∨ c = '"' then
      match _closed : behindQuote c rest with
      | some after => unclosedQuote after
      | none => some (c :: rest)
    else
      unclosedQuote rest
termination_by text => text.length
decreasing_by
  · exact Nat.lt_succ_of_lt (length_behindQuote_lt _closed)
  · exact Nat.lt_succ_self _

end PeriodicalSearch.Query
