import PeriodicalSearch.Text.Decimal
import PeriodicalSearch.Text.Blank

/-!
Grammar rules with ordered choice. A rule either reads the beginning of a text or is refused; it
also tells the furthest place at which a named rule was refused on the way, whether or not another
alternative read the text after all. Each rule that reads leaves no more text than it was given,
and the rules that read at least one character advance.
-/
namespace PeriodicalSearch.Query

/-- A place in a query: what is left of the query from there. -/
abbrev Place := List Char

/-- The place, or the refused one if that is further, which is to say less text is left of it. -/
def furthest (refused : Option Place) (place : Place) : Place :=
  match refused with
  | some other => if other.length < place.length then other else place
  | none => place

def further (one other : Option Place) : Option Place :=
  match other with
  | some place => some (furthest one place)
  | none => one

structure Attempt (α : Type) where
  /-- What was read and where the reading ended, unless the rule was refused. -/
  outcome : Option (α × Place)
  /-- The furthest place at which a named rule was refused. -/
  refused : Option Place

def Rule (α : Type) := Place → Attempt α

namespace Rule

variable {α β : Type}

def succeed (value : α) : Rule α := fun text => ⟨some (value, text), none⟩

def andThen (first : Rule α) (next : α → Rule β) : Rule β := fun text =>
  match first text with
  | ⟨none, refused⟩ => ⟨none, refused⟩
  | ⟨some (value, rest), refused⟩ =>
    ⟨(next value rest).outcome, further refused (next value rest).refused⟩

def orElse (first : Rule α) (second : Rule α) : Rule α := fun text =>
  match first text with
  | ⟨some read, refused⟩ => ⟨some read, refused⟩
  | ⟨none, refused⟩ => ⟨(second text).outcome, further refused (second text).refused⟩

instance : Monad Rule where
  pure := succeed
  bind := andThen

instance : OrElse (Rule α) := ⟨fun first second => first.orElse (second ())⟩

/-- The rule under a name: where it is refused, the place at which it began is noted. -/
def named (rule : Rule α) : Rule α := fun text =>
  match rule text with
  | ⟨some read, refused⟩ => ⟨some read, refused⟩
  | ⟨none, refused⟩ => ⟨none, some (furthest refused text)⟩

def here : Rule Place := fun text => ⟨some (text, text), none⟩

def oneOf (accepts : Char → Bool) : Rule Char
  | [] => ⟨none, none⟩
  | c :: rest => if accepts c then ⟨some (c, rest), none⟩ else ⟨none, none⟩

def character (c : Char) : Rule Char := oneOf (· == c)

def run (accepts : Char → Bool) : Rule (List Char) := fun text =>
  if (text.takeWhile accepts).isEmpty then ⟨none, none⟩
  else ⟨some (text.takeWhile accepts, text.dropWhile accepts), none⟩

def blanks : Rule Unit := fun text => ⟨some ((), Text.skipBlanks text), none⟩

def number (count : Nat) : Rule Nat := fun text =>
  if (text.take count).length = count ∧ (text.take count).all Char.isDigit then
    ⟨some (Text.decimalValue (text.take count), text.drop count), none⟩
  else
    ⟨none, none⟩

def endOfQuery : Rule Unit :=
  named fun text => if text.isEmpty then ⟨some ((), []), none⟩ else ⟨none, none⟩

/-- The end of a word, at a blank or at the end of the query; neither is read. -/
def endOfWord : Rule Unit := fun text =>
  match text with
  | c :: _ =>
    if Text.isBlank c then ⟨some ((), text), none⟩ else ⟨none, (endOfQuery text).refused⟩
  | [] => ⟨some ((), []), none⟩

def Keeps (rule : Rule α) : Prop :=
  ∀ (text : Place) (value : α) (rest : Place),
    (rule text).outcome = some (value, rest) → rest.length ≤ text.length

def Advances (rule : Rule α) : Prop :=
  ∀ (text : Place) (value : α) (rest : Place),
    (rule text).outcome = some (value, rest) → rest.length < text.length

theorem Advances.keeps {rule : Rule α} (advances : Advances rule) : Keeps rule :=
  fun text value rest read => Nat.le_of_lt (advances text value rest read)

theorem keeps_succeed (value : α) : Keeps (succeed value) := by
  intro text found rest read
  cases read
  exact Nat.le_refl _

theorem andThen_outcome {first : Rule α} {next : α → Rule β} {text rest : Place} {value : β}
    (read : (andThen first next text).outcome = some (value, rest)) :
    ∃ middle place, (first text).outcome = some (middle, place) ∧
      (next middle place).outcome = some (value, rest) := by
  unfold andThen at read
  split at read
  · cases read
  next middle place refused outcome => exact ⟨middle, place, by rw [outcome], read⟩

theorem Keeps.andThen {first : Rule α} {next : α → Rule β} (one : Keeps first)
    (other : ∀ value, Keeps (next value)) : Keeps (andThen first next) := by
  intro text value rest read
  obtain ⟨middle, place, before, after⟩ := andThen_outcome read
  exact Nat.le_trans (other middle _ _ _ after) (one _ _ _ before)

theorem Advances.andThen {first : Rule α} {next : α → Rule β} (one : Advances first)
    (other : ∀ value, Keeps (next value)) : Advances (andThen first next) := by
  intro text value rest read
  obtain ⟨middle, place, before, after⟩ := andThen_outcome read
  exact Nat.lt_of_le_of_lt (other middle _ _ _ after) (one _ _ _ before)

theorem orElse_outcome {first second : Rule α} {text rest : Place} {value : α}
    (read : (orElse first second text).outcome = some (value, rest)) :
    (first text).outcome = some (value, rest) ∨ (second text).outcome = some (value, rest) := by
  unfold orElse at read
  split at read
  next outcome => exact .inl (by rw [outcome]; exact read)
  next => exact .inr read

theorem Keeps.orElse {first second : Rule α} (one : Keeps first) (other : Keeps second) :
    Keeps (orElse first second) := by
  intro text value rest read
  exact (orElse_outcome read).elim (one text value rest) (other text value rest)

theorem Advances.orElse {first second : Rule α} (one : Advances first) (other : Advances second) :
    Advances (orElse first second) := by
  intro text value rest read
  exact (orElse_outcome read).elim (one text value rest) (other text value rest)

theorem named_outcome (rule : Rule α) (text : Place) :
    (named rule text).outcome = (rule text).outcome := by
  unfold named
  split
  next outcome => rw [outcome]
  next outcome => rw [outcome]

theorem Keeps.named {rule : Rule α} (keeps : Keeps rule) : Keeps (named rule) := by
  intro text value rest read
  exact keeps text value rest ((named_outcome rule text).symm.trans read)

theorem Advances.named {rule : Rule α} (advances : Advances rule) : Advances (named rule) := by
  intro text value rest read
  exact advances text value rest ((named_outcome rule text).symm.trans read)

theorem keeps_here : Keeps here := by
  intro text found rest read
  cases read
  exact Nat.le_refl _

theorem advances_oneOf (accepts : Char → Bool) : Advances (oneOf accepts) := by
  intro text value rest read
  cases text with
  | nil => cases read
  | cons c text =>
    simp only [oneOf] at read
    by_cases accepted : accepts c = true
    · rw [if_pos accepted] at read
      cases read
      exact Nat.lt_succ_self _
    · rw [if_neg accepted] at read
      cases read

theorem advances_run (accepts : Char → Bool) : Advances (run accepts) := by
  intro text value rest read
  unfold run at read
  split at read
  · cases read
  next nonempty =>
    cases read
    have split := congrArg List.length (List.takeWhile_append_dropWhile (p := accepts) (l := text))
    rw [List.length_append] at split
    have positive : 0 < (text.takeWhile accepts).length := by
      rw [List.length_pos_iff]
      exact fun none => nonempty (List.isEmpty_iff.2 none)
    omega

theorem keeps_blanks : Keeps blanks := by
  intro text found rest read
  cases read
  exact Text.length_skipBlanks_le text

theorem keeps_number (count : Nat) : Keeps (number count) := by
  intro text found rest read
  unfold number at read
  split at read
  · cases read
    rw [List.length_drop]
    exact Nat.sub_le ..
  · cases read

theorem keeps_endOfWord : Keeps endOfWord := by
  intro text found rest read
  unfold endOfWord at read
  split at read
  · split at read
    · cases read
      exact Nat.le_refl _
    · cases read
  · cases read
    exact Nat.le_refl _

end Rule

end PeriodicalSearch.Query
