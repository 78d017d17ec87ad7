import Mathlib
import PeriodicalSearch.Query.Rule

/-! What the combinators make of a text. `Reads` and `Refuses` say what became of a rule together
with a bound on the places at which named rules were refused: nothing was refused behind the end of
the reading. The bound passes through ordered choice, so an abandoned alternative that stays within
what another one reads can be forgotten. -/

namespace PeriodicalSearch.Query

theorem furthest_eq_or (refused : Option Place) (place : Place) :
    refused = some (furthest refused place) ∨ furthest refused place = place := by
  cases refused with
  | none => exact .inr rfl
  | some other =>
    by_cases further : other.length < place.length
    · exact .inl (by simp only [furthest, if_pos further])
    · exact .inr (by simp only [furthest, if_neg further])

theorem furthest_of_le {refused : Option Place} {place : Place}
    (bound : ∀ other, refused = some other → place.length ≤ other.length) :
    furthest refused place = place := by
  cases refused with
  | none => rfl
  | some other =>
    have notFurther : ¬ other.length < place.length := Nat.not_lt.2 (bound other rfl)
    simp only [furthest, if_neg notFurther]

theorem further_eq_some {one other : Option Place} {place : Place}
    (found : further one other = some place) : one = some place ∨ other = some place := by
  cases other with
  | none => exact .inl found
  | some last =>
    simp only [further, Option.some.injEq] at found
    subst found
    exact (furthest_eq_or one last).imp_right fun same => congrArg some same.symm

namespace Rule

variable {α β : Type}

theorem bind_outcome (first : Rule α) (next : α → Rule β) (text : Place) :
    ((first >>= next) text).outcome =
      (first text).outcome.bind fun read => (next read.1 read.2).outcome := by
  change (andThen first next text).outcome = _
  unfold andThen
  split
  next refused outcome => rw [outcome]; rfl
  next value rest refused outcome => rw [outcome]; rfl

theorem bind_outcome_eq_some {first : Rule α} {next : α → Rule β} {text rest : Place} {value : β} :
    ((first >>= next) text).outcome = some (value, rest) ↔
      ∃ one middle, (first text).outcome = some (one, middle) ∧
        (next one middle).outcome = some (value, rest) := by
  rw [bind_outcome, Option.bind_eq_some_iff]
  exact ⟨fun ⟨read, before, after⟩ => ⟨read.1, read.2, before, after⟩,
    fun ⟨one, middle, before, after⟩ => ⟨(one, middle), before, after⟩⟩

theorem pure_outcome (value : α) (text : Place) :
    ((pure value : Rule α) text).outcome = some (value, text) := rfl

theorem or_outcome (first second : Rule α) (text : Place) :
    ((first <|> second) text).outcome = (first text).outcome.or (second text).outcome := by
  change (orElse first second text).outcome = _
  unfold orElse
  split
  next read refused outcome => rw [outcome]; rfl
  next refused outcome => rw [outcome]; rfl

theorem character_outcome_eq_some {c found : Char} {text rest : Place} :
    (character c text).outcome = some (found, rest) ↔ text = c :: rest ∧ found = c := by
  cases text with
  | nil => simp [character, oneOf]
  | cons other tail =>
    by_cases same : other = c
    · subst same
      simp only [character, oneOf, beq_self_eq_true, if_true, Option.some.injEq, Prod.mk.injEq,
        List.cons.injEq, true_and]
      exact ⟨fun both => ⟨both.2, both.1.symm⟩, fun both => ⟨both.2.symm, both.1⟩⟩
    · simp [character, oneOf, same]

theorem bind_refused {first : Rule α} {next : α → Rule β} {text place : Place}
    (refused : ((first >>= next) text).refused = some place) :
    (first text).refused = some place ∨
      ∃ one middle, (first text).outcome = some (one, middle) ∧
        (next one middle).refused = some place := by
  change (andThen first next text).refused = some place at refused
  unfold andThen at refused
  split at refused
  next outcome => exact .inl (by rw [outcome]; exact refused)
  next one middle before outcome =>
    rw [outcome]
    exact (further_eq_some refused).imp_right fun after => ⟨one, middle, rfl, after⟩

theorem or_refused {first second : Rule α} {text place : Place}
    (refused : ((first <|> second) text).refused = some place) :
    (first text).refused = some place ∨
      ((first text).outcome = none ∧ (second text).refused = some place) := by
  change (orElse first second text).refused = some place at refused
  unfold orElse at refused
  split at refused
  next outcome => exact .inl (by rw [outcome]; exact refused)
  next before outcome =>
    rw [outcome]
    exact (further_eq_some refused).imp_right fun after => ⟨rfl, after⟩

theorem named_refused {rule : Rule α} {text place : Place}
    (refused : (named rule text).refused = some place) :
    (rule text).refused = some place ∨ place = text := by
  unfold named at refused
  split at refused
  next outcome => exact .inl (by rw [outcome]; exact refused)
  next before outcome =>
    rw [outcome]
    rw [← Option.some.inj refused]
    exact furthest_eq_or before text

/-- The rule reads `value` up to `rest`, and nothing was refused behind `rest`. -/
structure Reads (rule : Rule α) (text : Place) (value : α) (rest : Place) : Prop where
  outcome : (rule text).outcome = some (value, rest)
  shorter : rest.length ≤ text.length
  refused : ∀ place, (rule text).refused = some place → rest.length ≤ place.length

structure Refuses (rule : Rule α) (text rest : Place) : Prop where
  outcome : (rule text).outcome = none
  shorter : rest.length ≤ text.length
  refused : ∀ place, (rule text).refused = some place → rest.length ≤ place.length

theorem Reads.ofEq {rule : Rule α} {text rest : Place} {value : α}
    (same : rule text = ⟨some (value, rest), none⟩) (shorter : rest.length ≤ text.length) :
    Reads rule text value rest :=
  ⟨by rw [same], shorter, by rw [same]; exact fun _ none => nomatch none⟩

theorem Refuses.ofEq {rule : Rule α} {text : Place} (same : rule text = ⟨none, none⟩) :
    Refuses rule text text :=
  ⟨by rw [same], Nat.le_refl _, by rw [same]; exact fun _ none => nomatch none⟩

theorem Refuses.weaken {rule : Rule α} {text rest behind : Place} (refuses : Refuses rule text rest)
    (shorter : behind.length ≤ rest.length) : Refuses rule text behind :=
  ⟨refuses.outcome, Nat.le_trans shorter refuses.shorter,
    fun place refused => Nat.le_trans shorter (refuses.refused place refused)⟩

theorem Reads.pure (value : α) (text : Place) : Reads (pure value) text value text :=
  ⟨rfl, Nat.le_refl _, fun _ none => nomatch none⟩

theorem Reads.bind {first : Rule α} {next : α → Rule β} {text middle rest : Place} {one : α}
    {value : β} (before : Reads first text one middle)
    (after : Reads (next one) middle value rest) :
    Reads (first >>= next) text value rest where
  outcome := bind_outcome_eq_some.2 ⟨one, middle, before.outcome, after.outcome⟩
  shorter := Nat.le_trans after.shorter before.shorter
  refused place refused := by
    rcases bind_refused refused with early | ⟨other, place', read, late⟩
    · exact Nat.le_trans after.shorter (before.refused place early)
    · cases before.outcome.symm.trans read
      exact after.refused place late

theorem Refuses.bind {first : Rule α} {next : α → Rule β} {text middle rest : Place} {one : α}
    (before : Reads first text one middle) (after : Refuses (next one) middle rest) :
    Refuses (first >>= next) text rest where
  outcome := by rw [bind_outcome, before.outcome]; exact after.outcome
  shorter := Nat.le_trans after.shorter before.shorter
  refused place refused := by
    rcases bind_refused refused with early | ⟨other, place', read, late⟩
    · exact Nat.le_trans after.shorter (before.refused place early)
    · cases before.outcome.symm.trans read
      exact after.refused place late

theorem Refuses.bindFirst {first : Rule α} (next : α → Rule β) {text rest : Place}
    (first_refuses : Refuses first text rest) : Refuses (first >>= next) text rest where
  outcome := by rw [bind_outcome, first_refuses.outcome]; rfl
  shorter := first_refuses.shorter
  refused place refused := by
    rcases bind_refused refused with early | ⟨other, place', read, late⟩
    · exact first_refuses.refused place early
    · cases first_refuses.outcome.symm.trans read

theorem Reads.orFirst {first : Rule α} (second : Rule α) {text rest : Place} {value : α}
    (reads : Reads first text value rest) : Reads (first <|> second) text value rest where
  outcome := by rw [or_outcome, reads.outcome]; rfl
  shorter := reads.shorter
  refused place refused := by
    rcases or_refused refused with early | ⟨none, late⟩
    · exact reads.refused place early
    · cases reads.outcome.symm.trans none

theorem Reads.orSecond {first second : Rule α} {text rest : Place} {value : α}
    (refuses : Refuses first text rest) (reads : Reads second text value rest) :
    Reads (first <|> second) text value rest where
  outcome := by rw [or_outcome, refuses.outcome]; exact reads.outcome
  shorter := reads.shorter
  refused place refused := by
    rcases or_refused refused with early | ⟨none, late⟩
    · exact refuses.refused place early
    · exact reads.refused place late

theorem Reads.named {rule : Rule α} {text rest : Place} {value : α}
    (reads : Reads rule text value rest) : Reads (named rule) text value rest where
  outcome := (named_outcome rule text).trans reads.outcome
  shorter := reads.shorter
  refused place refused := by
    rcases named_refused refused with early | rfl
    · exact reads.refused place early
    · exact reads.shorter

theorem Refuses.named {rule : Rule α} {text rest : Place} (refuses : Refuses rule text rest) :
    Refuses (named rule) text rest where
  outcome := (named_outcome rule text).trans refuses.outcome
  shorter := refuses.shorter
  refused place refused := by
    rcases named_refused refused with early | rfl
    · exact refuses.refused place early
    · exact refuses.shorter

def Passed (accepts : Char → Bool) (text place : Place) : Prop :=
  ∃ passed, text = passed ++ place ∧ ∀ c ∈ passed, accepts c = true

/-- The rule passes accepted characters only, both in reading and on the way to a refusal. -/
structure Within (accepts : Char → Bool) (rule : Rule α) : Prop where
  outcome : ∀ {text rest value}, (rule text).outcome = some (value, rest) → Passed accepts text rest
  refused : ∀ {text place}, (rule text).refused = some place → Passed accepts text place

variable {accepts : Char → Bool}

theorem Passed.refl (text : Place) : Passed accepts text text :=
  ⟨[], rfl, fun _ member => nomatch member⟩

theorem Passed.trans {text middle place : Place} (before : Passed accepts text middle)
    (after : Passed accepts middle place) : Passed accepts text place := by
  obtain ⟨one, rfl, oneAccepted⟩ := before
  obtain ⟨other, rfl, otherAccepted⟩ := after
  refine ⟨one ++ other, (List.append_assoc ..).symm, ?_⟩
  intro c member
  exact (List.mem_append.1 member).elim (oneAccepted c) (otherAccepted c)

theorem Passed.suffix {text place : Place} (passed : Passed accepts text place) :
    place <:+ text := by
  obtain ⟨between, rfl, -⟩ := passed
  exact List.suffix_append between place

theorem Passed.mono {wider : Char → Bool} (included : ∀ c, accepts c = true → wider c = true)
    {text place : Place} (passed : Passed accepts text place) : Passed wider text place := by
  obtain ⟨between, same, accepted⟩ := passed
  exact ⟨between, same, fun c member => included c (accepted c member)⟩

/-- What passes accepted characters only cannot get behind the first character that is not. -/
theorem Passed.length_le {run rest place : Place}
    (passed : Passed accepts (run ++ rest) place)
    (stops : ∀ c ∈ rest.head?, accepts c = false) : rest.length ≤ place.length := by
  obtain ⟨between, same, accepted⟩ := passed
  rcases List.append_eq_append_iff.1 same with ⟨more, rfl, rest_eq⟩ | ⟨more, -, place_eq⟩
  · cases more with
    | nil => simp only [rest_eq, List.nil_append, Nat.le_refl]
    | cons c more =>
      have refusedC : accepts c = false := stops c (by simp [rest_eq])
      have acceptedC : accepts c = true := accepted c (by simp)
      rw [refusedC] at acceptedC
      cases acceptedC
  · rw [place_eq, List.length_append]
    exact Nat.le_add_left ..

theorem Within.mono {wider : Char → Bool} (included : ∀ c, accepts c = true → wider c = true)
    {rule : Rule α} (within : Within accepts rule) : Within wider rule :=
  ⟨fun read => (within.outcome read).mono included,
    fun refused => (within.refused refused).mono included⟩

theorem Within.pure (value : α) : Within accepts (pure value : Rule α) where
  outcome read := by cases read; exact .refl _
  refused refused := nomatch refused

theorem Within.bind {first : Rule α} {next : α → Rule β} (before : Within accepts first)
    (after : ∀ value, Within accepts (next value)) : Within accepts (first >>= next) where
  outcome read := by
    obtain ⟨one, middle, early, late⟩ := bind_outcome_eq_some.1 read
    exact (before.outcome early).trans ((after one).outcome late)
  refused refused := by
    rcases bind_refused refused with early | ⟨one, middle, early, late⟩
    · exact before.refused early
    · exact (before.outcome early).trans ((after one).refused late)

theorem Within.or {first second : Rule α} (one : Within accepts first)
    (other : Within accepts second) : Within accepts (first <|> second) where
  outcome read := by
    rw [or_outcome, Option.or_eq_some_iff] at read
    exact read.elim one.outcome fun second => other.outcome second.2
  refused refused := (or_refused refused).elim one.refused fun second => other.refused second.2

theorem Within.named {rule : Rule α} (within : Within accepts rule) :
    Within accepts (named rule) where
  outcome read := within.outcome ((named_outcome rule _).symm.trans read)
  refused refused := by
    rcases named_refused refused with early | rfl
    · exact within.refused early
    · exact .refl _

theorem within_here : Within accepts here where
  outcome read := by cases read; exact .refl _
  refused refused := nomatch refused

theorem within_oneOf {class' : Char → Bool} (included : ∀ c, class' c = true → accepts c = true) :
    Within accepts (oneOf class') where
  outcome {text rest value} read := by
    cases text with
    | nil => cases read
    | cons c text =>
      simp only [oneOf] at read
      split at read
      next member =>
        cases read
        exact ⟨[value], rfl, fun d only => List.mem_singleton.1 only ▸ included value member⟩
      next => cases read
  refused {text place} refused := by
    cases text with
    | nil => cases refused
    | cons c text =>
      simp only [oneOf] at refused
      split at refused <;> cases refused

theorem within_character {c : Char} (accepted : accepts c = true) : Within accepts (character c) :=
  within_oneOf fun _ same => eq_of_beq same ▸ accepted

theorem within_run (class' : Char → Bool) (included : ∀ c, class' c = true → accepts c = true) :
    Within accepts (run class') where
  outcome {text rest value} read := by
    unfold run at read
    split at read
    · cases read
    · cases read
      exact ⟨_, List.takeWhile_append_dropWhile.symm,
        fun c member => included c (List.all_eq_true.1 List.all_takeWhile c member)⟩
  refused {text place} refused := by
    unfold run at refused
    split at refused <;> cases refused

theorem within_number (digits : ∀ c : Char, c.isDigit = true → accepts c = true) (count : Nat) :
    Within accepts (number count) where
  outcome {text rest value} read := by
    unfold number at read
    split at read
    next found =>
      cases read
      exact ⟨_, (List.take_append_drop count text).symm,
        fun c member => digits c (List.all_eq_true.1 found.2 c member)⟩
    next => cases read
  refused {text place} refused := by
    unfold number at refused
    split at refused <;> cases refused

theorem within_blanks (included : ∀ c, Text.isBlank c = true → accepts c = true) :
    Within accepts blanks where
  outcome {text rest value} read := by
    cases read
    exact ⟨_, List.takeWhile_append_dropWhile.symm,
      fun c member => included c (List.all_eq_true.1 List.all_takeWhile c member)⟩
  refused refused := nomatch refused

theorem within_endOfWord : Within accepts endOfWord where
  outcome {text rest value} read := by
    unfold endOfWord at read
    split at read
    · split at read
      · cases read; exact .refl _
      · cases read
    · cases read; exact .refl _
  refused {text place} refused := by
    unfold endOfWord at refused
    split at refused
    next c tail =>
      split at refused
      · cases refused
      · rcases named_refused refused with early | rfl
        · cases early
        · exact .refl _
    · cases refused

end Rule

end PeriodicalSearch.Query
