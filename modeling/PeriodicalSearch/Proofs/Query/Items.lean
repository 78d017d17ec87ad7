import PeriodicalSearch.Proofs.Query.Derivation

/-! Whole texts and their items. `ConsistsOf` is the grammar of a query; the items that are read are
exactly those of which the text consists. Behind an item the reading goes on as if the item had not
been there, whether it ends well or not. -/

namespace PeriodicalSearch.Query

open Grammar Rule

/-- The whole text is made of the items, with any blanks around them. -/
inductive ConsistsOf : Place → List (Item DayLiteral) → Prop where
  | nil {gap : List Char} (blank : Blank gap) : ConsistsOf gap []
  | cons {gap text rest : List Char} {item : Item DayLiteral} {items : List (Item DayLiteral)}
      (blank : Blank gap) (opens : Opens text item rest) (others : ConsistsOf rest items) :
      ConsistsOf (gap ++ text) (item :: items)

theorem Opens.consistsOf {text rest : Place} {item : Item DayLiteral}
    {items : List (Item DayLiteral)} (opens : Opens text item rest)
    (others : ConsistsOf rest items) : ConsistsOf text (item :: items) := by
  have consists := ConsistsOf.cons blank_nil opens others
  exact consists

theorem ConsistsOf.prepend {gap text : List Char} {items : List (Item DayLiteral)}
    (blank : Blank gap) (consists : ConsistsOf text items) : ConsistsOf (gap ++ text) items := by
  cases consists with
  | nil later => exact .nil (blank.append later)
  | cons later opens others =>
    rw [← List.append_assoc]
    exact .cons (blank.append later) opens others

theorem Opens.head_not_delimiter {text rest : Place} {item : Item DayLiteral}
    (opens : Opens text item rest) : ∀ c ∈ text.head?, ¬ IsDelimiter c := by
  cases opens with
  | quoted isQuote =>
    intro c member
    cases member
    exact isQuote.not_isDelimiter
  | bare bare => exact head_not_delimiter_of_isBare bare
  | filter name => exact head_not_delimiter_of_isBare name

theorem ConsistsOf.head_not_delimiter {text : Place} {items : List (Item DayLiteral)}
    (consists : ConsistsOf text items) : ∀ c ∈ text.head?, ¬ IsDelimiter c := by
  have blankHead : ∀ {gap : List Char} {d : Char}, Blank (d :: gap) → ¬ IsDelimiter d :=
    fun blank => not_isDelimiter_of_isBlank (blank _ List.mem_cons_self)
  cases consists with
  | nil blank =>
    cases text with
    | nil => exact fun c member => nomatch member
    | cons d text => exact fun c member => Option.some.inj member ▸ blankHead blank
  | @cons gap _ _ _ _ blank opens =>
    cases gap with
    | nil => exact opens.head_not_delimiter
    | cons d gap => exact fun c member => Option.some.inj member ▸ blankHead blank

theorem within_item : Within (fun _ => true) item := by
  have quoted : ∀ quote, Within (fun _ => true) (quotedWord quote) := by
    intro quote
    rw [quotedWord_eq]
    refine .named ((within_character rfl).bind fun _ => ⟨?_, fun none => nomatch none⟩)
    intro text rest value read
    obtain ⟨⟨body, behind⟩, closed, same⟩ := Option.map_eq_some_iff.1 read
    cases same
    exact (closes_of_quotedText closed).passed
  have strict : Within (fun _ => true) strictWord :=
    .named ((within_run isStrict fun _ _ => rfl).bind fun _ => .pure _)
  have words : Within (fun _ => true) word := .or (quoted _) (.or (quoted _) strict)
  have ranges : Within (fun _ => true) dayRange := within_dayRange.mono fun _ _ => rfl
  refine .or (.named ?_) (words.bind fun _ => .pure _)
  refine strict.bind fun _ => .bind (.named ?_) fun _ => ?_
  · exact (within_oneOf fun _ _ => rfl).bind fun _ => .pure _
  · refine (within_blanks fun _ _ => rfl).bind fun _ => .bind (.or ?_ ?_) fun _ => .pure _
    · exact ranges.bind fun _ => .pure _
    · exact words.bind fun _ => .pure _

theorem Opens.suffix {text rest : Place} {found : Item DayLiteral} (opens : Opens text found rest) :
    rest <:+ text :=
  (within_item.outcome (reads_item opens).outcome).suffix

theorem furthest_suffix {refused : Option Place} {place text : Place}
    (early : ∀ other, refused = some other → other <:+ text) (late : place <:+ text) :
    furthest refused place <:+ text := by
  rcases furthest_eq_or refused place with found | same
  · exact early _ found
  · rw [same]
    exact late

theorem suffix_of_readItems {text place : Place} (failed : readItems text = .error place) :
    place <:+ text := by
  have skipped : ∀ text : Place, Text.skipBlanks text <:+ text := fun text =>
    List.dropWhile_suffix _
  have early : ∀ {text : Place} {outcome} (refused : Option Place),
      item (Text.skipBlanks text) = ⟨outcome, refused⟩ →
        ∀ other, refused = some other → other <:+ text := by
    intro text outcome refused attempt other here
    have noted : (item (Text.skipBlanks text)).refused = some other := by rw [attempt]; exact here
    exact (within_item.refused noted).suffix.trans (skipped text)
  fun_induction readItems text generalizing place with
  | case1 text found rest refused attempt items others => cases failed
  | case2 text found rest refused attempt other others step =>
    cases failed
    have inside := (within_item.outcome (by rw [attempt])).suffix
    have later := (step others).trans (inside.trans (skipped text))
    exact furthest_suffix (early refused attempt) later
  | case3 text refused attempt empty => cases failed
  | case4 text refused attempt nonempty =>
    cases failed
    exact furthest_suffix (early refused attempt) (skipped text)

/-- Reading a text that opens with an item is reading what is behind the item: no attempt that
was given up within the item can be the furthest. -/
theorem readItems_of_opens {gap text rest : Place} {found : Item DayLiteral} (blank : Blank gap)
    (opens : Opens text found rest) :
    readItems (gap ++ text) = (readItems rest).map (found :: ·) := by
  have reads := reads_item opens
  have skipped : Text.skipBlanks (gap ++ text) = text := blank.skip.trans opens.skipBlanks_eq
  rw [readItems]
  split
  next other behind refused attempt =>
    rw [skipped] at attempt
    cases (congrArg Attempt.outcome attempt).symm.trans reads.outcome
    split
    next items others => rw [others]; rfl
    next place others =>
      -- The refusal behind the item is a suffix of `rest`, so none within the item is further.
      have last := (suffix_of_readItems others).length_le
      have bound := fun other here => Nat.le_trans last
        (reads.refused other ((congrArg Attempt.refused attempt).trans here))
      rw [others, furthest_of_le bound]
      rfl
  next refused attempt =>
    rw [skipped] at attempt
    cases (congrArg Attempt.outcome attempt).symm.trans reads.outcome

theorem readItems_of_blank {gap : List Char} (blank : Blank gap) (text : Place) :
    readItems (gap ++ text) = readItems text := by
  rw [readItems, readItems, blank.skip]

theorem readItems_nil : readItems [] = .ok [] := by
  rw [readItems]
  rfl

theorem readItems_eq_ok_iff {text : Place} {items : List (Item DayLiteral)} :
    readItems text = .ok items ↔ ConsistsOf text items := by
  constructor
  · intro read
    fun_induction readItems text generalizing items with
    | case1 text found rest refused attempt items others step =>
      cases read
      have consists := step others
      have split := List.takeWhile_append_dropWhile (p := Text.isBlank) (l := text)
      rw [← split]
      rcases opens_of_item (by rw [attempt]) with opens | ⟨c, member, delimiter⟩
      · exact .cons (List.all_eq_true.1 List.all_takeWhile) opens consists
      · exact absurd delimiter (consists.head_not_delimiter c member)
    | case2 => cases read
    | case3 text refused attempt empty =>
      cases read
      have split := List.takeWhile_append_dropWhile (p := Text.isBlank) (l := text)
      have rest : text.dropWhile Text.isBlank = [] := List.isEmpty_iff.1 empty
      rw [rest, List.append_nil] at split
      rw [← split]
      exact .nil (List.all_eq_true.1 List.all_takeWhile)
    | case4 => cases read
  · intro consists
    induction consists with
    | @nil gap blank =>
      have read := readItems_of_blank blank []
      rw [List.append_nil, readItems_nil] at read
      exact read
    | cons blank opens others step => rw [readItems_of_opens blank opens, step]; rfl

end PeriodicalSearch.Query
