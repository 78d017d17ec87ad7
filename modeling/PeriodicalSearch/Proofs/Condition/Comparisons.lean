import PeriodicalSearch.Proofs.Sql.Connectives
import PeriodicalSearch.Proofs.Sql.Containment
import PeriodicalSearch.Sql.Evaluation

/-! What a comparison says of a cell, and that a test is true exactly of the cells of which its
comparison holds. A comparison is true or false; a test may be unknown as well, on a null for
instance, and is then not true. -/

namespace PeriodicalSearch

open Text Sql

variable {entity : Entity}

namespace Sql.Cell

def kept? : Cell → Option (List Char)
  | .text value => some value
  | .date value => some value.text
  | .moment value => some value.storedText
  | _ => none

/-- The cell as a text in capitals is this text; an identifier has to have its octets. -/
def isInCapitals (text : List Char) : Cell → Bool
  | .uuid id => id.octets.map capitalOctet == spelling text
  | cell => cell.text?.any fun content => content.map Char.toUpper == text

def isText (text : List Char) : Cell → Bool
  | .integer value =>
    (Numeral.ofText? text).any fun number => (Numeral.ofInt value).compare number == .eq
  | cell => cell.kept? == some text

def isInteger (value : Int) : Cell → Bool
  | .integer number => number == value
  | cell => cell.kept? == some (integerText value)

end Sql.Cell

def Operand.matches : Operand → Cell → Bool
  | .text value => Cell.isText value.toList
  | .integer value => Cell.isInteger value
  | .boolean value => Cell.isInteger (if value then 1 else 0)
  | .date value => Cell.isText value.text

def Range.admits : Range Date → List Char → Bool
  | .between first last, day => compare day first.text != .lt && compare day last.text != .gt
  | .upTo last, day => compare day last.text != .gt
  | .since first, day => compare day first.text != .lt

def Lookup.accepts (lookup : Lookup) (cell : Cell) : Bool :=
  match lookup with
  | .contains text => (Content.cell cell).read?.any fun content =>
    FindsIn content (capitals text.toList)
  | .equals text => cell.isInCapitals (capitals text.toList)
  | .exact operand => operand.matches cell
  | .isNull null => (cell == .null) == null
  | .within range => cell.day?.any range.admits

namespace Sql

theorem visible_map_toUpper (content : List Char) :
    visible (content.map Char.toUpper) = (visible content).map Char.toUpper := by
  rw [visible, visible, List.takeWhile_map]
  congr 2
  funext c
  rw [Function.comp, Bool.eq_iff_iff, bne_iff_ne, bne_iff_ne]
  exact not_congr toUpper_eq_null

theorem readText_map_toUpper (content : List Char) :
    readText (content.map Char.toUpper) = (readText content).map Char.toUpper := by
  rw [readText, visible_map_toUpper, readText, List.map_map, List.map_map]
  exact List.map_congr_left fun c _ => (toUpper_readCharacter c).symm

theorem toUpper_spelledCharacter (code : Nat) :
    (spelledCharacter code).toUpper = spelledCharacter code := by
  rw [spelledCharacter]
  split
  · rfl
  next spelled =>
    split
    next =>
      have valid : Nat.isValidChar code := by
        unfold Nat.isValidChar
        omega
      refine toUpper_of_beyond ?_
      rw [toNat_ofNat_of_valid valid]
      omega
    next => rfl

theorem capitalOctet_of_large {octet : Nat} (large : 0x80 ≤ octet) : capitalOctet octet = octet :=
  if_neg fun small => absurd small.2 (by omega)

theorem capitalOctet_of_small {octet : Nat} (small : octet < 0x80) :
    capitalOctet octet < 0x80 ∧ Char.ofNat (capitalOctet octet) = (Char.ofNat octet).toUpper := by
  have checked : ∀ octet < 0x80, capitalOctet octet < 0x80 ∧
      Char.ofNat (capitalOctet octet) = (Char.ofNat octet).toUpper := by
    decide
  exact checked octet small

theorem takeWhile_map_capitalOctet (octets : List Nat) :
    (octets.map capitalOctet).takeWhile (fun next => 0x80 ≤ next && next < 0xC0) =
      octets.takeWhile fun next => 0x80 ≤ next && next < 0xC0 := by
  induction octets with
  | nil => rfl
  | cons octet octets step =>
    rw [List.map_cons, List.takeWhile_cons, List.takeWhile_cons, step]
    by_cases small : octet < 0x80
    · have capital := (capitalOctet_of_small small).1
      rw [if_neg (by simp; omega), if_neg (by simp; omega)]
    · rw [capitalOctet_of_large (by omega)]

/-- Capitals may be made of the octets of an identifier or of the text that they are read as. -/
theorem looseText_map_capitalOctet (octets : List Nat) :
    looseText (octets.map capitalOctet) = (looseText octets).map Char.toUpper := by
  fun_induction looseText octets with
  | case1 => rw [List.map_nil, looseText, List.map_nil]
  | case2 octet octets single step =>
    rw [List.map_cons, looseText, List.map_cons, step]
    by_cases small : octet < 0x80
    · obtain ⟨bound, capital⟩ := capitalOctet_of_small small
      rw [if_pos (by omega), capital]
    · have valid : Nat.isValidChar octet := .inl (by omega)
      have beyond : ¬(Char.ofNat octet).toNat < 0x80 := by rwa [toNat_ofNat_of_valid valid]
      rw [capitalOctet_of_large (by omega), if_pos single, toUpper_of_beyond beyond]
  | case3 octet octets several trailing code step =>
    rw [List.map_cons, looseText, capitalOctet_of_large (by omega), if_neg several,
      takeWhile_map_capitalOctet]
    change spelledCharacter code :: looseText ((octets.map capitalOctet).drop trailing.length) = _
    rw [← List.map_drop, step, List.map_cons, toUpper_spelledCharacter]

namespace Content

theorem read?_asText_inCapitals (cell : Cell) : (Content.cell cell).asText.inCapitals.read? =
    (Content.cell cell).read?.map (List.map Char.toUpper) := by
  have kept (text : List Char) : some (readText (text.map Char.toUpper)) =
      (some (readText text)).map (List.map Char.toUpper) := by
    rw [readText_map_toUpper, Option.map_some]
  cases cell with
  | null => rfl
  | integer value => exact kept _
  | text value => exact kept _
  | date value => exact kept _
  | moment value => exact kept _
  | uuid id =>
    change some (visible (looseText (id.octets.map capitalOctet))) =
      some ((visible (looseText id.octets)).map Char.toUpper)
    rw [looseText_map_capitalOctet, visible_map_toUpper]

theorem compare_text (cell : Cell) (text : List Char) :
    ((Content.cell cell).compare (.cell (.text text)) == .eq) = (cell.kept? == some text) := by
  have kept (own : List Char) : (Ord.compare own text == .eq) = (some own == some text) := by
    rw [Bool.eq_iff_iff, beq_iff_eq, beq_iff_eq, Std.compare_eq_iff_eq, Option.some.injEq]
  cases cell with
  | null => rfl
  | integer value => rfl
  | text value => exact kept value
  | date value => exact kept value.text
  | moment value => exact kept value.storedText
  | uuid value => rfl

theorem inCapitals_compare_text (cell : Cell) (text : List Char) :
    ((Content.cell cell).asText.inCapitals != .cell .null &&
      (Content.cell cell).asText.inCapitals.compare (.cell (.text text)) == .eq) =
        cell.isInCapitals text := by
  have kept (own : List Char) : (Ord.compare own text == .eq) = (own == text) := by
    rw [Bool.eq_iff_iff, beq_iff_eq, beq_iff_eq, Std.compare_eq_iff_eq]
  cases cell with
  | null => rfl
  | integer value => exact kept _
  | text value => exact kept _
  | date value => exact kept _
  | moment value => exact kept _
  | uuid id =>
    change (Ord.compare (id.octets.map capitalOctet) (spelling text) == .eq) =
      (id.octets.map capitalOctet == spelling text)
    rw [Bool.eq_iff_iff, beq_iff_eq, beq_iff_eq, Std.compare_eq_iff_eq]

end Content

theorem Numeral.compare_ofInt (one other : Int) :
    ((ofInt one).compare (ofInt other) == .eq) = (one == other) := by
  have whole (value : Int) : (ofInt value).mantissaAt (min 0 0) = value := Int.mul_one value
  rw [Bool.eq_iff_iff, beq_iff_eq, beq_iff_eq, compare]
  change Ord.compare ((ofInt one).mantissaAt (min 0 0)) ((ofInt other).mantissaAt (min 0 0)) = .eq ↔ _
  rw [whole, whole, Std.compare_eq_iff_eq]

def Cell.affinity : Cell → Affinity
  | .integer _ => .numeric
  | _ => .text

theorem Affinity.compare_text (cell : Cell) (text : List Char) :
    (cell.affinity.compare (.cell cell) (.cell (.text text)) == .eq) = cell.isText text := by
  cases cell with
  | integer value =>
    change ((Content.cell (.integer value)).compareNumbers (.cell (.text text)) == .eq) =
      (Numeral.ofText? text).any fun number => (Numeral.ofInt value).compare number == .eq
    rw [Content.compareNumbers, Content.number?, Content.number?]
    cases Numeral.ofText? text <;> rfl
  | null => exact Content.compare_text .null text
  | text value => exact Content.compare_text (.text value) text
  | date value => exact Content.compare_text (.date value) text
  | moment value => exact Content.compare_text (.moment value) text
  | uuid value => exact Content.compare_text (.uuid value) text

theorem Affinity.compare_integer (cell : Cell) (value : Int) :
    (cell.affinity.compare (.cell cell) (.cell (.integer value)) == .eq) = cell.isInteger value := by
  cases cell with
  | integer number => exact Numeral.compare_ofInt number value
  | null => rfl
  | text kept => exact Content.compare_text (.text kept) (integerText value)
  | date kept => exact Content.compare_text (.date kept) (integerText value)
  | moment kept => exact Content.compare_text (.moment kept) (integerText value)
  | uuid kept => rfl

namespace Relation

variable {row : Row entity}

/-- A relation to a bound value is true unless the other side is null, or compares otherwise. -/
theorem eval_bound (how : Relation) (left : Scalar entity) (value : Value) :
    (how.eval row left (.bound value) == some true) = (left.eval row != .cell .null &&
      how.accepts ((left.affinity row).compare (left.eval row) (.cell value.cell))) := by
  have known : Content.cell value.cell ≠ .cell .null := by
    cases value <;> exact fun same => by cases same
  have affinity : (left.affinity row).between ((Scalar.bound value).affinity row) =
      left.affinity row := by
    cases left.affinity row <;> rfl
  by_cases null : left.eval row = .cell .null
  · rw [eval, if_pos (.inl null), null]
    rfl
  · have apart : ¬(left.eval row = .cell .null ∨ (Scalar.bound value).eval row = .cell .null) :=
      fun either => either.elim null known
    rw [bne_iff_ne.2 null, Bool.true_and, eval, if_neg apart, affinity, Scalar.eval]
    cases how.accepts ((left.affinity row).compare (left.eval row) (.cell value.cell)) <;> rfl

theorem equal_eval_column (column : entity.Column) (value : Value) :
    (equal.eval row (.column column) (.bound value) == some true) =
      (row column != .null && (row column).affinity.compare (.cell (row column))
        (.cell value.cell) == .eq) := by
  have affinity : (Scalar.column column).affinity row = (row column).affinity := by
    rw [Scalar.affinity]
    cases row column <;> rfl
  rw [eval_bound, affinity, Scalar.eval]
  generalize row column = cell
  cases cell <;> rfl

theorem eval_dayOf (how : Relation) (column : entity.Column) (day : Date) :
    (how.eval row (Lookup.dayOf column) (.bound (.date day)) == some true) =
      (row column).day?.any fun own => how.accepts (compare own day.text) := by
  rw [eval_bound]
  change (Content.cell (.ofText? (row column).day?) != .cell .null &&
    how.accepts ((Content.cell (.ofText? (row column).day?)).compare (.cell (.text day.text)))) = _
  cases (row column).day? <;> rfl

end Relation

end Sql

namespace Operand

theorem matches_null (operand : Operand) : operand.matches .null = false := by
  cases operand <;> rfl

theorem matches_eq (operand : Operand) (cell : Cell) : operand.matches cell =
    (cell.affinity.compare (.cell cell) (.cell (Lookup.operandValue operand).cell) == .eq) := by
  cases operand with
  | text value => exact (Affinity.compare_text cell _).symm
  | integer value => exact (Affinity.compare_integer cell _).symm
  | boolean value => exact (Affinity.compare_integer cell _).symm
  | date value => exact (Affinity.compare_text cell _).symm

end Operand

namespace Lookup

theorem accepts_contains_of_text {cell : Cell} (texted : ∀ id, cell ≠ .uuid id) (text : String) :
    (contains text).accepts cell =
      cell.text?.any fun content => FindsIn (readText content) (capitals text.toList) := by
  cases cell with
  | uuid id => exact absurd rfl (texted id)
  | _ => rfl

theorem accepts_equals_of_text {cell : Cell} (texted : ∀ id, cell ≠ .uuid id) (text : String) :
    (equals text).accepts cell =
      cell.text?.any fun content => content.map Char.toUpper == capitals text.toList := by
  cases cell with
  | uuid id => exact absurd rfl (texted id)
  | _ => rfl

theorem findsIn_map_toUpper {content part : List Char} :
    FindsIn (content.map Char.toUpper) part ↔ FindsIn content part := by
  rw [FindsIn, FindsIn, ContainsLetters, ContainsLetters, EndsInLetters, EndsInLetters,
    folded_map_toUpper]

/-- The database reads the content and the capitals in which the text is sought. -/
theorem findsIn_capitals_iff {content text : List Char} (free : '\x00' ∉ text) :
    FindsIn (readText content) (capitals text) ↔
      (capitals text).map Sql.readCharacter <:+: readText (content.map Char.toUpper) := by
  have shown : '\x00' ∉ capitals text := fun null => free (null_mem_capitals_iff.1 null)
  rw [FindsIn, if_neg shown, containsLetters_iff, ← readText_map_toUpper, ← readText_map_toUpper,
    map_toUpper_capitals, readText, visible_of_free shown]

variable {row : Row entity}

theorem eval_contains (text : String) (column : entity.Column) :
    (((contains text).test column).eval row == some true) =
      (contains text).accepts (row column) := by
  have subject : (upperText column).eval row = (Content.cell (row column)).asText.inCapitals := rfl
  have pattern : ((Scalar.bound (.string (containsPattern text))).eval row).read? =
    some (readText (containsPattern text).toList) := rfl
  rw [test, Test.eval, accepts, subject, pattern, Content.read?_asText_inCapitals]
  cases (Content.cell (row column)).read? with
  | none => rfl
  | some content =>
    have found := like_containsPattern text (content.map Char.toUpper)
    rw [findsIn_map_toUpper] at found
    change (some (like _ (content.map Char.toUpper)) == some true) = decide _
    rw [Bool.eq_iff_iff, beq_iff_eq, Option.some.injEq, found, decide_eq_true_iff]

theorem eval_exact (operand : Operand) (column : entity.Column) :
    (((exact operand).test column).eval row == some true) =
      (exact operand).accepts (row column) := by
  change (Relation.equal.eval row (.column column) (.bound (operandValue operand)) == some true) =
    operand.matches (row column)
  rw [Relation.equal_eval_column, ← operand.matches_eq]
  by_cases null : row column = .null
  · rw [null, operand.matches_null, Bool.and_false]
  · rw [bne_iff_ne.2 null, Bool.true_and]

theorem eval_within (range : Range Date) (column : entity.Column) :
    (((within range).test column).eval row == some true) =
      (within range).accepts (row column) := by
  cases range with
  | upTo last => exact Relation.eval_dayOf .atMost column last
  | since first => exact Relation.eval_dayOf .atLeast column first
  | between first last =>
    change (Truth.and (Relation.atLeast.eval row (dayOf column) (.bound (.date first)))
      (Relation.atMost.eval row (dayOf column) (.bound (.date last))) == some true) = _
    rw [Truth.and_eq_true, Relation.eval_dayOf, Relation.eval_dayOf, accepts]
    cases (row column).day? <;> rfl

/-- A test is true of a row where its comparison holds of the cell. -/
theorem test_eval_eq_true (lookup : Lookup) (column : entity.Column) :
    ((lookup.test column).eval row == some true) = lookup.accepts (row column) := by
  cases lookup with
  | contains text => exact eval_contains text column
  | equals text =>
    change (Relation.equal.eval row (upperText column) (.bound (.string (upperCase text))) ==
      some true) = (row column).isInCapitals (capitals text.toList)
    rw [Relation.eval_bound, ← Content.inCapitals_compare_text, Value.cell, upperCase,
      String.toList_ofList]
    rfl
  | exact operand => exact eval_exact operand column
  | isNull null =>
    have same : (Content.cell (row column) == .cell .null) = (row column == .null) := by
      cases row column <;> rfl
    change (some ((Content.cell (row column) == .cell .null) == null) == some true) =
      ((row column == .null) == null)
    rw [same]
    cases (row column == .null) == null <;> rfl
  | within range => exact eval_within range column

end Lookup

end PeriodicalSearch
