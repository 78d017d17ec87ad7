import PeriodicalSearch.Proofs.Condition.Comparisons
import PeriodicalSearch.Proofs.Query.Octets
import PeriodicalSearch.Proofs.Sql.CellText
import PeriodicalSearch.Record.Json

/-! What responses show of a column, and whether the database finds the column by it. Numbers and
days are kept as they are shown; moments are shown with another zone, and identifiers are kept as
octets that no text shows. -/

namespace PeriodicalSearch

open Text

namespace Sql

inductive Kind where
  | integer
  | text
  | date
  | moment
  | uuid
  deriving DecidableEq

def Kind.isKeptAsShown : Kind → Bool
  | .integer | .text | .date => true
  | .moment | .uuid => false

namespace Cell

def kind? : Cell → Option Kind
  | .null => none
  | .integer _ => some .integer
  | .text _ => some .text
  | .date _ => some .date
  | .moment _ => some .moment
  | .uuid _ => some .uuid

def shownText? : Cell → Option (List Char)
  | .null => none
  | .integer value => some (integerText value)
  | .text value => some value
  | .date value => some value.text
  | .moment value => some value.text
  | .uuid value => some value.text

theorem marks_shownText {cell : Cell} (untexted : cell.kind? ≠ some .text) {shown : List Char}
    (shows : cell.shownText? = some shown) : ∀ c ∈ shown, IsMark c := by
  cases cell with
  | null => cases shows
  | integer value =>
    cases shows
    exact fun c member => (figures_integerText value c member).isMark
  | text value => exact absurd rfl untexted
  | date value =>
    cases shows
    exact fun c member => (value.figures_text c member).isMark
  | moment value =>
    cases shows
    exact value.marks_text
  | uuid value =>
    cases shows
    exact value.marks_text

theorem length_shownText_le {cell : Cell} (untexted : cell.kind? ≠ some .text)
    (small : ∀ value, cell = .integer value → value.natAbs < 10 ^ 10) {shown : List Char}
    (shows : cell.shownText? = some shown) : shown.length ≤ 36 := by
  cases cell with
  | null => cases shows
  | integer value =>
    cases shows
    exact Nat.le_trans (length_integerText_le (by decide) (small value rfl)) (by decide)
  | text value => exact absurd rfl untexted
  | date value =>
    cases shows
    exact Nat.le_trans value.length_text_le (by decide)
  | moment value =>
    cases shows
    exact Nat.le_trans value.length_text_le (by decide)
  | uuid value =>
    cases shows
    exact Nat.le_of_eq value.length_text

end Cell

end Sql

theorem Sql.length_spelling (text : List Char) : (spelling text).length = utf8Length text := by
  induction text with
  | nil => rfl
  | cons c text step =>
    rw [spelling, List.length_map] at step ⊢
    rw [List.flatMap_cons, List.length_append, step, String.length_utf8EncodeChar, utf8Length_cons]

namespace Lookup

open Sql

theorem accepts_equals_of_plain {wanted : List Char} (plain : ∀ c ∈ wanted, IsPlain c)
    {cell : Cell} (texted : cell.kind? ≠ some .uuid) :
    (equals (String.ofList wanted)).accepts cell = true ↔
      ∃ content ∈ cell.text?, content.map Char.toUpper = wanted.map Char.toUpper := by
  rw [accepts_equals_of_text fun id same => texted (by rw [same]; rfl), Option.any_eq_true,
    String.toList_ofList, capitals_of_plain plain]
  simp only [beq_iff_eq, Option.mem_def]

/-- No text of more than sixteen characters has the octets of an identifier. -/
theorem not_accepts_equals_uuid {wanted : List Char} (plain : ∀ c ∈ wanted, IsPlain c)
    (long : 16 < wanted.length) (id : Uuid) :
    ¬(equals (String.ofList wanted)).accepts (.uuid id) = true := by
  intro accepted
  have same : id.octets.map capitalOctet = spelling (capitals (String.ofList wanted).toList) :=
    beq_iff_eq.1 accepted
  have ascii : ∀ c ∈ wanted.map Char.toUpper, c.toNat < 0x80 :=
    List.forall_mem_map.2 fun c member =>
      forall_ascii (fun c => c.toUpper.toNat < 0x80) (by decide) c (plain c member).1
  have lengths := congrArg List.length same
  rw [List.length_map, id.length_octets, String.toList_ofList, capitals_of_plain plain,
    length_spelling, utf8Length_of_ascii ascii, List.length_map] at lengths
  omega

theorem accepts_equals_figures {wanted content : List Char} (figures : ∀ c ∈ wanted, IsFigure c)
    {cell : Cell} (keeps : cell.text? = some content) (figuresOther : ∀ c ∈ content, IsFigure c) :
    (equals (String.ofList wanted)).accepts cell = true ↔ content = wanted := by
  have texted : cell.kind? ≠ some .uuid := fun same => by
    cases cell <;> cases same
    cases keeps
  rw [accepts_equals_of_plain (fun c member => (figures c member).isMark.isPlain) texted, keeps]
  simp [map_toUpper_of_figures figures, map_toUpper_of_figures figuresOther]

section

variable {kind : Kind} (untexted : kind ≠ .text) {cell other : Cell}
  (ofKind : cell.kind? = some kind) (otherOfKind : ∀ own ∈ other.kind?, own = kind)
  {shown : List Char} (shows : cell.shownText? = some shown)
include untexted ofKind otherOfKind shows

theorem accepts_equals_kept (kept : kind.isKeptAsShown = true) :
    (equals (String.ofList shown)).accepts other = true ↔ other = cell := by
  have unlike : other.kind? ≠ some kind → other ≠ cell := fun differs same =>
    differs (same ▸ ofKind)
  cases cell with
  | null => cases ofKind
  | text value => exact absurd (Option.some.inj ofKind).symm untexted
  | integer value =>
    cases ofKind
    cases shows
    cases other with
    | integer number =>
      rw [accepts_equals_figures (figures_integerText value) rfl (figures_integerText number),
        integerText_inj, Cell.integer.injEq]
    | null => exact iff_of_false Bool.false_ne_true (unlike (by decide))
    | _ => cases otherOfKind _ rfl
  | date value =>
    cases ofKind
    cases shows
    cases other with
    | date day =>
      rw [accepts_equals_figures value.figures_text rfl day.figures_text, Date.text_inj,
        Cell.date.injEq]
    | null => exact iff_of_false Bool.false_ne_true (unlike (by decide))
    | _ => cases otherOfKind _ rfl
  | moment value => cases ofKind; cases kept
  | uuid value => cases ofKind; cases kept

theorem not_accepts_equals_unkept (unkept : kind.isKeptAsShown = false) :
    ¬(equals (String.ofList shown)).accepts other = true := by
  have plain : ∀ c ∈ shown, IsPlain c := fun c member =>
    (Cell.marks_shownText (ofKind ▸ fun same => untexted (Option.some.inj same)) shows c
      member).isPlain
  cases cell with
  | null => cases ofKind
  | text value => exact absurd (Option.some.inj ofKind).symm untexted
  | integer value => cases ofKind; cases unkept
  | date value => cases ofKind; cases unkept
  | moment value =>
    cases ofKind
    cases shows
    cases other with
    | moment moment =>
      rw [accepts_equals_of_plain plain fun other => by cases other]
      rintro ⟨content, keeps, same⟩
      cases keeps
      exact Timestamp.map_toUpper_storedText_ne moment value same
    | null => exact Bool.false_ne_true
    | _ => cases otherOfKind _ rfl
  | uuid value =>
    cases ofKind
    cases shows
    cases other with
    | uuid id => exact not_accepts_equals_uuid plain (by rw [value.length_text]; decide) id
    | null => exact Bool.false_ne_true
    | _ => cases otherOfKind _ rfl

/-- The text that is shown of a number or a day finds the cells with this number or day; the text
that is shown of a moment or an identifier finds no cell of its kind. -/
theorem accepts_equals_shown : (equals (String.ofList shown)).accepts other = true ↔
    kind.isKeptAsShown = true ∧ other = cell := by
  cases kept : kind.isKeptAsShown with
  | true => rw [accepts_equals_kept untexted ofKind otherOfKind shows kept, and_iff_right rfl]
  | false =>
    exact iff_of_false (not_accepts_equals_unkept untexted ofKind otherOfKind shows kept)
      fun both => Bool.false_ne_true both.1

end

end Lookup

def Column.kind : {resource : Resource} → Column resource → Sql.Kind
  | .issues, .id => .integer
  | .articles, .id => .uuid
  | .users, .id => .uuid
  | _, .volumeNum => .integer
  | _, .issueNum => .integer
  | _, .publishDate => .date
  | _, .title => .text
  | _, .subTitle => .text
  | _, .author => .text
  | _, .body => .text
  | _, .issueId => .integer
  | _, .publishedAt => .moment
  | _, .username => .text
  | _, .email => .text
  | _, .role => .text

def Json.shownText? : Json → Option (List Char)
  | .string text => text.map String.toList
  | .integer value => some (toString value).toList
  | _ => none

theorem Json.shownText?_integer (value : Int) :
    (integer value).shownText? = (Sql.Cell.integer value).shownText? :=
  congrArg some (Sql.integerText_eq value).symm

theorem Json.shownText?_text (text : List Char) :
    (Json.text (String.ofList text)).shownText? = some text :=
  congrArg some String.toList_ofList

theorem Json.shownText?_ofOption {α : Type} {encode : α → Json} {make : α → Sql.Cell}
    (each : ∀ value, (encode value).shownText? = (make value).shownText?) (value : Option α) :
    (ofOption encode value).shownText? = ((value.map make).getD .null).shownText? := by
  cases value with
  | none => rfl
  | some value => exact each value

theorem Sql.Cell.kind?_getD {α : Type} {make : α → Cell} {kind : Kind}
    (each : ∀ value, (make value).kind? = some kind) (value : Option α) :
    ∀ own ∈ ((value.map make).getD .null).kind?, own = kind := by
  intro own holds
  cases value with
  | none => cases holds
  | some value => exact (Option.some.inj ((each value).symm.trans holds)).symm

namespace Record

variable {resource : Resource} (record : Record resource)

theorem kind_of_cell (column : Column resource) :
    ∀ kind ∈ (record.cell column).kind?, kind = column.kind := by
  intro kind holds
  cases resource with
  | issues =>
    cases column with
    | publishDate => exact Sql.Cell.kind?_getD (fun _ => rfl) _ kind holds
    | _ => cases holds; rfl
  | articles =>
    cases column with
    | issueId => exact Sql.Cell.kind?_getD (fun _ => rfl) _ kind holds
    | publishedAt => exact Sql.Cell.kind?_getD (fun _ => rfl) _ kind holds
    | _ => cases holds; rfl
  | users => cases column <;> cases holds <;> rfl

theorem kind?_of_shows {column : Column resource} {shown : List Char}
    (shows : (record.cell column).shownText? = some shown) :
    (record.cell column).kind? = some column.kind := by
  have kind := record.kind_of_cell column
  cases holds : (record.cell column).kind? with
  | some own => rw [kind own holds]
  | none =>
    cases cell : record.cell column <;> rw [cell] at holds shows
    · cases shows
    all_goals cases holds

theorem natAbs_lt_of_cell {column : Column resource} {value : Int}
    (holds : record.cell column = .integer value) : value.natAbs < 10 ^ 10 := by
  have bound (number : Int32) : number.toInt.natAbs < 10 ^ 10 := by
    have lower := number.le_toInt
    have upper := number.toInt_lt
    omega
  cases resource with
  | issues =>
    cases column with
    | publishDate =>
      cases day : Issue.publishDate record <;> simp [cell, Issue.cell, day] at holds
    | _ => cases holds; exact bound _
  | articles =>
    cases column with
    | issueId =>
      cases id : Article.issueId record with
      | none => simp [cell, Article.cell, id] at holds
      | some number =>
        simp only [cell, Article.cell, id] at holds
        cases holds
        exact bound number
    | publishedAt =>
      cases moment : Article.publishedAt record <;> simp [cell, Article.cell, moment] at holds
    | _ => cases holds
  | users => cases column <;> cases holds

/-- A response shows the text of a cell under the name of its column. -/
theorem shownText?_json (column : resource.entity.Column) :
    (record.json.member? column.name).bind Json.shownText? = (record.cell column).shownText? := by
  cases resource with
  | issues =>
    cases column with
    | publishDate => exact Json.shownText?_ofOption (fun _ => Json.shownText?_text _) _
    | _ => exact Json.shownText?_integer _
  | articles =>
    cases column with
    | id => exact Json.shownText?_text _
    | issueId => exact Json.shownText?_ofOption (fun _ => Json.shownText?_integer _) _
    | publishedAt => exact Json.shownText?_ofOption (fun _ => Json.shownText?_text _) _
    | _ => rfl
  | users =>
    cases column with
    | id => exact Json.shownText?_text _
    | _ => rfl

end Record

end PeriodicalSearch
