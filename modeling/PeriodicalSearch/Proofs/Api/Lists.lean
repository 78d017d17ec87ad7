import PeriodicalSearch.Api.Service
import PeriodicalSearch.Proofs.Search.Completion

/-! Responses to requests for lists. Once the search has become a condition and the sort directive a
key, the response depends only on the height of the condition, above which the database does not
evaluate it, and on the records that meet it. -/

namespace PeriodicalSearch

namespace Store

variable {resource : Resource}

def found (records : List (Record resource)) (condition : Option (Sql.Expression resource))
    (key : Sql.SortKey resource) : List (Record resource) :=
  (records.filter (isSelected condition)).mergeSort (mayPrecede key)

theorem perm_found (records : List (Record resource))
    (condition : Option (Sql.Expression resource)) (key : Sql.SortKey resource) :
    (found records condition key).Perm (records.filter (isSelected condition)) :=
  List.mergeSort_perm _ _

theorem select?_eq {store : Store} {records : List (Record resource)}
    (table : store.table resource = some records) (condition : Option (Sql.Expression resource))
    (key : Sql.SortKey resource) : store.select? ⟨condition, some key⟩ =
      if isEvaluable condition records then some (found records condition key) else none := by
  rw [select?, table]
  rfl

/-- Of a search, the database refuses nothing but the height of its condition. -/
theorem isEvaluable_iff {search : Option String} {condition : Option (ConditionGroup resource)}
    (conditioned : resource.searchProfile.filter resource search = .ok condition)
    (records : List (Record resource)) :
    isEvaluable (condition.map ConditionGroup.expression) records = true ↔
      ∀ group ∈ condition, group.expression.height ≤ Sql.maxHeight := by
  cases condition with
  | none => exact iff_of_true rfl fun group none => by cases none
  | some group =>
    have completes : (records.all fun record => group.expression.completes record.cell) = true :=
      List.all_eq_true.2 fun record _ =>
        Resource.completes_of_filter conditioned record.cell group rfl
    simp [isEvaluable, completes]

end Store

namespace Service

def AsksFor (address : String) (resource : Resource) (options : ListOptions) : Prop :=
  ∃ form, splitAddress address.toList = ((path resource).toList, form) ∧
    Form.options form = .ok options

theorem find?_path (resource : Resource) :
    (Resource.list.find? fun other => (path other).toList == (path resource).toList) =
      some resource := by
  cases resource <;> decide

variable {store : Store} {resource : Resource} {options : ListOptions}

theorem get_eq_listed {address : String} (asks : AsksFor address resource options) :
    get store address = listed store resource options := by
  obtain ⟨form, split, read⟩ := asks
  simp only [get, split, find?_path, read]

def shown (options : ListOptions) (records : List (Record resource)) : Response :=
  ⟨200, some records.length,
    .json (.array ((Listing.paginate options records).records.map Record.json))⟩

section

variable {records : List (Record resource)} {condition : Option (ConditionGroup resource)}
  {key : Sql.SortKey resource} (table : store.table resource = some records)
  (conditioned : resource.searchProfile.filter resource options.search = .ok condition)
  (sorted : Sql.SortKey.choose resource.usualSort options.sort = .ok key)
include conditioned sorted

theorem select_eq : Listing.select resource options =
    .ok ⟨condition.map ConditionGroup.expression, some key⟩ := by
  rw [Listing.select, conditioned, sorted]
  rfl

include table

theorem listed_of_low (low : ∀ group ∈ condition, group.expression.height ≤ Sql.maxHeight) :
    listed store resource options =
      shown options (Store.found records (condition.map ConditionGroup.expression) key) := by
  have page : Listing.page store resource options = .ok (Listing.paginate options
      (Store.found records (condition.map ConditionGroup.expression) key)) := by
    rw [Listing.page, select_eq conditioned sorted]
    dsimp only [bind, Except.bind]
    rw [Store.select?_eq table, if_pos ((Store.isEvaluable_iff conditioned records).2 low)]
    rfl
  rw [listed, page]
  rfl

theorem listed_of_high (high : ¬∀ group ∈ condition, group.expression.height ≤ Sql.maxHeight) :
    listed store resource options = failed .database := by
  have page : Listing.page store resource options = .error .database := by
    rw [Listing.page, select_eq conditioned sorted]
    dsimp only [bind, Except.bind]
    rw [Store.select?_eq table, if_neg (mt (Store.isEvaluable_iff conditioned records).1 high)]
  rw [listed, page]

end

end Service

end PeriodicalSearch
