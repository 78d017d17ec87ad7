import PeriodicalSearch.Record.Basic
import PeriodicalSearch.Sql.Statement

/-!
The tables of the periodical and what may be done with them. Keys are unique, and so are the names
of users; an article that names an issue needs that issue in the table of issues, and keeps it
there. Where a step is not allowed, nothing changes.
-/
namespace PeriodicalSearch

/-- The tables; one that has been dropped is missing. -/
structure Store where
  issues : Option (List Issue)
  articles : Option (List Article)
  users : Option (List User)

namespace Store

def empty : Store := ⟨some [], some [], some []⟩

def table (store : Store) : (resource : Resource) → Option (List (Record resource))
  | .issues => store.issues
  | .articles => store.articles
  | .users => store.users

def withTable (store : Store) :
    (resource : Resource) → Option (List (Record resource)) → Store
  | .issues, issues => { store with issues }
  | .articles, articles => { store with articles }
  | .users, users => { store with users }

def hasIssue (store : Store) (id : Int32) : Bool :=
  match store.issues with
  | some issues => issues.any fun issue => issue.id == id
  | none => false

def isNamed (store : Store) (id : Int32) : Bool :=
  match store.articles with
  | some articles => articles.any fun article => article.issueId == some id
  | none => false

def fits (store : Store) : {resource : Resource} → List (Record resource) → Record resource → Bool
  | .issues, _, _ => true
  | .articles, _, article =>
    store.issues.isSome && article.issueId.all fun id => store.hasIssue id
  | .users, users, user => users.all fun other => other.username != user.username

def insert? (store : Store) {resource : Resource} (record : Record resource) : Option Store := do
  let records ← store.table resource
  if records.all (fun other => other.key ≠ record.key) && store.fits records record then
    return store.withTable resource (some (records ++ [record]))
  else
    none

def mayDelete (store : Store) : (resource : Resource) → Key resource → Bool
  | .issues, id => !store.isNamed id
  | .articles, _ => store.issues.isSome
  | .users, _ => true

def delete? (store : Store) (resource : Resource) (key : Key resource) : Option Store := do
  let records ← store.table resource
  if store.mayDelete resource key then
    return store.withTable resource (some (records.filter fun record => record.key ≠ key))
  else
    none

def count (store : Store) (resource : Resource) (key : Key resource) : Nat :=
  match store.table resource with
  | some records => records.countP fun record => record.key = key
  | none => 0

def mayDrop (store : Store) : Resource → Bool
  | .issues => (store.articles.getD []).all fun article => article.issueId.isNone
  | .articles => true
  | .users => true

def drop? (store : Store) (resource : Resource) : Option Store := do
  let _ ← store.table resource
  if store.mayDrop resource then return store.withTable resource none else none

def mayPrecede {resource : Resource} (key : Sql.SortKey resource) (one other : Record resource) :
    Bool :=
  match key.direction with
  | .ascending => (one.cell key.column).compare (other.cell key.column) != .gt
  | .descending => (other.cell key.column).compare (one.cell key.column) != .gt

def isEvaluable {resource : Resource} (condition : Option (Sql.Expression resource))
    (records : List (Record resource)) : Bool :=
  condition.all fun condition => condition.height ≤ Sql.maxHeight &&
    records.all fun record => condition.completes record.cell

def isSelected {resource : Resource} (condition : Option (Sql.Expression resource))
    (record : Record resource) : Bool :=
  condition.all fun condition => condition.keeps record.cell

def select? (store : Store) {resource : Resource} (select : Sql.Select resource) :
    Option (List (Record resource)) := do
  let records ← store.table resource
  if isEvaluable select.condition records then
    let selected := records.filter (isSelected select.condition)
    match select.sortKey with
    | some key => return selected.mergeSort (mayPrecede key)
    | none => return selected
  else
    none

end Store

end PeriodicalSearch
