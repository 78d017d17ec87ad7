import PeriodicalSearch.Entity

/-!
The collections that can be listed, and their columns.
-/
namespace PeriodicalSearch

inductive Resource where
  | issues
  | articles
  | users
  deriving DecidableEq

def Resource.name : Resource → String
  | .issues => "issues"
  | .articles => "articles"
  | .users => "users"

def Resource.list : List Resource := [.issues, .articles, .users]

inductive Column : Resource → Type where
  | id {resource : Resource} : Column resource
  | volumeNum : Column .issues
  | issueNum : Column .issues
  | publishDate : Column .issues
  | title : Column .articles
  | subTitle : Column .articles
  | author : Column .articles
  | body : Column .articles
  | issueId : Column .articles
  | publishedAt : Column .articles
  | username : Column .users
  | email : Column .users
  | role : Column .users
  deriving DecidableEq

namespace Column

def list : (resource : Resource) → List (Column resource)
  | .issues => [.id, .volumeNum, .issueNum, .publishDate]
  | .articles => [.id, .title, .subTitle, .author, .body, .issueId, .publishedAt]
  | .users => [.id, .username, .email, .role]

def words {resource : Resource} : Column resource → List String
  | .id => ["id"]
  | .volumeNum => ["volume", "num"]
  | .issueNum => ["issue", "num"]
  | .publishDate => ["publish", "date"]
  | .title => ["title"]
  | .subTitle => ["sub", "title"]
  | .author => ["author"]
  | .body => ["body"]
  | .issueId => ["issue", "id"]
  | .publishedAt => ["published", "at"]
  | .username => ["username"]
  | .email => ["email"]
  | .role => ["role"]

end Column

@[reducible]
def Resource.entity (resource : Resource) : Entity where
  name := resource.name
  Column := Column resource
  decidableColumn := inferInstance
  columns := Column.list resource
  words := Column.words

instance : Coe Resource Entity := ⟨Resource.entity⟩

end PeriodicalSearch
