import PeriodicalSearch.Record.Article
import PeriodicalSearch.Record.Issue
import PeriodicalSearch.Record.User
import PeriodicalSearch.Resource.Basic
import PeriodicalSearch.Sql.Evaluation

/-!
The records of every collection, their keys, and what their columns hold.
-/
namespace PeriodicalSearch

abbrev Record : Resource → Type
  | .issues => Issue
  | .articles => Article
  | .users => User

abbrev Key : Resource → Type
  | .issues => Int32
  | .articles => Uuid
  | .users => Uuid

instance Key.decidableEq : (resource : Resource) → DecidableEq (Key resource)
  | .issues => inferInstanceAs (DecidableEq Int32)
  | .articles => inferInstanceAs (DecidableEq Uuid)
  | .users => inferInstanceAs (DecidableEq Uuid)

namespace Issue

def cell (issue : Issue) : Column .issues → Sql.Cell
  | .id => .integer issue.id.toInt
  | .volumeNum => .integer issue.volumeNum.toInt
  | .issueNum => .integer issue.issueNum.toInt
  | .publishDate => (issue.publishDate.map Sql.Cell.date).getD .null

end Issue

namespace Article

def cell (article : Article) : Column .articles → Sql.Cell
  | .id => .uuid article.id
  | .title => .text article.title.toList
  | .subTitle => .text article.subTitle.toList
  | .author => .text article.author.toList
  | .body => .text article.body.toList
  | .issueId => (article.issueId.map fun id => Sql.Cell.integer id.toInt).getD .null
  | .publishedAt => (article.publishedAt.map Sql.Cell.moment).getD .null

end Article

namespace User

def cell (user : User) : Column .users → Sql.Cell
  | .id => .uuid user.id
  | .username => .text user.username.toList
  | .email => .text user.email.toList
  | .role => .text user.role.name.toList

end User

namespace Record

def key : {resource : Resource} → Record resource → Key resource
  | .issues, issue => Issue.id issue
  | .articles, article => Article.id article
  | .users, user => User.id user

def cell : {resource : Resource} → Record resource → Sql.Row resource
  | .issues, issue => Issue.cell issue
  | .articles, article => Article.cell article
  | .users, user => User.cell user

end Record

end PeriodicalSearch
