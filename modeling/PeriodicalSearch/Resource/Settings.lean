import PeriodicalSearch.Record.Article
import PeriodicalSearch.Record.Issue
import PeriodicalSearch.Record.User
import PeriodicalSearch.Resource.Basic
import PeriodicalSearch.Sql.Statement

/-!
How each collection is searched and sorted.
-/
namespace PeriodicalSearch

namespace Resource

def searchProfile : Resource → SearchProfile
  | .issues => Issue.searchProfile
  | .articles => Article.searchProfile
  | .users => User.searchProfile

def usualSort : (resource : Resource) → Sql.SortKey resource
  | .issues => ⟨Column.publishDate, .descending⟩
  | .articles => ⟨Column.title, .ascending⟩
  | .users => ⟨Column.username, .ascending⟩

end Resource

end PeriodicalSearch
