import PeriodicalSearch.Record.Article
import PeriodicalSearch.Record.Issue
import PeriodicalSearch.Resource.Basic
import PeriodicalSearch.Sql.Statement

/-!
The statements that find the articles of an issue and the issue of an article. Both join the two
tables on the issue that an article names.
-/
namespace PeriodicalSearch

open Sql

/-- All columns of one table, joined with another where two columns are equal, for the row of the
other table with a given key. -/
def joined {other : Entity} (wanted : Entity) (left right : List Fragment)
    (key : other.Column) (value : Value) : List Fragment :=
  selectFragments wanted ++
    .words " INNER JOIN " :: .name other.name :: .words " ON " ::
      (left ++ .words " = " :: (right ++ .words " WHERE " ::
        (columnFragments key ++ [.words " = ", .bound value])))

def Issue.articlesStatement (issue : Issue) (dialect : Dialect) : Statement :=
  let key : Resource.issues.entity.Column := Column.id
  let named : Resource.articles.entity.Column := Column.issueId
  Fragment.statement dialect
    (joined Resource.articles (columnFragments key) (columnFragments named) key
      (.int issue.id.toInt))

def Article.issueStatement (article : Article) (dialect : Dialect) : Statement :=
  let articleKey : Resource.articles.entity.Column := Column.id
  let named : Resource.articles.entity.Column := Column.issueId
  let key : Resource.issues.entity.Column := Column.id
  Fragment.statement dialect
    (joined Resource.issues (columnFragments named) (columnFragments key) articleKey
      (.uuid article.id))

end PeriodicalSearch
