import PeriodicalSearch.Uuid
import PeriodicalSearch.Calendar.Timestamp
import PeriodicalSearch.Search.Profile
import PeriodicalSearch.Text.Blank

/-!
Articles, which may be placed in an issue and may be published.
-/
namespace PeriodicalSearch

structure Article where
  id : Uuid
  title : String
  subTitle : String
  author : String
  body : String
  issueId : Option Int32
  publishedAt : Option Timestamp
  deriving DecidableEq

namespace Article

/-- The articles of a status, which is `draft` or `published`; any other status has none. -/
def statusPredicate (status : String) : Predicate :=
  let name := String.ofList ((Text.trimBlanks status.toList).map Char.toLower)
  if name = "draft" then .compare "published_at" (.isNull true)
  else if name = "published" then .compare "published_at" (.isNull false)
  else .nothing

def searchProfile : SearchProfile :=
  SearchProfile.ofFields ["title", "body"]
    |>.register "by" (.column "author")
    |>.register "published" (.column "published_at")
    |>.register "status" (.function fun status => .ok (statusPredicate status))

end Article

end PeriodicalSearch
