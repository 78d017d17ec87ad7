import PeriodicalSearch.Calendar.Reading
import PeriodicalSearch.Json.Fields
import PeriodicalSearch.Record.Basic

/-!
Records in JSON. A field that may be missing is null when it is.
-/
namespace PeriodicalSearch

def Uuid.ofJson? (json : Json) : Option Uuid := do Uuid.ofText? (← json.text?).toList

def Date.ofJson? (json : Json) : Option Date := do Calendar.date? (← json.text?).toList

def Timestamp.ofJson? (json : Json) : Option Timestamp := do
  Calendar.timestamp? (← json.text?).toList

namespace Issue

def ofJson? (json : Json) : Option Issue := do
  let values ← json.fields? ["id", "volume_num", "issue_num", "publish_date"]
  match values with
  | [id, volumeNum, issueNum, publishDate] =>
    return {
      id := ← Json.required? Json.int32? id
      volumeNum := ← Json.required? Json.int32? volumeNum
      issueNum := ← Json.required? Json.int32? issueNum
      publishDate := ← Json.optional? Date.ofJson? publishDate }
  | _ => none

def json (issue : Issue) : Json :=
  .record [("id", .integer issue.id.toInt), ("volume_num", .integer issue.volumeNum.toInt),
    ("issue_num", .integer issue.issueNum.toInt),
    ("publish_date", .ofOption (fun date => .text date.toString) issue.publishDate)]

end Issue

namespace Article

def ofJson? (json : Json) : Option Article := do
  let values ← json.fields?
    ["id", "title", "sub_title", "author", "body", "issue_id", "published_at"]
  match values with
  | [id, title, subTitle, author, body, issueId, publishedAt] =>
    return {
      id := ← Json.required? Uuid.ofJson? id
      title := ← Json.required? Json.text? title
      subTitle := ← Json.required? Json.text? subTitle
      author := ← Json.required? Json.text? author
      body := ← Json.required? Json.text? body
      issueId := ← Json.optional? Json.int32? issueId
      publishedAt := ← Json.optional? Timestamp.ofJson? publishedAt }
  | _ => none

def json (article : Article) : Json :=
  .record [("id", .text article.id.toString), ("title", .text article.title),
    ("sub_title", .text article.subTitle), ("author", .text article.author),
    ("body", .text article.body),
    ("issue_id", .ofOption (fun id => .integer id.toInt) article.issueId),
    ("published_at",
      .ofOption (fun moment => .text (String.ofList moment.text)) article.publishedAt)]

end Article

/-- The role that a JSON value names: its name, or an object whose only member has that name and is
null. -/
def Role.ofJson? : Json → Option Role
  | .string (some name) => Role.ofName? name
  | .object [(some name, .null)] => Role.ofName? name
  | _ => none

namespace User

def ofJson? (json : Json) : Option User := do
  let values ← json.fields? ["id", "username", "email", "role"]
  match values with
  | [id, username, email, role] =>
    return {
      id := ← Json.required? Uuid.ofJson? id
      username := ← Json.required? Json.text? username
      email := ← Json.required? Json.text? email
      role := ← Json.required? Role.ofJson? role }
  | _ => none

def json (user : User) : Json :=
  .record [("id", .text user.id.toString), ("username", .text user.username),
    ("email", .text user.email), ("role", .text user.role.name)]

end User

namespace Record

def ofJson? : (resource : Resource) → Json → Option (Record resource)
  | .issues => Issue.ofJson?
  | .articles => Article.ofJson?
  | .users => User.ofJson?

def json : {resource : Resource} → Record resource → Json
  | .issues, issue => Issue.json issue
  | .articles, article => Article.json article
  | .users, user => User.json user

end Record

end PeriodicalSearch
