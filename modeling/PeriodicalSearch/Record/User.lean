import PeriodicalSearch.Search.Profile
import PeriodicalSearch.Text.Blank
import PeriodicalSearch.Uuid

/-!
Staff accounts and their roles. Roles are ordered by privilege: an editor may do what a copyeditor
may, and a copyeditor what a contributor may.
-/
namespace PeriodicalSearch

inductive Role where
  | contributor
  | copyeditor
  | editor
  deriving DecidableEq

structure UnknownRole where
  name : String
  deriving DecidableEq

def UnknownRole.message (unknown : UnknownRole) : String := "unknown role '" ++ unknown.name ++ "'"

namespace Role

def list : List Role := [.contributor, .copyeditor, .editor]

def name : Role → String
  | .contributor => "contributor"
  | .copyeditor => "copyeditor"
  | .editor => "editor"

def level : Role → Nat
  | .contributor => 0
  | .copyeditor => 1
  | .editor => 2

def atLeast (role minimum : Role) : Bool := minimum.level ≤ role.level

def implied (minimum : Role) : List Role := list.filter fun role => role.atLeast minimum

def ofName? (name : String) : Option Role := list.find? fun role => role.name == name

def read (text : String) : Except UnknownRole Role :=
  match ofName? (String.ofList ((Text.trimBlanks text.toList).map Char.toLower)) with
  | some role => .ok role
  | none => .error ⟨text⟩

def predicate (text : String) : Predicate :=
  match read text with
  | .ok minimum => .any (minimum.implied.map fun role => .compare "role" (.equals role.name))
  | .error _ => .nothing

end Role

structure User where
  id : Uuid
  username : String
  email : String
  role : Role
  deriving DecidableEq

namespace User

def searchProfile : SearchProfile :=
  SearchProfile.ofFields ["username", "email"]
    |>.register "role" (.function fun value => .ok (Role.predicate value))

end User

end PeriodicalSearch
