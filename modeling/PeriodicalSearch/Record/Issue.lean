import PeriodicalSearch.Calendar.Date
import PeriodicalSearch.Search.Profile
import PeriodicalSearch.Text.Blank

/-!
Issues of the periodical and the short codes that name them: `v3` for a volume, `v3i2` for an issue
of it.
-/
namespace PeriodicalSearch

structure IssueCode where
  volume : Int32
  issue : Option Int32
  deriving DecidableEq

structure InvalidIssueCode where
  text : String
  deriving DecidableEq

def InvalidIssueCode.message (invalid : InvalidIssueCode) : String :=
  "'" ++ invalid.text ++ "' is not an issue code like v3i2"

namespace IssueCode

/-- The number that one or more digits write, if 32 bits hold it. -/
def number? (digits : List Char) : Option Int32 :=
  match Text.readDigits Text.maxInt32 .tooLarge digits with
  | .ok value => some (Int32.ofNat value)
  | .error _ => none

def ofLower? (text : List Char) : Option IssueCode :=
  match text with
  | 'v' :: rest =>
    match rest.dropWhile (· != 'i') with
    | [] => (number? rest).map fun volume => ⟨volume, none⟩
    | _ :: issue => do
      let issue ← number? issue
      let volume ← number? (rest.takeWhile (· != 'i'))
      return ⟨volume, some issue⟩
  | _ => none

def read (text : String) : Except InvalidIssueCode IssueCode :=
  match ofLower? ((Text.trimBlanks text.toList).map Char.toLower) with
  | some code => .ok code
  | none => .error ⟨text⟩

def text (code : IssueCode) : String :=
  match code.issue with
  | some issue => "v" ++ toString code.volume.toInt ++ "i" ++ toString issue.toInt
  | none => "v" ++ toString code.volume.toInt

def predicate (code : IssueCode) : Predicate :=
  let volume := Predicate.compare "volume_num" (.exact (.integer code.volume.toInt))
  match code.issue with
  | some issue => .all [volume, .compare "issue_num" (.exact (.integer issue.toInt))]
  | none => volume

end IssueCode

structure Issue where
  id : Int32
  volumeNum : Int32
  issueNum : Int32
  publishDate : Option Date
  deriving DecidableEq

namespace Issue

def code (issue : Issue) : IssueCode := ⟨issue.volumeNum, some issue.issueNum⟩

def shortName (issue : Issue) : String := issue.code.text

def longName (issue : Issue) : String :=
  "Volume " ++ toString issue.volumeNum.toInt ++ ", Issue " ++ toString issue.issueNum.toInt

def describe (issue : Issue) : String := "Issue " ++ issue.shortName

def codePredicate (term : String) : Predicate :=
  match IssueCode.read term with
  | .ok code => code.predicate
  | .error _ => .nothing

def numberPredicate (column : String) (value : String) : Predicate :=
  match IssueCode.number? (Text.trimBlanks value.toList) with
  | some number => .compare column (.exact (.integer number.toInt))
  | none => .nothing

def searchProfile : SearchProfile :=
  SearchProfile.ofFields []
    |>.register SearchProfile.termKey (.function fun term => .ok (codePredicate term))
    |>.register "code" (.function fun value => .ok (codePredicate value))
    |>.register "volume" (.function fun value => .ok (numberPredicate "volume_num" value))
    |>.register "issue" (.function fun value => .ok (numberPredicate "issue_num" value))
    |>.register "published" (.column "publish_date")

end Issue

end PeriodicalSearch
