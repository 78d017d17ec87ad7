import PeriodicalSearch.Text.Quoted

/-!
Why a query is rejected. Positions count octets of UTF-8 from the beginning of the query.
-/
namespace PeriodicalSearch

namespace Query

def maxLength : Nat := 10000

inductive Fault where
  | tooLong
  | unclosedQuote (position : Nat)
  | unexpected (found : Char) (position : Nat)
  | unexpectedEnd (position : Nat)
  | impossibleDate (literal : String) (position : Nat)
  deriving DecidableEq

namespace Fault

def reason : Fault → String
  | .tooLong => "query is longer than " ++ toString maxLength ++ " bytes"
  | .unclosedQuote _ => "unterminated quoted string"
  | .unexpected found _ => "unexpected '" ++ String.singleton found ++ "'"
  | .unexpectedEnd _ => "unexpected end of query"
  | .impossibleDate literal _ => "invalid date '" ++ literal ++ "': input is out of range"

def position? : Fault → Option Nat
  | .tooLong => none
  | .unclosedQuote position => some position
  | .unexpected _ position => some position
  | .unexpectedEnd position => some position
  | .impossibleDate _ position => some position

end Fault

end Query

structure RejectedQuery where
  query : String
  reason : String
  position : Option Nat
  deriving DecidableEq

namespace RejectedQuery

def ofFault (query : String) (fault : Query.Fault) : RejectedQuery :=
  ⟨query, fault.reason, fault.position?⟩

def message (rejected : RejectedQuery) : String :=
  let place := match rejected.position with
    | some position => " at position " ++ toString position
    | none => ""
  "invalid search query " ++ Text.quoted rejected.query ++ place ++ ": " ++ rejected.reason

end RejectedQuery

end PeriodicalSearch
