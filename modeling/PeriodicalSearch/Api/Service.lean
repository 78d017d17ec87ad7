import PeriodicalSearch.Api.Form
import PeriodicalSearch.Api.Listing
import PeriodicalSearch.Record.Json

/-!
Responses to requests by address. Each collection has one path; everything else is not found.
-/
namespace PeriodicalSearch

inductive Body where
  | text (content : String)
  | json (content : Json)

structure Response where
  status : Nat
  total : Option Nat
  body : Body

namespace Service

def path (resource : Resource) : String := "/api/v1/" ++ resource.name

/-- Path and query part of an address; a part behind `#` does not count. -/
def splitAddress (address : List Char) : List Char × List Char :=
  let address := address.takeWhile (· != '#')
  (address.takeWhile (· != '?'), (address.dropWhile (· != '?')).drop 1)

def failed (failure : ApiFailure) : Response := ⟨failure.status, none, .json failure.body⟩

def listed (store : Store) (resource : Resource) (options : ListOptions) : Response :=
  match Listing.page store resource options with
  | .ok page => ⟨200, some page.total, .json (.array (page.records.map Record.json))⟩
  | .error failure => failed failure

def get (store : Store) (address : String) : Response :=
  let (path, form) := splitAddress address.toList
  match Resource.list.find? fun resource => (Service.path resource).toList == path with
  | none => ⟨404, none, .text ""⟩
  | some resource =>
    match Form.options form with
    | .ok options => listed store resource options
    | .error fault => ⟨400, none, .text fault.message⟩

end Service

end PeriodicalSearch
