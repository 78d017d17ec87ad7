import PeriodicalSearch.Json.Fields
import PeriodicalSearch.Text.Decimal

/-!
The options of a listing request: search, sorting and the page that is wanted.
-/
namespace PeriodicalSearch

structure ListOptions where
  search : Option String
  sort : Option String
  page : Option UInt64
  perPage : Option UInt64
  deriving DecidableEq

namespace ListOptions

def empty : ListOptions := ⟨none, none, none, none⟩

def usualPageSize : Nat := 25

def maxPageSize : Nat := 100

def limit (options : ListOptions) : Nat :=
  max 1 (min ((options.perPage.map UInt64.toNat).getD usualPageSize) maxPageSize)

/-- How many records come before the page, in arithmetic that stops at the largest unsigned
integer, and at most the largest signed one. Page 0 is page 1. -/
def offset (options : ListOptions) : Nat :=
  let page := max ((options.page.map UInt64.toNat).getD 1) 1
  min (min ((page - 1) * options.limit) Text.maxUInt64) Text.maxInt64

def ofJson? (json : Json) : Option ListOptions := do
  let values ← json.fields? ["search", "sort", "page", "per_page"]
  match values with
  | [search, sort, page, perPage] =>
    return {
      search := ← Json.optional? Json.text? search
      sort := ← Json.optional? Json.text? sort
      page := ← Json.optional? Json.uint64? page
      perPage := ← Json.optional? Json.uint64? perPage }
  | _ => none

end ListOptions

end PeriodicalSearch
