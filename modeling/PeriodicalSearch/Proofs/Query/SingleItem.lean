import PeriodicalSearch.Proofs.Query.RoundTrip

/-! Queries of one item. A bare word alone is a term; behind a field and a delimiter it is the value
of a filter, and so is any text in double quotes. -/

namespace PeriodicalSearch.Query

theorem ofItems_term (text : String) : ofItems [.term text] = ⟨[text], Filters.empty⟩ := rfl

theorem ofItems_filter (field : String) (value : FilterValue Date) :
    ofItems [.filter field value] = ⟨[], ⟨[(field, value)], List.pairwise_singleton _ _⟩⟩ := rfl

theorem endsRun_nil : EndsRun [] := fun _ none => nomatch none

theorem Opens.parse_alone {text : String} {item : Item DayLiteral} {resolved : Item Date}
    (opens : Opens text.toList item []) (same : item.mapDay DayLiteral.date? = resolved.mapDay some)
    (short : text.utf8ByteSize ≤ maxLength) : parse text = .ok (ofItems [resolved]) := by
  refine parse_eq_ok_iff.2 ⟨short, [item], [resolved], opens.consistsOf (.nil blank_nil), ?_, rfl⟩
  rw [List.map_singleton, List.map_singleton, same]

theorem parse_of_term {run : List Char} (bare : isBare run = true)
    (short : (String.ofList run).utf8ByteSize ≤ maxLength) :
    parse (String.ofList run) = .ok (ofItems [.term (String.ofList run)]) := by
  have opens : Opens (run ++ []) (.term (String.ofList run)) [] :=
    .bare bare endsRun_nil fun _ none => nomatch none
  rw [List.append_nil] at opens
  exact Opens.parse_alone (by rwa [String.toList_ofList]) rfl short

theorem isBare_of_alphanum {run : List Char} (nonempty : run ≠ [])
    (inWord : ∀ c ∈ run, c.isAlphanum = true) : isBare run = true :=
  isBare_iff.2 ⟨nonempty, fun c member => isStrict_of_isAlphanum (inWord c member)⟩

def filterSearch (field : String) (comparison : Comparison) (value : List Char) : String :=
  field ++ String.ofList (comparison.delimiter :: value)

theorem toList_filterSearch (field : String) (comparison : Comparison) (value : List Char) :
    (filterSearch field comparison value).toList =
      field.toList ++ comparison.delimiter :: value := by
  rw [filterSearch, String.toList_append, String.toList_ofList]

section

variable {field : String} (name : isBare field.toList = true) {comparison : Comparison}
include name

theorem parse_filterSearch_of_value {text : List Char} {value : FilterValue DayLiteral}
    {resolved : FilterValue Date} (opens : OpensWithValue comparison text value [])
    (same : value.mapDay DayLiteral.date? = resolved.mapDay some)
    (short : (filterSearch field comparison text).utf8ByteSize ≤ maxLength) :
    parse (filterSearch field comparison text) = .ok (ofItems [.filter field resolved]) := by
  have filter := Opens.filter name blank_nil opens
  rw [List.nil_append, String.ofList_toList, ← toList_filterSearch] at filter
  exact filter.parse_alone (congrArg (Item.filter field) same) short

theorem parse_filterSearch {run : List Char} (bare : isBare run = true)
    (noRange : run.head? ≠ some '(')
    (short : (filterSearch field comparison run).utf8ByteSize ≤ maxLength) :
    parse (filterSearch field comparison run) =
      .ok (ofItems [.filter field (.text comparison (String.ofList run))]) := by
  have value : OpensWithValue comparison (run ++ []) (.text comparison (String.ofList run)) [] :=
    .bare bare endsRun_nil fun _ range writes => noRange (by rw [writes.1]; rfl)
  rw [List.append_nil] at value
  exact parse_filterSearch_of_value name value rfl short

theorem parse_filterSearch_quoted {word : List Char}
    (short : (filterSearch field comparison (quotedForm word)).utf8ByteSize ≤ maxLength) :
    parse (filterSearch field comparison (quotedForm word)) =
      .ok (ofItems [.filter field (.text comparison (String.ofList word))]) :=
  parse_filterSearch_of_value name (.quoted isQuote_double (quotedText_flatMap word [])) rfl short

end

end PeriodicalSearch.Query
