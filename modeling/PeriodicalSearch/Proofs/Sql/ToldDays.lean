import PeriodicalSearch.Proofs.Calendar.DayOrder
import PeriodicalSearch.Proofs.Sql.CellText

/-! When the database tells the day of a moment. It does not know a sixty-first second, and it
rounds to milliseconds before it looks at the day: what is left of a day below half a millisecond
counts as midnight, and from the 29th of a month on as the day after. -/

namespace PeriodicalSearch

theorem Date.next?_ne_self (date : Date) : date.next? ≠ some date := by
  intro same
  have parts {year : Int} {month day : Nat} (made : ofYmd? year month day = some date) :
      year = date.year ∧ month = date.month ∧ day = date.day := by
    rw [ofYmd?] at made
    split at made
    · cases made
      exact ⟨rfl, rfl, rfl⟩
    · cases made
  rw [next?] at same
  split at same
  · have later := (parts same).2.2
    omega
  · split at same
    · have later := (parts same).2.1
      omega
    · have later := (parts same).1
      omega

namespace Timestamp

def EndsDay (moment : Timestamp) : Prop :=
  moment.minute = 1439 ∧ moment.second = 59 ∧ 999500000 ≤ moment.nanos

instance (moment : Timestamp) : Decidable moment.EndsDay := inferInstanceAs (Decidable (_ ∧ _))

/-- The database counts the moment to its own day. -/
def KeepsDay (moment : Timestamp) : Prop :=
  moment.second < 60 ∧ (moment.EndsDay → moment.date.day ≤ 28)

instance (moment : Timestamp) : Decidable moment.KeepsDay := inferInstanceAs (Decidable (_ ∧ _))

theorem milliseconds_lt_iff {moment : Timestamp} (usual : moment.second < 60) :
    moment.milliseconds < Calendar.millisecondsPerDay ↔ ¬moment.EndsDay := by
  obtain ⟨minute, -, nanos⟩ := moment.isTime
  rw [Calendar.minutesPerDay] at minute
  rw [Calendar.nanosPerSecond] at nanos
  rw [milliseconds, EndsDay, Calendar.millisecondsPerDay, Calendar.nanosPerSecond]
  omega

end Timestamp

namespace Sql

theorem isKnownTime_of_plain {date : Date} (plain : date.HasPlainYear) {milliseconds : Nat} :
    IsKnownTime date milliseconds :=
  ⟨plain.2, .inl (Int.lt_of_lt_of_le (by decide) plain.1)⟩

theorem toldDay?_of_plain {date : Date} (plain : date.HasPlainYear) {milliseconds : Nat}
    (early : milliseconds < Calendar.millisecondsPerDay ∨ date.day ≤ 28) :
    toldDay? date milliseconds = some date := by
  rw [toldDay?, if_pos (isKnownTime_of_plain plain), if_pos early]

theorem Cell.day?_date {date : Date} (plain : date.HasPlainYear) :
    (Cell.date date).day? = some date.text := by
  rw [day?, toldDay?_of_plain plain (.inl (by decide)), Option.map_some]

theorem Cell.day?_moment_iff {moment : Timestamp} (plain : moment.date.HasPlainYear) :
    (Cell.moment moment).day? = some moment.date.text ↔ moment.KeepsDay := by
  rw [day?, Timestamp.KeepsDay]
  by_cases usual : moment.second < 60
  · rw [if_pos usual, and_iff_right usual]
    by_cases early : moment.milliseconds < Calendar.millisecondsPerDay ∨ moment.date.day ≤ 28
    · refine iff_of_true (by rw [toldDay?_of_plain plain early, Option.map_some]) fun ends => ?_
      exact early.resolve_left fun before => (Timestamp.milliseconds_lt_iff usual).1 before ends
    · obtain ⟨late, tail⟩ := not_or.1 early
      have ends : moment.EndsDay :=
        Decidable.byContradiction fun before => late ((Timestamp.milliseconds_lt_iff usual).2 before)
      -- The moment counts for the next day, which is never its own.
      refine iff_of_false (fun told => ?_) fun keeps => tail (keeps ends)
      rw [toldDay?, if_pos (isKnownTime_of_plain plain), if_neg early] at told
      obtain ⟨next, following, same⟩ := Option.map_eq_some_iff.1 told
      rw [Date.text_inj.1 same] at following
      exact moment.date.next?_ne_self (Option.filter_eq_some_iff.1 following).1
  · rw [if_neg usual]
    exact iff_of_false (fun none => nomatch none) fun keeps => usual keeps.1

end Sql

end PeriodicalSearch
