import RecordStore.Proofs.Value.Columns
import RecordStore.Proofs.Value.Order

/-!
# Dates in storage

A date is stored as the second that it falls into, and is loaded as the start of that second: the
last whole second that is not behind it. Before 1970 as well as after, that is the date without its
nanoseconds, and what was loaded once is stored and loaded without a change.

A leap second is where the two ways to cut a date come apart. Cutting its nanoseconds leaves the
moment behind the end of its second, and the stored number cannot say so.
-/

namespace RecordStore

namespace Moment

/-- The order of moments in time; inside a second the nanoseconds decide, so that a leap second
stands behind all of the ordinary second. -/
def order (left right : Moment) : Ordering :=
  (compare left.seconds right.seconds).then (compare left.nanoseconds right.nanoseconds)

/-- Whether a moment is the start of a second. -/
def IsWhole (moment : Moment) : Prop := moment.nanoseconds = 0

/-- Moments with the same seconds and nanoseconds are the same. -/
theorem ext {left right : Moment} (seconds : left.seconds = right.seconds)
    (nanoseconds : left.nanoseconds = right.nanoseconds) : left = right := by
  cases left
  cases right
  cases seconds
  cases nanoseconds
  rfl

variable {earlier later moment : Moment}

/-- A moment is not behind another one exactly if its second is earlier, or the same with no more
nanoseconds. -/
theorem order_iff : earlier.order later ≠ .gt ↔
    earlier.seconds < later.seconds ∨
      earlier.seconds = later.seconds ∧ earlier.nanoseconds ≤ later.nanoseconds := by
  rw [order, ne_eq, Ordering.then_eq_gt, Int.compare_eq_gt, Int.compare_eq_eq, Nat.compare_eq_gt]
  omega

/-- The seconds do not run backwards. -/
theorem seconds_le (ordered : earlier.order later ≠ .gt) : earlier.seconds ≤ later.seconds := by
  rcases order_iff.mp ordered with before | ⟨same, -⟩
  · exact Int.le_of_lt before
  · exact Int.le_of_eq same

/-- The seconds of a moment fit into the stored integer. -/
theorem to_int_seconds (moment : Moment) : (Int64.ofInt moment.seconds).toInt = moment.seconds :=
  Stored.to_int_of_int
    (Int.le_trans (show Int64.minValue.toInt ≤ earliestSecond by decide) moment.notTooEarly)
    (Int.le_trans moment.notTooLate (show latestSecond ≤ Int64.maxValue.toInt by decide))

/-- The start of the second of a moment is the last whole second that is not behind the moment. -/
theorem second_last (moment : Moment) :
    moment.second.IsWhole ∧ moment.second.order moment ≠ .gt ∧
      ∀ whole : Moment, whole.IsWhole → whole.order moment ≠ .gt →
        whole.order moment.second ≠ .gt := by
  refine ⟨rfl, order_iff.mpr (.inr ⟨rfl, Nat.zero_le _⟩), ?_⟩
  intro whole isWhole notBehind
  rcases order_iff.mp notBehind with before | ⟨same, -⟩
  · exact order_iff.mpr (.inl before)
  · exact order_iff.mpr (.inr ⟨same, Nat.le_of_eq isWhole⟩)

/-- A leap second is cut to its own start, and every other moment to the start of its second. -/
theorem truncated_nanoseconds (moment : Moment) :
    moment.truncated.nanoseconds = if moment.isLeap then nanosecondsInSecond else 0 := rfl

/-- The start of the second and the date without its nanoseconds differ at the leap seconds, and
nowhere else. -/
theorem second_eq_truncated : moment.second = moment.truncated ↔ moment.isLeap = false := by
  constructor
  · intro same
    have nanoseconds : 0 = moment.truncated.nanoseconds := congrArg Moment.nanoseconds same
    cases leap : moment.isLeap with
    | false => rfl
    | true =>
      rw [truncated_nanoseconds, leap] at nanoseconds
      cases nanoseconds
  · intro ordinary
    refine ext rfl ?_
    rw [truncated_nanoseconds, ordinary]
    rfl

end Moment

/-- A date is loaded as the start of its second. -/
theorem Value.load_date (moment : Moment) :
    (Value.date moment).stored.load .date = .ok (.date moment.second) := by
  change (Moment.load (Int64.ofInt moment.seconds)).map Value.date = _
  rw [Moment.load_seconds]
  rfl

/-- Stored dates are ordered as the seconds that they stand for. -/
theorem Value.order_dates (left right : Moment) :
    (Value.date left).stored.order (Value.date right).stored =
      left.second.order right.second := by
  change compare (Int64.ofInt left.seconds).toInt (Int64.ofInt right.seconds).toInt = _
  rw [Moment.to_int_seconds, Moment.to_int_seconds]
  exact Ordering.then_eq.symm

/-- Every date of the calendar comes back from storage as the start of its second, which is the date
without its nanoseconds unless that is a leap second. A second round trip changes nothing, and a
date that is not behind another is not stored behind it.

Proof: a date is stored as its second and loaded as the start of it; the second grows with the
date. -/
theorem Moment.stored_as_second (moment : Moment) :
    (Value.date moment).stored.load .date = .ok (.date moment.second) ∧
      (moment.second = moment.truncated ↔ moment.isLeap = false) ∧
      (∀ loaded, (Value.date moment).stored.load .date = .ok loaded →
        loaded.stored = (Value.date moment).stored ∧ loaded.stored.load .date = .ok loaded) ∧
      ∀ later : Moment, moment.order later ≠ .gt →
        (Value.date moment).stored.order (Value.date later).stored ≠ .gt := by
  refine ⟨Value.load_date moment, Moment.second_eq_truncated, ?_, ?_⟩
  · intro loaded found
    rw [Value.load_date] at found
    cases found
    exact ⟨rfl, Value.load_date moment.second⟩
  · intro later ordered
    rw [Value.order_dates]
    refine Moment.order_iff.mpr ?_
    rcases Int.lt_or_eq_of_le (Moment.seconds_le ordered) with before | same
    · exact .inl before
    · exact .inr ⟨same, Nat.le_refl 0⟩

namespace Moment

/-- Half a second before the start of 1970. -/
def eve : Moment := ⟨-1, 500000000, by decide, by decide, by decide⟩

/-- The middle of the leap second at the end of 2016. -/
def leapSecond : Moment := ⟨1483228799, 1500000000, by decide, by decide, by decide⟩

/-- Half a second before 1970 the stored number is one below zero, not zero, and it is not behind
that of the leap second. -/
theorem eve_stored :
    (Value.date eve).stored = .integer (-1) ∧
      (Value.date eve).stored.load .date = .ok (.date eve.truncated) ∧
      (Value.date eve).stored.order (Value.date leapSecond).stored ≠ .gt := by
  obtain ⟨loads, cut, -, ordered⟩ := stored_as_second eve
  rw [cut.mpr (by decide)] at loads
  exact ⟨by decide, loads, ordered leapSecond (by decide)⟩

/-- A leap second comes back as the start of its second, though cutting its nanoseconds leaves it
a leap second. -/
theorem leap_second_loses_mark :
    (Value.date leapSecond).stored.load .date ≠ .ok (.date leapSecond.truncated) := by
  rw [Value.load_date]
  intro same
  have marked : leapSecond.second = leapSecond.truncated := by
    simpa using same
  exact absurd (second_eq_truncated.mp marked) (by decide)

end Moment

end RecordStore
