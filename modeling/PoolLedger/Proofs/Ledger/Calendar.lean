import Mathlib
import PoolLedger.Ledger.Calendar

/-!
# Months and buckets in order

Months have the lengths that the Gregorian calendar gives them (`Calendar.monthStart_succ`), so they
follow one another without gaps, and `Calendar.monthOf` finds the one that a day is in. Whatever
their width, buckets are therefore counted by the integers: bucket `k` is from `Width.edge k` to
`Width.edge (k + 1)`, and the edges ascend (`Width.edge_strictMono`). What `Interval.truncate` and
`Interval.next` give is said in these numbers alone.
-/

namespace PoolLedger

namespace Calendar

variable {m time : Int}

/-! ## Months -/

def IsLeap (year : Int) : Prop := 4 ∣ year ∧ ¬100 ∣ year ∨ 400 ∣ year

instance (year : Int) : Decidable (IsLeap year) := inferInstanceAs (Decidable (_ ∨ _))

/-- The days of a month. Months are counted from January, which is month 0 of its year. -/
def monthLength (month : Int) : Int :=
  if month % 12 = 1 then if IsLeap (month / 12) then 29 else 28
  else if month % 12 ∈ [3, 5, 8, 10] then 30 else 31

theorem monthLength_bounds (month : Int) : 28 ≤ monthLength month ∧ monthLength month ≤ 31 := by
  unfold monthLength
  split
  · split <;> omega
  · split <;> omega

/-- How many leap days there are up to a year. -/
def leapDays (year : Int) : Int := year / 4 - year / 100 + year / 400

theorem leapDays_eq (year : Int) :
    leapDays year = leapDays (year - 1) + if IsLeap year then 1 else 0 := by
  by_cases h : IsLeap year
  · rw [if_pos h]
    unfold IsLeap at h
    unfold leapDays
    omega
  · rw [if_neg h]
    unfold IsLeap at h
    unfold leapDays
    omega

theorem monthStart_eq (month : Int) :
    monthStart month = 365 * ((month - 2) / 12) + leapDays ((month - 2) / 12) +
      (153 * ((month - 2) % 12) + 2) / 5 - 719468 := by
  simp only [monthStart, leapDays]
  omega

/-- A month begins where the one before it ends. -/
theorem monthStart_succ (month : Int) :
    monthStart (month + 1) = monthStart month + monthLength month := by
  obtain ⟨year, hyear⟩ : ∃ year, month / 12 = year := ⟨_, rfl⟩
  obtain ⟨r, hr⟩ : ∃ r, month % 12 = r := ⟨_, rfl⟩
  have hr0 : 0 ≤ r := by omega
  have hr12 : r < 12 := by omega
  rw [monthStart_eq, monthStart_eq, monthLength, hyear, hr]
  -- years are counted from March, so that the leap day is the last day of one
  by_cases hfebruary : r = 1
  · have hnext : (month + 1 - 2) / 12 = year := by omega
    have hthis : (month - 2) / 12 = year - 1 := by omega
    rw [if_pos hfebruary, hnext, hthis, leapDays_eq year]
    by_cases h : IsLeap year <;> simp only [h, if_true, if_false] <;> omega
  · have hsame : (month + 1 - 2) / 12 = (month - 2) / 12 := by omega
    have hthis : (month - 2) % 12 = if r = 0 then 10 else r - 2 := by omega
    have hnext : (month + 1 - 2) % 12 = if r = 0 then 11 else r - 1 := by omega
    rw [if_neg hfebruary, hsame, hthis, hnext]
    interval_cases r <;> simp at * <;> omega

/-- January 1970 begins with day 0. -/
example : monthStart (12 * 1970) = 0 := rfl

theorem monthStart_strictMono : StrictMono monthStart :=
  strictMono_int_of_lt_succ fun month => by
    have hlength := monthLength_bounds month
    rw [monthStart_succ]
    omega

/-- 4800 months have 146097 days, and a month begins at most four days from where it would if all
were of one length. -/
theorem monthStart_bounds (month : Int) :
    4800 * (monthStart month + 719528) ≤ 146097 * month + 4 * 4800 ∧
      146097 * month ≤ 4800 * (monthStart month + 719528) + 4 * 4800 := by
  unfold monthStart
  dsimp only
  omega

theorem monthOf_spec (day : Int) :
    monthStart (monthOf day) ≤ day ∧ day < monthStart (monthOf day + 1) := by
  unfold monthOf
  dsimp only
  generalize hguess : (day + 719528) * 4800 / 146097 = guess
  have hbefore := monthStart_bounds (guess - 1)
  have hthis := monthStart_bounds guess
  have hnext := monthStart_bounds (guess + 1)
  have hafter := monthStart_bounds (guess + 2)
  split
  · rw [Int.sub_add_cancel]
    omega
  · split
    · rw [show guess + 1 + 1 = guess + 2 by omega]
      omega
    · omega

/-- The month that a time is in, whether or not its date is in range. -/
theorem monthOf_time_spec (time : Int) :
    monthStart (monthOf (time / day)) * day ≤ time ∧
      time < monthStart (monthOf (time / day) + 1) * day := by
  have hspec := monthOf_spec (time / day)
  simp only [day] at hspec ⊢
  omega

theorem monthOf_lt_iff : monthOf (time / day) < m ↔ time < monthStart m * day := by
  obtain ⟨hle, hlt⟩ := monthOf_time_spec time
  simp only [day] at hle hlt ⊢
  constructor
  · intro h
    have hnext : monthStart (monthOf (time / 86400) + 1) ≤ monthStart m :=
      monthStart_strictMono.monotone h
    omega
  · intro h
    exact monthStart_strictMono.lt_iff_lt.1 (by omega)

theorem monthOf_eq (hle : monthStart m * day ≤ time) (hlt : time < monthStart (m + 1) * day) :
    monthOf (time / day) = m := by
  have hupper := monthOf_lt_iff.2 hlt
  have hlower := mt monthOf_lt_iff.1 (Int.not_lt.2 hle)
  omega

theorem month?_eq (time : Int) :
    month? time = if firstMonth ≤ monthOf (time / day) ∧ monthOf (time / day) < endMonth then
      .ok (monthOf (time / day)) else .error (timestampError time) := by
  have hfirst : firstMonth ≤ monthOf (time / day) ↔ monthStart firstMonth * day ≤ time := by
    rw [← Int.not_lt, monthOf_lt_iff, Int.not_lt]
  simp only [month?, hfirst, monthOf_lt_iff]

end Calendar

/-! ## Buckets -/

namespace Interval

open Calendar

namespace Width

/-- Buckets go on and on, and those of months fill a year. -/
def Regular : Width → Prop
  | seconds n _ => 0 < n
  | months n => 0 < n ∧ n ∣ 12

/-- When bucket `k` begins. Those of months are counted from January of the year 0. -/
def edge : Width → Int → Int
  | seconds n origin, k => origin + n * k
  | months n, k => monthStart (n * k) * Calendar.day

/-- The bucket that a time is in. -/
def bucketOf : Width → Int → Int
  | seconds n origin, time => (time - origin) / n
  | months n, time => monthOf (time / Calendar.day) / n

/-- Bucket `k` begins at a date of the calendar. Seconds are counted without one. -/
def InCalendar : Width → Int → Prop
  | seconds .., _ => True
  | months n, k => firstMonth ≤ n * k ∧ n * k < endMonth

instance : (w : Width) → (k : Int) → Decidable (w.InCalendar k)
  | seconds .., _ => inferInstanceAs (Decidable True)
  | months .., _ => inferInstanceAs (Decidable (_ ∧ _))

variable {w : Width} {k k' time : Int}

theorem edge_strictMono (hw : w.Regular) : StrictMono w.edge := by
  intro k k' h
  cases w with
  | seconds n origin =>
    have hlt := Int.mul_lt_mul_of_pos_left h hw
    simp only [edge]
    omega
  | months n =>
    have hlt := monthStart_strictMono (Int.mul_lt_mul_of_pos_left h hw.1)
    simp only [edge, Calendar.day]
    omega

theorem bucketOf_spec (hw : w.Regular) (time : Int) :
    w.edge (w.bucketOf time) ≤ time ∧ time < w.edge (w.bucketOf time + 1) := by
  cases w with
  | seconds n origin =>
    have hle := Int.mul_ediv_self_le (x := time - origin) (k := n) (Int.ne_of_gt hw)
    have hlt := Int.lt_mul_ediv_self_add (x := time - origin) hw
    simp only [edge, bucketOf, Int.mul_add, Int.mul_one]
    omega
  | months n =>
    obtain ⟨hle, hlt⟩ := monthOf_time_spec time
    have hle' : n * (monthOf (time / Calendar.day) / n) ≤ monthOf (time / Calendar.day) :=
      Int.mul_ediv_self_le (Int.ne_of_gt hw.1)
    have hlt' : monthOf (time / Calendar.day) + 1 ≤
        n * (monthOf (time / Calendar.day) / n + 1) := by
      have hadd := Int.lt_mul_ediv_self_add (x := monthOf (time / Calendar.day)) hw.1
      rw [Int.mul_add, Int.mul_one]
      exact hadd
    have hbegin := monthStart_strictMono.monotone hle'
    have hend := monthStart_strictMono.monotone hlt'
    simp only [edge, bucketOf, Calendar.day] at hle hlt hbegin hend ⊢
    omega

theorem bucketOf_mono (hw : w.Regular) : Monotone w.bucketOf := by
  intro time time' h
  obtain ⟨hle, -⟩ := bucketOf_spec hw time
  obtain ⟨-, hlt⟩ := bucketOf_spec hw time'
  exact Int.lt_add_one_iff.1 ((edge_strictMono hw).lt_iff_lt.1 (by omega))

theorem bucketOf_eq (hw : w.Regular) (hle : w.edge k ≤ time) (hlt : time < w.edge (k + 1)) :
    w.bucketOf time = k := by
  obtain ⟨hle', hlt'⟩ := bucketOf_spec hw time
  have hlower := (edge_strictMono hw).lt_iff_lt.1 (Int.lt_of_le_of_lt hle hlt')
  have hupper := (edge_strictMono hw).lt_iff_lt.1 (Int.lt_of_le_of_lt hle' hlt)
  omega

theorem bucketOf_edge (hw : w.Regular) (k : Int) : w.bucketOf (w.edge k) = k :=
  bucketOf_eq hw (Int.le_refl _) (edge_strictMono hw (Int.lt_succ k))

/-- A time is in the calendar if the bucket that it is in begins there. -/
theorem inCalendar_bucketOf {n : Int} (hn : (months n).Regular) (time : Int) :
    (months n).InCalendar ((months n).bucketOf time) ↔
      firstMonth ≤ monthOf (time / Calendar.day) ∧ monthOf (time / Calendar.day) < endMonth := by
  obtain ⟨hpos, hyear⟩ := hn
  obtain ⟨first, hfirst⟩ : n ∣ firstMonth := hyear.trans (by decide)
  obtain ⟨last, hlast⟩ : n ∣ endMonth := hyear.trans (by decide)
  simp only [InCalendar, bucketOf, hfirst, hlast]
  refine and_congr ?_ ?_
  · rw [Int.mul_le_mul_left hpos, Int.le_ediv_iff_mul_le hpos, Int.mul_comm]
  · rw [Int.mul_lt_mul_left hpos, Int.ediv_lt_iff_lt_mul hpos, Int.mul_comm]

/-- What lies between two buckets of the calendar lies in it. -/
theorem InCalendar.between (hw : w.Regular) (h : w.InCalendar k) (h' : w.InCalendar k')
    (hle : k ≤ time) (hle' : time ≤ k') : w.InCalendar time := by
  cases w with
  | seconds n origin => trivial
  | months n =>
    have hlower := Int.mul_le_mul_of_nonneg_left hle (Int.le_of_lt hw.1)
    have hupper := Int.mul_le_mul_of_nonneg_left hle' (Int.le_of_lt hw.1)
    exact ⟨Int.le_trans h.1 hlower, Int.lt_of_le_of_lt hupper h'.2⟩

/-- Months are told by the numbers of their buckets. -/
theorem monthTime_mul (n k : Int) :
    monthTime (n * k) = if (months n).InCalendar k then .ok ((months n).edge k)
      else .error (yearError (n * k)) := rfl

/-- The first bucket after the calendar begins where the calendar ends. -/
theorem mul_eq_endMonth {n : Int} (hw : (months n).Regular) (h : (months n).InCalendar k)
    (hnext : ¬(months n).InCalendar (k + 1)) : n * (k + 1) = endMonth := by
  obtain ⟨hpos, c, hc⟩ := hw
  obtain ⟨hfirst, hend⟩ : firstMonth ≤ n * k ∧ n * k < endMonth := h
  have hyears : endMonth = n * (10000 * c) := by
    rw [endMonth, hc]
    ring
  have hle : endMonth ≤ n * (k + 1) := by
    by_contra hlt
    exact hnext ⟨by rw [Int.mul_add]; omega, Int.not_le.1 hlt⟩
  rw [hyears] at hend hle ⊢
  have hbefore := lt_of_mul_lt_mul_left hend (Int.le_of_lt hpos)
  have hafter := le_of_mul_le_mul_left hle hpos
  rw [show k + 1 = 10000 * c by omega]

end Width

open Width

variable (i : Interval) {k : Int}

theorem regular : i.width.Regular := by
  cases i with
  | fiveMinutes | hour | day | week => simp [width, Regular]
  | month | quarter | year => simp [width, Regular]

/-- A time is cut to the edge of the bucket that it is in. -/
theorem truncate_eq (time : Int) :
    i.truncate time = if i.width.InCalendar (i.width.bucketOf time) then
      .ok (i.width.edge (i.width.bucketOf time)) else .error (timestampError time) := by
  have hregular := i.regular
  unfold truncate
  generalize i.width = w at hregular ⊢
  cases w with
  | seconds n origin =>
    have hdiv := Int.mul_ediv_add_emod (time - origin) n
    have hin : (seconds n origin).InCalendar ((seconds n origin).bucketOf time) := trivial
    rw [if_pos hin]
    simp only [edge, bucketOf]
    congr 1
    omega
  | months n =>
    have hiff := inCalendar_bucketOf hregular time
    by_cases h : (months n).InCalendar ((months n).bucketOf time)
    · have hcut : monthOf (time / Calendar.day) - monthOf (time / Calendar.day) % n =
          n * (monthOf (time / Calendar.day) / n) := by
        have hdiv := Int.mul_ediv_add_emod (monthOf (time / Calendar.day)) n
        omega
      rw [if_pos h]
      simp only [month?_eq, if_pos (hiff.1 h)]
      change monthTime _ = _
      rw [hcut, monthTime_mul]
      exact if_pos h
    · rw [if_neg h]
      simp only [month?_eq, if_neg (mt hiff.2 h)]
      rfl

theorem truncate_eq_ok_iff {time s : Int} : i.truncate time = .ok s ↔
    i.width.InCalendar (i.width.bucketOf time) ∧ i.width.edge (i.width.bucketOf time) = s := by
  rw [truncate_eq]
  split
  · next h => simp [h]
  · next h => simp [h]

/-- After a bucket comes the one with the next number, if the calendar goes on. -/
theorem next_edge (h : i.width.InCalendar k) :
    i.next (i.width.edge k) = if i.width.InCalendar (k + 1) then .ok (i.width.edge (k + 1))
      else .error (yearError endMonth) := by
  have hregular := i.regular
  unfold next
  generalize i.width = w at hregular h ⊢
  cases w with
  | seconds n origin =>
    have hin : (seconds n origin).InCalendar (k + 1) := trivial
    rw [if_pos hin]
    simp only [edge, Int.mul_add, Int.mul_one, Int.add_assoc]
  | months n =>
    have hmonth : monthOf (monthStart (n * k) * Calendar.day / Calendar.day) = n * k :=
      monthOf_eq (Int.le_refl _)
        (Int.mul_lt_mul_of_pos_right (monthStart_strictMono (Int.lt_succ _)) (by decide))
    have hin : firstMonth ≤ n * k ∧ n * k < endMonth := h
    have hnext : monthTime (n * (k + 1)) = if (months n).InCalendar (k + 1) then
        .ok ((months n).edge (k + 1)) else .error (yearError endMonth) := by
      rw [monthTime_mul]
      split
      · rfl
      · next hnot => rw [mul_eq_endMonth hregular h hnot]
    rw [← hnext, Int.mul_add, Int.mul_one]
    simp only [edge, month?_eq, hmonth, if_pos hin]
    rfl

end Interval

end PoolLedger
