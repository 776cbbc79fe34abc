import PoolLedger.Ledger.Error

/-!
# The calendar

Months of the proleptic Gregorian calendar and the buckets of time that changes are summed over.
-/

namespace PoolLedger

namespace Calendar

def day : Int := 86400

/-- First day of a month, counted from 1970-01-01. Months are counted from January of the year 0, so
that month `i` is month `i % 12 + 1` of the year `i / 12`. -/
def monthStart (month : Int) : Int :=
  let march := month - 2
  let year := march / 12
  365 * year + year / 4 - year / 100 + year / 400 + (153 * (march % 12) + 2) / 5 - 719468

/-- The month of a day: the average length of a month leads to it or to one of its neighbours. -/
def monthOf (day : Int) : Int :=
  let guess := (day + 719528) * 4800 / 146097
  if day < monthStart guess then guess - 1
  else if monthStart (guess + 1) ≤ day then guess + 1
  else guess

/-- January of the year -9999 and of the year 10000. -/
def firstMonth : Int := -9999 * 12

def endMonth : Int := 10000 * 12

def timestampError (time : Int) : StoreError :=
  .timeRange (c := ⟨"timestamp", monthStart firstMonth * day, monthStart endMonth * day - 1, time⟩)

def yearError (month : Int) : StoreError := .timeRange (c := ⟨"year", -9999, 9999, month / 12⟩)

/-- The month of a time, if its date is in range. -/
def month? (time : Int) : Except StoreError Int :=
  if monthStart firstMonth * day ≤ time ∧ time < monthStart endMonth * day then
    .ok (monthOf (time / day))
  else .error (timestampError time)

/-- The time at which a month begins, if its date is in range. -/
def monthTime (month : Int) : Except StoreError Int :=
  if firstMonth ≤ month ∧ month < endMonth then .ok (monthStart month * day)
  else .error (yearError month)

end Calendar

/-- The width of a bucket. -/
inductive Interval where
  | fiveMinutes | hour | day | week | month | quarter | year
deriving DecidableEq, Repr

namespace Interval

open Calendar

def all : List Interval := [fiveMinutes, hour, day, week, month, quarter, year]

def name : Interval → String
  | fiveMinutes => "5min"
  | hour => "hour"
  | day => "day"
  | week => "week"
  | month => "month"
  | quarter => "quarter"
  | year => "year"

def parse? (s : String) : Option Interval := all.find? (·.name == s)

def invalidMessage (s : String) : String := "invalid interval: " ++ Text.quoted s

/-- Buckets are so many seconds, counted from a time at which one begins, or so many months. The
first Monday after 1970-01-01 was the fifth. -/
inductive Width where
  | seconds (n : Int) (origin : Int)
  | months (n : Int)

def width : Interval → Width
  | fiveMinutes => .seconds 300 0
  | hour => .seconds 3600 0
  | day => .seconds 86400 0
  | week => .seconds (7 * 86400) (4 * 86400)
  | month => .months 1
  | quarter => .months 3
  | year => .months 12

/-- Start of the bucket that a time is in. -/
def truncate (i : Interval) (time : Int) : Except StoreError Int :=
  match i.width with
  | .seconds n origin => .ok (time - (time - origin) % n)
  | .months n => do
    let month ← month? time
    monthTime (month - month % n)

/-- Start of the bucket after the one that starts at `start`. -/
def next (i : Interval) (start : Int) : Except StoreError Int :=
  match i.width with
  | .seconds n _ => .ok (start + n)
  | .months n => do
    let month ← month? start
    monthTime (month + n)

end Interval

end PoolLedger
