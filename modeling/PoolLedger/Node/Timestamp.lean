import PoolLedger.Ledger.Calendar
import PoolLedger.Text.Integer

/-!
# Timestamps

Date and time with a zone in the form of RFC 3339, read as seconds since 1970.
-/

namespace PoolLedger.Timestamp

open Calendar Text

/-- The number of two digits, if it is at most `most`. -/
def two? (a b : Char) (most : Nat) : Option Nat := (natural? [a, b]).filter (· ≤ most)

/-- The day of a date, counted from 1970-01-01. -/
def day? (year month dayOfMonth : Nat) : Option Int :=
  let i : Int := year * 12 + month - 1
  if month < 1 ∨ 12 < month ∨ dayOfMonth < 1 then none
  else
    let day := monthStart i + dayOfMonth - 1
    if day < monthStart (i + 1) then some day else none

/-- Skips a fraction of a second, which has at least one digit. -/
def skipFraction? : List Char → Option (List Char)
  | '.' :: rest =>
    if (rest.head?.bind digit?).isSome then some (rest.dropWhile Char.isDigit) else none
  | rest => some rest

/-- How many seconds a zone is ahead. -/
def zone? : List Char → Option Int
  | ['Z'] | ['z'] => some 0
  | [sign, h1, h2, ':', m1, m2] => do
    let ahead : Int := ((← two? h1 h2 23) * 60 + (← two? m1 m2 59) : Nat) * 60
    if sign = '+' then some ahead else if sign = '-' then some (-ahead) else none
  | _ => none

/-- A second that ends a day which ends a month. -/
def endsMonth (time : Int) : Bool :=
  let day := time / Calendar.day
  time % Calendar.day == Calendar.day - 1 && monthOf day != monthOf (day + 1)

/-- The whole seconds of a timestamp. Any ASCII character may stand between date and time. A leap
second comes at the end of a month only, and counts as the second before it. -/
def parse? (s : String) : Option Int :=
  match s.toList with
  | y1 :: y2 :: y3 :: y4 :: '-' :: mo1 :: mo2 :: '-' :: d1 :: d2 :: separator ::
      h1 :: h2 :: ':' :: mi1 :: mi2 :: ':' :: s1 :: s2 :: rest => do
    let day ← day? (← natural? [y1, y2, y3, y4]) (← two? mo1 mo2 12) (← two? d1 d2 31)
    if 0x80 ≤ separator.toNat then none
    let minutes := (← two? h1 h2 23) * 60 + (← two? mi1 mi2 59)
    let second ← two? s1 s2 60
    let ahead ← zone? (← skipFraction? rest)
    let time := day * Calendar.day + (minutes * 60 + min second 59 : Nat) - ahead
    if second = 60 && !endsMonth time then none else some time
  | _ => none

end PoolLedger.Timestamp
