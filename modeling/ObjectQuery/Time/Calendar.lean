/-!
# Dates and times

Days of the proleptic Gregorian calendar and times of day, with the count of days and milliseconds
since 1970-01-01T00:00:00. Second 60 stands for a leap second and counts as the second after 59.
-/

namespace ObjectQuery

/-- Whether the year has a 29 February. -/
def isLeapYear (year : Int) : Bool :=
  year % 4 == 0 && (year % 100 != 0 || year % 400 == 0)

/-- The number of days of a month. -/
def daysInMonth (year : Int) (month : Nat) : Nat :=
  match month with
  | 2 => if isLeapYear year then 29 else 28
  | 4 | 6 | 9 | 11 => 30
  | _ => 31

/-- The years of the calendar, first and last. -/
def firstYear : Int :=
  -262143

/-- The last year of the calendar. -/
def lastYear : Int :=
  262142

/-- The parts name a day of the calendar. -/
def IsDay (year : Int) (month day : Nat) : Prop :=
  firstYear ≤ year ∧ year ≤ lastYear ∧ 1 ≤ month ∧ month ≤ 12 ∧ 1 ≤ day ∧
    day ≤ daysInMonth year month

instance (year : Int) (month day : Nat) : Decidable (IsDay year month day) := by
  unfold IsDay; infer_instance

/-- A day of the calendar. -/
structure Date where
  year : Int
  month : Nat
  day : Nat
  isDay : IsDay year month day
deriving DecidableEq

namespace Date

/-- The day with these parts, if there is one. -/
def ofParts? (year : Int) (month day : Nat) : Option Date :=
  if h : IsDay year month day then some ⟨year, month, day, h⟩ else none

/-- The day after, unless the calendar ends. -/
def next? (d : Date) : Option Date :=
  if d.day < daysInMonth d.year d.month then ofParts? d.year d.month (d.day + 1)
  else if d.month < 12 then ofParts? d.year (d.month + 1) 1
  else ofParts? (d.year + 1) 1 1

/-- The day before, unless the calendar starts. -/
def previous? (d : Date) : Option Date :=
  if 1 < d.day then ofParts? d.year d.month (d.day - 1)
  else if 1 < d.month then
    ofParts? d.year (d.month - 1) (daysInMonth d.year (d.month - 1))
  else ofParts? (d.year - 1) 12 31

/-- The days of the years before a year, counted from year 1. -/
def daysBeforeYear (year : Int) : Int :=
  let y := year - 1
  365 * y + y / 4 - y / 100 + y / 400

/-- The days of the months before a month of the year. -/
def daysBeforeMonth (year : Int) (month : Nat) : Nat :=
  (List.range (month - 1)).foldl (fun days i => days + daysInMonth year (i + 1)) 0

/-- The days from 1970-01-01. -/
def epochDays (d : Date) : Int :=
  daysBeforeYear d.year - daysBeforeYear 1970 + daysBeforeMonth d.year d.month + (d.day - 1)

end Date

/-- A time of day to the nanosecond. -/
structure TimeOfDay where
  hour : Nat
  minute : Nat
  second : Nat
  nano : Nat
  hour_lt : hour < 24
  minute_lt : minute < 60
  second_le : second ≤ 60
  nano_lt : nano < 1000000000
deriving DecidableEq

namespace TimeOfDay

/-- The time of day with these parts, if there is one. -/
def ofParts? (hour minute second nano : Nat) : Option TimeOfDay :=
  if h : hour < 24 ∧ minute < 60 ∧ second ≤ 60 ∧ nano < 1000000000 then
    some ⟨hour, minute, second, nano, h.1, h.2.1, h.2.2.1, h.2.2.2⟩
  else none

/-- Midnight. -/
def midnight : TimeOfDay :=
  ⟨0, 0, 0, 0, by decide, by decide, by decide, by decide⟩

/-- The whole milliseconds from midnight. -/
def millis (t : TimeOfDay) : Nat :=
  ((t.hour * 60 + t.minute) * 60 + t.second) * 1000 + t.nano / 1000000

end TimeOfDay

/-- A day and a time of day. -/
structure DateTime where
  date : Date
  time : TimeOfDay
deriving DecidableEq

namespace DateTime

/-- The milliseconds from 1970-01-01T00:00:00, rounded down. -/
def epochMillis (t : DateTime) : Int :=
  t.date.epochDays * 86400000 + t.time.millis

/-- The time of day with its hour and minute replaced by `minutes` from midnight. -/
def atMinute (t : TimeOfDay) (minutes : Nat) : Option TimeOfDay :=
  TimeOfDay.ofParts? (minutes / 60) (minutes % 60) t.second t.nano

/-- The time that a clock ahead by `offset` minutes, less than a day, shows as `t`. -/
def behind? (t : DateTime) (offset : Int) : Option DateTime := do
  let minutes : Int := ((t.time.hour * 60 + t.time.minute : Nat) : Int) - offset
  let date ←
    if minutes < 0 then t.date.previous?
    else if minutes < 1440 then some t.date
    else t.date.next?
  some ⟨date, ← atMinute t.time (minutes % 1440).toNat⟩

end DateTime

end ObjectQuery
