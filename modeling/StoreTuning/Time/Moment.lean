import StoreTuning.Value.Basic

/-!
# Days, times of day, and moments

A settings file may hold a day of the calendar, a time of day, or both together. With the distance
from universal time they make a point in time, by which they are compared (`Moment.instant`). No
setting is read as any of them, so they are known by their texts (`Moment.toForeign`).
-/

namespace StoreTuning

/-- Whether a year has a day more. -/
def isLeapYear (year : Nat) : Bool :=
  year % 4 == 0 && (year % 100 != 0 || year % 400 == 0)

/-- The days of a month. -/
def monthLength (year month : Nat) : Nat :=
  match month with
  | 2 => if isLeapYear year then 29 else 28
  | 4 | 6 | 9 | 11 => 30
  | _ => 31

/-- A number with zeros before it up to a width. -/
def zeroPadded (width n : Nat) : String :=
  let digits := Nat.toDigits 10 n
  String.ofList (List.replicate (width - digits.length) '0' ++ digits)

/-- A day of the calendar. -/
structure Day where
  year : Nat
  month : Nat
  day : Nat
  year_mem : 1 ≤ year ∧ year ≤ 9999
  month_mem : 1 ≤ month ∧ month ≤ 12
  day_mem : 1 ≤ day ∧ day ≤ monthLength year month
  deriving DecidableEq, Repr

namespace Day

/-- The day with a year, a month and a number in the month, if there is one. -/
def of? (year month day : Nat) : Option Day :=
  if h : (1 ≤ year ∧ year ≤ 9999) ∧ (1 ≤ month ∧ month ≤ 12) ∧
      1 ≤ day ∧ day ≤ monthLength year month then
    some ⟨year, month, day, h.1, h.2.1, h.2.2⟩
  else none

/-- The day as a text. -/
def text (d : Day) : String :=
  zeroPadded 4 d.year ++ "-" ++ zeroPadded 2 d.month ++ "-" ++ zeroPadded 2 d.day

/-- The numbers that the day is shown by. -/
def parts (d : Day) : List Nat :=
  [d.year, d.month, d.day]

/-- The number of the day, counted from the first one of the first year. -/
def ordinal (d : Day) : Nat :=
  let years := d.year - 1
  let newYear := 365 * years + years / 4 - years / 100 + years / 400
  (List.range' 1 (d.month - 1)).foldl (fun days month => days + monthLength d.year month) newYear +
    d.day

end Day

/-- A time of day, up to the millionth of a second. -/
structure TimeOfDay where
  hour : Nat
  minute : Nat
  second : Nat
  micro : Nat
  hour_lt : hour < 24
  minute_lt : minute < 60
  second_lt : second < 60
  micro_lt : micro < 1000000
  deriving DecidableEq, Repr

namespace TimeOfDay

/-- The time with an hour, a minute, a second and a number of millionths, if there is one. -/
def of? (hour minute second micro : Nat) : Option TimeOfDay :=
  if h : hour < 24 ∧ minute < 60 ∧ second < 60 ∧ micro < 1000000 then
    some ⟨hour, minute, second, micro, h.1, h.2.1, h.2.2.1, h.2.2.2⟩
  else none

/-- The time as a text. -/
def text (t : TimeOfDay) : String :=
  zeroPadded 2 t.hour ++ ":" ++ zeroPadded 2 t.minute ++ ":" ++ zeroPadded 2 t.second ++
    if t.micro = 0 then "" else "." ++ zeroPadded 6 t.micro

/-- The numbers that the time is shown by. Zeros at the end are left out after the minute. -/
def parts (t : TimeOfDay) : List Nat :=
  [t.hour, t.minute] ++
    if t.micro = 0 then if t.second = 0 then [] else [t.second] else [t.second, t.micro]

/-- The millionths of a second since midnight. -/
def micros (t : TimeOfDay) : Nat :=
  ((t.hour * 60 + t.minute) * 60 + t.second) * 1000000 + t.micro

end TimeOfDay

/-- A distance from universal time, less than a day in either direction. -/
structure Offset where
  minutes : Int
  minutes_mem : -1440 < minutes ∧ minutes < 1440
  deriving DecidableEq, Repr

namespace Offset

/-- The distance of a number of minutes, if it is less than a day. -/
def of? (minutes : Int) : Option Offset :=
  if h : -1440 < minutes ∧ minutes < 1440 then some ⟨minutes, h⟩ else none

/-- The distance as a text. -/
def text (o : Offset) : String :=
  (if o.minutes < 0 then "-" else "+") ++ zeroPadded 2 (o.minutes.natAbs / 60) ++ ":" ++
    zeroPadded 2 (o.minutes.natAbs % 60)

/-- The distance as messages show it: in seconds, which are counted up from a day before. -/
def quoted (o : Offset) : String :=
  let span :=
    if o.minutes < 0 then "days=-1, seconds=" ++ ((1440 + o.minutes) * 60).toNat.repr
    else "seconds=" ++ (o.minutes * 60).toNat.repr
  if o.minutes = 0 then "datetime.timezone.utc"
  else "datetime.timezone(datetime.timedelta(" ++ span ++ "))"

end Offset

/-- A day, a time of day, or both with the distance from universal time if it is known. -/
inductive Moment where
  | day (d : Day)
  | time (t : TimeOfDay)
  | both (d : Day) (t : TimeOfDay) (offset? : Option Offset)
  deriving DecidableEq, Repr

namespace Moment

/-- The moment as a text. -/
def text : Moment → String
  | day d => d.text
  | time t => t.text
  | both d t offset? => d.text ++ " " ++ t.text ++ (offset?.map Offset.text).getD ""

/-- Numbers between commas. -/
def shown (parts : List Nat) : String :=
  String.intercalate ", " (parts.map Nat.repr)

/-- The moment as messages show it. -/
def quoted : Moment → String
  | day d => "datetime.date(" ++ shown d.parts ++ ")"
  | time t => "datetime.time(" ++ shown t.parts ++ ")"
  | both d t offset? =>
    "datetime.datetime(" ++ shown (d.parts ++ t.parts) ++
      (offset?.map fun o => ", tzinfo=" ++ o.quoted).getD "" ++ ")"

/-- The point in time that a moment is, in millionths of a second. -/
def instant (d : Day) (t : TimeOfDay) (o : Offset) : Int :=
  (d.ordinal * 86400000000 + t.micros : Nat) - o.minutes * 60000000

/-- The moment as a value that no setting is read as. -/
def toForeign (m : Moment) : Foreign where
  quoted := m.quoted
  text := m.text
  instant? :=
    match m with
    | both d t (some o) => some (instant d t o)
    | _ => none

end Moment

end StoreTuning
