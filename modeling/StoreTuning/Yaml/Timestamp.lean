import StoreTuning.Time.Moment
import StoreTuning.Time.Written

/-!
# YAML: timestamps

A day, or a day with a time after it, to which the distance from universal time may be added.
Months, days and hours may be written with one digit, but a day alone is taken for a timestamp
without being said to be one only if it is written out in full (`isTimestamp`).
-/

namespace StoreTuning.Yaml

/-- A time as it is written: the numbers, and the minutes from universal time if they are given. -/
structure WrittenTime where
  hour : Nat
  minute : Nat
  second : Nat
  micro : Nat
  minutes? : Option Int

/-- A timestamp as it is written. -/
structure WrittenMoment where
  year : Nat
  month : Nat
  day : Nat
  time? : Option WrittenTime

/-- White space within a timestamp. -/
def isTimestampSpace (c : Char) : Bool :=
  c == ' ' || c == '\t'

/-- The minutes that a distance spells after its sign: hours, and minutes after a colon. -/
def distance? (cs : List Char) : Option Nat := do
  let (hours, rest) ← Written.number? 1 2 cs
  match rest with
  | [] => return hours * 60
  | rest =>
    let (minutes, rest) ← Written.number? 2 2 (← Written.after? ':' rest)
    if rest.isEmpty then return hours * 60 + minutes else none

/-- The minutes from universal time that the end of a timestamp gives: none, or those of a distance,
which white space may precede. A letter stands for no distance. -/
def ending? (cs : List Char) : Option (Option Int) :=
  match cs.dropWhile isTimestampSpace with
  | [] => if cs.isEmpty then some none else none
  | ['Z'] => some (some 0)
  | '+' :: rest => (distance? rest).map fun n => some (n : Int)
  | '-' :: rest => (distance? rest).map fun n => some (-(n : Int))
  | _ => none

/-- A time up to the end, with digits after a point if there is one. -/
def writtenTime? (cs : List Char) : Option WrittenTime := do
  let (hour, rest) ← Written.number? 1 2 cs
  let (minute, rest) ← Written.number? 2 2 (← Written.after? ':' rest)
  let (second, rest) ← Written.number? 2 2 (← Written.after? ':' rest)
  let (micro, rest) := Written.fraction 0 rest
  return {
    hour, minute, second, micro
    minutes? := ← ending? rest }

/-- A timestamp. A letter or white space stands before the time. -/
def writtenMoment? (cs : List Char) : Option WrittenMoment := do
  let (year, rest) ← Written.number? 4 4 cs
  let (month, rest) ← Written.number? 1 2 (← Written.after? '-' rest)
  let (day, rest) ← Written.number? 1 2 (← Written.after? '-' rest)
  match rest with
  | [] => return ⟨year, month, day, none⟩
  | c :: rest =>
    if c = 'T' || c = 't' then return ⟨year, month, day, some (← writtenTime? rest)⟩
    else if isTimestampSpace c then
      return ⟨year, month, day, some (← writtenTime? (rest.dropWhile isTimestampSpace))⟩
    else none

/-- Whether a spelling is taken for a timestamp. -/
def isTimestamp (cs : List Char) : Bool :=
  match writtenMoment? cs with
  | some w => w.time?.isSome || cs.length = "2001-12-14".length
  | none => false

/-- The moment that a text spells. It has to be in the calendar. -/
def moment? (text : String) : Option Moment := do
  let w ← writtenMoment? text.toList
  let day ← Day.of? w.year w.month w.day
  match w.time? with
  | none => return .day day
  | some t =>
    let time ← TimeOfDay.of? t.hour t.minute t.second t.micro
    match t.minutes? with
    | none => return .both day time none
    | some minutes => return .both day time (some (← Offset.of? minutes))

example : isTimestamp "2001-1-4".toList = false ∧ isTimestamp "2001-1-4 1:02:03".toList = true := by
  decide +kernel
example : (moment? "2001-12-14t21:59:43.10-05:00").map Moment.quoted =
    some ("datetime.datetime(2001, 12, 14, 21, 59, 43, 100000, " ++
      "tzinfo=datetime.timezone(datetime.timedelta(days=-1, seconds=68400)))") := by
  decide +kernel

end StoreTuning.Yaml
