import StoreTuning.Time.Moment
import StoreTuning.Time.Written
import StoreTuning.Toml.Number

/-!
# TOML: dates and times

A day, a time of day, or a day with a time after it, to which the distance from universal time may
be added. All numbers are written out in full.
-/

namespace StoreTuning.Toml

/-- A year, a month and a number in it that some month has. -/
def date? (cs : List Char) : Option ((Nat × Nat × Nat) × List Char) := do
  let (year, rest) ← Written.number? 4 4 cs
  let (month, rest) ← Written.number? 2 2 (← Written.after? '-' rest)
  let (day, rest) ← Written.number? 2 2 (← Written.after? '-' rest)
  if 1 ≤ month && month ≤ 12 && 1 ≤ day && day ≤ 31 then return ((year, month, day), rest)
  else none

/-- A time of day. -/
def time? (cs : List Char) : Option (TimeOfDay × List Char) := do
  let (hour, rest) ← Written.number? 2 2 cs
  let (minute, rest) ← Written.number? 2 2 (← Written.after? ':' rest)
  let (second, rest) ← Written.number? 2 2 (← Written.after? ':' rest)
  let (micro, rest) := Written.fraction 1 rest
  return (← TimeOfDay.of? hour minute second micro, rest)

/-- A distance from universal time, which a letter stands for itself. -/
def offset? : List Char → Option (Offset × List Char)
  | [] => none
  | c :: cs =>
    if c = 'Z' || c = 'z' then (Offset.of? 0).map (·, cs)
    else if c = '+' || c = '-' then do
      let (hours, rest) ← Written.number? 2 2 cs
      let (minutes, rest) ← Written.number? 2 2 (← Written.after? ':' rest)
      if hours < 24 && minutes < 60 then
        let n : Int := (hours * 60 + minutes : Nat)
        return (← Offset.of? (if c = '-' then -n else n), rest)
      else none
    else none

/-- A day with the time after it, if there is one. -/
def withTime (d : Day) (cs : List Char) : Moment × List Char :=
  match cs with
  | [] => (.day d, [])
  | c :: rest =>
    if c = 'T' || c = 't' || c = ' ' then
      match time? rest with
      | none => (.day d, cs)
      | some (t, rest) =>
        match offset? rest with
        | none => (.both d t none, rest)
        | some (o, rest) => (.both d t (some o), rest)
    else (.day d, cs)

/-- A date, a time or a number. A date has to be in the calendar. -/
def momentOrNumber? (cs : List Char) : Option (Scalar × List Char) :=
  match date? cs with
  | some ((year, month, day), rest) => do
    let (m, rest) := withTime (← Day.of? year month day) rest
    return (.other m.toForeign, rest)
  | none =>
    match time? cs with
    | some (t, rest) => some (.other (Moment.time t).toForeign, rest)
    | none => number? cs

example : (momentOrNumber? "07:32:00.5 #".toList).map Prod.fst =
    some (.other { quoted := "datetime.time(7, 32, 0, 500000)", text := "07:32:00.500000" }) := by
  decide +kernel
example : momentOrNumber? "2023-02-29".toList = none := by decide +kernel

end StoreTuning.Toml
