/-
# Dates and times in a document

A timestamp is a day of the Gregorian calendar, alone or with a time of that day, which may
name its distance from universal time.
-/
namespace Diorama

/-- A time of day to the microsecond.  `zone` is the distance from universal time in minutes. -/
structure TimeOfDay where
  hour : Nat
  minute : Nat
  second : Nat
  micro : Nat
  zone : Option Int
  deriving Repr, DecidableEq

/-- A day with an optional time. -/
structure Timestamp where
  year : Nat
  month : Nat
  day : Nat
  time : Option TimeOfDay
  deriving Repr, DecidableEq

namespace Timestamp

/-- The days of a month. -/
def daysIn (year month : Nat) : Nat :=
  if month == 2 then
    if year % 4 == 0 && (year % 100 != 0 || year % 400 == 0) then 29 else 28
  else if month == 4 || month == 6 || month == 9 || month == 11 then 30
  else 31

/-- Whether the day is on the calendar and the time on the clock. -/
def valid (t : Timestamp) : Bool :=
  1 ≤ t.year && t.year ≤ 9999 && 1 ≤ t.month && t.month ≤ 12 && 1 ≤ t.day &&
    t.day ≤ daysIn t.year t.month &&
    match t.time with
    | none => true
    | some c => c.hour < 24 && c.minute < 60 && c.second < 60 &&
        match c.zone with
        | none => true
        | some z => -1440 < z && z < 1440

/-- A number with at least `width` digits. -/
def padded (width n : Nat) : String :=
  let ds := toString n
  String.ofList (List.replicate (width - ds.length) '0') ++ ds

/-- A distance from universal time, as in `+01:30`. -/
def zoneText (z : Int) : String :=
  (if z < 0 then "-" else "+") ++ padded 2 (z.natAbs / 60) ++ ":" ++ padded 2 (z.natAbs % 60)

/-- The timestamp as plain text, as in `2024-01-31 12:30:00`. -/
def text (t : Timestamp) : String :=
  let date := padded 4 t.year ++ "-" ++ padded 2 t.month ++ "-" ++ padded 2 t.day
  match t.time with
  | none => date
  | some c =>
    date ++ " " ++ padded 2 c.hour ++ ":" ++ padded 2 c.minute ++ ":" ++ padded 2 c.second ++
      (if c.micro == 0 then "" else "." ++ padded 6 c.micro) ++
      ((c.zone.map zoneText).getD "")

/-- A distance from universal time inside a quoted timestamp. -/
def zoneQuoted (z : Int) : String :=
  if z == 0 then "datetime.timezone.utc"
  else
    let seconds := z * 60
    let days := seconds.fdiv 86400
    let rest := seconds.fmod 86400
    let parts := (if days == 0 then [] else ["days=" ++ toString days]) ++
      (if rest == 0 then [] else ["seconds=" ++ toString rest])
    "datetime.timezone(datetime.timedelta(" ++ ", ".intercalate parts ++ "))"

/-- The timestamp as it stands inside a list or a mapping. -/
def quoted (t : Timestamp) : String :=
  match t.time with
  | none => "datetime.date(" ++ ", ".intercalate ([t.year, t.month, t.day].map toString) ++ ")"
  | some c =>
    let tail := if c.micro != 0 then [c.second, c.micro]
      else if c.second != 0 then [c.second] else []
    let parts := ([t.year, t.month, t.day, c.hour, c.minute] ++ tail).map toString
    let zone := match c.zone with
      | none => []
      | some z => ["tzinfo=" ++ zoneQuoted z]
    "datetime.datetime(" ++ ", ".intercalate (parts ++ zone) ++ ")"

end Timestamp

end Diorama
