/-! Days and times of day of the Gregorian calendar, as a settings file can hold them. -/
namespace ScopeHints

def padded (places n : Nat) : String :=
  let ds := toString n
  String.ofList (List.replicate (places - ds.length) '0') ++ ds

structure CalendarDate where
  year : Nat
  month : Nat
  day : Nat
  deriving DecidableEq, Repr, Inhabited

namespace CalendarDate

def isLeap (year : Nat) : Bool := year % 4 = 0 && (year % 100 ≠ 0 || year % 400 = 0)

def monthLengths (year : Nat) : List Nat :=
  [31, if isLeap year then 29 else 28, 31, 30, 31, 30, 31, 31, 30, 31, 30, 31]

def ofParts? (year month day : Nat) : Option CalendarDate :=
  let length := if month = 0 then 0 else (monthLengths year)[month - 1]?.getD 0
  if 1 ≤ year ∧ year ≤ 9999 ∧ 1 ≤ day ∧ day ≤ length then some ⟨year, month, day⟩ else none

def dayNumber (d : CalendarDate) : Nat :=
  let past := d.year - 1
  365 * past + past / 4 - past / 100 + past / 400
    + ((monthLengths d.year).take (d.month - 1)).foldl (· + ·) 0 + (d.day - 1)

def render (d : CalendarDate) : String :=
  padded 4 d.year ++ "-" ++ padded 2 d.month ++ "-" ++ padded 2 d.day

end CalendarDate

structure Moment where
  date : CalendarDate
  hour : Nat
  minute : Nat
  second : Nat
  micros : Nat
  ahead : Option Int
  deriving DecidableEq, Repr, Inhabited

namespace Moment

def ofParts? (date : CalendarDate) (hour minute second micros : Nat) (ahead : Option Int) :
    Option Moment :=
  if hour < 24 ∧ minute < 60 ∧ second < 60 ∧ ahead.all (fun m => m.natAbs < 1440) then
    some ⟨date, hour, minute, second, micros, ahead⟩
  else none

/-- The microseconds since the first day of the year 1 as a clock shows them that is `ahead`
minutes ahead of it. -/
def since (m : Moment) (ahead : Int) : Int :=
  let minutes : Int := 1440 * (m.date.dayNumber : Int) + 60 * m.hour + m.minute - ahead
  1000000 * (60 * minutes + m.second) + m.micros

def renderAhead (ahead : Int) : String :=
  (if ahead < 0 then "-" else "+") ++ padded 2 (ahead.natAbs / 60) ++ ":"
    ++ padded 2 (ahead.natAbs % 60)

def render (m : Moment) : String :=
  m.date.render ++ " " ++ padded 2 m.hour ++ ":" ++ padded 2 m.minute ++ ":" ++ padded 2 m.second
    ++ (if m.micros = 0 then "" else "." ++ padded 6 m.micros)
    ++ (m.ahead.map renderAhead).getD ""

end Moment

end ScopeHints
