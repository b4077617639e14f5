import ScopeHints.Data.Value
import ScopeHints.Text.Printable

/-! The text of a datum in messages and on log lines: a text stands for itself, everything
inside a list or a record is quoted. Quoted days and times name their parts. -/
namespace ScopeHints

namespace Text

def hex (places n : Nat) : String :=
  let ds := Nat.toDigits 16 n
  String.ofList (List.replicate (places - ds.length) '0' ++ ds)

def escaped (quote c : Char) : String :=
  if c = quote || c = '\\' then String.ofList ['\\', c]
  else if c = '\n' then "\\n"
  else if c = '\r' then "\\r"
  else if c = '\t' then "\\t"
  else if isPrintable c then String.singleton c
  else if c.toNat < 0x100 then "\\x" ++ hex 2 c.toNat
  else if c.toNat < 0x10000 then "\\u" ++ hex 4 c.toNat
  else "\\U" ++ hex 8 c.toNat

/-- A text in single quotes, or in double quotes if only it holds a single one. -/
def quoted (s : String) : String :=
  let quote := if s.toList.contains '\'' && !s.toList.contains '"' then '"' else '\''
  String.singleton quote ++ String.join (s.toList.map (escaped quote)) ++ String.singleton quote

end Text

namespace Moment

/-- How far a clock is ahead of universal time, as it is quoted: whole days, which may be behind,
and seconds. -/
def quotedAhead (ahead : Int) : String :=
  if ahead = 0 then "datetime.timezone.utc"
  else
    let days := if ahead < 0 then "days=-1, " else ""
    let minutes := if ahead < 0 then ahead + 1440 else ahead
    "datetime.timezone(datetime.timedelta(" ++ days ++ "seconds=" ++ toString (60 * minutes) ++ "))"

/-- The parts of a time; seconds and microseconds are left out at the end where they are zero. -/
def quoted (m : Moment) : String :=
  let small := if m.micros ≠ 0 then [m.second, m.micros]
    else if m.second ≠ 0 then [m.second] else []
  let parts := [m.date.year, m.date.month, m.date.day, m.hour, m.minute] ++ small
  let clock := m.ahead.toList.map fun ahead => "tzinfo=" ++ quotedAhead ahead
  "datetime.datetime(" ++ ", ".intercalate (parts.map (fun n => toString n) ++ clock) ++ ")"

end Moment

namespace Scalar

def quoted : Scalar → String
  | .null => "None"
  | .bool b => if b then "True" else "False"
  | .int n => toString n
  | .real x => x.render
  | .text s => Text.quoted s
  | .date d => "datetime.date(" ++ toString d.year ++ ", " ++ toString d.month ++ ", "
      ++ toString d.day ++ ")"
  | .moment m => m.quoted

def display : Scalar → String
  | .text s => s
  | .date d => d.render
  | .moment m => m.render
  | s => s.quoted

/-- Whole numbers of more digits than this are not written out. -/
def digitLimit : Nat := 4300

def isUnprintable : Scalar → Bool
  | .int n => Binary64.tenTo digitLimit ≤ n.natAbs
  | _ => false

end Scalar

namespace Value

mutual

def quoted : Value → String
  | .scalar s => s.quoted
  | .list items => "[" ++ ", ".intercalate (quotedItems items) ++ "]"
  | .record fields => "\x7b" ++ ", ".intercalate (quotedFields fields) ++ "\x7d"

def quotedItems : List Value → List String
  | [] => []
  | v :: vs => v.quoted :: quotedItems vs

def quotedFields : List (Scalar × Value) → List String
  | [] => []
  | (k, v) :: fs => (k.quoted ++ ": " ++ v.quoted) :: quotedFields fs

end

def display : Value → String
  | .scalar s => s.display
  | v => v.quoted

mutual

def isUnprintable : Value → Bool
  | .scalar s => s.isUnprintable
  | .list items => anyItemUnprintable items
  | .record fields => anyFieldUnprintable fields

def anyItemUnprintable : List Value → Bool
  | [] => false
  | v :: vs => v.isUnprintable || anyItemUnprintable vs

def anyFieldUnprintable : List (Scalar × Value) → Bool
  | [] => false
  | (k, v) :: fs => k.isUnprintable || v.isUnprintable || anyFieldUnprintable fs

end

end Value

end ScopeHints
