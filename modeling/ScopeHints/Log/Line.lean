import ScopeHints.Data.Json
import ScopeHints.Data.Table
import ScopeHints.Log.Event

/-! Log lines. A line of JSON holds all fields of an event in the order in which they were set;
a line for the console puts the time, the level, the event and the logger in front and the other
fields after them by name. -/
namespace ScopeHints.LogEvent

def lineFields (e : LogEvent) (logger : Option String) (time : String) : Table String Value :=
  let before := (logger.map fun name => ("logger", Value.text name)).toList
  let after := [("event", Value.text e.name), ("level", .text e.level.name),
    ("timestamp", .text time)]
  Table.ofList (before ++ e.fields ++ after)

def innerFields : List String := ["_record", "_from_structlog"]

def shownFields (e : LogEvent) (logger : Option String) (time : String) : Table String Value :=
  innerFields.foldl (fun t name => t.erase name) (e.lineFields logger time)

def jsonLine (e : LogEvent) (logger : Option String) (time : String) : String :=
  Json.line (.fields (e.shownFields logger time).entries)

def plainLine (e : LogEvent) (logger : Option String) (time : String) : String :=
  Value.quoted (.fields (e.lineFields logger time).entries)

/-- A text that is quoted on a console line, lest it be taken for more than one value. -/
def needsQuotes (s : String) : Bool :=
  s.toList.any fun c => [' ', '\t', '=', '\r', '\n', '"', '\''].contains c

def consoleValue : Value → String
  | .text s => if needsQuotes s then Text.quoted s else s
  | v => v.quoted

def consoleColumns : List (String × String × String) := [
  ("", "=", ""), ("timestamp", "", ""), ("level", "[", "]"), ("event", "", ""),
  ("logger", "[", "]"), ("logger_name", "[", "]")]

/-- The field in which a flag asks for the error that is being handled. -/
def errorFlag : String := "exc_info"

def appendices : List String := ["stack", "exception"]

def isSet : Value → Bool
  | .null | .bool false | .int 0 | .text "" | .list [] | .record [] => false
  | .real x => !x.isZero
  | _ => true

def consoleTail (fields : Table String Value) : String :=
  let lineOf (v : Value) : String := "\n" ++ v.display
  let given (name : String) : Option Value := (fields.get? name).filter (· != .null)
  let error := given "exception"
  let flagged := (fields.get? errorFlag).any isSet
  match given "stack" with
  | none => (error.map lineOf).getD ""
  | some stack =>
    let rule := "\n\n" ++ String.ofList (List.replicate 79 '=') ++ "\n"
    lineOf stack ++ (if flagged || error.isSome then rule else "") ++ (error.map lineOf).getD ""

def consoleLine (e : LogEvent) (logger : Option String) (time : String) : String :=
  let fields := e.shownFields logger time
  let columns := consoleColumns.filterMap fun (key, before, after) =>
    (fields.get? key).map fun v =>
      before ++ (if key = "" then consoleValue v else v.display) ++ after
  let hidden := errorFlag :: appendices ++ consoleColumns.map Prod.fst
  let others := fields.entries.filter fun (k, _) => !hidden.contains k
  let sorted := others.mergeSort fun a b => decide (a.1 ≤ b.1)
  let parts := columns ++ sorted.map fun (k, v) => k ++ "=" ++ consoleValue v
  let line := " ".intercalate (parts.filter (· ≠ ""))
  String.ofList ((line.toList.reverse.dropWhile (· = ' ')).reverse) ++ consoleTail fields

end ScopeHints.LogEvent
