import ScopeHints.Log.Event

/-! Calls to a logger by the names of its methods. -/
namespace ScopeHints

inductive LogCallError where
  | unknownMethod
  | badArguments
  deriving DecidableEq, Repr

namespace LogEvent

def loggingMethods : List (String × LogLevel) := [
  ("debug", .debug), ("info", .info), ("msg", .info), ("warning", .warning), ("warn", .warning),
  ("error", .error), ("exception", .error), ("critical", .critical), ("fatal", .critical)]

/-- The level of a method, if it is one that takes an event. One logs nothing at any level, and
those whose names have an `a` in front only put the call off. -/
def levelOf? (method : String) : Option (Option LogLevel) :=
  let names := "notset" :: loggingMethods.map Prod.fst
  match loggingMethods.lookup method with
  | some level => some (some level)
  | none => if (names ++ names.map ("a" ++ ·)).contains method then some none else none

def otherMethods : List String :=
  ["log", "alog", "bind", "new", "is_enabled_for", "get_effective_level"]

def argumentNames : List String := ["self", "event"]

def innerArgument : String := "method_name"

/-- The event of a call, if its level is reached. The method for errors adds a flag to the
fields. -/
def ofCall (threshold : LogLevel) (method event : String) (fields : List (String × Value)) :
    Except LogCallError (Option LogEvent) :=
  if otherMethods.contains method then .error .badArguments
  else match levelOf? method with
    | none => .error .unknownMethod
    | some level? =>
      if fields.any fun (k, _) => argumentNames.contains k then .error .badArguments
      else match level?.filter fun l => threshold.rank ≤ l.rank with
        | none => .ok none
        | some level =>
          if fields.any fun (k, _) => k = innerArgument then .error .badArguments
          else
            let flag := if method = "exception" && !fields.any (fun (k, _) => k = "exc_info") then
              [("exc_info", Value.bool true)] else []
            .ok (some ⟨level, event, fields ++ flag⟩)

end LogEvent

end ScopeHints
