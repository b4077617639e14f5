import ScopeHints.Data.Display

/-! Faults that the tool reports, by cause. Each has a numeric code, the code's name, a message
and named details. -/
namespace ScopeHints

inductive Fault where
  | settingsUnreadable (path reason : String)
  | settingRejected (field : String) (value : Value) (reason : String)
  | syntaxError (line attempts : Int)
  /-- A parse tree without errors holds a node of unknown kind, so that no scopes were built. -/
  | scopesAborted (kind : String) (offset : Int)
  | unknownKind (kind : String) (offset : Int)
  | superseded (path : String) (offset : Int)
  | discarded (path : String) (offset : Int) (reason : String)
  | unexpected (reason : String) (details : List (String × Value))
  deriving Inhabited, Repr

namespace Fault

inductive Kind where
  | settings | parse | node | request | internal
  deriving DecidableEq, Repr

def kind : Fault → Kind
  | settingsUnreadable .. | settingRejected .. => .settings
  | syntaxError .. | scopesAborted .. => .parse
  | unknownKind .. => .node
  | superseded .. | discarded .. => .request
  | unexpected .. => .internal

def code : Fault → Nat
  | settingsUnreadable .. => 2001
  | settingRejected .. => 2002
  | syntaxError .. | scopesAborted .. => 3001
  | unknownKind .. => 3002
  | superseded .. | discarded .. => 3003
  | unexpected .. => 9001

def name : Fault → String
  | settingsUnreadable .. => "CONFIG_PARSE_ERROR"
  | settingRejected .. => "CONFIG_INVALID_VALUE"
  | syntaxError .. | scopesAborted .. => "PARSE_FAILURE"
  | unknownKind .. => "MALFORMED_NODE"
  | superseded .. | discarded .. => "STALE_REQUEST"
  | unexpected .. => "INTERNAL_ERROR"

/-- A request that was overtaken can be made again; no other fault goes away by itself. -/
def retryable (f : Fault) : Bool := f.kind = .request

def message : Fault → String
  | settingsUnreadable path reason => "Failed to parse config at " ++ path ++ ": " ++ reason
  | settingRejected field _ reason => "Invalid value for '" ++ field ++ "': " ++ reason
  | syntaxError line attempts =>
    "Syntax error at line " ++ toString line ++ " after " ++ toString attempts ++ " attempt(s)"
  | scopesAborted kind offset =>
    "Scope building aborted: Unknown node kind '" ++ kind ++ "' at offset " ++ toString offset
  | unknownKind kind offset => "Unknown node kind '" ++ kind ++ "' at offset " ++ toString offset
  | superseded path offset =>
    "Request for " ++ path ++ " at offset " ++ toString offset ++ " superseded by a newer request"
  | discarded path offset reason =>
    "Request for " ++ path ++ " at offset " ++ toString offset ++ " discarded: " ++ reason
  | unexpected reason _ => "Internal error: " ++ reason

def details : Fault → List (String × Value)
  | settingsUnreadable path reason => [("path", .text path), ("reason", .text reason)]
  | settingRejected field value reason =>
    [("field", .text field), ("value", .text value.display), ("reason", .text reason)]
  | syntaxError line attempts => [("line", .int line), ("attempts", .int attempts)]
  | scopesAborted kind offset | unknownKind kind offset =>
    [("kind", .text kind), ("offset", .int offset)]
  | superseded path offset =>
    [("path", .text path), ("offset", .int offset), ("reason", .text "superseded")]
  | discarded path offset reason =>
    [("path", .text path), ("offset", .int offset), ("reason", .text reason)]
  | unexpected _ details => details

def line? : Fault → Option Int
  | syntaxError line _ => some line
  | _ => none

def report (f : Fault) : String :=
  "[" ++ toString f.code ++ "] " ++ f.name ++ ": " ++ f.message

end Fault

end ScopeHints
