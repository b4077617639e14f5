import ScopeHints.Log.Event

/-! The settings of the tool, with their defaults. -/
namespace ScopeHints

inductive LogFormat where
  | json | console
  deriving DecidableEq, Repr, Inhabited

def LogFormat.setting : LogFormat → String
  | json => "json"
  | console => "console"

/-- Where log lines go: a standard stream, or the file at an absolute path. Without a level of
its own an output takes that of the logging settings. -/
structure LogOutput where
  format : LogFormat := .console
  destination : String := "stderr"
  level : Option LogLevel := none
  deriving DecidableEq, Repr, Inhabited

def LogOutput.isConsole (o : LogOutput) : Bool :=
  o.destination = "stderr" || o.destination = "stdout"

structure LoggingSettings where
  level : LogLevel := .info
  outputs : List LogOutput := [{}]
  deriving DecidableEq, Repr, Inhabited

structure ParserSettings where
  /-- How many lines a forced parse may blank. -/
  maxRetries : Int := 10
  /-- The endings of the files that count as JavaScript. -/
  extensions : List String := [".js", ".jsx", ".mjs", ".cjs"]
  deriving DecidableEq, Repr, Inhabited

structure HintSettings where
  maxResults : Int := 100
  includeKeywords : Bool := true
  deriving DecidableEq, Repr, Inhabited

structure WorkerSettings where
  maxWorkers : Int := 1
  namePrefix : String := "hintscope-parser"
  deriving DecidableEq, Repr, Inhabited

structure Settings where
  logging : LoggingSettings := {}
  parser : ParserSettings := {}
  hints : HintSettings := {}
  worker : WorkerSettings := {}
  deriving DecidableEq, Repr, Inhabited

namespace LoggingSettings

def toValue (s : LoggingSettings) : Value :=
  .fields [("level", .text s.level.setting),
    ("outputs", .list (s.outputs.map fun o => .fields [("format", .text o.format.setting),
      ("destination", .text o.destination), ("level", .ofText? (o.level.map LogLevel.setting))]))]

end LoggingSettings

namespace Settings

def toValue (s : Settings) : Value :=
  .fields [
    ("logging", s.logging.toValue),
    ("parser", .fields [("max_retries", .int s.parser.maxRetries),
      ("extensions", .list (s.parser.extensions.map .text))]),
    ("hints", .fields [("max_results", .int s.hints.maxResults),
      ("include_keywords", .bool s.hints.includeKeywords)]),
    ("worker", .fields [("max_workers", .int s.worker.maxWorkers),
      ("thread_name_prefix", .text s.worker.namePrefix)])]

end Settings

end ScopeHints
