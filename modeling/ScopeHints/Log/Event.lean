import ScopeHints.Data.Value

/-! Log events: what happened, how much it matters, and named details. -/
namespace ScopeHints

inductive LogLevel where
  | debug | info | warning | error | critical
  deriving DecidableEq, Repr, Inhabited

namespace LogLevel

def all : List LogLevel := [debug, info, warning, error, critical]

def name : LogLevel → String
  | debug => "debug"
  | info => "info"
  | warning => "warning"
  | error => "error"
  | critical => "critical"

def setting : LogLevel → String
  | debug => "DEBUG"
  | info => "INFO"
  | warning => "WARNING"
  | error => "ERROR"
  | critical => "CRITICAL"

def ofSetting? (s : String) : Option LogLevel := all.find? fun l => l.setting = s

/-- The level with a name in settings, whatever the case of its letters. The dotless i is one of
the small letters of `I`. -/
def ofAnyCase? (s : String) : Option LogLevel :=
  ofSetting? (String.ofList (s.toList.map fun c => if c.toNat = 0x131 then 'I' else c.toUpper))

def rank : LogLevel → Nat
  | debug => 10
  | info => 20
  | warning => 30
  | error => 40
  | critical => 50

end LogLevel

structure LogEvent where
  level : LogLevel
  name : String
  fields : List (String × Value) := []
  deriving Repr, Inhabited, BEq

namespace LogEvent

def debug (name : String) (fields : List (String × Value)) : LogEvent := ⟨.debug, name, fields⟩

def info (name : String) (fields : List (String × Value)) : LogEvent := ⟨.info, name, fields⟩

def warning (name : String) (fields : List (String × Value)) : LogEvent :=
  ⟨.warning, name, fields⟩

def error (name : String) (fields : List (String × Value)) : LogEvent := ⟨.error, name, fields⟩

end LogEvent

end ScopeHints
