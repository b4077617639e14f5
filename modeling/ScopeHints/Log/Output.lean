import ScopeHints.Log.Line
import ScopeHints.Settings.Basic
import ScopeHints.Source.Folder

/-! Where log lines go. An event passes if it reaches the level of the settings, and is written
to each output whose own level it reaches. -/
namespace ScopeHints

/-- The place of a log file, which does not depend on the way that a path takes. -/
def placeOf (destination : String) : List String :=
  Path.collapse (Path.ofString destination).parts

structure Written where
  stdout : String := ""
  stderr : String := ""
  files : Table (List String) String := {}
  deriving Inhabited

namespace Written

def out (w : Written) (s : String) : Written := { w with stdout := w.stdout ++ s }

def err (w : Written) (s : String) : Written := { w with stderr := w.stderr ++ s }

def append (w : Written) (destination s : String) : Written :=
  if destination = "stderr" then w.err s
  else if destination = "stdout" then w.out s
  else
    let place := placeOf destination
    { w with files := w.files.insert place ((w.files.get? place).getD "" ++ s) }

end Written

namespace LoggingSettings

def simple (level : LogLevel) (format : LogFormat) : LoggingSettings :=
  { level, outputs := [{ format }] }

def outputLevel (s : LoggingSettings) (o : LogOutput) : LogLevel := o.level.getD s.level

def logFile? (s : LoggingSettings) : Option String :=
  (s.outputs.find? fun o => !o.isConsole).map (·.destination)

def openFiles (s : LoggingSettings) (f : Folder) : Except FileError (Folder × Written) :=
  s.outputs.foldlM (fun (f, w) o => do
    if o.isConsole then return (f, w)
    let f ← f.makeFile (Path.ofString o.destination).parts
    return (f, w.append o.destination "")) (f, {})

/-- Writes an event. Without any output, warnings and worse go to standard error. -/
def emit (s : LoggingSettings) (time : String) (logger : Option String) (w : Written)
    (e : LogEvent) : Written :=
  if e.level.rank < s.level.rank then w
  else if s.outputs.isEmpty then
    if e.level.rank < LogLevel.warning.rank then w
    else w.err (e.plainLine logger time ++ "\n")
  else
    s.outputs.foldl (fun w o =>
      if e.level.rank < (s.outputLevel o).rank then w
      else
        let line := match o.format with
          | .json => e.jsonLine logger time
          | .console => e.consoleLine logger time
        w.append o.destination (line ++ "\n")) w

def emitAll (s : LoggingSettings) (time : String) (w : Written) (events : List LogEvent) :
    Written :=
  events.foldl (s.emit time none) w

/-- The settings of a one-shot command. Its console shows warnings and worse, unless an output
says otherwise or everything is asked for. Files keep their levels. -/
def forCommand (s : LoggingSettings) (verbose : Bool) : LoggingSettings :=
  if verbose then
    { level := .debug
      outputs := s.outputs.map fun o => if o.isConsole then { o with level := some .debug } else o }
  else
    { s with
      outputs := s.outputs.map fun o =>
        if o.isConsole && o.level.isNone then { o with level := some .warning } else o }

end LoggingSettings

end ScopeHints
