import ScopeHints.Command.Report
import ScopeHints.Command.Request
import ScopeHints.Log.Output
import ScopeHints.Settings.Load
import ScopeHints.Workspace.Basic

/-! A run of the tool: from the command line and the working directory to what is written and
the exit code. -/
namespace ScopeHints.Command

structure Site where
  folder : Folder
  userSettings : Option SettingsFile := none
  environment : Environment.Variables := []
  homes : Homes
  parser : Parser
  time : String

inductive Failure where
  | load (e : LoadError)
  | logFile (e : FileError)
  | badFileName
  | markup (e : Text.MarkupError)
  | unencodable
  | parserCrashed
  | outsideText
  | noWorkers

structure Outcome where
  exitCode : Nat
  written : Written
  failure : Option Failure := none

/-- The logging of a run; a command that runs on its own has none. -/
structure Journal where
  logging : Option LoggingSettings
  time : String
  written : Written := {}

namespace Journal

def log (j : Journal) (events : List LogEvent) : Journal :=
  match j.logging with
  | none => j
  | some s => { j with written := s.emitAll j.time j.written events }

def finish (j : Journal) (text : String) : Outcome := ⟨0, j.written.out text, none⟩

def finishPrinted (j : Journal) (p : Printout) : Outcome :=
  match p.broken with
  | some e => ⟨1, j.written.out p.text, some (.markup e)⟩
  | none => j.finish p.text

def fail (j : Journal) (f : Fault) : Outcome :=
  let hint := match j.logging.bind LoggingSettings.logFile? with
    | some file => ". See " ++ file ++ " for details."
    | none => ""
  ⟨1, j.written.err ("Error: " ++ f.report ++ hint ++ "\n"), none⟩

def broken (j : Journal) (f : Failure) : Outcome := ⟨1, j.written, some f⟩

end Journal

namespace Site

def projectSettings : String := ".hintscope/config.yaml"

def load (site : Site) : Except LoadError Settings :=
  let path := (site.folder.base.join (Path.ofString projectSettings)).render
  SettingsSources.load
    { project := (site.folder.find projectSettings).toOption.map fun e => ⟨path, e⟩
      user := site.userSettings
      environment := site.environment
      homes := site.homes }

def runScopes (site : Site) (settings : Settings) (j : Journal) (file : Path) (asJson : Bool) :
    Outcome :=
  let text := (site.folder.read file.render).toOption.getD ""
  let report := parseReport site.parser text settings.parser.maxRetries
  let j := j.log report.events
  match report.outcome with
  | .error (.fault f) => j.fail f
  | .error .unencodable => j.broken .unencodable
  | .error .crashed => j.broken .parserCrashed
  | .error .outsideText => j.broken .outsideText
  | .ok p =>
    if asJson then j.finish (scopesJson file p) else j.finishPrinted (scopesText file p)

def lookup (site : Site) (settings : Settings) (path : String) (offset : Int) :
    Option ScopeInfo × List LogEvent :=
  let host : Host := { source := site.folder.source, parser := site.parser, settings }
  let ws : Workspace :=
    { workers := .own false, events := [.debug "Using selector: EpollSelector" []] }
  match ws.start host with
  | none => (none, ws.events)
  | some ws =>
    let (_, ws) := ws.refreshDirectory host path
    let (_, ws) := ws.idle host
    let (found, ws) := ws.lookup host path offset
    let (info, ws) := match found with
      | .info i => (some i, ws)
      | .pending ticket =>
        let (_, ws) := ws.idle host
        match ws.answers.get? ticket with
        | some (.info i) => (some i, ws)
        | _ => (none, ws)
    let (_, ws) := ws.stop host
    (info, ws.events)

def serve (site : Site) (settings : Settings) (j : Journal) : Request → Outcome
  | .scopes file asJson => site.runScopes settings j file asJson
  | .hints file offset typed isProperty object limit asJson =>
    let path := (site.folder.base.resolve file).render
    let (info, events) := site.lookup settings path offset
    let j := j.log events
    match info with
    | none => j.broken .noWorkers
    | some info =>
      let session : HintSession := { path, maxResults := limit.getD settings.hints.maxResults }
      let hints := (session.update info).hints { offset, typed, isProperty, object }
      if asJson then j.finish (hintsJson info.degraded hints)
      else j.finishPrinted (hintsText info.degraded hints)

def rejectUsage (called usage : String) (w : Written) (e : UsageError) : Outcome :=
  let help := if e.isTerse then "" else usage ++ "Try '" ++ called ++ " --help' for help.\n\n"
  ⟨2, w.err (help ++ "Error: " ++ e.message ++ "\n"), none⟩

def runCommand (site : Site) (called : String) (j : Journal) (command : CommandName)
    (settings : Except LoadError Settings) (args : List String) : Outcome :=
  match requestOf site.folder command args with
  | .error (.usage e) => rejectUsage called (usageOf called) j.written e
  | .error .badFileName => j.broken .badFileName
  | .ok none => j.finish (helpOf called command)
  | .ok (some request) =>
    match settings with
    | .error (.fault f) => j.fail f
    | .error e => j.broken (.load e)
    | .ok settings => site.serve settings j request

/-- Runs a command by itself, without the tool around it: nothing is logged. -/
def runAlone (site : Site) (command : CommandName) (args : List String) : Outcome :=
  site.runCommand command.word ⟨none, site.time, {}⟩ command site.load args

def immediate? (a : Arguments) : Option String :=
  a.names.findSome? fun name =>
    if name = "--help" then some toolHelp
    else if name = "--version" then some toolVersion
    else none

def rejectCommand (word : String) (rest : List String) : Outcome :=
  let reject (e : UsageError) : Outcome := rejectUsage "hintscope" toolUsage {} e
  match readArguments toolOptions false none (word :: rest) with
  | .error e => reject e
  | .ok a =>
    match immediate? a with
    | some text => ⟨0, { stdout := text }, none⟩
    | none => reject (.noSuchCommand word (Text.closeTo word (CommandName.all.map (·.word))))

/-- Runs the tool. The settings are loaded before the arguments of the command are read. -/
def run (site : Site) (args : List String) : Outcome :=
  if args.isEmpty then ⟨2, { stderr := toolHelp }, none⟩
  else match readArguments toolOptions false none args with
    | .error e => rejectUsage "hintscope" toolUsage {} e
    | .ok a =>
      match immediate? a with
      | some text => ⟨0, { stdout := text }, none⟩
      | none =>
        match a.positional with
        | [] => rejectUsage "hintscope" toolUsage {} .missingCommand
        | word :: rest =>
          match commandOf? word with
          | none => rejectCommand word rest
          | some command =>
            match site.load with
            | .error (.fault f) => Journal.fail ⟨none, site.time, {}⟩ f
            | .error e => ⟨1, {}, some (.load e)⟩
            | .ok settings =>
              let logging := settings.logging.forCommand (a.has "--verbose")
              match logging.openFiles site.folder with
              | .error e => ⟨1, {}, some (.logFile e)⟩
              | .ok (folder, written) =>
                { site with folder }.runCommand ("hintscope " ++ word)
                  ⟨some logging, site.time, written⟩ command (.ok settings) rest

end Site

end ScopeHints.Command
