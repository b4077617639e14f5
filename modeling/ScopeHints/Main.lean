import ScopeHints.Command.Run
import ScopeHints.ParseTree.Answer
import Std.Time.Format

/-! The command-line tool. The answers of the JavaScript parser come on standard input, one JSON
record a line. -/
namespace ScopeHints.Tool

def content? (path : String) : IO (Option FileContent) := do
  try
    let bytes ← IO.FS.readBinFile path
    return some (.bytes (bytes.toList.map UInt8.toNat))
  catch _ => return none

def directoryEntries (path : String) : IO (List (String × FolderEntry)) := do
  let place := directoryOf path
  try
    let listing ← ((← IO.currentDir) / place).readDir
    listing.toList.filterMapM fun e => do
      let name := if place = "" then e.fileName else place ++ "/" ++ e.fileName
      if ← e.path.isDir then return some (name, .directory)
      return (← content? name).map fun content => (name, .file content)
  catch _ => return []

def snapshot (args : List String) : IO Folder := do
  let settings := (← content? Command.Site.projectSettings).map fun content =>
    (Command.Site.projectSettings, FolderEntry.file content)
  let listed ← args.mapM directoryEntries
  return Folder.ofEntries (← IO.currentDir).toString (settings.toList ++ listed.flatten)

def settingVariables : IO Environment.Variables := do
  let names := Settings.sectionNames.flatMap fun group =>
    group :: (Environment.sectionKeys group).map fun key => group ++ "__" ++ key
  names.filterMapM fun name => do
    let name := "HINTSCOPE__" ++ name.toUpper
    return (← IO.getEnv name).map fun text => (name, text)

def parser : IO Parser := do
  let lines := (← (← IO.getStdin).lines).toList
  return Parser.ofAnswers (lines.filterMap Json.read?)

def accounts (list : String) : List (String × String) :=
  (list.splitOn "\n").filterMap fun line =>
    match line.splitOn ":" with
    | name :: _ :: _ :: _ :: _ :: home :: _ => some (name, home)
    | _ => none

def site (args : List String) : IO Command.Site := do
  let home := (← IO.getEnv "HOME").getD "/"
  let list := (← content? "/etc/passwd").map FileContent.readable
  let settingsPath := home ++ "/.config/hintscope/config.yaml"
  return {
    folder := ← snapshot args
    userSettings := (← content? settingsPath).map fun content => ⟨settingsPath, .file content⟩
    environment := ← settingVariables
    homes := { own := home, others := accounts (list.getD "") }
    parser := ← parser
    time := (← Std.Time.PlainDateTime.now).format "uuuu-MM-dd HH:mm:ss" }

def appendLog (path text : String) : IO Unit := do
  IO.FS.createDirAll (directoryOf path)
  (← IO.FS.Handle.mk path .append).putStr text

end ScopeHints.Tool

open ScopeHints in
def main (args : List String) : IO UInt32 := do
  let outcome := (← Tool.site args).run args
  for (place, text) in outcome.written.files.entries do
    Tool.appendLog (Path.render ⟨"/", place⟩) text
  (← IO.getStdout).putStr outcome.written.stdout
  (← IO.getStderr).putStr outcome.written.stderr
  if outcome.failure.isSome then
    (← IO.getStderr).putStr "The run was broken off.\n"
  return outcome.exitCode.toUInt32
