import ScopeHints.Data.Yaml
import ScopeHints.Fault
import ScopeHints.Settings.Environment
import ScopeHints.Source.Folder

/-! Loading settings: the settings of the user, those of the project, the environment and the
caller's own, each laid over those before it. -/
namespace ScopeHints

structure SettingsFile where
  path : String
  entry : FolderEntry

structure SettingsSources where
  project : Option SettingsFile := none
  user : Option SettingsFile := none
  environment : Environment.Variables := []
  overrides : List (Scalar × Value) := []
  homes : Homes

inductive LoadError where
  | fault (f : Fault)
  | isDirectory
  | badText
  /-- A number or the code of a character in a settings file lies outside of what can be held, or
  cannot be written out. -/
  | outOfRange
  | badVariable
  | noFields
  | listBelow
  | badKey
  | unknownHome
  deriving Inhabited

def LoadError.ofCheck : SettingsError → LoadError
  | .rejected place v reason =>
    if v.isUnprintable then .outOfRange
    else .fault (.settingRejected (".".intercalate place) v reason)
  | .unknownHome => .unknownHome

namespace SettingsSources

/-- Nothing, zero, false and what is empty count as no settings at all. -/
def isVoid : Value → Bool
  | .null | .bool false | .int 0 | .text "" | .list [] | .record [] => true
  | .real (.finite _ 0 _) => true
  | _ => false

def readFile : Option SettingsFile → Except LoadError Value
  | none => .ok (.record [])
  | some ⟨_, .directory⟩ => .error .isDirectory
  | some ⟨path, .file content⟩ =>
    match content.text? with
    | none => .error .badText
    | some text =>
      match Yaml.read text with
      | .error e =>
        match e.reason? path with
        | some reason => .error (.fault (.settingsUnreadable path reason))
        | none => .error .outOfRange
      | .ok v => .ok (if isVoid v then .record [] else v)

/-- Lays one document over another. Only fields can be laid over something, and a list stays as it
is only if there are none. -/
def documentOver (base : Value) : Value → Except LoadError Value
  | .record [] =>
    match base with
    | .record _ | .list _ => .ok base
    | .scalar _ => .error .noFields
  | .record fs =>
    match base with
    | .record below => .ok (.record (Value.overlay below fs))
    | .list _ => .error .listBelow
    | .scalar _ => .error .noFields
  | _ => .error .noFields

/-- The layer of the files: the project's over the user's. A file without fields is found out
late if it stands alone. -/
def fileLayer (project user : Value) : Except LoadError Value :=
  match user with
  | .record [] => .ok project
  | user => documentOver user project

def belowAll (files : Value) (upper : List (Scalar × Value)) :
    Except LoadError (List (Scalar × Value)) :=
  match files with
  | .record fs => .ok (Value.overlay fs upper)
  | .list _ => if upper.isEmpty then .error .noFields else .error .listBelow
  | _ => .error .noFields

def layers (s : SettingsSources) : Except LoadError (List (Scalar × Value)) := do
  let project ← readFile s.project
  let user ← readFile s.user
  let files ← fileLayer project user
  match Environment.layer? s.environment with
  | none => .error .badVariable
  | some environment =>
    let fs ← belowAll files (Value.overlay environment s.overrides)
    if fs.all fun (key, _) => key matches .text _ then return fs else .error .badKey

def load (s : SettingsSources) : Except LoadError Settings := do
  match Settings.ofExactFields s.homes (← s.layers) with
  | .ok settings => return settings
  | .error e => .error (LoadError.ofCheck e)

end SettingsSources

end ScopeHints
