import ScopeHints.Data.Display
import ScopeHints.Source.Content
import ScopeHints.Source.Memory

/-! A snapshot of a working directory: what its files hold by path, and the directories that
hold them. -/
namespace ScopeHints

inductive FolderEntry where
  | file (content : FileContent)
  | directory
  deriving DecidableEq, Repr

inductive FileError where
  | notFound
  | notDirectory
  | isDirectory
  /-- A file stands where a directory is to be made. -/
  | inTheWay
  | tooLong
  | badName
  deriving DecidableEq, Repr

/-- The number of bytes that a name in a directory can have. -/
def nameLimit : Nat := 255

/-- The number of bytes that a path must stay below. -/
def pathLimit : Nat := 4096

/-- Entries by the parts of their absolute paths. `base` is the working directory, from which
relative paths are followed. Directories that hold an entry need none of their own. -/
structure Folder where
  base : Path
  entries : List (List String × FolderEntry)
  deriving Inhabited

namespace Folder

def ofEntries (base : String) (entries : List (String × FolderEntry)) : Folder :=
  let base := Path.ofString base
  { base, entries := entries.map fun (path, e) => ((base.join (Path.ofString path)).parts, e) }

def entryAt (f : Folder) (parts : List String) : Option FolderEntry :=
  match f.entries.find? fun (path, _) => path = parts with
  | some (_, e) => some e
  | none =>
    if (f.base.parts :: f.entries.map Prod.fst).any parts.isPrefixOf then some .directory else none

/-- Follows the parts of a path from a place. Only a directory can be left, and two dots lead to
the one above. -/
def walk (f : Folder) : List String → List String → Except FileError (List String × FolderEntry)
  | place, [] =>
    match f.entryAt place with
    | some e => .ok (place, e)
    | none => .error .notFound
  | place, p :: rest =>
    match f.entryAt place with
    | none => .error .notFound
    | some (.file _) => .error .notDirectory
    | some .directory =>
      if p = "" || p = "." then f.walk place rest
      else if p = ".." then f.walk place.dropLast rest
      else if nameLimit < p.utf8ByteSize then .error .tooLong
      else f.walk (place ++ [p]) rest

def checkPath (path : String) : Except FileError Unit :=
  if path.toList.contains (Char.ofNat 0) then .error .badName
  else if pathLimit ≤ path.utf8ByteSize then .error .tooLong
  else .ok ()

def find (f : Folder) (path : String) : Except FileError FolderEntry := do
  checkPath path
  if path = "" then .error .notFound
  else
    let parts := (Path.cutAtSlashes path.toList).map String.ofList
    let start := if (Path.ofString path).isAbsolute then [] else f.base.parts
    (f.walk start parts).map Prod.snd

def content (f : Folder) (path : String) : Except FileError FileContent := do
  match ← f.find (Path.ofString path).render with
  | .directory => .error .isDirectory
  | .file content => return content

def read (f : Folder) (path : String) : Except FileError String :=
  (f.content path).map FileContent.readable

def fileNames (f : Folder) (place : List String) : List String :=
  f.entries.filterMap fun (path, e) =>
    match e with
    | .directory => none
    | .file _ => if path.dropLast = place then path.getLast? else none

def list (f : Folder) (directory : String) : Except FileError (List String) := do
  checkPath directory
  let path := Path.ofString directory
  let start := if path.isAbsolute then [] else f.base.parts
  match ← f.walk start path.parts with
  | (_, .file _) => .error .notDirectory
  | (place, .directory) =>
    return sortedTexts ((f.fileNames place).map fun name => (path.child name).render)

/-! ### Making files -/

def makeBelow (f : Folder) (above : List String) (name : String) : Except FileError Folder := do
  match ← f.walk [] above with
  | (_, .file _) => .error .notDirectory
  | (place, .directory) =>
    if name = ".." then return f
    if nameLimit < name.utf8ByteSize then .error .tooLong
    match f.entryAt (place ++ [name]) with
    | some .directory => return f
    | some (.file _) => .error .inTheWay
    | none => return { f with entries := f.entries ++ [(place ++ [name], .directory)] }

def makeDirectory (f : Folder) : List String → Except FileError Folder
  | [] => .ok f
  | name :: above =>
    match f.makeBelow above.reverse name with
    | .error .notFound => do (← f.makeDirectory above).makeBelow above.reverse name
    | r => r

def makeFile (f : Folder) (parts : List String) : Except FileError Folder := do
  if parts.any fun p => p.toList.contains (Char.ofNat 0) then .error .badName
  let f ← f.makeDirectory (parts.reverse.drop 1)
  let place := Path.collapse parts
  match f.walk [] place with
  | .ok (_, .directory) => .error .isDirectory
  | .ok (_, .file _) => return f
  | .error .notFound => return { f with entries := f.entries ++ [(place, .file (.text ""))] }
  | .error e => .error e

def errorText (path : String) : FileError → String
  | .notFound => "[Errno 2] No such file or directory: " ++ Text.quoted path
  | .notDirectory => "[Errno 20] Not a directory: " ++ Text.quoted path
  | .isDirectory => "[Errno 21] Is a directory: " ++ Text.quoted path
  | .inTheWay => "[Errno 17] File exists: " ++ Text.quoted path
  | .tooLong => "[Errno 36] File name too long: " ++ Text.quoted path
  | .badName => "embedded null byte"

def source (f : Folder) : TextSource where
  read path := (f.read path).mapError (errorText path)
  list directory := (f.list directory).mapError (errorText directory)

end Folder

end ScopeHints
