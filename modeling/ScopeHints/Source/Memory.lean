import ScopeHints.Data.Table
import ScopeHints.Source.Path

/-! Where texts and listings come from. A memory source holds the texts of an editor. -/
namespace ScopeHints

/-- What the index asks of its host: the text of a path and the paths in a directory. A refusal
says in a text what is wrong. -/
structure TextSource where
  read : String → Except String String
  list : String → Except String (List String)

abbrev Memory := Table String String

/-- Rising by code points. -/
def sortedTexts (l : List String) : List String := l.mergeSort fun a b => decide (a ≤ b)

namespace Memory

def list (m : Memory) (directory : String) : List String :=
  sortedTexts (m.keys.filter fun p => directoryOf p = directory)

def delete (m : Memory) (path : String) : Memory := m.erase path

/-- Moves a text to another path, where it replaces what was there. -/
def rename (m : Memory) (old new : String) : Memory :=
  match m.get? old with
  | none => m
  | some text => (m.erase old).insert new text

def source (m : Memory) (unlistable : List String) : TextSource where
  read path := match m.get? path with
    | some text => .ok text
    | none => .error path
  list directory :=
    if unlistable.contains directory then .error directory else .ok (m.list directory)

end Memory

end ScopeHints
