/-! File paths with slashes. A path is a root, which two leading slashes keep as such, and
parts; empty parts and single dots do not count, two dots stay. -/
namespace ScopeHints

/-- The directory part of a path text: all before the last slash, without the slashes at its
end unless it holds nothing else. -/
def directoryOf (path : String) : String :=
  let reversed := path.toList.reverse.dropWhile (· ≠ '/')
  let head := reversed.dropWhile (· = '/')
  String.ofList (if head.isEmpty then reversed else head.reverse)

structure Path where
  root : String
  parts : List String
  deriving DecidableEq, Repr, Inhabited

namespace Path

def cutAtSlashes : List Char → List (List Char)
  | [] => [[]]
  | c :: cs =>
    if c = '/' then [] :: cutAtSlashes cs
    else match cutAtSlashes cs with
      | [] => [[c]]
      | l :: ls => (c :: l) :: ls

def rootOf : List Char → String
  | '/' :: '/' :: '/' :: _ => "/"
  | '/' :: '/' :: _ => "//"
  | '/' :: _ => "/"
  | _ => ""

def ofString (s : String) : Path :=
  { root := rootOf s.toList
    parts := ((cutAtSlashes s.toList).map String.ofList).filter fun p => p ≠ "" && p ≠ "." }

def render (p : Path) : String :=
  let text := p.root ++ "/".intercalate p.parts
  if text = "" then "." else text

def isAbsolute (p : Path) : Bool := p.root ≠ ""

def child (p : Path) (name : String) : Path := { p with parts := p.parts ++ [name] }

def join (dir p : Path) : Path :=
  if p.isAbsolute then p else { dir with parts := dir.parts ++ p.parts }

/-- Two dots lead one part up, but never above the root. -/
def collapse (parts : List String) : List String :=
  (parts.foldl (fun acc p => if p = ".." then acc.drop 1 else p :: acc) []).reverse

def resolve (dir p : Path) : Path := ⟨"/", collapse (dir.join p).parts⟩

end Path

structure Homes where
  own : String
  others : List (String × String) := []
  deriving Repr, Inhabited

namespace Homes

def find? (homes : Homes) : List Char → Option String
  | [] => some homes.own
  | name => homes.others.lookup (String.ofList name)

/-- A tilde as the first part of a path stands for a home directory, which must be known. -/
def expand? (homes : Homes) (p : Path) : Option Path :=
  match p.root, p.parts with
  | "", first :: rest =>
    match first.toList with
    | '~' :: name => (homes.find? name).map fun home =>
      let h := Path.ofString home
      { h with parts := h.parts ++ rest }
    | _ => some p
  | _, _ => some p

end Homes

end ScopeHints
