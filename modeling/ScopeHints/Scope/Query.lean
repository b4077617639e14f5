import ScopeHints.Scope.Tree

/-! Questions to a scope tree: which scope holds a position, which names are visible in it, and
in what order the scopes stand. A scope has a smaller number than its descendants, so that no
chain of scopes is longer than the tree. -/
namespace ScopeHints

structure Scope where
  tree : ScopeTree
  index : Nat
  deriving DecidableEq, Repr, Inhabited

namespace ScopeTree

def scope? (tree : ScopeTree) (i : Int) : Option Scope :=
  if 0 ≤ i ∧ i < tree.size then some ⟨tree, i.toNat⟩ else none

def root (tree : ScopeTree) : Scope := ⟨tree, 0⟩

end ScopeTree

namespace Scope

/-- The record of a scope; an absent scope is an empty one. -/
def record (s : Scope) : ScopeRecord :=
  s.tree.records[s.index]?.getD { parent := none, range := ⟨0, 0⟩, kind := .program }

def range (s : Scope) : TextRange := s.record.range

def kind (s : Scope) : ScopeKind := s.record.kind

def children (s : Scope) : List Scope := s.record.children.map fun i => ⟨s.tree, i⟩

def isRoot (s : Scope) : Bool := s.record.parent.isNone

end Scope

namespace ScopeTree

/-- The first of some scopes, in the order of their starts, that holds a position. The search
ends at the first scope that starts after it. -/
def firstHolding (tree : ScopeTree) (pos : Int) : List Nat → Option Nat
  | [] => none
  | c :: cs =>
    if pos < (tree.rangeOf c).start then none
    else if pos ∈ tree.rangeOf c then some c
    else firstHolding tree pos cs

def childHolding (tree : ScopeTree) (i : Nat) (pos : Int) : Option Nat :=
  tree.firstHolding pos (tree.childrenOf i)

/-- Follows the children that hold a position, for at most the given number of steps. -/
def descend (tree : ScopeTree) (pos : Int) : Nat → Nat → Nat
  | 0, i => i
  | fuel + 1, i =>
    match tree.childHolding i pos with
    | none => i
    | some c => descend tree pos fuel c

def parentOf? (tree : ScopeTree) (i : Nat) : Option Nat :=
  (tree.records[i]?.bind (·.parent)).bind tree.resolve?

/-- A scope and its ancestors, the nearest first, at most the given number of them. -/
def lineageFrom (tree : ScopeTree) : Nat → Nat → List Nat
  | 0, _ => []
  | fuel + 1, i =>
    i :: match tree.parentOf? i with
      | none => []
      | some p => lineageFrom tree fuel p

/-- The scopes on a stack with their descendants, each before its children. -/
def preorder (tree : ScopeTree) : Nat → List Nat → List Nat
  | 0, _ => []
  | _ + 1, [] => []
  | fuel + 1, i :: rest => i :: preorder tree fuel (tree.childrenOf i ++ rest)

end ScopeTree

namespace Scope

def lineage (s : Scope) : List Scope :=
  (s.tree.lineageFrom s.tree.size s.index).map fun i => ⟨s.tree, i⟩

/-- The deepest scope at or below this one that holds a position. -/
def innermost? (s : Scope) (pos : Int) : Option Scope :=
  if pos ∈ s.range then some ⟨s.tree, s.tree.descend pos s.tree.size s.index⟩ else none

/-- The scope holds a position and none of its children does. -/
def holdsExactly (s : Scope) (pos : Int) : Bool :=
  pos ∈ s.range && (s.tree.childHolding s.index pos).isNone

def declaresHere (s : Scope) (name : String) : Bool :=
  s.record.declarations.any fun d => d.name = name

/-- How many scopes up a name is declared; 0 is this scope. -/
def depthOf? (s : Scope) (name : String) : Option Nat :=
  s.lineage.findIdx? fun t => t.declaresHere name

/-- The declarations that this scope can see, those of the nearest scope first. -/
def visible (s : Scope) : List Occurrence := s.lineage.flatMap fun t => t.record.declarations

/-- This scope and its descendants, each before its children. -/
def walk (s : Scope) : List Scope :=
  (s.tree.preorder s.tree.size [s.index]).map fun i => ⟨s.tree, i⟩

def declaredNames (s : Scope) : String :=
  ", ".intercalate (s.record.declarations.map (·.name))

def describeWithin : Nat → Scope → String
  | 0, _ => ""
  | fuel + 1, s =>
    let inner := "; ".intercalate (s.children.map (describeWithin fuel))
    "[" ++ toString s.range.start ++ " " ++ s.declaredNames
      ++ (if inner = "" then "" else " : " ++ inner)
      ++ " " ++ toString s.range.stop ++ "]"

def describe (s : Scope) : String := describeWithin s.tree.size s

def summary (s : Scope) : String :=
  "Scope(#" ++ toString s.index ++ " " ++ s.kind.name ++ " [" ++ toString s.range.start ++ ", "
    ++ toString s.range.stop ++ ") \x7b" ++ s.declaredNames ++ "\x7d)"

end Scope

namespace ScopeTree

def scopes (tree : ScopeTree) : List Scope := tree.root.walk

def summary (tree : ScopeTree) : String :=
  "ScopeTree(scopes=" ++ toString tree.size ++ ", range=" ++ tree.root.range.render ++ ")"

end ScopeTree

end ScopeHints
