import ScopeHints.Text.Range

/-! Lexical scopes of one file. A scope tree is an arena: its records refer to their parent and
children by number, and record 0 is the scope of the whole file. Children stand in the order of
their starts. A frozen tree takes no more changes. -/
namespace ScopeHints

inductive ScopeKind where
  | program | function | catchClause
  deriving DecidableEq, Repr, Inhabited

def ScopeKind.name : ScopeKind → String
  | program => "program"
  | function => "function"
  | catchClause => "catch"

structure Occurrence where
  name : String
  position : Int
  deriving DecidableEq, Repr, Inhabited

/-- A property read on an object: the name of the object, then of the property. -/
abbrev Association := String × String

structure ScopeRecord where
  /-- The number of the parent as it was given; a negative one counts back from the newest
  record. -/
  parent : Option Int
  range : TextRange
  kind : ScopeKind
  declarations : List Occurrence := []
  identifiers : List Occurrence := []
  properties : List Occurrence := []
  associations : List Association := []
  children : List Nat := []
  deriving DecidableEq, Repr, Inhabited

structure ScopeTree where
  records : Array ScopeRecord
  frozen : Bool := false
  deriving DecidableEq, Repr, Inhabited

inductive ScopeTree.Refusal where
  | frozen
  | noRecord
  | overlap (existing new : TextRange)
  deriving DecidableEq, Repr

namespace ScopeTree

def ofRange (range : TextRange) : ScopeTree :=
  { records := #[{ parent := none, range, kind := .program }] }

def size (tree : ScopeTree) : Nat := tree.records.size

/-- The record that a number means when a negative one counts back from the newest record. -/
def resolve? (tree : ScopeTree) (i : Int) : Option Nat :=
  let j := if i < 0 then i + tree.size else i
  if 0 ≤ j ∧ j < tree.size then some j.toNat else none

def freeze (tree : ScopeTree) : ScopeTree := { tree with frozen := true }

/-- The range of a record; an absent record has the empty range at zero. -/
def rangeOf (tree : ScopeTree) (i : Nat) : TextRange :=
  (tree.records[i]?.map (·.range)).getD ⟨0, 0⟩

def childrenOf (tree : ScopeTree) (i : Nat) : List Nat :=
  (tree.records[i]?.map (·.children)).getD []

def update (tree : ScopeTree) (i : Nat) (f : ScopeRecord → ScopeRecord) :
    Except Refusal ScopeTree :=
  if tree.frozen then .error .frozen
  else if i < tree.records.size then .ok { tree with records := tree.records.modify i f }
  else .error .noRecord

def setRootRange (tree : ScopeTree) (range : TextRange) : Except Refusal ScopeTree :=
  tree.update 0 fun r => { r with range }

def splitSiblings (tree : ScopeTree) (siblings : List Nat) (start : Int) : List Nat × List Nat :=
  siblings.span fun i => (tree.rangeOf i).start ≤ start

/-- Adds a scope under `parent` and returns its number. Only the neighbours of the new scope are
compared with it: the siblings are in order and do not overlap. -/
def addChild (tree : ScopeTree) (parent : Int) (range : TextRange) (kind : ScopeKind) :
    Except Refusal (Nat × ScopeTree) :=
  if tree.frozen then .error .frozen
  else match tree.resolve? parent with
    | none => .error .noRecord
    | some place =>
      let (before, after) := tree.splitSiblings (tree.childrenOf place) range.start
      let neighbours := (before.getLast?.toList ++ after.head?.toList).map tree.rangeOf
      match neighbours.find? fun r => r.Overlaps range with
      | some existing => .error (.overlap existing range)
      | none =>
        let index := tree.records.size
        let records := tree.records.modify place fun r =>
          { r with children := before ++ index :: after }
        .ok (index, { tree with records := records.push { parent := some parent, range, kind } })

def declare (tree : ScopeTree) (i : Nat) (o : Occurrence) : Except Refusal ScopeTree :=
  tree.update i fun r => { r with declarations := r.declarations ++ [o] }

def addIdentifier (tree : ScopeTree) (i : Nat) (o : Occurrence) : Except Refusal ScopeTree :=
  tree.update i fun r => { r with identifiers := r.identifiers ++ [o] }

def addProperty (tree : ScopeTree) (i : Nat) (o : Occurrence) : Except Refusal ScopeTree :=
  tree.update i fun r => { r with properties := r.properties ++ [o] }

def addAssociation (tree : ScopeTree) (i : Nat) (a : Association) : Except Refusal ScopeTree :=
  tree.update i fun r => { r with associations := r.associations ++ [a] }

end ScopeTree

end ScopeHints
