import ScopeHints.Source.Path
import ScopeHints.Token.Merge

/-! What the index knows about one file. -/
namespace ScopeHints

/-- The answer to a lookup: the scope at an offset and the candidates there. Without a scope the
file has never been parsed, and only keywords are offered. -/
structure ScopeInfo where
  scope : Option Scope
  identifiers : List HintToken
  properties : List HintToken
  associations : AssociationCounts
  /-- The answer was computed for this lookup, not kept from an earlier one. -/
  fresh : Bool := true
  recovered : Bool := false
  deriving Inhabited

def ScopeInfo.degraded (info : ScopeInfo) : Bool := info.scope.isNone

structure Pending where
  offset : Int
  ticket : Nat
  deriving DecidableEq, Repr, Inhabited

/-- The index of one file. `outerDirty` says that the text changed since it was last handed to
the parser, `inFlight` that an answer of the parser is awaited, `forcePending` that the next
parse may blank lines, and `innerDirty` that the kept lookup is out of date. -/
structure FileIndex where
  path : String
  outer : Option ScopeTree := none
  identifiers : List HintToken := []
  globals : List String := []
  properties : List HintToken := []
  associations : AssociationCounts := {}
  outerDirty : Bool := true
  innerDirty : Bool := true
  inFlight : Bool := false
  forcePending : Bool := false
  recovered : Bool := false
  innerScope : Option Scope := none
  innerInfo : Option ScopeInfo := none
  pending : Option Pending := none
  deriving Inhabited

namespace FileIndex

def directory (f : FileIndex) : String := directoryOf f.path

def withPath (path : String) (tokens : List HintToken) : List HintToken :=
  tokens.map fun t => { t with path := some path }

def install (f : FileIndex) (p : ParsedFile) : FileIndex :=
  { f with
    outer := some p.tree
    identifiers := p.identifiers
    globals := p.globals
    properties := withPath f.path p.properties
    associations := p.associations
    recovered := p.recovered
    innerDirty := true }

def renamed (f : FileIndex) (path : String) : FileIndex :=
  { f with
    path
    properties := withPath path f.properties
    innerScope := none
    innerInfo := none
    innerDirty := true }

def scopes (f : FileIndex) : Except Fault ScopeTree :=
  match f.outer with
  | some tree => .ok tree
  | none => .error (.unexpected "inner scope requested before outer scope" [("path", .text f.path)])

/-- The lookup that is kept from earlier, if it still answers for an offset. -/
def kept? (f : FileIndex) (offset : Int) : Option ScopeInfo :=
  match f.innerInfo, f.innerScope with
  | some info, some scope =>
    if !f.innerDirty && scope.holdsExactly offset then some { info with fresh := false } else none
  | _, _ => none

end FileIndex

structure FileStatus where
  path : String
  hasScopes : Bool
  outerDirty : Bool
  innerDirty : Bool
  inFlight : Bool
  hasPending : Bool
  recovered : Bool
  deriving DecidableEq, Repr

def FileIndex.status (f : FileIndex) : FileStatus where
  path := f.path
  hasScopes := f.outer.isSome
  outerDirty := f.outerDirty
  innerDirty := f.innerDirty
  inFlight := f.inFlight
  hasPending := f.pending.isSome
  recovered := f.recovered

end ScopeHints
