import ScopeHints.Hint.Ranking
import ScopeHints.Workspace.FileIndex

/-! Hints for one file, drawn from the latest lookup in it. -/
namespace ScopeHints

structure HintQuery where
  offset : Int
  typed : String := ""
  isProperty : Bool := false
  object : Option String := none
  deriving DecidableEq, Repr

structure HintSession where
  path : String
  maxResults : Int := 100
  scope : Option Scope := none
  identifiers : List HintToken := []
  properties : List HintToken := []
  associations : AssociationCounts := {}
  deriving Inhabited

namespace HintSession

def update (s : HintSession) (info : ScopeInfo) : HintSession :=
  { s with
    scope := info.scope
    identifiers := info.identifiers
    properties := info.properties
    associations := info.associations }

/-- The counts that rank the properties of an object; without a name there are none. -/
def countsFor (associations : AssociationCounts) : Option String → Table String Int
  | none => {}
  | some object => if object = "" then {} else associations.ofObject object

def hints (s : HintSession) (q : HintQuery) : List HintToken :=
  if q.isProperty then
    rankHints s.properties (.properties (some s.path) (countsFor s.associations q.object))
      q.offset q.typed s.maxResults
  else rankHints s.identifiers (.identifiers s.scope) q.offset q.typed s.maxResults

end HintSession

end ScopeHints
