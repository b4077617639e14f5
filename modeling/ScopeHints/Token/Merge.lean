import ScopeHints.Parse.File

/-! Properties and associations of the files of one directory, put together. -/
namespace ScopeHints

/-- One token for each property name: that of the current file, or else of the first sibling
that has the name. -/
def mergeProperties (current : List HintToken) (siblings : List (List HintToken)) :
    List HintToken :=
  distinctTokens (current :: siblings).flatten

def addCounts (total counts : AssociationCounts) : AssociationCounts :=
  counts.entries.foldl (fun t (a, n) => t.insert a ((t.get? a).getD 0 + n)) total

def mergeAssociations (current : AssociationCounts) (siblings : List AssociationCounts) :
    AssociationCounts :=
  (current :: siblings).foldl addCounts Table.empty

def AssociationCounts.ofObject (counts : AssociationCounts) (object : String) :
    Table String Int :=
  ⟨counts.entries.filterMap fun ((o, p), n) => if o = object then some (p, n) else none⟩

end ScopeHints
