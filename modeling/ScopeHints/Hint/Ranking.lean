import ScopeHints.Data.Table
import ScopeHints.Scope.Query
import ScopeHints.Token

/-! The order of completion candidates. Keys are compared one after the other, and a later key
only decides between candidates that agree in the earlier ones. -/
namespace ScopeHints

/-- Compares keys of which some are absent; those come last. -/
def compareAbsentLast {α : Type} [Ord α] : Option α → Option α → Ordering
  | none, none => .eq
  | none, some _ => .gt
  | some _, none => .lt
  | some a, some b => compare a b

abbrev Comparator := HintToken → HintToken → Ordering

/-- The distance of a candidate's nearest occurrence. -/
def HintToken.distance? (token : HintToken) (offset : Int) : Option Nat :=
  (token.positions.map fun p => (p - offset).natAbs).min?

namespace Comparator

def byName : Comparator := fun a b => compare a.value b.value

/-- The nearest occurrence first; candidates that occur nowhere last. -/
def byPosition (offset : Int) : Comparator := fun a b =>
  compareAbsentLast (a.distance? offset) (b.distance? offset)

/-- Names declared in the scope itself first, then those of its ancestors from the nearest on;
names that the scope cannot see last. -/
def byScope (scope : Option Scope) : Comparator := fun a b =>
  let depth (t : HintToken) : Option Nat := scope.bind fun s => s.depthOf? t.value
  compareAbsentLast (depth a) (depth b)

/-- Candidates of one file before all others. -/
def byPath (path : Option String) : Comparator := fun a b =>
  let key (t : HintToken) : Option Nat := if t.path = path then some 0 else none
  compareAbsentLast (key a) (key b)

/-- The more often counted first; candidates without a count last. -/
def byAssociation (counts : Table String Int) : Comparator := fun a b =>
  let key (t : HintToken) : Option Int := (counts.get? t.value).map fun n => -n
  compareAbsentLast (key a) (key b)

/-- The first comparator that tells two candidates apart decides. -/
def lexicographic (first : Comparator) (rest : List Comparator) : Comparator := fun a b =>
  rest.foldl (fun r c => r.then (c a b)) (first a b)

def flipped (c : Comparator) : Comparator := fun a b => c b a

end Comparator

inductive Ranking where
  /-- By the scope at the cursor, then by distance. -/
  | identifiers (scope : Option Scope)
  /-- By the use of the properties on an object, then by their file, then by distance. -/
  | properties (path : Option String) (counts : Table String Int)

namespace Ranking

def comparator (r : Ranking) (offset : Int) : Comparator :=
  match r with
  | identifiers scope => .lexicographic (.byScope scope) [.byPosition offset, .byName]
  | properties path counts =>
    .lexicographic (.byAssociation counts) [.byPath path, .byPosition offset, .byName]

end Ranking

/-- The first `limit` items; a negative limit leaves out that many at the end. -/
def keepFirst {α : Type} (limit : Int) (l : List α) : List α :=
  if limit < 0 then l.take (l.length - limit.natAbs) else l.take limit.toNat

def HintToken.matchesQuery (token : HintToken) (query : String) : Bool :=
  query.toList.isPrefixOf token.value.toList

/-- The candidates that begin with what was typed, in order, at most `limit` of them. -/
def rankHints (candidates : List HintToken) (ranking : Ranking) (offset : Int) (query : String)
    (limit : Int) : List HintToken :=
  let matching := candidates.filter fun t => t.matchesQuery query
  keepFirst limit (matching.mergeSort fun a b => (ranking.comparator offset a b).isLE)

end ScopeHints
