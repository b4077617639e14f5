/-! How similar two words are, and which of some words are close to one. -/
namespace ScopeHints.Text

def commonLength : List Char → List Char → Nat
  | a :: as, b :: bs => if a = b then commonLength as bs + 1 else 0
  | _, _ => 0

/-- The longest block that stands in both texts: where it starts in each of them, and its length.
Of several the one is taken that starts first in the first text, and of those the one that starts
first in the second. -/
def longestBlock (a b : List Char) : Nat × Nat × Nat :=
  let starts := (List.range a.length).flatMap fun i => (List.range b.length).map fun j => (i, j)
  starts.foldl (fun (i, j, length) (i', j') =>
    let n := commonLength (a.drop i') (b.drop j')
    if length < n then (i', j', n) else (i, j, length)) (0, 0, 0)

def matched : Nat → List Char → List Char → Nat
  | 0, _, _ => 0
  | fuel + 1, a, b =>
    match longestBlock a b with
    | (_, _, 0) => 0
    | (i, j, n) =>
      matched fuel (a.take i) (b.take j) + n + matched fuel (a.drop (i + n)) (b.drop (j + n))

structure Similarity where
  matched : Nat
  total : Nat
  deriving Repr

namespace Similarity

def of (a b : List Char) : Similarity := ⟨Text.matched a.length a b, a.length + b.length⟩

def isClose (s : Similarity) : Bool := 3 * s.total ≤ 10 * s.matched

def less (s t : Similarity) : Bool := s.matched * t.total < t.matched * s.total

end Similarity

/-- The words, at most three of them, that are closest to a word, in alphabetical order. Of words
that are equally close the later ones in the alphabet are taken. -/
def closeTo (word : String) (words : List String) : List String :=
  let rated := words.map fun w => (Similarity.of w.toList word.toList, w)
  let close := rated.filter fun (s, _) => s.isClose
  let best := close.mergeSort fun (s, v) (t, w) =>
    t.less s || (!s.less t && decide (w ≤ v))
  ((best.take 3).map Prod.snd).mergeSort fun v w => decide (v ≤ w)

end ScopeHints.Text
