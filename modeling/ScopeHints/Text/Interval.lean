/-! Sets of code points given by intervals. -/
namespace ScopeHints.Text

/-- Membership in closed intervals that stand in rising order, up to the first one that starts
too late. -/
def inIntervals : List (Nat × Nat) → Nat → Bool
  | [], _ => false
  | (first, last) :: rest, n =>
    if n < first then false else if n ≤ last then true else inIntervals rest n

end ScopeHints.Text
