/-! Half-open spans of character offsets. -/
namespace ScopeHints

/-- The offsets from `start` up to, but not including, `stop`. -/
structure TextRange where
  start : Int
  stop : Int
  deriving DecidableEq, Repr, Inhabited

namespace TextRange

instance : Membership Int TextRange where
  mem r pos := r.start ≤ pos ∧ pos < r.stop

instance (pos : Int) (r : TextRange) : Decidable (pos ∈ r) :=
  inferInstanceAs (Decidable (r.start ≤ pos ∧ pos < r.stop))

theorem mem_iff {pos : Int} {r : TextRange} : pos ∈ r ↔ r.start ≤ pos ∧ pos < r.stop :=
  Iff.rfl

/-- The second range lies within the first. -/
def Covers (r s : TextRange) : Prop := r.start ≤ s.start ∧ s.stop ≤ r.stop

instance (r s : TextRange) : Decidable (r.Covers s) :=
  inferInstanceAs (Decidable (_ ∧ _))

def Overlaps (r s : TextRange) : Prop := r.start < s.stop ∧ s.start < r.stop

instance (r s : TextRange) : Decidable (r.Overlaps s) :=
  inferInstanceAs (Decidable (_ ∧ _))

theorem Overlaps.symm {r s : TextRange} (h : r.Overlaps s) : s.Overlaps r := ⟨h.2, h.1⟩

def render (r : TextRange) : String :=
  "TextRange(start=" ++ toString r.start ++ ", end=" ++ toString r.stop ++ ")"

end TextRange

end ScopeHints
