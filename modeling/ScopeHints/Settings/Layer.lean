import ScopeHints.Data.Value

/-! Settings come in layers. A layer laid over another one replaces its values key by key;
where both have a record, the records are laid over each other. -/
namespace ScopeHints.Value

mutual

def laidOver : Value → Option Value → Value
  | .record fields, some (.record base) => .record (overFields fields base)
  | v, _ => v

/-- Lays fields over others, which keep their order; new keys follow. -/
def overFields : List (Scalar × Value) → List (Scalar × Value) → List (Scalar × Value)
  | [], base => base
  | (k, v) :: rest, base => overFields rest (setField k (laidOver v (fieldIn k base)) base)

end

/-- The fields of `base` with those of `override` laid over them. -/
def overlay (base override : List (Scalar × Value)) : List (Scalar × Value) :=
  overFields override base

end ScopeHints.Value
