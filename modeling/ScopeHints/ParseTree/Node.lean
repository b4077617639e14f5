/-! Parse trees of JavaScript texts, as an external parser answers them. -/
namespace ScopeHints

/-- A node of a parse tree. Its bytes are those of the UTF-8 form of the text, from `firstByte`
up to, but not including, `endByte`. `row` is the line on which the parser says that it starts,
counted from zero, and `field` the role that it has in its parent. A missing node was put in by the
parser where the text lacks it; `hasError` says that the parser met an error in or below it. -/
structure Node where
  kind : String
  named : Bool
  missing : Bool
  hasError : Bool
  firstByte : Nat
  endByte : Nat
  row : Nat
  field : Option String
  children : List Node
  deriving Repr, Inhabited, BEq

namespace Node

/-- The line on which the node starts, counted from one. -/
def line (n : Node) : Nat := n.row + 1

def namedChildren (n : Node) : List Node := n.children.filter (·.named)

def child? (n : Node) (role : String) : Option Node :=
  n.children.find? fun c => c.field = some role

def namedChildrenExcept (n : Node) (role : String) : List Node :=
  (n.children.eraseP fun c => c.field = some role).filter (·.named)

mutual

/-- Grows by at least four times the weight of each child, so that a node outweighs any four
selections of its children. -/
def weight : Node → Nat
  | ⟨_, _, _, _, _, _, _, _, children⟩ => 1 + 4 * weights children

def weights : List Node → Nat
  | [] => 0
  | n :: ns => n.weight + weights ns

end

theorem weight_eq (n : Node) : n.weight = 1 + 4 * weights n.children := by
  cases n
  rfl

theorem weight_pos (n : Node) : 0 < n.weight := by
  rw [weight_eq]
  omega

@[simp] theorem weights_nil : weights [] = 0 := rfl

@[simp] theorem weights_cons (n : Node) (ns : List Node) :
    weights (n :: ns) = n.weight + weights ns := rfl

@[simp] theorem weights_append (l m : List Node) : weights (l ++ m) = weights l + weights m := by
  induction l with
  | nil => simp
  | cons n l ih => simp [ih, Nat.add_assoc]

@[simp] theorem weights_reverse (l : List Node) : weights l.reverse = weights l := by
  induction l with
  | nil => rfl
  | cons n l ih => simp [ih, Nat.add_comm]

theorem weights_filter_le (p : Node → Bool) (l : List Node) :
    weights (l.filter p) ≤ weights l := by
  induction l with
  | nil => simp
  | cons n l ih =>
    by_cases h : p n
    · simp [h, ih]
    · simp [h]
      omega

theorem weights_eraseP_le (p : Node → Bool) (l : List Node) :
    weights (l.eraseP p) ≤ weights l := by
  induction l with
  | nil => simp
  | cons n l ih =>
    by_cases h : p n
    · simp [h]
    · simp [h, ih]

theorem weight_le_weights {n : Node} {l : List Node} (h : n ∈ l) : n.weight ≤ weights l := by
  induction l with
  | nil => simp at h
  | cons m l ih =>
    rcases List.mem_cons.1 h with rfl | h
    · simp
    · have := ih h
      simp
      omega

theorem weights_namedChildren_le (n : Node) : weights n.namedChildren ≤ weights n.children :=
  weights_filter_le _ _

theorem weights_namedChildrenExcept_le (n : Node) (role : String) :
    weights (n.namedChildrenExcept role) ≤ weights n.children :=
  Nat.le_trans (weights_filter_le _ _) (weights_eraseP_le _ _)

theorem weights_child?_le (n : Node) (role : String) :
    weights (n.child? role).toList ≤ weights n.children := by
  cases h : n.child? role with
  | none => simp
  | some c => simpa using weight_le_weights (List.mem_of_find?_eq_some h)

end Node

/-- The answers of a parser: a tree for each text it can take; without one it broke down. -/
abbrev Parser := String → Option Node

end ScopeHints
