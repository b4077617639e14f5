import ScopeHints.ParseTree.Source
import ScopeHints.Proofs.Scope.Recorded

/-! The nodes of a parse tree in preorder, and the search for the first one that stands for an error.
The search goes only where the nodes are marked; if the marks tell all places below which there is
an error, it finds the first one of all. -/
namespace ScopeHints.Node

theorem induction_on_children {P : Node → Prop} (h : ∀ n, (∀ c ∈ n.children, P c) → P n) (n : Node) :
    P n :=
  h n fun c _ => induction_on_children h c
termination_by n.weight
decreasing_by
  have hc : c.weight ≤ weights n.children := weight_le_weights ‹_›
  have hn := n.weight_eq
  omega

/-! ### Preorder -/

mutual

def preorder : Node → List Node
  | ⟨kind, named, missing, hasError, firstByte, endByte, row, field, children⟩ =>
    ⟨kind, named, missing, hasError, firstByte, endByte, row, field, children⟩ :: preorderAll children

def preorderAll : List Node → List Node
  | [] => []
  | n :: ns => preorder n ++ preorderAll ns

end

theorem preorderAll_eq (ns : List Node) : preorderAll ns = ns.flatMap preorder := by
  induction ns with
  | nil => rfl
  | cons n ns ih => rw [preorderAll, ih, List.flatMap_cons]

theorem preorder_eq (n : Node) : n.preorder = n :: n.children.flatMap preorder := by
  rw [← preorderAll_eq]
  cases n
  rw [preorder]

theorem mem_preorder_iff {n m : Node} : m ∈ n.preorder ↔ n.Within m := by
  induction n using induction_on_children with
  | h n ih =>
    rw [preorder_eq, List.mem_cons, List.mem_flatMap]
    constructor
    · rintro (rfl | ⟨c, hc, hm⟩)
      · exact .root
      · exact ((ih c hc).1 hm).of_child hc
    · intro h
      obtain rfl | ⟨c, hc, hm⟩ := h.root_or_child
      · exact .inl rfl
      · exact .inr ⟨c, hc, (ih c hc).2 hm⟩

/-! ### The first fault -/

def isSuspect (n : Node) : Bool := n.hasError || n.missing

/-- The marks of a tree tell where its faults are: an error is marked, and so are each node with a
fault below it and the root of a tree with a fault. -/
structure Marked (root : Node) : Prop where
  error : ∀ n ∈ root.preorder, n.kind = "ERROR" → n.hasError = true
  below : ∀ n ∈ root.preorder, (∃ f ∈ n.children.flatMap preorder, f.isFault = true) →
    n.hasError = true
  root : (∃ f ∈ root.preorder, f.isFault = true) → root.hasError = true

theorem Marked.isSuspect {root n f : Node} (h : root.Marked) (hn : n ∈ root.preorder)
    (hf : f ∈ n.preorder) (hfault : f.isFault = true) : n.isSuspect = true := by
  rw [Node.isSuspect, Bool.or_eq_true]
  rw [preorder_eq] at hf
  obtain rfl | hf := List.mem_cons.1 hf
  · rw [isFault, Bool.or_eq_true, decide_eq_true_iff] at hfault
    exact hfault.imp_left (h.error f hn)
  · exact .inl (h.below n hn ⟨f, hf, hfault⟩)

theorem firstFault?_eq (n : Node) :
    n.firstFault? = if n.isFault then some n else firstFaultIn n.children := by
  cases n
  rw [firstFault?]
  rfl

theorem firstFaultIn_eq (ns : List Node) :
    firstFaultIn ns = (ns.filter isSuspect).findSome? firstFault? := by
  induction ns with
  | nil => rfl
  | cons n ns ih =>
    rw [firstFaultIn, ih]
    by_cases hn : n.isSuspect = true
    · have hmarked : (n.hasError || n.missing) = true := hn
      rw [List.filter_cons_of_pos hn, List.findSome?_cons, if_pos hmarked]
      cases n.firstFault? <;> rfl
    · have hmarked : ¬ (n.hasError || n.missing) = true := hn
      rw [List.filter_cons_of_neg hn, if_neg hmarked]

/-- What the search finds is a node of the tree, whatever the marks are. -/
theorem within_of_firstFault? {n f : Node} (h : n.firstFault? = some f) : n.Within f := by
  induction n using induction_on_children with
  | h n ih =>
    rw [firstFault?_eq] at h
    split at h
    · obtain rfl := Option.some.inj h
      exact .root
    · rw [firstFaultIn_eq] at h
      obtain ⟨c, hc, hf⟩ := List.exists_of_findSome?_eq_some h
      have hchild := (List.mem_filter.1 hc).1
      exact (ih c hchild hf).of_child hchild

theorem Marked.findSome?_eq_find? {root : Node} (h : root.Marked) {ns : List Node}
    (hns : ∀ c ∈ ns, c ∈ root.preorder ∧ c.firstFault? = c.preorder.find? isFault) :
    (ns.filter Node.isSuspect).findSome? firstFault? = (ns.flatMap preorder).find? isFault := by
  induction ns with
  | nil => rfl
  | cons c ns ih =>
    obtain ⟨⟨hmem, hc⟩, hns⟩ := List.forall_mem_cons.1 hns
    rw [List.flatMap_cons, List.find?_append, ← ih hns]
    by_cases hsuspect : c.isSuspect = true
    · rw [List.filter_cons_of_pos hsuspect, List.findSome?_cons, hc]
      cases c.preorder.find? isFault <;> rfl
    · have hnone : c.preorder.find? isFault = none := by
        refine List.find?_eq_none.2 fun f hf hfault => ?_
        exact hsuspect (h.isSuspect hmem hf hfault)
      rw [List.filter_cons_of_neg hsuspect, hnone, Option.none_or]

theorem Marked.firstFault?_eq_find? {root : Node} (h : root.Marked) {n : Node}
    (hn : n ∈ root.preorder) : n.firstFault? = n.preorder.find? isFault := by
  induction n using induction_on_children with
  | h n ih =>
    have hchildren : ∀ c ∈ n.children,
        c ∈ root.preorder ∧ c.firstFault? = c.preorder.find? isFault := by
      intro c hc
      have hmem : c ∈ root.preorder := mem_preorder_iff.2 ((mem_preorder_iff.1 hn).child hc)
      exact ⟨hmem, ih c hc hmem⟩
    rw [firstFault?_eq, firstFaultIn_eq, h.findSome?_eq_find? hchildren, preorder_eq,
      List.find?_cons]
    cases n.isFault <;> rfl

/-! ### The search with a stack -/

/-- The search with a stack of nodes, cut off after some turns. The top of the stack is its end. -/
def search : Nat → List Node → Option (Option Node)
  | 0, _ => none
  | turns + 1, stack =>
    match stack.getLast? with
    | none => some none
    | some n =>
      if n.isFault then some (some n)
      else search turns (stack.dropLast ++ n.children.reverse.filter isSuspect)

theorem search_reverse (turns : Nat) (ns : List Node) (h : weights ns < turns) :
    search turns ns.reverse = some (ns.findSome? firstFault?) := by
  induction turns generalizing ns with
  | zero => omega
  | succ turns ih =>
    cases ns with
    | nil => rfl
    | cons n ns =>
      have htop : (n :: ns).reverse.getLast? = some n := by simp
      have hrest : (n :: ns).reverse.dropLast = ns.reverse := by simp
      have hpushed : ns.reverse ++ n.children.reverse.filter isSuspect =
          (n.children.filter isSuspect ++ ns).reverse := by
        rw [List.reverse_append, List.filter_reverse]
      simp only [search, htop, hrest, hpushed, List.findSome?_cons, firstFault?_eq n]
      split
      · rfl
      · have hfilter := weights_filter_le isSuspect n.children
        have hweight := n.weight_eq
        rw [weights_cons] at h
        rw [ih _ (by rw [weights_append]; omega), List.findSome?_append, ← firstFaultIn_eq]
        cases firstFaultIn n.children <;> rfl

theorem search_root (root : Node) : search (root.weight + 1) [root] = some root.firstFault? := by
  have h := search_reverse (root.weight + 1) [root] (by simp)
  rw [List.findSome?_singleton] at h
  exact h

end ScopeHints.Node
