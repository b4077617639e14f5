import Mathlib.Data.List.Basic
import ScopeHints.Proofs.Scope.Recorded

/-! A build with a work stack is the plain recursion over the parse tree: each node is recorded,
then everything that it leaves to be treated is treated completely, before the next node. A build
fails on a kind of node exactly when this recursion meets a node of a kind that no table has. -/
namespace ScopeHints

/-- The kind is in none of the tables of visited nodes. -/
def Node.Unlisted (n : Node) : Prop :=
  n.named = true ∧ shapedKinds.lookup n.kind = none ∧ n.kind ∉ passKinds ∧ n.kind ∉ leafKinds

namespace Builder
variable {src : Source} {tree tree' : ScopeTree} {task u v : Task} {tasks rest : List Task}
  {p : Plan} {inner : Nat}

/-! ### The stack and the recursion -/

def blank (src : Source) : ScopeTree := .ofRange ⟨0, src.length⟩

/-- What a treated node pushes. The last one pushed is treated first. -/
def pushes (p : Plan) (outer inner : Nat) : List Task := (tasksOf p outer inner).reverse

theorem reverse_pushes (p : Plan) (outer inner : Nat) :
    (pushes p outer inner).reverse = tasksOf p outer inner :=
  List.reverse_reverse _

/-- The loop over the stack, cut off after some turns. The top of the stack is its end. -/
def loop (src : Source) : Nat → ScopeTree → List Task → Option (Except BuildError ScopeTree)
  | 0, tree, stack => if stack.isEmpty then some (.ok tree) else none
  | turns + 1, tree, stack =>
    match stack.getLast? with
    | none => some (.ok tree)
    | some task =>
      match task.node.plan task.treatment with
      | none => some (.error (unknown src task.node))
      | some p =>
        match apply src tree task p with
        | .error e => some (.error e)
        | .ok (inner, tree) =>
          loop src turns tree (stack.dropLast ++ pushes p task.scope inner)

theorem pending_cons (task : Task) (tasks : List Task) :
    pending (task :: tasks) = task.node.weight + pending tasks := by
  simp [pending]

theorem pending_pushes (h : task.node.plan task.treatment = some p) (outer inner : Nat) :
    pending (pushes p outer inner).reverse < task.node.weight := by
  rw [reverse_pushes, pending_tasksOf]
  exact Plan.load_plan_lt h

mutual

/-- Records what a node contributes at once, then treats what it pushed, the last one first. -/
def traverse (src : Source) (tree : ScopeTree) (task : Task) : Except BuildError ScopeTree :=
  match _h : task.node.plan task.treatment with
  | none => .error (unknown src task.node)
  | some p =>
    match apply src tree task p with
    | .error e => .error e
    | .ok (inner, tree) => traverseAll src tree (pushes p task.scope inner).reverse
termination_by (task.node.weight, 0)
decreasing_by exact Prod.Lex.left _ _ (pending_pushes _h _ _)

def traverseAll (src : Source) (tree : ScopeTree) : List Task → Except BuildError ScopeTree
  | [] => .ok tree
  | task :: tasks => do
    let tree ← traverse src tree task
    traverseAll src tree tasks
termination_by tasks => (pending tasks, 1)
decreasing_by
  · rw [pending_cons]
    exact Prod.Lex.right' _ (Nat.le_add_right _ _) Nat.one_pos
  · rw [pending_cons]
    exact Prod.Lex.left _ _ (Nat.lt_add_of_pos_left task.node.weight_pos)

end

theorem traverse_of_unknown (hp : task.node.plan task.treatment = none) :
    traverse src tree task = .error (unknown src task.node) := by
  rw [traverse]
  split
  · rfl
  · simp_all

theorem traverse_of_refused {e : BuildError} (hp : task.node.plan task.treatment = some p)
    (happly : apply src tree task p = .error e) : traverse src tree task = .error e := by
  rw [traverse]
  split
  · simp_all
  · simp_all

theorem traverse_of_applied (hp : task.node.plan task.treatment = some p)
    (happly : apply src tree task p = .ok (inner, tree')) :
    traverse src tree task = traverseAll src tree' (tasksOf p task.scope inner) := by
  rw [traverse]
  split
  · simp_all
  · simp_all [reverse_pushes]

theorem traverseAll_append (tree : ScopeTree) (l m : List Task) : traverseAll src tree (l ++ m) =
    (traverseAll src tree l >>= fun tree => traverseAll src tree m) := by
  induction l generalizing tree with
  | nil =>
    rw [traverseAll]
    rfl
  | cons task l ih =>
    rw [List.cons_append, traverseAll, traverseAll]
    cases traverse src tree task with
    | error e => rfl
    | ok tree => exact ih tree

theorem run_eq_traverseAll (tree : ScopeTree) (tasks : List Task) :
    run src tree tasks = traverseAll src tree tasks := by
  fun_induction run src tree tasks with
  | case1 tree => rw [traverseAll]
  | case2 tree task rest hp =>
    rw [traverseAll, traverse_of_unknown hp]
    rfl
  | case3 tree task rest p hp e happly =>
    rw [traverseAll, traverse_of_refused hp happly]
    rfl
  | case4 tree task rest p hp inner tree₁ happly ih =>
    rw [ih, traverseAll_append, traverseAll, traverse_of_applied hp happly]

theorem exists_turn {turns : Nat} (h : pending (task :: rest) ≤ turns) :
    ∃ left, turns = left + 1 ∧ ∀ l, pending l < task.node.weight → pending (l ++ rest) ≤ left := by
  have hpos := task.node.weight_pos
  rw [pending_cons] at h
  refine ⟨turns - 1, by omega, ?_⟩
  intro l hl
  rw [pending_append]
  omega

/-- A turn takes the weight of a node off the stack and puts less on it, so that as many turns are
enough as the waiting nodes weigh. -/
theorem loop_reverse (turns : Nat) (tree : ScopeTree) (tasks : List Task)
    (h : pending tasks ≤ turns) :
    loop src turns tree tasks.reverse = some (run src tree tasks) := by
  fun_induction run src tree tasks generalizing turns with
  | case1 tree => cases turns <;> rfl
  | case2 tree task rest hp =>
    obtain ⟨left, rfl, -⟩ := exists_turn h
    simp [loop, hp]
  | case3 tree task rest p hp e happly =>
    obtain ⟨left, rfl, -⟩ := exists_turn h
    simp [loop, hp, happly]
  | case4 tree task rest p hp inner tree₁ happly ih =>
    obtain ⟨left, rfl, hleft⟩ := exists_turn h
    have hless : pending (tasksOf p task.scope inner) < task.node.weight := by
      rw [pending_tasksOf]
      exact Plan.load_plan_lt hp
    have hnext := ih left (hleft _ hless)
    rw [List.reverse_append] at hnext
    simp [loop, hp, happly, pushes, hnext]

/-! ### Kinds of nodes that no table has -/

theorem ofKind_eq_unknown_iff (kind : String) : Shape.ofKind kind = .unknown ↔
    shapedKinds.lookup kind = none ∧ kind ∉ passKinds ∧ kind ∉ leafKinds := by
  have hshaped : ∀ k ∈ shapedKinds, k.2 ≠ .unknown := by decide
  rw [Shape.ofKind]
  cases h : shapedKinds.lookup kind with
  | none =>
    by_cases hpass : kind ∈ passKinds
    · simp [hpass]
    · by_cases hleaf : kind ∈ leafKinds <;> simp [hpass, hleaf]
  | some shape =>
    obtain ⟨l, m, hsplit, -⟩ := List.lookup_eq_some_iff.1 h
    have hne := hshaped (kind, shape) (by rw [hsplit]; simp)
    simpa using hne

theorem visitPlan_eq_none_iff (n : Node) :
    n.visitPlan = none ↔ Shape.ofKind n.kind = .unknown := by
  rw [Node.visitPlan]
  cases Shape.ofKind n.kind <;> simp

theorem planVisit_eq_none_iff (n : Node) : n.planVisit = none ↔ n.Unlisted := by
  rw [Node.planVisit, Node.Unlisted, ← ofKind_eq_unknown_iff, ← visitPlan_eq_none_iff]
  cases n.named <;> simp

theorem ofKind_eq_reference {n : Node} (h : n.Unlisted) :
    PatternShape.ofKind n.kind = .reference := by
  obtain ⟨-, hshaped, hpass, -⟩ := h
  have hlisted : ∀ k ∈ patternKinds, (shapedKinds.lookup k.1).isSome ∨ k.1 ∈ passKinds := by decide
  rw [PatternShape.ofKind]
  cases h : patternKinds.lookup n.kind with
  | none => rfl
  | some shape =>
    obtain ⟨l, m, hsplit, -⟩ := List.lookup_eq_some_iff.1 h
    obtain hs | hp := hlisted (n.kind, shape) (by rw [hsplit]; simp)
    · rw [hshaped] at hs
      cases hs
    · exact absurd hp hpass

/-- A node has no plan exactly when its kind is in no table. In a pattern, too: the kinds of
patterns are in one. -/
theorem plan_eq_none_iff (t : Treatment) (n : Node) : n.plan t = none ↔ n.Unlisted := by
  cases t with
  | visit => exact planVisit_eq_none_iff n
  | bind =>
    change n.planBind = none ↔ _
    rw [Node.planBind]
    constructor
    · intro h
      split at h
      -- The shapes of patterns have plans of their own; only a reference is visited.
      case h_5 => exact (planVisit_eq_none_iff n).1 h
      all_goals cases h
    · intro h
      rw [ofKind_eq_reference h]
      exact (planVisit_eq_none_iff n).2 h

/-! ### What the recursion meets -/

inductive Meets (src : Source) : ScopeTree → List Task → Task → Prop
  | first (tree : ScopeTree) (task : Task) (rest : List Task) : Meets src tree (task :: rest) task
  | inside {tree tree' : ScopeTree} {task u : Task} {rest : List Task} {p : Plan} {inner : Nat}
      (hp : task.node.plan task.treatment = some p)
      (happly : apply src tree task p = .ok (inner, tree'))
      (h : Meets src tree' (pushes p task.scope inner).reverse u) : Meets src tree (task :: rest) u
  | later {tree tree' : ScopeTree} {task u : Task} {rest : List Task}
      (htask : traverse src tree task = .ok tree') (h : Meets src tree' rest u) :
      Meets src tree (task :: rest) u

theorem meets_nil : ¬ Meets src tree [] u := by
  intro h
  cases h

theorem meets_append_iff {l m : List Task} : Meets src tree (l ++ m) u ↔
    Meets src tree l u ∨ ∃ tree', traverseAll src tree l = .ok tree' ∧ Meets src tree' m u := by
  induction l generalizing tree with
  | nil => simp [meets_nil, traverseAll]
  | cons task l ih =>
    rw [traverseAll]
    constructor
    · intro h
      cases h with
      | first => exact .inl (.first _ _ _)
      | inside hp happly h => exact .inl (.inside hp happly h)
      | later htask h =>
        rw [htask]
        obtain h | h := ih.1 h
        · exact .inl (.later htask h)
        · exact .inr h
    · rintro (h | ⟨tree', hl, h⟩)
      · cases h with
        | first => exact .first _ _ _
        | inside hp happly h => exact .inside hp happly h
        | later htask h => exact .later htask (ih.2 (.inl h))
      · obtain ⟨tree₁, htask, hl⟩ := bind_eq_ok hl
        exact .later htask (ih.2 (.inr ⟨tree', hl, h⟩))

theorem meets_cons_iff (hp : task.node.plan task.treatment = some p)
    (happly : apply src tree task p = .ok (inner, tree')) : Meets src tree (task :: rest) u ↔
      u = task ∨ Meets src tree' (tasksOf p task.scope inner ++ rest) u := by
  rw [meets_append_iff, ← traverse_of_applied hp happly]
  constructor
  · intro h
    cases h with
    | first => exact .inl rfl
    | inside hp' happly' h =>
      obtain rfl : p = _ := Option.some.inj (hp.symm.trans hp')
      obtain ⟨rfl, rfl⟩ := Prod.mk.inj (Except.ok.inj (happly.symm.trans happly'))
      rw [reverse_pushes] at h
      exact .inr (.inl h)
    | later htask h => exact .inr (.inr ⟨_, htask, h⟩)
  · rintro (rfl | h | ⟨tree₁, htask, h⟩)
    · exact .first tree u rest
    · rw [← reverse_pushes] at h
      exact .inside hp happly h
    · exact .later htask h

theorem meets_cons_of_error {e : BuildError} (htask : traverse src tree task = .error e)
    (hstop : ∀ p, task.node.plan task.treatment = some p → ∃ e, apply src tree task p = .error e) :
    Meets src tree (task :: rest) u ↔ u = task := by
  constructor
  · intro h
    cases h with
    | first => rfl
    | inside hp happly h =>
      obtain ⟨e, he⟩ := hstop _ hp
      rw [he] at happly
      cases happly
    | later h =>
      rw [htask] at h
      cases h
  · rintro rfl
    exact .first tree u rest

theorem meets_of_unknown (hp : task.node.plan task.treatment = none) :
    Meets src tree (task :: rest) u ↔ u = task :=
  meets_cons_of_error (traverse_of_unknown hp) (by simp [hp])

theorem meets_of_refused {e : BuildError} (hp : task.node.plan task.treatment = some p)
    (happly : apply src tree task p = .error e) : Meets src tree (task :: rest) u ↔ u = task :=
  meets_cons_of_error (traverse_of_refused hp happly) (by simp [hp, happly])

/-! ### Faults of a step -/

section
variable {kind : String} {offset : Nat}

theorem bind_ne_error {ε α β : Type} {x : Except ε α} {f : α → Except ε β} {e : ε}
    (hx : x ≠ .error e) (hf : ∀ a, f a ≠ .error e) : (x >>= f) ≠ .error e := by
  cases x with
  | error e' => exact fun h => hx (congrArg Except.error (Except.error.inj h))
  | ok a => exact hf a

theorem refused_ne {α : Type} (x : Except ScopeTree.Refusal α) :
    x.mapError BuildError.refused ≠ .error (.unknownKind kind offset) := by
  cases x <;> simp [Except.mapError]

theorem occurrence_ne (n : Node) : occurrence src n ≠ .error (.unknownKind kind offset) := by
  rw [occurrence]
  split <;> simp

theorem span_ne (n : Node) : span src n ≠ .error (.unknownKind kind offset) := by
  rw [span]
  split <;> simp

theorem record_ne (tree : ScopeTree) (scope : Nat) (fact : Fact) :
    record src tree scope fact ≠ .error (.unknownKind kind offset) := by
  cases fact with
  | declaration n =>
    exact bind_ne_error (occurrence_ne n) fun o => bind_ne_error (refused_ne _) fun _ => refused_ne _
  | identifier n => exact bind_ne_error (occurrence_ne n) fun _ => refused_ne _
  | property n => exact bind_ne_error (occurrence_ne n) fun _ => refused_ne _
  | association object property => exact refused_ne _

theorem recordAll_ne (outer inner : Nat) (tree : ScopeTree) (facts : List (Place × Fact)) :
    recordAll src outer inner tree facts ≠ .error (.unknownKind kind offset) := by
  induction facts generalizing tree with
  | nil => simp [recordAll]
  | cons f facts ih => exact bind_ne_error (record_ne tree _ f.2) ih

theorem enter_ne (tree : ScopeTree) (n : Node) (outer : Nat) (opens : Option ScopeKind) :
    enter src tree n outer opens ≠ .error (.unknownKind kind offset) := by
  cases opens with
  | none => simp [enter]
  | some kind => exact bind_ne_error (span_ne n) fun _ => refused_ne _

theorem apply_ne (tree : ScopeTree) (task : Task) (p : Plan) :
    apply src tree task p ≠ .error (.unknownKind kind offset) := by
  refine bind_ne_error (enter_ne tree task.node task.scope p.opens) ?_
  rintro ⟨inner, tree⟩
  refine bind_ne_error (recordAll_ne task.scope inner tree p.facts) ?_
  intro tree
  simp [pure, Except.pure]

end

theorem listed_of_plan (hp : task.node.plan task.treatment = some p) : ¬ task.node.Unlisted := by
  rw [← plan_eq_none_iff task.treatment, hp]
  simp

/-- A run fails on a kind exactly when the recursion meets a node of a kind that no table has. -/
theorem run_eq_unknownKind_iff (tree : ScopeTree) (tasks : List Task) (kind : String)
    (offset : Nat) : run src tree tasks = .error (.unknownKind kind offset) ↔
      ∃ u, Meets src tree tasks u ∧ u.node.Unlisted ∧ u.node.kind = kind ∧
        src.startOf? u.node = some offset := by
  fun_induction run src tree tasks with
  | case1 tree => simp [meets_nil]
  | case2 tree task rest hp =>
    have hunlisted := (plan_eq_none_iff _ _).1 hp
    simp only [meets_of_unknown hp, exists_eq_left, hunlisted, true_and, unknown]
    cases src.startOf? task.node <;> simp
  | case3 tree task rest p hp e happly =>
    simp only [meets_of_refused hp happly, exists_eq_left, listed_of_plan hp, false_and, iff_false]
    -- The node is in a table, and a step that is refused names no kind.
    intro h
    rw [Except.error.inj h] at happly
    exact apply_ne tree task p happly
  | case4 tree task rest p hp inner tree₁ happly ih =>
    rw [ih]
    constructor
    · rintro ⟨u, hu, h⟩
      exact ⟨u, (meets_cons_iff hp happly).2 (.inr hu), h⟩
    · rintro ⟨u, hu, h⟩
      obtain rfl | hu := (meets_cons_iff hp happly).1 hu
      · exact absurd h.1 (listed_of_plan hp)
      · exact ⟨u, hu, h⟩

theorem meets_unlisted_unique (tree : ScopeTree) (tasks : List Task)
    (hu : Meets src tree tasks u) (hv : Meets src tree tasks v) (hukind : u.node.Unlisted)
    (hvkind : v.node.Unlisted) : u = v := by
  fun_induction run src tree tasks with
  | case1 tree => exact absurd hu meets_nil
  | case2 tree task rest hp =>
    rw [meets_of_unknown hp] at hu hv
    exact hu.trans hv.symm
  | case3 tree task rest p hp e happly =>
    rw [meets_of_refused hp happly] at hu hv
    exact hu.trans hv.symm
  | case4 tree task rest p hp inner tree₁ happly ih =>
    obtain rfl | hu := (meets_cons_iff hp happly).1 hu
    · exact absurd hukind (listed_of_plan hp)
    · obtain rfl | hv := (meets_cons_iff hp happly).1 hv
      · exact absurd hvkind (listed_of_plan hp)
      · exact ih hu hv

end Builder

open Builder in
theorem buildScopes_eq_unknownKind_iff (src : Source) (root : Node) (kind : String) (offset : Nat) :
    buildScopes src root = .error (.unknownKind kind offset) ↔
      ∃ u, Meets src (blank src) (start root) u ∧ u.node.Unlisted ∧ u.node.kind = kind ∧
        src.startOf? u.node = some offset := by
  rw [← run_eq_unknownKind_iff]
  change (run src (blank src) (start root)).map ScopeTree.freeze = _ ↔ _
  cases run src (blank src) (start root) <;> simp [Except.map]

open Builder in
/-- A build ends, and gives what the recursion over the parse tree gives: the same records, or the
same fault. It fails on a kind exactly when the recursion meets a node of a kind that no table has,
and it reports the first such node. -/
theorem buildScopes_traversal (src : Source) (root : Node) :
    (∃ turns, loop src turns (blank src) (start root).reverse =
      some (traverseAll src (blank src) (start root))) ∧
    buildScopes src root = (traverseAll src (blank src) (start root)).map ScopeTree.freeze ∧
    (∀ kind offset, buildScopes src root = .error (.unknownKind kind offset) ↔
      ∃ u, Meets src (blank src) (start root) u ∧ u.node.Unlisted ∧ u.node.kind = kind ∧
        src.startOf? u.node = some offset) ∧
    ∀ u v, Meets src (blank src) (start root) u → Meets src (blank src) (start root) v →
      u.node.Unlisted → v.node.Unlisted → u = v := by
  have hrun : run src (blank src) (start root) = traverseAll src (blank src) (start root) :=
    run_eq_traverseAll (blank src) (start root)
  have hbuild : buildScopes src root = (run src (blank src) (start root)).map ScopeTree.freeze := rfl
  refine ⟨⟨pending (start root), ?_⟩, ?_, buildScopes_eq_unknownKind_iff src root, ?_⟩
  · rw [← hrun]
    exact loop_reverse _ (blank src) (start root) (Nat.le_refl _)
  · rw [hbuild, hrun]
  · intro u v hu hv
    exact meets_unlisted_unique (blank src) (start root) hu hv

end ScopeHints
