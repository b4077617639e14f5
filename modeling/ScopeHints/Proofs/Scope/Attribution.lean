import ScopeHints.Proofs.Scope.Builder
import ScopeHints.Proofs.Scope.Opener
import ScopeHints.Proofs.Scope.Query
import ScopeHints.Proofs.Scope.Recorded
import ScopeHints.Proofs.Text.Boundary

/-! A name that is recorded in a scope stands in it and in none of its children. Only the name of a
function declaration or of a method stands in the scope that its node opens, which is a child of the
scope in which the name is recorded. -/
namespace ScopeHints

namespace Builder
open ScopeTree
variable {src : Source} {bytes : Nat} {tree tree' : ScopeTree} {root m : Node} {task : Task}
  {rest : List Task} {p : Plan} {inner i : Nat}

/-- A node lies in a scope, apart from the scopes below it and from the nodes that wait in it. -/
structure Rests (src : Source) (tree : ScopeTree) (tasks : List Task) (i : Nat) (m : Node) :
    Prop where
  bound : i < tree.size
  covers : (tree.rangeOf i).Covers (src.spanOf m)
  free : ∀ c ∈ tree.childrenOf i, (tree.rangeOf c).Apart (src.spanOf m)
  apart : ∀ t ∈ tasks, t.scope = i → (src.spanOf t.node).Apart (src.spanOf m)

structure Opened (src : Source) (task : Task) (tree tree' : ScopeTree) : Prop where
  size : tree'.size = tree.size + 1
  rangeOf : ∀ i, i < tree.size → tree'.rangeOf i = tree.rangeOf i
  rangeOf_new : tree'.rangeOf tree.size = src.spanOf task.node
  mem_childrenOf : ∀ i c, c ∈ tree'.childrenOf i ↔
    c ∈ tree.childrenOf i ∨ (i = task.scope ∧ c = tree.size)

theorem Invariant.apply_shape (hr : src.Regular bytes) (h : Invariant src bytes tree (task :: rest))
    (happly : apply src tree task p = .ok (inner, tree')) :
    (p.opens = none ∧ inner = task.scope ∧ SameShape tree tree') ∨
      ∃ kind, p.opens = some kind ∧ inner = tree.size ∧ Opened src task tree tree' := by
  obtain ⟨hplaced, hwithin, hscope, -, -⟩ := h.ready task List.mem_cons_self
  obtain hsame | ⟨kind, range, before, after, middle, ho, hrange, rfl, hslot, hadded, hshape⟩ :=
    apply_cases h.sound.wired hscope happly
  · exact .inl hsame
  · rw [span_eq hr hplaced hwithin] at hrange
    obtain rfl := Except.ok.inj hrange
    refine .inr ⟨kind, ho, rfl, hshape.size.trans hadded.size, ?_, ?_, ?_⟩
    · intro i hi
      rw [hshape.rangeOf, hadded.rangeOf_of_lt hi]
    · rw [hshape.rangeOf, hadded.rangeOf_new]
    · intro i c
      rw [hshape.childrenOf]
      exact hadded.mem_childrenOf hslot.siblings

theorem Rests.step (hr : src.Regular bytes) (h : Invariant src bytes tree (task :: rest))
    (hp : task.node.plan task.treatment = some p)
    (happly : apply src tree task p = .ok (inner, tree'))
    (hm : Rests src tree (task :: rest) i m) :
    Rests src tree' (tasksOf p task.scope inner ++ rest) i m := by
  obtain ⟨hplaced, hwithin, -, -, -⟩ := h.ready task List.mem_cons_self
  have hspread := Plan.spread_plan hplaced hp
  have hrest : ∀ t ∈ rest, t.scope = i → (src.spanOf t.node).Apart (src.spanOf m) :=
    fun t ht => hm.apart t (List.mem_cons_of_mem task ht)
  obtain ⟨-, rfl, hshape⟩ | ⟨kind, ho, rfl, hopened⟩ := h.apply_shape hr happly
  · refine ⟨by rw [hshape.size]; exact hm.bound, by rw [hshape.rangeOf]; exact hm.covers,
      by rw [hshape.childrenOf, hshape.rangeOf]; exact hm.free, List.forall_mem_append.2 ⟨?_, hrest⟩⟩
    intro t ht hscope
    obtain ⟨u, hu, hnode, hat⟩ := mem_tasksOf ht
    have hsame : task.scope = i := by
      rw [← hscope, hat]
      cases u.1 <;> rfl
    have hcovers := hr.spanOf_covers hwithin ((hspread.below u hu).holds hplaced)
    rw [hnode]
    exact ((hm.apart task List.mem_cons_self hsame).symm.mono hcovers).symm
  · -- The new scope is that of a waiting node, and what this leaves to be treated waits inside it.
    have hbound := hm.bound
    refine ⟨by rw [hopened.size]; omega, by rw [hopened.rangeOf i hbound]; exact hm.covers, ?_,
      List.forall_mem_append.2 ⟨?_, hrest⟩⟩
    · intro c hc
      obtain hc | ⟨hsame, rfl⟩ := (hopened.mem_childrenOf i c).1 hc
      · rw [hopened.rangeOf c (h.sound.lt_size hc)]
        exact hm.free c hc
      · rw [hopened.rangeOf_new]
        exact hm.apart task List.mem_cons_self hsame.symm
    · intro t ht hscope
      obtain ⟨u, hu, -, hat⟩ := mem_tasksOf ht
      rw [Plan.inside_of_opens hp ho u hu] at hat
      have hnew : t.scope = tree.size := hat
      omega

theorem Invariant.rests_inner (hr : src.Regular bytes) (h : Invariant src bytes tree (task :: rest))
    (hp : task.node.plan task.treatment = some p)
    (happly : apply src tree task p = .ok (inner, tree')) (hm : task.node.Holds m)
    (hclear : Plan.Clear p.tasks m) :
    Rests src tree' (tasksOf p task.scope inner ++ rest) inner m := by
  obtain ⟨hplaced, hwithin, hscope, hcovers, hfree⟩ := h.ready task List.mem_cons_self
  obtain ⟨hhead, -⟩ := List.pairwise_cons.1 h.apart
  have hspread := Plan.spread_plan hplaced hp
  have hspan := hr.spanOf_covers hwithin hm
  have hnew : ∀ t ∈ tasksOf p task.scope inner, t.scope = inner →
      (src.spanOf t.node).Apart (src.spanOf m) := by
    intro t ht _
    obtain ⟨u, hu, hnode, -⟩ := mem_tasksOf ht
    have hholds := (hspread.below u hu).holds hplaced
    rw [hnode]
    exact (hr.spanOf_apart hm.2 hholds.2 (Nat.le_trans hm.1.2 hwithin)
      (Nat.le_trans hholds.1.2 hwithin) (hclear u hu)).symm
  obtain ⟨-, rfl, hshape⟩ | ⟨kind, ho, rfl, hopened⟩ := h.apply_shape hr happly
  · refine ⟨by rw [hshape.size]; exact hscope, by rw [hshape.rangeOf]; exact hcovers.trans hspan, ?_,
      List.forall_mem_append.2 ⟨hnew, ?_⟩⟩
    · rw [hshape.childrenOf, hshape.rangeOf]
      exact fun c hc => (hfree c hc).mono hspan
    · intro t ht hsame
      exact ((hhead t ht hsame.symm).symm.mono hspan)
  · refine ⟨by rw [hopened.size]; omega, by rw [hopened.rangeOf_new]; exact hspan, ?_,
      List.forall_mem_append.2 ⟨hnew, ?_⟩⟩
    · intro c hc
      obtain hc | ⟨hsame, -⟩ := (hopened.mem_childrenOf tree.size c).1 hc
      · rw [childrenOf_of_size_le (Nat.le_refl _)] at hc
        cases hc
      · omega
    · intro t ht hsame
      have hlt := (h.ready t (List.mem_cons_of_mem task ht)).scope
      omega

/-! ### Facts -/

/-- A fact rests in its scope, or it is on the name of the node that opened a child of it and rests
there. -/
def Seated (src : Source) (root : Node) (tree : ScopeTree) (tasks : List Task) (i : Nat)
    (fact : Fact) : Prop :=
  fact.At fun m => root.Within m ∧ (Rests src tree tasks i m ∨
    ∃ c ∈ tree.childrenOf i, Rests src tree tasks c m ∧
      ∃ d, root.scopeNodes[c]? = some d ∧ fact.Names d)

structure Attributing (src : Source) (bytes : Nat) (root : Node) (tree : ScopeTree)
    (tasks : List Task) : Prop where
  base : Invariant src bytes tree tasks
  within : ∀ t ∈ tasks, root.Within t.node
  waiting : root.scopeNodes.drop tree.size = openers (tasks.map fun t => (t.treatment, t.node))
  opened : ∀ c, 0 < c → c < tree.size →
    ∃ d, root.scopeNodes[c]? = some d ∧ root.Within d ∧ tree.rangeOf c = src.spanOf d
  filed : tree.Filed src (Seated src root tree tasks)

theorem map_tasksOf (p : Plan) (outer inner : Nat) :
    (tasksOf p outer inner).map (fun t => (t.treatment, t.node)) = p.tasks.map Prod.snd := by
  simp [tasksOf, Function.comp_def]

theorem Attributing.next (h : Attributing src bytes root tree (task :: rest))
    (hp : task.node.plan task.treatment = some p) (inner : Nat) :
    root.scopeNodes.drop tree.size = (p.opens.toList.map fun _ => task.node) ++
      openers ((tasksOf p task.scope inner ++ rest).map fun t => (t.treatment, t.node)) := by
  rw [h.waiting, List.map_cons, openers_cons _ hp, List.map_append, map_tasksOf]

theorem Attributing.opener (h : Attributing src bytes root tree (task :: rest))
    (hp : task.node.plan task.treatment = some p) {kind : ScopeKind} (ho : p.opens = some kind) :
    root.scopeNodes[tree.size]? = some task.node := by
  have hfirst := congrArg (fun l => l[0]?) (h.next hp task.scope)
  simpa [ho, List.getElem?_drop] using hfirst

theorem Invariant.children_kept (hr : src.Regular bytes)
    (h : Invariant src bytes tree (task :: rest))
    (happly : apply src tree task p = .ok (inner, tree')) {c : Nat} (hc : c ∈ tree.childrenOf i) :
    c ∈ tree'.childrenOf i := by
  obtain ⟨-, -, hs⟩ | ⟨kind, -, -, hopened⟩ := h.apply_shape hr happly
  · rw [hs.childrenOf]
    exact hc
  · exact (hopened.mem_childrenOf i c).2 (.inl hc)

theorem Seated.step (hr : src.Regular bytes) (h : Invariant src bytes tree (task :: rest))
    (hp : task.node.plan task.treatment = some p)
    (happly : apply src tree task p = .ok (inner, tree')) {fact : Fact}
    (hfact : Seated src root tree (task :: rest) i fact) :
    Seated src root tree' (tasksOf p task.scope inner ++ rest) i fact := by
  refine hfact.imp ?_
  rintro m ⟨hm, hrests | ⟨c, hc, hrests, hnames⟩⟩
  · exact ⟨hm, .inl (hrests.step hr h hp happly)⟩
  · exact ⟨hm, .inr ⟨c, h.children_kept hr happly hc, hrests.step hr h hp happly, hnames⟩⟩

theorem Attributing.seated (hr : src.Regular bytes)
    (h : Attributing src bytes root tree (task :: rest))
    (hp : task.node.plan task.treatment = some p)
    (happly : apply src tree task p = .ok (inner, tree')) :
    ∀ f ∈ p.facts, Seated src root tree' (tasksOf p task.scope inner ++ rest)
      (scopeAt task.scope inner f.1) f.2 := by
  have hQ : Plan.Inherited root.Within := fun _ _ hn hc => hn.child hc
  obtain ⟨hplaced, -, -, -, -⟩ := h.base.ready task List.mem_cons_self
  intro f hf
  have hrests : f.2.At (Rests src tree' (tasksOf p task.scope inner ++ rest) inner) :=
    ((Plan.held_plan hplaced hp f hf).and (Plan.clear_plan hplaced hp f hf)).imp
      fun _ hm => h.base.rests_inner hr hp happly hm.1 hm.2
  refine ((hQ.facts (h.within task List.mem_cons_self) hp f hf).and hrests).imp ?_
  rintro m ⟨hm, hm'⟩
  refine ⟨hm, ?_⟩
  obtain ⟨-, hsame, -⟩ | ⟨kind, ho, hnew, hopened⟩ := h.base.apply_shape hr happly
  · have hat : scopeAt task.scope inner f.1 = inner := by
      rw [hsame]
      cases f.1 <;> rfl
    rw [hat]
    exact .inl hm'
  · cases hplace : f.1 with
    | inside => exact .inl hm'
    | here =>
      refine .inr ⟨inner, (hopened.mem_childrenOf _ _).2 (.inr ⟨rfl, hnew⟩), hm', task.node, ?_,
        Plan.names_of_opens hp ho f hf hplace⟩
      rw [hnew]
      exact h.opener hp ho

theorem Attributing.step (hr : src.Regular bytes) (h : Attributing src bytes root tree (task :: rest))
    (hp : task.node.plan task.treatment = some p)
    (happly : apply src tree task p = .ok (inner, tree')) :
    Attributing src bytes root tree' (tasksOf p task.scope inner ++ rest) := by
  have hQ : Plan.Inherited root.Within := fun _ _ hn hc => hn.child hc
  have hbase : Invariant src bytes tree' (tasksOf p task.scope inner ++ rest) := by
    obtain ⟨inner', tree'', hok, hinv⟩ := h.base.step hr hp
    rw [happly] at hok
    cases hok
    exact hinv
  obtain ⟨-, -, hscope, -, -⟩ := h.base.ready task List.mem_cons_self
  have hnode := h.within task List.mem_cons_self
  have hnext := h.next hp inner
  refine ⟨hbase, List.forall_mem_append.2 ⟨?_, ?_⟩, ?_, ?_, ?_⟩
  · intro t ht
    obtain ⟨u, hu, hn, -⟩ := mem_tasksOf ht
    rw [hn]
    exact hQ.tasks hnode hp u hu
  · exact fun t ht => h.within t (List.mem_cons_of_mem task ht)
  · obtain ⟨ho, -, hs⟩ | ⟨kind, ho, -, hopened⟩ := h.base.apply_shape hr happly
    · rw [hs.size, hnext, ho]
      rfl
    · rw [hopened.size, ← List.tail_drop, hnext, ho]
      rfl
  · intro c hc hlt
    obtain ⟨-, -, hs⟩ | ⟨kind, ho, -, hopened⟩ := h.base.apply_shape hr happly
    · rw [hs.rangeOf]
      exact h.opened c hc (by rw [← hs.size]; exact hlt)
    · rw [hopened.size] at hlt
      obtain hlt | rfl : c < tree.size ∨ c = tree.size := by omega
      · rw [hopened.rangeOf c hlt]
        exact h.opened c hc hlt
      · exact ⟨task.node, h.opener hp ho, hnode, hopened.rangeOf_new⟩
  · have hkeep : tree.Filed src
        (Seated src root tree' (tasksOf p task.scope inner ++ rest)) :=
      fun i r hrec => (h.filed i r hrec).mono fun _ hfact => hfact.step hr h.base hp happly
    exact apply_filed h.base.sound.wired hscope happly hkeep (h.seated hr hp happly)

theorem start_attributing (hr : src.Regular bytes) (hroot : root.WellPlaced)
    (hwithin : root.endByte ≤ bytes) :
    Attributing src bytes root (.ofRange ⟨0, src.length⟩) (start root) := by
  have hsize : (ofRange ⟨0, src.length⟩).size = 1 := rfl
  refine ⟨start_invariant hr hroot hwithin, ?_, ?_, ?_, filed_ofRange _⟩
  · intro t ht
    obtain ⟨n, hn, rfl⟩ := List.mem_map.1 ht
    exact Node.Within.root.child (List.mem_filter.1 hn).1
  · rw [hsize, start, List.map_map]
    rfl
  · intro c hc hlt
    omega

/-! ### Finished trees -/

structure Finished (src : Source) (root : Node) (tree : ScopeTree) : Prop where
  sound : tree.Sound src.length
  size : root.scopeNodes.length = tree.size
  opened : ∀ c, 0 < c → ∀ d, root.scopeNodes[c]? = some d →
    root.Within d ∧ tree.rangeOf c = src.spanOf d
  filed : tree.Filed src (Seated src root tree [])

theorem Attributing.finished (h : Attributing src bytes root tree []) :
    Finished src root tree.freeze := by
  have hrests : ∀ i m, Rests src tree [] i m → Rests src tree.freeze [] i m :=
    fun i m hm => ⟨hm.bound, hm.covers, hm.free, hm.apart⟩
  have hle : root.scopeNodes.length ≤ tree.size := by
    have hdrop := h.waiting
    rw [List.map_nil, openers] at hdrop
    exact List.drop_eq_nil_iff.1 hdrop
  have hsize : root.scopeNodes.length = tree.size := by
    have hpos := h.base.sound.nonempty
    obtain hone | hmore : tree.size = 1 ∨ 0 < tree.size - 1 := by omega
    · have hroot : 0 < root.scopeNodes.length := by simp [Node.scopeNodes]
      omega
    · obtain ⟨d, hd, -⟩ := h.opened (tree.size - 1) hmore (by omega)
      have hlt := (List.getElem?_eq_some_iff.1 hd).1
      omega
  refine ⟨h.base.sound.freeze, hsize, ?_, ?_⟩
  · intro c hc d hd
    have hlt := (List.getElem?_eq_some_iff.1 hd).1
    obtain ⟨d', hd', hwithin, hrange⟩ := h.opened c hc (by omega)
    obtain rfl := Option.some.inj (hd.symm.trans hd')
    exact ⟨hwithin, hrange⟩
  · intro i r hrec
    refine (h.filed i r hrec).mono fun fact hfact => hfact.imp ?_
    rintro m ⟨hm, hin | ⟨c, hc, hin, hnames⟩⟩
    · exact ⟨hm, .inl (hrests i m hin)⟩
    · exact ⟨hm, .inr ⟨c, hc, hrests c m hin, hnames⟩⟩

theorem buildScopes_finished (hr : src.Regular bytes) (hroot : root.WellPlaced)
    (hwithin : root.endByte ≤ bytes) (h : buildScopes src root = .ok tree) :
    Finished src root tree := by
  obtain ⟨built, rfl, hend⟩ := buildScopes_keeps
    (fun h hp happly => Attributing.step hr h hp happly) (start_attributing hr hroot hwithin) h
  exact hend.finished

theorem occurrence_position {o : Occurrence} (h : occurrence src m = .ok o) :
    o.position = src.charAt m.firstByte := by
  unfold occurrence at h
  unfold Source.charAt
  split at h
  · cases h
  · rename_i pos hpos
    rw [← Except.ok.inj h, show src.offsets.toChar? m.firstByte = some pos from hpos]
    rfl

theorem position_mem_spanOf (hm : src.charAt m.firstByte < src.charAt m.endByte) {o : Occurrence}
    (ho : occurrence src m = .ok o) : o.position ∈ src.spanOf m := by
  rw [occurrence_position ho]
  exact TextRange.mem_iff.2 ⟨by simp [Source.spanOf], by simp only [Source.spanOf]; omega⟩

/-- The scope in which a node rests is the innermost one at each position of the node. -/
theorem Rests.innermost {length : Nat} (hs : tree.Sound length) (h : Rests src tree [] i m)
    {pos : Int} (hpos : pos ∈ src.spanOf m) : tree.root.innermost? pos = some ⟨tree, i⟩ := by
  have hnone : tree.childHolding i pos = none := by
    cases hc : tree.childHolding i pos with
    | none => rfl
    | some c =>
      obtain ⟨hmem, hin⟩ := mem_of_firstHolding hc
      exact absurd hin ((h.free c hmem).not_mem hpos)
  exact innermost?_eq hs.wired hs.nested h.bound (h.covers.mem hpos) hnone

end Builder

/-- The innermost scope at a position is a scope of the tree or the child of it that the position
names. -/
structure Attributed (tree : ScopeTree) (i : Nat) (pos : Int) (named : Nat → Prop) : Prop where
  inside : pos ∈ tree.rangeOf i
  innermost : tree.root.innermost? pos = some ⟨tree, i⟩ ∨
    ∃ c ∈ tree.childrenOf i, tree.root.innermost? pos = some ⟨tree, c⟩
  child : ∀ c ∈ tree.childrenOf i, tree.root.innermost? pos = some ⟨tree, c⟩ ↔ named c

def NamesScope (src : Source) (root : Node) (name? : Node → Option Node) (o : Occurrence) (c : Nat) :
    Prop :=
  ∃ d m, root.scopeNodes[c]? = some d ∧ name? d = some m ∧ Builder.occurrence src m = .ok o

namespace Builder
open ScopeTree
variable {src : Source} {bytes : Nat} {tree : ScopeTree} {root m : Node} {i : Nat}

theorem Finished.attributed (hr : src.Regular bytes) (hroot : root.WellPlaced)
    (hwithin : root.endByte ≤ bytes)
    (hsolid : ∀ n, root.Within n → src.charAt n.firstByte < src.charAt n.endByte)
    (h : Finished src root tree) {name? : Node → Option Node}
    (hname : ∀ d m, name? d = some m → m ∈ d.children) (fact : Fact)
    (hfact : ∀ d, fact.Names d → name? d = some m) {o : Occurrence} (ho : occurrence src m = .ok o)
    (hm : root.Within m) (hseat : Rests src tree [] i m ∨ ∃ c ∈ tree.childrenOf i,
      Rests src tree [] c m ∧ ∃ d, root.scopeNodes[c]? = some d ∧ fact.Names d) :
    Attributed tree i o.position (NamesScope src root name? o) := by
  have hpos := position_mem_spanOf (hsolid m hm) ho
  have hinside : ∀ c ∈ tree.childrenOf i, NamesScope src root name? o c →
      o.position ∈ tree.rangeOf c := by
    rintro c hc ⟨d, m', hd, hm', ho'⟩
    obtain ⟨hdw, hrange⟩ := h.opened c (Nat.pos_of_ne_zero (h.sound.wired.ne_zero hc)) d hd
    have hdholds := hdw.holds hroot
    have hchild := hname d m' hm'
    rw [hrange]
    have hcovers := hr.spanOf_covers (Nat.le_trans hdholds.1.2 hwithin) (hdholds.2.child hchild)
    exact hcovers.mem (position_mem_spanOf (hsolid m' (hdw.child hchild)) ho')
  obtain hin | ⟨c, hc, hin, d, hd, hnames⟩ := hseat
  · have hinnermost := hin.innermost h.sound hpos
    refine ⟨hin.covers.mem hpos, .inl hinnermost, ?_⟩
    intro c hc
    constructor
    · intro hother
      rw [hinnermost] at hother
      obtain rfl : i = c := congrArg Scope.index (Option.some.inj hother)
      exact absurd (h.sound.wired.parent_lt hc) (Nat.lt_irrefl i)
    · intro hnamed
      exact absurd (hinside c hc hnamed) ((hin.free c hc).not_mem hpos)
  · have hinnermost := hin.innermost h.sound hpos
    have hposc := hin.covers.mem hpos
    refine ⟨(h.sound.covers i c hc).mem hposc, .inr ⟨c, hc, hinnermost⟩, ?_⟩
    intro c' hc'
    constructor
    · intro hother
      rw [hinnermost] at hother
      obtain rfl : c = c' := congrArg Scope.index (Option.some.inj hother)
      exact ⟨d, m, hd, hfact d hnames, ho⟩
    · intro hnamed
      have hfirst := (childHolding_eq_some h.sound.wired h.sound.nested).2 ⟨hc, hposc⟩
      have hsecond := (childHolding_eq_some h.sound.wired h.sound.nested).2
        ⟨hc', hinside c' hc' hnamed⟩
      rw [← Option.some.inj (hfirst.symm.trans hsecond)]
      exact hinnermost

end Builder

theorem Node.mem_of_declaredName? {d m : Node} (h : d.declaredName? = some m) : m ∈ d.children := by
  unfold declaredName? at h
  split at h
  · exact (mem_of_child? h).1
  · cases h

theorem Node.mem_of_plainName? {d m : Node} (h : d.plainName? = some m) : m ∈ d.children := by
  unfold plainName? at h
  split at h
  · exact (mem_of_child? (Option.filter_eq_some_iff.1 h).1).1
  · cases h

theorem Source.charAt_lt {text : String} {n : Node} (h : n.OnBoundaries text.toList)
    (hn : n.firstByte < n.endByte) :
    (Source.ofText text).charAt n.firstByte < (Source.ofText text).charAt n.endByte := by
  obtain ⟨⟨i, hi, hfirst⟩, ⟨j, hj, hend⟩⟩ := h
  have hchar : ∀ k, k ≤ text.toList.length →
      (Source.ofText text).charAt (Text.byteLength (text.toList.take k)) = k := by
    intro k hk
    have htake : (Source.ofText text).offsets.toChar? (Text.byteLength (text.toList.take k)) = some k :=
      Text.OffsetMap.toChar?_take hk
    rw [charAt, htake]
    rfl
  have hlt : i < j := by
    by_contra hge
    have hmono := Text.byteLength_take_mono text.toList (Nat.le_of_not_lt hge)
    omega
  rw [← hfirst, ← hend, hchar i hi, hchar j hj]
  exact hlt

/-- Every name is recorded in the innermost scope in which it stands, except that the name of a
function declaration or of a method is recorded in the scope around the one that its node opens. -/
theorem buildScopes_attributed (text : String) {root : Node} {tree : ScopeTree}
    (hroot : root.WellPlaced) (hwithin : root.endByte ≤ Text.byteLength text.toList)
    (hnodes : ∀ n, root.Within n → n.firstByte < n.endByte ∧ n.OnBoundaries text.toList)
    (h : buildScopes (Source.ofText text) root = .ok tree) :
    (root.scopeNodes.length = tree.size ∧ ∀ c, 0 < c → ∀ d, root.scopeNodes[c]? = some d →
      Builder.span (Source.ofText text) d = .ok (tree.rangeOf c)) ∧
    ∀ i r, tree.records[i]? = some r →
      (∀ o ∈ r.declarations ++ r.identifiers, Attributed tree i o.position
        (NamesScope (Source.ofText text) root Node.declaredName? o)) ∧
      ∀ o ∈ r.properties, Attributed tree i o.position
        (NamesScope (Source.ofText text) root Node.plainName? o) := by
  have hr := Source.regular_ofText text
  have hsolid : ∀ n, root.Within n →
      (Source.ofText text).charAt n.firstByte < (Source.ofText text).charAt n.endByte :=
    fun n hn => Source.charAt_lt (hnodes n hn).2 (hnodes n hn).1
  have hfinished := Builder.buildScopes_finished hr hroot hwithin h
  refine ⟨⟨hfinished.size, ?_⟩, ?_⟩
  · intro c hc d hd
    obtain ⟨hdw, hrange⟩ := hfinished.opened c hc d hd
    have hholds := hdw.holds hroot
    rw [hrange]
    exact Builder.span_eq hr hholds.2 (Nat.le_trans hholds.1.2 hwithin)
  · intro i r hrec
    obtain ⟨hnoted, -, hidentifiers, hproperties⟩ := hfinished.filed i r hrec
    constructor
    · intro o ho
      have ho : o ∈ r.identifiers := (List.mem_append.1 ho).elim (hnoted o) id
      obtain ⟨m, ⟨hm, hseat⟩ | ⟨hm, hseat⟩, hocc⟩ := hidentifiers o ho
      · exact hfinished.attributed hr hroot hwithin hsolid (fun _ _ => Node.mem_of_declaredName?)
          (.declaration m) (fun _ hnames => hnames) hocc hm hseat
      · exact hfinished.attributed hr hroot hwithin hsolid (fun _ _ => Node.mem_of_declaredName?)
          (.identifier m) (fun _ hnames => False.elim hnames) hocc hm hseat
    · intro o ho
      obtain ⟨m, ⟨hm, hseat⟩, hocc⟩ := hproperties o ho
      exact hfinished.attributed hr hroot hwithin hsolid (fun _ _ => Node.mem_of_plainName?)
        (.property m) (fun _ hnames => hnames) hocc hm hseat

/-- The tree of `function é(){}`, in which the name takes two bytes. -/
def declarationProgram : Node :=
  let leaf (kind : String) (named : Bool) (firstByte endByte : Nat) (field : Option String) : Node :=
    { kind, named, missing := false, hasError := false, firstByte, endByte, row := 0, field,
      children := [] }
  { leaf "program" true 0 15 none with
    children := [{ leaf "function_declaration" true 0 15 none with
      children := [leaf "function" false 0 8 none, leaf "identifier" true 9 11 (some "name"),
        leaf "formal_parameters" true 11 13 (some "parameters"),
        leaf "statement_block" true 13 15 (some "body")] }] }

theorem declarationProgram_wellPlaced : declarationProgram.WellPlaced := by
  refine .intro (by decide) ?_ ?_ ?_ ?_ <;> simp [declarationProgram, Node.Encloses]
  refine .intro (by decide) ?_ ?_ ?_ ?_ <;> simp [Node.Encloses]
  exact ⟨.of_leaf rfl (by decide), .of_leaf rfl (by decide), .of_leaf rfl (by decide),
    .of_leaf rfl (by decide)⟩

theorem declarationProgram_onBoundaries {n : Node} (h : declarationProgram.Within n) :
    n.firstByte < n.endByte ∧ n.OnBoundaries "function é(){}".toList := by
  have hat : ∀ k, k ≤ 14 → Text.IsBoundary "function é(){}".toList
      (Text.byteLength ("function é(){}".toList.take k)) := fun k hk => ⟨k, hk, rfl⟩
  have hstart := hat 0 (by decide)
  have hend := hat 14 (by decide)
  obtain rfl | ⟨c, hc, hn⟩ := h.root_or_child
  · exact ⟨by decide, hstart, hend⟩
  · obtain rfl := List.mem_singleton.1 hc
    obtain rfl | ⟨d, hd, hn⟩ := hn.root_or_child
    · exact ⟨by decide, hstart, hend⟩
    · simp only [List.mem_cons, List.not_mem_nil, or_false] at hd
      obtain rfl | rfl | rfl | rfl := hd
      all_goals
        obtain rfl | ⟨e, he, -⟩ := hn.root_or_child
        case inr => cases he
      · exact ⟨by decide, hstart, hat 8 (by decide)⟩
      · exact ⟨by decide, hat 9 (by decide), hat 10 (by decide)⟩
      · exact ⟨by decide, hat 10 (by decide), hat 12 (by decide)⟩
      · exact ⟨by decide, hat 12 (by decide), hend⟩

theorem buildScopes_attributed_declaration :
    ∃ tree, buildScopes (Source.ofText "function é(){}") declarationProgram = .ok tree ∧
      tree.root.innermost? 9 = some ⟨tree, 1⟩ ∧
      Attributed tree 0 9 (NamesScope (Source.ofText "function é(){}") declarationProgram
        Node.declaredName? ⟨"é", 9⟩) := by
  have hbuilt : (buildScopes (Source.ofText "function é(){}") declarationProgram).toOption.map
      (fun tree => (tree.records[0]?.map (·.declarations), (tree.root.innermost? 9).map (·.index))) =
        some (some [⟨"é", 9⟩], some 1) := by
    decide +kernel
  cases h : buildScopes (Source.ofText "function é(){}") declarationProgram with
  | error e =>
    rw [h] at hbuilt
    cases hbuilt
  | ok tree =>
    rw [h] at hbuilt
    obtain ⟨hrecord, hindex⟩ := Prod.mk.inj (Option.some.inj hbuilt)
    obtain ⟨r, hr, hdeclared⟩ := Option.map_eq_some_iff.1 hrecord
    obtain ⟨-, hrecords⟩ := buildScopes_attributed "function é(){}" declarationProgram_wellPlaced
      (by decide) (fun _ => declarationProgram_onBoundaries) h
    have hattributed := (hrecords 0 r hr).1 ⟨"é", 9⟩ (by simp [hdeclared])
    refine ⟨tree, rfl, ?_, hattributed⟩
    obtain ⟨s, hs, hone⟩ := Option.map_eq_some_iff.1 hindex
    obtain hroot | ⟨c, -, hchild⟩ := hattributed.innermost
    · rw [hroot] at hs
      obtain rfl := Option.some.inj hs
      cases hone
    · rw [hchild] at hs
      obtain rfl := Option.some.inj hs
      obtain rfl : c = 1 := hone
      exact hchild

end ScopeHints
