import ScopeHints.Proofs.Scope.Attribution

/-! No name is recorded twice. A step of the builder records names at nodes that are apart from each
other and from all that waits, so that on nodes with characters no two names of a tree start at the
same position. -/
namespace ScopeHints

inductive Naming where
  | identifier | property
  deriving DecidableEq, Repr

namespace Naming

def listed : Naming → ScopeRecord → List Occurrence
  | identifier, r => r.identifiers
  | property, r => r.properties

/-- The node at which a fact records a name of a kind. -/
def mark? : Naming → Fact → Option Node
  | identifier, .declaration n | identifier, .identifier n | property, .property n => some n
  | _, _ => none

end Naming

theorem Fact.At.mark {P : Node → Prop} {naming : Naming} {fact : Fact} {m : Node} (h : fact.At P)
    (hm : naming.mark? fact = some m) : P m := by
  cases naming <;> cases fact <;> cases hm <;> exact h

namespace ScopeTree

def listed (tree : ScopeTree) (naming : Naming) : List Occurrence :=
  tree.records.toList.flatMap naming.listed

def positions (tree : ScopeTree) (naming : Naming) : List Int :=
  (tree.listed naming).map (·.position)

end ScopeTree

/-! ### The nodes that a plan marks -/

namespace Plan
open Node
variable {n : Node} {naming : Naming} {p : Plan}

def marks (naming : Naming) (p : Plan) : List Node := p.facts.filterMap fun f => naming.mark? f.2

theorem forall_marks {P : Node → Prop} (h : ∀ f ∈ p.facts, f.2.At P) :
    ∀ m ∈ p.marks naming, P m := by
  intro m hm
  obtain ⟨f, hf, hmark⟩ := List.mem_filterMap.1 hm
  exact (h f hf).mark hmark

theorem marks_map_sublist {fact : Node → Fact}
    (hfact : ∀ c m, naming.mark? (fact c) = some m → m = c) (place : Place) (ns : List Node) :
    ((ns.map fun c => (place, fact c)).filterMap fun f => naming.mark? f.2).Sublist ns := by
  induction ns with
  | nil => exact List.Sublist.refl []
  | cons c ns ih =>
    cases hc : naming.mark? (fact c) with
    | none => simpa [hc] using ih.cons c
    | some m =>
      obtain rfl := hfact c m hc
      simpa [hc] using ih

theorem mark_declaration (c m : Node) (h : naming.mark? (.declaration c) = some m) : m = c := by
  cases naming <;> cases h
  rfl

theorem mark_property (c m : Node) (h : naming.mark? (.property c) = some m) : m = c := by
  cases naming <;> cases h
  rfl

/-- Nodes that a node holds, apart from each other. -/
structure Parts (n : Node) (l : List Node) : Prop where
  held : ∀ c ∈ l, n.Holds c
  apart : l.Pairwise Apart

theorem Parts.sublist {l m : List Node} (h : Parts n l) (hs : m.Sublist l) : Parts n m :=
  ⟨fun c hc => h.held c (hs.subset hc), h.apart.sublist hs⟩

theorem parts_nil (n : Node) : Parts n [] := ⟨by simp, .nil⟩

theorem parts_option {o : Option Node} (h : ∀ c, o = some c → n.Holds c) : Parts n o.toList := by
  cases o with
  | none => exact parts_nil n
  | some c => exact ⟨by simpa using h c rfl, List.pairwise_singleton _ _⟩

theorem parts_namedChildren (hn : n.WellPlaced) : Parts n n.namedChildren :=
  ⟨fun _ hc => hn.child (List.mem_filter.1 hc).1, hn.children_apart.sublist List.filter_sublist⟩

theorem Parts.flatMap {l : List Node} {f : Node → List Node} (h : Parts n l)
    (hf : ∀ c ∈ l, Parts c (f c)) : Parts n (l.flatMap f) := by
  refine ⟨?_, List.pairwise_flatMap.2 ⟨fun c hc => (hf c hc).apart, ?_⟩⟩
  · intro d hd
    obtain ⟨c, hc, hd⟩ := List.mem_flatMap.1 hd
    have hcd := (hf c hc).held d hd
    exact ⟨(h.held c hc).1.trans hcd.1, hcd.2⟩
  · refine h.apart.imp_of_mem ?_
    intro a b ha hb hab c hc d hd
    exact hab.mono ((hf a ha).held c hc).1 ((hf b hb).held d hd).1

theorem parts_importedNames (hn : n.WellPlaced) : Parts n (importedNames n) := by
  refine ((parts_namedChildren hn).sublist List.filter_sublist).flatMap ?_
  intro clause hclause
  have hclause : clause.WellPlaced :=
    (hn.child (List.mem_filter.1 (List.mem_filter.1 hclause).1).1).2
  refine (parts_namedChildren hclause).flatMap ?_
  intro part hpart
  have hpart : part.WellPlaced := (hclause.child (List.mem_filter.1 hpart).1).2
  split
  · exact ⟨by simpa using ⟨Encloses.refl part, hpart⟩, List.pairwise_singleton _ _⟩
  · split
    · exact (parts_namedChildren hpart).sublist List.filter_sublist
    · split
      · refine ((parts_namedChildren hpart).sublist List.filter_sublist).flatMap ?_
        intro specifier hspecifier
        have hspecifier : specifier.WellPlaced := (hpart.child
          (List.mem_filter.1 (List.mem_filter.1 hspecifier).1).1).2
        refine (parts_option ?_).sublist List.filter_sublist
        intro c hc
        obtain h | ⟨-, h⟩ := Option.or_eq_some_iff.1 hc
        · exact hspecifier.child (mem_of_child? h).1
        · exact hspecifier.child (mem_of_child? h).1
      · exact parts_nil part

theorem apart_child? (name : String) (q : Node → Bool) :
    ((n.child? name).toList.filter q).Pairwise Apart := by
  cases n.child? name with
  | none => exact .nil
  | some c => exact (List.pairwise_singleton Apart c).sublist List.filter_sublist

theorem apart_roleFact (place : Place) (name : String) :
    ((roleFact place .declaration n name).filterMap fun f => naming.mark? f.2).Pairwise Apart := by
  have h := apart_child? (n := n) name fun _ => true
  rw [List.filter_eq_self.2 (by simp)] at h
  exact h.sublist (marks_map_sublist mark_declaration place _)

theorem apart_member : ((member n).marks naming).Pairwise Apart := by
  unfold marks member
  cases n.child? "property" with
  | none => exact .nil
  | some prop =>
    by_cases hprop : prop.kind = "property_identifier"
    · cases n.child? "object" with
      | none => cases naming <;> simp [hprop, Naming.mark?]
      | some object =>
        by_cases hobject : object.kind = "identifier"
        · cases naming <;> simp [hprop, hobject, Naming.mark?]
        · cases naming <;> simp [hprop, hobject, Naming.mark?]
    · simp [hprop]

theorem apart_visitPlan (hn : n.WellPlaced) (h : n.visitPlan = some p) :
    (p.marks naming).Pairwise Apart := by
  unfold Node.visitPlan at h
  cases hs : Shape.ofKind n.kind <;> rw [hs] at h <;>
    simp only [Option.some.injEq, reduceCtorEq] at h <;> subst h
  case member => exact apart_member
  case functionDeclaration | functionExpression | arrow | classDeclaration =>
    exact apart_roleFact _ _
  case method => exact (apart_child? _ _).sublist (marks_map_sublist mark_property _ _)
  case importStatement =>
    exact (parts_importedNames hn).apart.sublist (marks_map_sublist mark_declaration _ _)
  case forIn => exact .nil
  all_goals cases naming <;> simp [marks, Naming.mark?]

theorem apart_plan (hn : n.WellPlaced) {t : Treatment} (h : n.plan t = some p) :
    (p.marks naming).Pairwise Apart := by
  refine plan_cases h (apart_visitPlan hn) .nil ?name .nil ?pair .nil
  case name => cases naming <;> simp [marks, Naming.mark?]
  case pair => exact (apart_child? _ _).sublist (marks_map_sublist mark_property _ _)

end Plan

/-! ### What a step records -/

theorem flatMap_modify_perm {α β : Type} {f : α → α} {g : α → List β} {new : List β}
    (h : ∀ a, g (f a) = g a ++ new) {l : List α} {i : Nat} (hi : i < l.length) :
    ((l.modify i f).flatMap g).Perm (l.flatMap g ++ new) := by
  induction l generalizing i with
  | nil => cases hi
  | cons a l ih =>
    cases i with
    | zero =>
      rw [List.modify_zero_cons, List.flatMap_cons, List.flatMap_cons, h, List.append_assoc,
        List.append_assoc]
      exact List.perm_append_comm.append_left _
    | succ i =>
      rw [List.modify_succ_cons, List.flatMap_cons, List.flatMap_cons, List.append_assoc]
      exact (ih (Nat.lt_of_succ_lt_succ hi)).append_left _

namespace Builder
open ScopeTree
variable {src : Source} {tree tree' : ScopeTree} {naming : Naming} {task : Task} {rest : List Task}
  {p : Plan} {inner : Nat} {root : Node}

def starts (src : Source) (ns : List Node) : List Int :=
  ns.map fun m => (src.charAt m.firstByte : Int)

theorem positions_eq (tree : ScopeTree) (naming : Naming) :
    tree.positions naming =
      tree.records.toList.flatMap fun r => (naming.listed r).map (·.position) :=
  List.map_flatMap

theorem Noted.listed {fact : Fact} {f : ScopeRecord → ScopeRecord} (h : Noted src fact f)
    (r : ScopeRecord) :
    (naming.listed (f r)).map (·.position) =
      (naming.listed r).map (·.position) ++ starts src (naming.mark? fact).toList := by
  cases h with
  | declaration ho | identifier ho | property ho =>
    cases naming <;> simp [Naming.listed, Naming.mark?, starts, occurrence_position ho]
  | association => cases naming <;> simp [Naming.listed, Naming.mark?, starts]

theorem record_positions {scope : Nat} {fact : Fact} (h : record src tree scope fact = .ok tree') :
    (tree'.positions naming).Perm
      (tree.positions naming ++ starts src (naming.mark? fact).toList) := by
  obtain ⟨f, hf, hscope, rfl⟩ := record_ok h
  rw [positions_eq, positions_eq, ScopeTree.modify, Array.toList_modify]
  exact flatMap_modify_perm hf.listed hscope

theorem recordAll_positions {outer inner : Nat} {facts : List (Place × Fact)}
    (h : recordAll src outer inner tree facts = .ok tree') :
    (tree'.positions naming).Perm
      (tree.positions naming ++ starts src (facts.filterMap fun f => naming.mark? f.2)) := by
  induction facts generalizing tree with
  | nil =>
    obtain rfl : tree = tree' := Except.ok.inj h
    simp [starts]
  | cons f facts ih =>
    obtain ⟨tree₁, h₁, h⟩ := bind_eq_ok h
    have hsplit : starts src ((f :: facts).filterMap fun f => naming.mark? f.2) =
        starts src (naming.mark? f.2).toList ++
          starts src (facts.filterMap fun f => naming.mark? f.2) := by
      cases hf : naming.mark? f.2 <;> simp [starts, hf]
    rw [hsplit, ← List.append_assoc]
    exact (ih h).trans ((record_positions h₁).append_right _)

theorem withChild_positions {parent : Nat} (hparent : parent < tree.size) {range : TextRange}
    {kind : ScopeKind} {before after : List Nat} :
    ((tree.withChild parent range kind before after).positions naming).Perm
      (tree.positions naming) := by
  rw [positions_eq, positions_eq, withChild, Array.toList_push, Array.toList_modify,
    List.flatMap_append]
  have hnew : ∀ r : ScopeRecord, r.identifiers = [] → r.properties = [] →
      [r].flatMap (fun r => (naming.listed r).map (·.position)) = [] := by
    intro r hi hp
    cases naming <;> simp [Naming.listed, hi, hp]
  rw [hnew _ rfl rfl, List.append_nil]
  have hkept : ∀ r : ScopeRecord,
      (naming.listed { r with children := before ++ tree.size :: after }).map (·.position) =
        (naming.listed r).map (·.position) ++ [] := by
    intro r
    rw [List.append_nil]
    cases naming <;> rfl
  have hmodify : ((tree.records.toList.modify parent fun r =>
      { r with children := before ++ tree.size :: after }).flatMap
        fun r => (naming.listed r).map (·.position)).Perm
      ((tree.records.toList.flatMap fun r => (naming.listed r).map (·.position)) ++ []) :=
    flatMap_modify_perm hkept hparent
  rwa [List.append_nil] at hmodify

/-- A step records names at the nodes that its plan marks, and at no others. -/
theorem apply_positions (hw : tree.Wired) (hscope : task.scope < tree.size)
    (h : apply src tree task p = .ok (inner, tree')) :
    (tree'.positions naming).Perm (tree.positions naming ++ starts src (p.marks naming)) := by
  obtain ⟨⟨inner', tree₁⟩, henter, h⟩ := bind_eq_ok h
  obtain ⟨tree₂, hrecord, h⟩ := bind_eq_ok h
  obtain ⟨rfl, rfl⟩ := Prod.mk.inj (Except.ok.inj h)
  refine (recordAll_positions hrecord).trans (List.Perm.append_right _ ?_)
  cases ho : p.opens with
  | none =>
    rw [ho] at henter
    obtain ⟨-, rfl⟩ := Prod.mk.inj (Except.ok.inj henter)
    exact .refl _
  | some kind =>
    rw [ho] at henter
    obtain ⟨range, -, hadd⟩ := bind_eq_ok henter
    obtain ⟨before, after, -, rfl, -⟩ := addChild_ok hw hscope (mapError_eq_ok hadd)
    exact withChild_positions hscope

/-! ### Whole builds -/

/-- The nodes of a parse tree lie in each other among the bytes of a text, and each of them has a
character. -/
structure Solid (src : Source) (bytes : Nat) (root : Node) : Prop where
  regular : src.Regular bytes
  placed : root.WellPlaced
  within : root.endByte ≤ bytes
  solid : ∀ n, root.Within n → src.charAt n.firstByte < src.charAt n.endByte

section Solid
variable {bytes : Nat} {n m : Node}

theorem Solid.covers (h : Solid src bytes root) (hn : root.Within n) (hm : n.Holds m) :
    (src.spanOf n).Covers (src.spanOf m) :=
  h.regular.spanOf_covers (Nat.le_trans (hn.holds h.placed).1.2 h.within) hm

theorem Solid.spans_apart (h : Solid src bytes root) (hn : root.Within n) (hm : root.Within m)
    (hnm : n.Apart m) : (src.spanOf n).Apart (src.spanOf m) := by
  have hn := hn.holds h.placed
  have hm := hm.holds h.placed
  exact h.regular.spanOf_apart hn.2 hm.2 (Nat.le_trans hn.1.2 h.within)
    (Nat.le_trans hm.1.2 h.within) hnm

theorem Solid.of_mem_starts (h : Solid src bytes root) {ns : List Node}
    (hns : ∀ n ∈ ns, root.Within n) {pos : Int} (hpos : pos ∈ starts src ns) :
    ∃ n ∈ ns, pos ∈ src.spanOf n := by
  obtain ⟨n, hn, rfl⟩ := List.mem_map.1 hpos
  have hsolid := h.solid n (hns n hn)
  exact ⟨n, hn, TextRange.mem_iff.2 ⟨Int.le_refl _, by simp only [Source.spanOf]; omega⟩⟩

theorem Solid.nodup_starts (h : Solid src bytes root) {ns : List Node}
    (hns : ∀ n ∈ ns, root.Within n) (hapart : ns.Pairwise Node.Apart) : (starts src ns).Nodup := by
  refine List.pairwise_map.2 (hapart.imp_of_mem ?_)
  intro a b ha hb hab hsame
  have hspans := h.spans_apart (hns a ha) (hns b hb) hab
  have hsolida := h.solid a (hns a ha)
  have hsolidb := h.solid b (hns b hb)
  simp only [TextRange.Apart, Source.spanOf] at hspans
  omega

theorem within_marks (hn : root.Within n) {t : Treatment} (hp : n.plan t = some p) :
    ∀ m ∈ p.marks naming, root.Within m :=
  Plan.forall_marks (Plan.Inherited.facts (fun _ _ hn hc => hn.child hc) hn hp)

theorem within_tasks (hn : root.Within n) {t : Treatment} (hp : n.plan t = some p) :
    ∀ u ∈ p.tasks, root.Within u.2.2 :=
  Plan.Inherited.tasks (fun _ _ hn hc => hn.child hc) hn hp

theorem Solid.starts_marks (h : Solid src bytes root) (hn : root.Within n) {t : Treatment}
    (hp : n.plan t = some p) {pos : Int} (hpos : pos ∈ starts src (p.marks naming)) :
    pos ∈ src.spanOf n ∧ ∀ u ∈ p.tasks, pos ∉ src.spanOf u.2.2 := by
  have hplaced := (hn.holds h.placed).2
  have hwithin : ∀ m ∈ p.marks naming, root.Within m := within_marks hn hp
  obtain ⟨m, hm, hpos⟩ := h.of_mem_starts hwithin hpos
  have hholds := Plan.forall_marks (Plan.held_plan hplaced hp) m hm
  have hclear := Plan.forall_marks (Plan.clear_plan hplaced hp) m hm
  refine ⟨(h.covers hn hholds).mem hpos, ?_⟩
  intro u hu
  exact (h.spans_apart (within_tasks hn hp u hu) (hwithin m hm) (hclear u hu).symm).not_mem hpos

end Solid

/-- The names recorded so far start at different positions, none of them in a node that waits, and
the nodes that wait are apart from each other. -/
structure Distinct (src : Source) (root : Node) (naming : Naming) (tree : ScopeTree)
    (tasks : List Task) : Prop where
  base : Building src root.Within tree tasks
  apart : tasks.Pairwise fun s t => s.node.Apart t.node
  nodup : (tree.positions naming).Nodup
  fresh : ∀ pos ∈ tree.positions naming, ∀ t ∈ tasks, pos ∉ src.spanOf t.node

theorem Distinct.step {bytes : Nat} (hs : Solid src bytes root)
    (h : Distinct src root naming tree (task :: rest))
    (hp : task.node.plan task.treatment = some p)
    (happly : apply src tree task p = .ok (inner, tree')) :
    Distinct src root naming tree' (tasksOf p task.scope inner ++ rest) := by
  obtain ⟨hscope, hnode⟩ := h.base.ready task List.mem_cons_self
  obtain ⟨hhead, hrest⟩ := List.pairwise_cons.1 h.apart
  have hplaced := (hnode.holds hs.placed).2
  have hspread := Plan.spread_plan hplaced hp
  have hholds : ∀ u ∈ p.tasks, task.node.Holds u.2.2 :=
    fun u hu => (hspread.below u hu).holds hplaced
  have hpositions : (tree'.positions naming).Perm
      (tree.positions naming ++ starts src (p.marks naming)) :=
    apply_positions h.base.wired hscope happly
  refine ⟨h.base.step (fun _ _ hn hc => hn.child hc) hp happly, ?_, ?_, ?_⟩
  · refine List.pairwise_append.2 ⟨List.pairwise_map.2 hspread.apart, hrest, ?_⟩
    intro t ht r hr
    obtain ⟨u, hu, hat, -⟩ := mem_tasksOf ht
    rw [hat]
    exact (hhead r hr).mono (hholds u hu).1 (Node.Encloses.refl _)
  · refine hpositions.nodup_iff.2 (List.nodup_append.2 ⟨h.nodup, ?_, ?_⟩)
    · exact hs.nodup_starts (within_marks hnode hp) (Plan.apart_plan hplaced hp)
    · rintro pos hold _ hpos rfl
      exact h.fresh pos hold task List.mem_cons_self (hs.starts_marks hnode hp hpos).1
  · intro pos hpos
    obtain hold | hnew := List.mem_append.1 (hpositions.mem_iff.1 hpos)
    · -- an old name stands outside the treated node
      refine List.forall_mem_append.2
        ⟨?_, fun t ht => h.fresh pos hold t (List.mem_cons_of_mem task ht)⟩
      intro t ht hin
      obtain ⟨u, hu, hat, -⟩ := mem_tasksOf ht
      rw [hat] at hin
      exact h.fresh pos hold task List.mem_cons_self ((hs.covers hnode (hholds u hu)).mem hin)
    · obtain ⟨hin, hclear⟩ := hs.starts_marks hnode hp hnew
      refine List.forall_mem_append.2 ⟨?_, ?_⟩
      · intro t ht
        obtain ⟨u, hu, hat, -⟩ := mem_tasksOf ht
        rw [hat]
        exact hclear u hu
      · intro t ht
        have hwithin := (h.base.ready t (List.mem_cons_of_mem task ht)).2
        exact (hs.spans_apart hwithin hnode (hhead t ht).symm).not_mem hin

theorem start_distinct {bytes : Nat} (hs : Solid src bytes root) (naming : Naming) :
    Distinct src root naming (.ofRange ⟨0, src.length⟩) (start root) := by
  have hempty : (ofRange ⟨0, src.length⟩).positions naming = [] := by cases naming <;> rfl
  refine ⟨start_building (fun _ _ hn hc => hn.child hc) .root, ?_, ?_, ?_⟩
  · exact List.pairwise_map.2 (hs.placed.children_apart.sublist List.filter_sublist)
  · rw [hempty]
    exact List.nodup_nil
  · simp [hempty]

/-- On nodes with characters no two names of a kind in the whole tree start at the same position. -/
theorem buildScopes_distinct {bytes : Nat} (hs : Solid src bytes root)
    (h : buildScopes src root = .ok tree) (naming : Naming) : (tree.positions naming).Nodup := by
  obtain ⟨built, rfl, hend⟩ := buildScopes_keeps
    (fun h hp happly => Distinct.step hs h hp happly) (start_distinct hs naming) h
  exact hend.nodup

end Builder

end ScopeHints
