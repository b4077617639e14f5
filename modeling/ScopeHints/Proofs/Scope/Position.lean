import ScopeHints.Proofs.Scope.Arena
import ScopeHints.Proofs.Scope.Query

/-! Which scopes hold a position. In a tree whose children lie in their parents and apart from each
other these are the scopes from the innermost one outwards, and the descent ends at that one. -/
namespace ScopeHints

namespace ScopeTree
open Relation (ReflTransGen)
variable {tree : ScopeTree} {pos : Int} {i j c fuel : Nat}

/-- The positions of a child are positions of its parent, and siblings have none in common. -/
structure Layered (tree : ScopeTree) : Prop where
  inside : ∀ i, ∀ c ∈ tree.childrenOf i, ∀ pos ∈ tree.rangeOf c, pos ∈ tree.rangeOf i
  separate : ∀ i, (tree.childrenOf i).Pairwise fun a b =>
    (tree.rangeOf a).Separate (tree.rangeOf b)

theorem Nested.layered (hn : Nested tree) : Layered tree :=
  ⟨fun i c hc _ hpos => (hn.covers i c hc).mem hpos,
    fun i => (hn.disjoint i).imp TextRange.separate_of_not_overlaps⟩

/-! ### Up and down the tree -/

theorem Layered.mem_of_surrounds (hl : Layered tree) (h : ReflTransGen tree.Surrounds j i)
    (hpos : pos ∈ tree.rangeOf j) : pos ∈ tree.rangeOf i := by
  induction h with
  | refl => exact hpos
  | tail _ hstep ih => exact hl.inside _ _ hstep pos ih

theorem Layered.childHolding_eq_some_iff (hw : Wired tree) (hl : Layered tree) :
    tree.childHolding i pos = some c ↔ c ∈ tree.childrenOf i ∧ pos ∈ tree.rangeOf c :=
  ⟨mem_of_firstHolding, fun h => firstHolding_of_mem (hw.sorted i) (hl.separate i) h.1 h.2⟩

theorem Layered.childHolding_towards (hw : Wired tree) (hl : Layered tree)
    (h : ReflTransGen tree.Surrounds j i) (hpos : pos ∈ tree.rangeOf j) :
    j = i ∨ ∃ c, tree.childHolding i pos = some c ∧ ReflTransGen tree.Surrounds j c := by
  obtain rfl | ⟨c, hbelow, hc⟩ := ReflTransGen.cases_tail_iff _ _ _ |>.1 h
  · exact .inl rfl
  · exact .inr ⟨c, (hl.childHolding_eq_some_iff hw).2 ⟨hc, hl.mem_of_surrounds hbelow hpos⟩, hbelow⟩

/-- With enough steps the descent from a scope that holds a position ends at a descendant that holds
it and has no child that does, and passes all descendants that hold it. -/
theorem Layered.descend_spec (hw : Wired tree) (hl : Layered tree) (hi : i < tree.size)
    (hfuel : tree.size ≤ fuel + i) (hpos : pos ∈ tree.rangeOf i) :
    ReflTransGen tree.Surrounds (tree.descend pos fuel i) i ∧
    pos ∈ tree.rangeOf (tree.descend pos fuel i) ∧
    tree.childHolding (tree.descend pos fuel i) pos = none ∧
    ∀ j, ReflTransGen tree.Surrounds j i → pos ∈ tree.rangeOf j →
      ReflTransGen tree.Surrounds (tree.descend pos fuel i) j := by
  induction fuel generalizing i with
  | zero => omega
  | succ fuel ih =>
    rw [descend]
    cases hchild : tree.childHolding i pos with
    | none =>
      refine ⟨.refl, hpos, hchild, ?_⟩
      intro j hj hmem
      obtain rfl | ⟨c, hc, -⟩ := hl.childHolding_towards hw hj hmem
      · exact .refl
      · rw [hchild] at hc
        cases hc
    | some c =>
      obtain ⟨hc, hcpos⟩ := mem_of_firstHolding hchild
      have hlt := hw.parent_lt hc
      obtain ⟨hbelow, hend, hnone, hall⟩ := ih (hw.lt_size hc) (by omega) hcpos
      refine ⟨hbelow.tail hc, hend, hnone, ?_⟩
      intro j hj hmem
      obtain rfl | ⟨d, hd, hjd⟩ := hl.childHolding_towards hw hj hmem
      · exact hbelow.tail hc
      · obtain rfl := Option.some.inj (hchild.symm.trans hd)
        exact hall j hjd hmem

/-- The lineage of a scope reaches every scope around it, and up to there it consists of those in
between. -/
theorem lineageFrom_split (hw : Wired tree) (hj : j < fuel) (h : ReflTransGen tree.Surrounds j i) :
    ∃ chain rest, tree.lineageFrom fuel j = chain ++ i :: rest ∧ ∀ k, k ∈ chain ++ [i] ↔
      ReflTransGen tree.Surrounds j k ∧ ReflTransGen tree.Surrounds k i := by
  induction fuel generalizing j with
  | zero => omega
  | succ fuel ih =>
    rw [lineageFrom]
    obtain rfl | ⟨p, hp, hpi⟩ := ReflTransGen.cases_head h
    · refine ⟨[], _, rfl, ?_⟩
      intro k
      rw [List.nil_append, List.mem_singleton]
      constructor
      · rintro rfl
        exact ⟨.refl, .refl⟩
      · rintro ⟨hjk, hkj⟩
        exact Nat.le_antisymm (hw.le_of_surrounds hjk) (hw.le_of_surrounds hkj)
    · have hlt := hw.parent_lt hp
      obtain ⟨chain, rest, hlineage, hmem⟩ := ih (by omega) hpi
      rw [(parentOf?_eq_some hw).2 hp]
      refine ⟨j :: chain, rest, congrArg (j :: ·) hlineage, ?_⟩
      intro k
      rw [List.cons_append, List.mem_cons, hmem]
      constructor
      · rintro (rfl | ⟨hpk, hki⟩)
        · exact ⟨.refl, h⟩
        · exact ⟨.head hp hpk, hki⟩
      · rintro ⟨hjk, hki⟩
        obtain rfl | ⟨q, hq, hqk⟩ := ReflTransGen.cases_head hjk
        · exact .inl rfl
        · rw [hw.parent_unique hq hp] at hqk
          exact .inr ⟨hqk, hki⟩

end ScopeTree

/-! ### Scopes at a position -/

namespace Scope
open Relation (ReflTransGen)
variable {s t r : Scope} {pos : Int}

theorem children_eq (s : Scope) :
    s.children = (s.tree.childrenOf s.index).map (Scope.mk s.tree) := by
  unfold children record ScopeTree.childrenOf
  cases s.tree.records[s.index]? <;> rfl

/-- A scope is another one or stands among its descendants. -/
def AtOrBelow (t s : Scope) : Prop :=
  t.tree = s.tree ∧ ReflTransGen s.tree.Surrounds t.index s.index

theorem holdsExactly_iff (s : Scope) (pos : Int) :
    s.holdsExactly pos = true ↔
      pos ∈ s.range ∧ s.tree.childHolding s.index pos = none := by
  simp [holdsExactly]

/-- In a wired and layered tree the innermost scope at a position is the only one at or below the
first that holds the position exactly. Its lineage up to the first scope is all that holds the
position at or below it. -/
theorem innermost?_spec (hw : s.tree.Wired) (hl : s.tree.Layered) (hs : s.index < s.tree.size)
    (h : s.innermost? pos = some r) :
    (∀ t : Scope, t.AtOrBelow s ∧ t.holdsExactly pos = true ↔ t = r) ∧
    ∃ chain rest, r.lineage = chain ++ s :: rest ∧
      ∀ t : Scope, t.AtOrBelow s ∧ pos ∈ t.range ↔ t ∈ chain ++ [s] := by
  obtain ⟨tree, i⟩ := s
  unfold innermost? at h
  split at h
  swap
  · cases h
  rename_i hpos
  obtain rfl := Option.some.inj h
  rw [ScopeTree.range_eq_rangeOf] at hpos
  obtain ⟨hbelow, hend, hnone, hall⟩ := hl.descend_spec hw hs (Nat.le_add_right _ _) hpos
  generalize tree.descend pos tree.size i = j at hbelow hend hnone hall
  constructor
  · rintro ⟨tree', k⟩
    rw [holdsExactly_iff, ScopeTree.range_eq_rangeOf]
    constructor
    · rintro ⟨⟨rfl, hk⟩, hmem, hk'⟩
      obtain rfl | ⟨c, hc, -⟩ := hl.childHolding_towards hw (hall k hk hmem) hend
      · rfl
      · rw [hk'] at hc
        cases hc
    · intro heq
      obtain ⟨rfl, rfl⟩ := Scope.mk.inj heq
      exact ⟨⟨rfl, hbelow⟩, hend, hnone⟩
  · have hj : j < tree.size := by
      obtain rfl | ⟨p, hp, -⟩ := ReflTransGen.cases_head hbelow
      · exact hs
      · exact hw.lt_size hp
    obtain ⟨chain, rest, hlineage, hmem⟩ := ScopeTree.lineageFrom_split hw hj hbelow
    refine ⟨chain.map fun k => ⟨tree, k⟩, rest.map fun k => ⟨tree, k⟩, ?_, ?_⟩
    · simp [lineage, hlineage]
    · rintro ⟨tree', k⟩
      rw [ScopeTree.range_eq_rangeOf]
      have hlist : (chain.map fun k => (⟨tree, k⟩ : Scope)) ++ [⟨tree, i⟩] =
          (chain ++ [i]).map fun k => ⟨tree, k⟩ := by simp
      rw [hlist, List.mem_map]
      constructor
      · rintro ⟨⟨rfl, hk⟩, hkpos⟩
        exact ⟨k, (hmem k).2 ⟨hall k hk hkpos, hk⟩, rfl⟩
      · rintro ⟨k', hk', heq⟩
        obtain ⟨rfl, rfl⟩ := Scope.mk.inj heq
        obtain ⟨hjk, hki⟩ := (hmem k').1 hk'
        exact ⟨⟨rfl, hki⟩, hl.mem_of_surrounds hjk hend⟩

end Scope

namespace ScopeTree

/-- However a scope tree is built: if the positions of its children are positions of their parents
and siblings have none in common, then a scope answers for every position in its range, and only for
these, with the one scope at or below it that holds the position exactly. The scopes at or below it
that hold the position are those on the way from there up to it. -/
theorem Session.innermost?_run (range : TextRange) (ms : List Mutation)
    (hl : ((start range).run ms).tree.Layered) (s : Scope)
    (htree : s.tree = ((start range).run ms).tree) (hs : s.index < s.tree.size) (pos : Int) :
    (s.innermost? pos = none ↔ pos ∉ s.range) ∧
    ∀ r, s.innermost? pos = some r →
      (∀ t : Scope, t.AtOrBelow s ∧ t.holdsExactly pos = true ↔ t = r) ∧
      ∃ chain rest, r.lineage = chain ++ s :: rest ∧
        ∀ t : Scope, t.AtOrBelow s ∧ pos ∈ t.range ↔ t ∈ chain ++ [s] := by
  rw [← htree] at hl
  have hw : s.tree.Wired := by
    rw [htree]
    exact Session.run_wired (wired_ofRange range) ms
  refine ⟨?_, fun r h => Scope.innermost?_spec hw hl hs h⟩
  unfold Scope.innermost?
  split <;> simp_all

theorem nested_of_lt
    (hcovers : ∀ i < tree.size, ∀ c ∈ tree.childrenOf i, (tree.rangeOf i).Covers (tree.rangeOf c))
    (hdisjoint : ∀ i < tree.size, (tree.childrenOf i).Pairwise fun a b =>
      ¬ (tree.rangeOf a).Overlaps (tree.rangeOf b)) : Nested tree := by
  refine ⟨fun i c hc => hcovers i (parent_lt_of_mem hc) c hc, ?_⟩
  intro i
  by_cases hi : i < tree.size
  · exact hdisjoint i hi
  · rw [childrenOf_of_size_le (Nat.le_of_not_lt hi)]
    exact List.Pairwise.nil

def touchingSession : Session :=
  (Session.start ⟨0, 10⟩).run [.addChild 0 ⟨5, 10⟩ .function, .addChild 0 ⟨0, 5⟩ .function,
    .addChild 1 ⟨5, 7⟩ .catchClause, .addChild 0 ⟨5, 5⟩ .function, .addChild 0 ⟨4, 6⟩ .function]

theorem Session.innermost?_run_touching :
    touchingSession.tree.root.innermost? 5 = some ⟨touchingSession.tree, 3⟩ ∧
    ∀ t : Scope, t.AtOrBelow touchingSession.tree.root ∧ t.holdsExactly 5 = true ↔
      t = ⟨touchingSession.tree, 3⟩ := by
  have hl : touchingSession.tree.Layered :=
    Nested.layered (nested_of_lt (by decide +kernel) (by decide +kernel))
  have hfound : touchingSession.tree.root.innermost? 5 = some ⟨touchingSession.tree, 3⟩ := by
    decide +kernel
  obtain ⟨-, hspec⟩ := Session.innermost?_run ⟨0, 10⟩ _ hl touchingSession.tree.root rfl
    (by decide +kernel) 5
  exact ⟨hfound, (hspec _ hfound).1⟩

end ScopeTree

end ScopeHints
