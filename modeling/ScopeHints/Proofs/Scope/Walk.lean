import ScopeHints.Proofs.Scope.Position

/-! Walks through a scope tree. A loop with a stack takes the place of the recursion over the
children. It ends with the scopes in the order of the recursion, and where ranges are nested this is
the order of their starts. -/
namespace ScopeHints

namespace ScopeTree
open Relation (ReflTransGen)
variable {tree : ScopeTree} {i j : Nat}

/-! ### The loop -/

/-- The loop over the stack, cut off after some turns. The top of the stack is its end; a scope that
is taken off leaves its children, the first one on top. -/
def stackLoop (tree : ScopeTree) : Nat → List Nat → Option (List Nat)
  | 0, stack => if stack.isEmpty then some [] else none
  | turns + 1, stack =>
    match stack.getLast? with
    | none => some []
    | some i =>
      (stackLoop tree turns (stack.dropLast ++ (tree.childrenOf i).reverse)).map (i :: ·)

theorem stackLoop_reverse (hw : Wired tree) {turns : Nat} {waiting : List Nat}
    (h : (waiting.flatMap (descendants hw)).length ≤ turns) :
    tree.stackLoop turns waiting.reverse = some (waiting.flatMap (descendants hw)) := by
  induction turns generalizing waiting with
  | zero =>
    cases waiting with
    | nil => rfl
    | cons i rest =>
      rw [flatMap_descendants_cons, List.length_cons] at h
      omega
  | succ turns ih =>
    cases waiting with
    | nil => rfl
    | cons i rest =>
      rw [flatMap_descendants_cons] at h ⊢
      have hnext := ih (Nat.le_of_succ_le_succ h)
      rw [List.reverse_append] at hnext
      simp [stackLoop, hnext]

/-! ### The order of the starts -/

theorem Nested.covers_of_surrounds (hn : Nested tree) (h : ReflTransGen tree.Surrounds j i) :
    (tree.rangeOf i).Covers (tree.rangeOf j) := by
  induction h with
  | refl => exact ⟨Int.le_refl _, Int.le_refl _⟩
  | tail _ hstep ih => exact (hn.covers _ _ hstep).trans ih

/-- Without empty ranges each sibling ends before the next one starts, and so does all below it. -/
theorem Nested.descendants_ascending (hw : Wired tree) (hn : Nested tree)
    (hfilled : ∀ i < tree.size, (tree.rangeOf i).start < (tree.rangeOf i).stop)
    (hi : i < tree.size) : (descendants hw i).Pairwise fun a b =>
      (tree.rangeOf a).start ≤ (tree.rangeOf b).start := by
  induction i using descendants.induct hw with
  | case1 i ih =>
    rw [descendants_eq, List.pairwise_cons, List.pairwise_flatMap]
    refine ⟨?_, fun c hc => ih ⟨c, hc⟩ (hw.lt_size hc), ?_⟩
    · intro j hj
      obtain ⟨c, hc, hjc⟩ := List.mem_flatMap.1 hj
      have hbelow : ReflTransGen tree.Surrounds j i := .tail ((mem_descendants hw).1 hjc) hc
      exact (hn.covers_of_surrounds hbelow).1
    · refine ((hw.sorted i).and (hn.disjoint i)).imp_of_mem ?_
      rintro a b ha hb ⟨hstart, hapart⟩ x hx y hy
      have hxa := hn.covers_of_surrounds ((mem_descendants hw).1 hx)
      have hyb := hn.covers_of_surrounds ((mem_descendants hw).1 hy)
      have hxfilled := hfilled x (hw.lt_of_surrounds (hw.lt_size ha) ((mem_descendants hw).1 hx))
      have hbfilled := hfilled b (hw.lt_size hb)
      have hend : (tree.rangeOf a).stop ≤ (tree.rangeOf b).start := by
        apply Int.le_of_not_gt
        intro hgt
        exact hapart ⟨by omega, hgt⟩
      obtain ⟨-, hxstop⟩ := hxa
      obtain ⟨hystart, -⟩ := hyb
      omega

end ScopeTree

namespace Scope
open ScopeTree
variable {s t : Scope}

/-! ### Walks of scopes -/

theorem walk_eq (hw : s.tree.Wired) (hs : s.index < s.tree.size) :
    s.walk = (descendants hw s.index).map (Scope.mk s.tree) := by
  rw [walk, preorder_singleton hw hs]

theorem map_index_walk (hw : s.tree.Wired) (hs : s.index < s.tree.size) :
    s.walk.map (·.index) = descendants hw s.index := by
  rw [walk_eq hw hs, List.map_map]
  exact List.map_id _

theorem mem_walk (hw : s.tree.Wired) (hs : s.index < s.tree.size) :
    t ∈ s.walk ↔ t.AtOrBelow s := by
  rw [walk_eq hw hs, List.mem_map]
  constructor
  · rintro ⟨j, hj, rfl⟩
    exact ⟨rfl, (mem_descendants hw).1 hj⟩
  · obtain ⟨tree, j⟩ := t
    rintro ⟨rfl, hbelow⟩
    exact ⟨j, (mem_descendants hw).2 hbelow, rfl⟩

theorem walk_cons (hw : s.tree.Wired) (hs : s.index < s.tree.size) :
    s.walk = s :: s.children.flatMap walk := by
  have hbelow : ∀ c ∈ s.tree.childrenOf s.index,
      (⟨s.tree, c⟩ : Scope).walk = (descendants hw c).map (Scope.mk s.tree) := fun c hc =>
    walk_eq (s := ⟨s.tree, c⟩) hw (hw.lt_size hc)
  rw [walk_eq hw hs, descendants_eq, List.map_cons, List.map_flatMap, children_eq,
    List.flatMap_map, List.flatMap_congr hbelow]

structure Walked (s : Scope) : Prop where
  /-- The loop ends, with as many turns as it yields scopes. -/
  ends : s.tree.stackLoop s.walk.length [s.index] = some (s.walk.map (·.index))
  /-- Every scope that is yielded comes before its children, and these come in order, each with all
  below it. -/
  recursion : ∀ t ∈ s.walk, t.walk = t :: t.children.flatMap walk
  mem : ∀ t, t ∈ s.walk ↔ t.AtOrBelow s
  nodup : s.walk.Nodup
  whole : (s.tree.scopes.map (·.index)).Perm (List.range s.tree.size)
  /-- Siblings stand in the order of their starts in any case. -/
  ascending : (∀ i < s.tree.size, (s.tree.rangeOf i).start < (s.tree.rangeOf i).stop) →
    s.tree.Nested → (s.walk.map (·.range.start)).Pairwise (· ≤ ·)

theorem walked (hw : s.tree.Wired) (hs : s.index < s.tree.size) : s.Walked := by
  have hindex : s.walk.map (·.index) = descendants hw s.index := map_index_walk hw hs
  refine ⟨?_, ?_, fun t => mem_walk hw hs, ?_, ?_, ?_⟩
  · have hstack : [s.index].flatMap (descendants hw) = descendants hw s.index :=
      List.flatMap_singleton _ _
    have hlength : s.walk.length = (descendants hw s.index).length := by
      rw [← hindex, List.length_map]
    have hloop : s.tree.stackLoop ([s.index].flatMap (descendants hw)).length [s.index].reverse =
        some ([s.index].flatMap (descendants hw)) := stackLoop_reverse hw (Nat.le_refl _)
    rwa [hstack, ← hlength, ← hindex] at hloop
  · intro t ht
    obtain ⟨htree, hbelow⟩ := (mem_walk hw hs).1 ht
    have hlt := hw.lt_of_surrounds hs hbelow
    rw [← htree] at hw hlt
    exact walk_cons hw hlt
  · apply List.Nodup.of_map (·.index)
    rw [hindex]
    exact nodup_descendants hw s.index
  · have hroot : s.tree.scopes.map (·.index) = descendants hw 0 :=
      map_index_walk (s := s.tree.root) hw hw.nonempty
    rw [hroot, ← preorder_singleton hw hw.nonempty]
    exact preorder_perm hw
  · intro hfilled hn
    rw [walk_eq hw hs, List.map_map, List.pairwise_map]
    refine (hn.descendants_ascending hw hfilled hs).imp ?_
    intro a b hab
    simp only [Function.comp_apply, range_eq_rangeOf]
    exact hab

end Scope

namespace ScopeTree.Session
open Scope

/-- However a scope tree is built, a walk from any of its scopes is the recursion over the children,
and it yields the scope and each of its descendants once. -/
theorem run_walked (range : TextRange) (ms : List Mutation) (s : Scope)
    (htree : s.tree = ((start range).run ms).tree) (hs : s.index < s.tree.size) : s.Walked := by
  refine walked ?_ hs
  rw [htree]
  exact run_wired (wired_ofRange range) ms

theorem run_walked_crossing :
    0 < ((start ⟨0, 30⟩).run crossing).tree.size ∧
    ((start ⟨0, 30⟩).run crossing).tree.root.Walked ∧
    ((start ⟨0, 30⟩).run crossing).tree.scopes.map (·.index) = [0, 2, 1, 3] ∧
    (((start ⟨0, 30⟩).run crossing).tree.scopes.map (·.range.start)).Pairwise (· ≤ ·) := by
  have hsize : 0 < ((start ⟨0, 30⟩).run crossing).tree.size := by decide +kernel
  have hwalked : ((start ⟨0, 30⟩).run crossing).tree.root.Walked :=
    run_walked ⟨0, 30⟩ crossing _ rfl hsize
  have hfilled : ∀ i < ((start ⟨0, 30⟩).run crossing).tree.size,
      (((start ⟨0, 30⟩).run crossing).tree.rangeOf i).start <
        (((start ⟨0, 30⟩).run crossing).tree.rangeOf i).stop := by decide +kernel
  exact ⟨hsize, hwalked, by decide +kernel,
    hwalked.ascending hfilled (nested_of_lt (by decide +kernel) (by decide +kernel))⟩

end ScopeTree.Session

end ScopeHints
