import Mathlib.Data.List.Nodup
import Mathlib.Data.List.Perm.Subperm
import Mathlib.Logic.Relation
import ScopeHints.Proofs.Scope.Tree
import ScopeHints.Scope.Query

/-! Questions to a wired tree. A walk is the recursion over the children and meets every scope once,
a lineage is the chain of the scopes around one, and in a tree of nested ranges the descent to a
position ends in the scope that holds the position and none of whose children does. -/
namespace ScopeHints

namespace ScopeTree
open Relation (ReflTransGen)
variable {tree : ScopeTree} {i j c : Nat} {pos : Int}

def Surrounds (tree : ScopeTree) (c i : Nat) : Prop := c ∈ tree.childrenOf i

theorem Wired.le_of_surrounds (hw : Wired tree) (h : ReflTransGen tree.Surrounds j i) : i ≤ j := by
  induction h with
  | refl => exact Nat.le_refl j
  | tail _ hstep ih => exact Nat.le_trans (Nat.le_of_lt (hw.parent_lt hstep)) ih

theorem Wired.lt_of_surrounds (hw : Wired tree) (hi : i < tree.size)
    (h : ReflTransGen tree.Surrounds j i) : j < tree.size := by
  obtain rfl | ⟨k, hk, -⟩ := ReflTransGen.cases_head h
  · exact hi
  · exact hw.lt_size hk

theorem Wired.surrounds_root (hw : Wired tree) (hi : i < tree.size) :
    ReflTransGen tree.Surrounds i 0 := by
  induction i using Nat.strong_induction_on with
  | _ i ih =>
    by_cases hzero : i = 0
    · rw [hzero]
    · obtain ⟨p, hp, hmem⟩ := hw.exists_parent (by omega) hi
      exact .head hmem (ih p hp (by omega))

/-- A sibling is not around a scope: it would be around their parent, too. -/
theorem Wired.eq_of_surrounds (hw : Wired tree) {a b : Nat} (ha : a ∈ tree.childrenOf i)
    (hb : b ∈ tree.childrenOf i) (h : ReflTransGen tree.Surrounds a b) : a = b := by
  obtain rfl | ⟨k, hk, hkb⟩ := ReflTransGen.cases_head h
  · rfl
  · rw [hw.parent_unique hk ha] at hkb
    have hle := hw.le_of_surrounds hkb
    have hlt := hw.parent_lt hb
    omega

theorem Wired.sibling_unique (hw : Wired tree) {a b : Nat} (ha : a ∈ tree.childrenOf i)
    (hb : b ∈ tree.childrenOf i) (hja : ReflTransGen tree.Surrounds j a)
    (hjb : ReflTransGen tree.Surrounds j b) : a = b := by
  have hright : Relator.RightUnique tree.Surrounds := fun _ _ _ hk hk' => hw.parent_unique hk hk'
  obtain h | h := ReflTransGen.total_of_right_unique hright hja hjb
  · exact hw.eq_of_surrounds ha hb h
  · exact (hw.eq_of_surrounds hb ha h).symm

/-! ### Walks -/

/-- A scope and its descendants, each before its children. The recursion ends: a child has a greater
number than its parent. -/
def descendants (hw : Wired tree) (i : Nat) : List Nat :=
  i :: (tree.childrenOf i).attach.flatMap fun c => descendants hw c.1
termination_by tree.size - i
decreasing_by
  have hlt := hw.parent_lt c.2
  have hsize := hw.lt_size c.2
  omega

theorem descendants_eq (hw : Wired tree) (i : Nat) :
    descendants hw i = i :: (tree.childrenOf i).flatMap (descendants hw) := by
  rw [descendants, List.flatMap_subtype (g := descendants hw) (fun _ _ => rfl),
    List.unattach_attach]

theorem mem_descendants (hw : Wired tree) :
    j ∈ descendants hw i ↔ ReflTransGen tree.Surrounds j i := by
  constructor
  · intro h
    induction i using descendants.induct hw with
    | case1 i ih =>
      rw [descendants_eq] at h
      obtain rfl | h := List.mem_cons.1 h
      · exact .refl
      · obtain ⟨c, hc, hjc⟩ := List.mem_flatMap.1 h
        exact .tail (ih ⟨c, hc⟩ hjc) hc
  · intro h
    induction h with
    | refl =>
      rw [descendants_eq]
      exact List.mem_cons_self
    | tail _ hstep ih =>
      rw [descendants_eq]
      exact List.mem_cons_of_mem _ (List.mem_flatMap.2 ⟨_, hstep, ih⟩)

theorem nodup_descendants (hw : Wired tree) (i : Nat) : (descendants hw i).Nodup := by
  induction i using descendants.induct hw with
  | case1 i ih =>
    rw [descendants_eq, List.nodup_cons, List.nodup_flatMap]
    refine ⟨?_, fun c hc => ih ⟨c, hc⟩, ?_⟩
    · intro hmem
      obtain ⟨c, hc, hic⟩ := List.mem_flatMap.1 hmem
      have hle := hw.le_of_surrounds ((mem_descendants hw).1 hic)
      have hlt := hw.parent_lt hc
      omega
    · refine (hw.nodup i).imp_of_mem ?_
      intro a b ha hb hne j hja hjb
      exact hne (hw.sibling_unique ha hb ((mem_descendants hw).1 hja) ((mem_descendants hw).1 hjb))

theorem length_descendants_le (hw : Wired tree) (hi : i < tree.size) :
    (descendants hw i).length ≤ tree.size := by
  have hsub : descendants hw i ⊆ List.range tree.size := fun j hj =>
    List.mem_range.2 (hw.lt_of_surrounds hi ((mem_descendants hw).1 hj))
  have hle := ((nodup_descendants hw i).subperm hsub).length_le
  rwa [List.length_range] at hle

theorem flatMap_descendants_cons (hw : Wired tree) (i : Nat) (rest : List Nat) :
    (i :: rest).flatMap (descendants hw) =
      i :: (tree.childrenOf i ++ rest).flatMap (descendants hw) := by
  rw [List.flatMap_cons, descendants_eq, List.flatMap_append, List.cons_append]

theorem preorder_eq (hw : Wired tree) {fuel : Nat} {stack : List Nat}
    (h : (stack.flatMap (descendants hw)).length ≤ fuel) :
    tree.preorder fuel stack = stack.flatMap (descendants hw) := by
  induction fuel generalizing stack with
  | zero =>
    rw [List.eq_nil_of_length_eq_zero (Nat.eq_zero_of_le_zero h)]
    rfl
  | succ fuel ih =>
    cases stack with
    | nil => rfl
    | cons i rest =>
      rw [flatMap_descendants_cons] at h ⊢
      rw [preorder, ih (Nat.le_of_succ_le_succ h)]

theorem preorder_singleton (hw : Wired tree) (hi : i < tree.size) :
    tree.preorder tree.size [i] = descendants hw i := by
  have hstack : [i].flatMap (descendants hw) = descendants hw i := List.flatMap_singleton _ _
  rw [preorder_eq hw (by rw [hstack]; exact length_descendants_le hw hi), hstack]

theorem preorder_perm (hw : Wired tree) :
    (tree.preorder tree.size [0]).Perm (List.range tree.size) := by
  rw [preorder_singleton hw hw.nonempty]
  refine (List.perm_ext_iff_of_nodup (nodup_descendants hw 0) List.nodup_range).2 ?_
  intro j
  rw [mem_descendants, List.mem_range]
  exact ⟨hw.lt_of_surrounds hw.nonempty, hw.surrounds_root⟩

theorem toList_eq_map_range (records : Array ScopeRecord) (d : ScopeRecord) :
    (List.range records.size).map (fun i => records[i]?.getD d) = records.toList := by
  apply List.ext_getElem
  · simp
  · intro k hk hk'
    have hlt : k < records.size := by simpa using hk'
    simp [hlt]

theorem flatMap_scopes_perm {α : Type} (hw : Wired tree) (f : ScopeRecord → List α) :
    (tree.scopes.flatMap fun s => f s.record).Perm (tree.records.toList.flatMap f) := by
  have hrecords : tree.scopes.map Scope.record = (tree.preorder tree.size [0]).map fun i =>
      tree.records[i]?.getD { parent := none, range := ⟨0, 0⟩, kind := .program } := by
    simp [scopes, Scope.walk, root, Scope.record]
  have hscopes : tree.scopes.flatMap (fun s => f s.record) =
      (tree.scopes.map Scope.record).flatMap f := by rw [List.flatMap_map]
  rw [hscopes, hrecords, ← toList_eq_map_range tree.records]
  exact ((preorder_perm hw).map _).flatMap_right f

/-! ### Lineages -/

theorem parentOf?_eq_some (hw : Wired tree) : tree.parentOf? c = some i ↔ c ∈ tree.childrenOf i := by
  have hparent : tree.parentOf? c = (tree.parentOf c).bind tree.resolve? := rfl
  rw [hparent, hw.linked]
  constructor
  · intro h
    obtain ⟨p, hp, hres⟩ := Option.bind_eq_some_iff.1 h
    have hlt := lt_size_of_parentOf hp
    have hne : c ≠ 0 := by
      rintro rfl
      rw [hw.root_parent] at hp
      cases hp
    obtain ⟨j, hj, hp'⟩ := hw.owned c (by omega) hlt
    obtain rfl := Option.some.inj (hp.symm.trans hp')
    rw [resolve?_natCast (by omega)] at hres
    rw [hp, ← Option.some.inj hres]
  · intro h
    have hi : i < c := hw.parent_lt ((hw.linked i c).2 h)
    have hlt := lt_size_of_parentOf h
    rw [h, Option.bind_some, resolve?_natCast (by omega)]

/-- A lineage of enough steps is a scope with all scopes around it. -/
theorem mem_lineageFrom (hw : Wired tree) (fuel : Nat) (hi : i < fuel) :
    j ∈ tree.lineageFrom fuel i ↔ ReflTransGen tree.Surrounds i j := by
  induction fuel generalizing i with
  | zero => omega
  | succ fuel ih =>
    rw [lineageFrom, List.mem_cons, ReflTransGen.cases_head_iff]
    cases hp : tree.parentOf? i with
    | none =>
      have hnone : ¬ ∃ k, tree.Surrounds i k ∧ ReflTransGen tree.Surrounds k j := by
        rintro ⟨k, hk, -⟩
        rw [(parentOf?_eq_some hw).2 hk] at hp
        cases hp
      simp only [List.not_mem_nil, or_false, hnone]
      exact eq_comm
    | some p =>
      have hmem : i ∈ tree.childrenOf p := (parentOf?_eq_some hw).1 hp
      have hlt := hw.parent_lt hmem
      have hstep : (∃ k, tree.Surrounds i k ∧ ReflTransGen tree.Surrounds k j) ↔
          ReflTransGen tree.Surrounds p j := by
        refine ⟨?_, fun h => ⟨p, hmem, h⟩⟩
        rintro ⟨k, hk, h⟩
        rwa [hw.parent_unique hmem hk]
      rw [hstep, ih (by omega)]
      exact or_congr_left eq_comm

/-! ### Descents -/

structure Nested (tree : ScopeTree) : Prop where
  covers : ∀ i, ∀ c ∈ tree.childrenOf i, (tree.rangeOf i).Covers (tree.rangeOf c)
  disjoint : ∀ i, (tree.childrenOf i).Pairwise fun a b =>
    ¬ (tree.rangeOf a).Overlaps (tree.rangeOf b)

theorem Sound.nested {length : Nat} (h : Sound length tree) : Nested tree := ⟨h.covers, h.disjoint⟩

theorem mem_of_firstHolding {cs : List Nat} (h : tree.firstHolding pos cs = some c) :
    c ∈ cs ∧ pos ∈ tree.rangeOf c := by
  induction cs with
  | nil => cases h
  | cons d cs ih =>
    unfold firstHolding at h
    split at h
    · cases h
    · split at h
      · rename_i hd
        obtain rfl := Option.some.inj h
        exact ⟨List.mem_cons_self, hd⟩
      · exact ⟨List.mem_cons_of_mem d (ih h).1, (ih h).2⟩

/-- Among siblings in order, of which no two hold a position together, the search finds the one that
holds it. -/
theorem firstHolding_of_mem {cs : List Nat}
    (hsorted : cs.Pairwise fun a b => (tree.rangeOf a).start ≤ (tree.rangeOf b).start)
    (hseparate : cs.Pairwise fun a b => (tree.rangeOf a).Separate (tree.rangeOf b))
    (hc : c ∈ cs) (hpos : pos ∈ tree.rangeOf c) : tree.firstHolding pos cs = some c := by
  induction cs with
  | nil => cases hc
  | cons d cs ih =>
    obtain ⟨hle, hsorted⟩ := List.pairwise_cons.1 hsorted
    obtain ⟨hfree, hseparate⟩ := List.pairwise_cons.1 hseparate
    obtain ⟨hstart, hstop⟩ := TextRange.mem_iff.1 hpos
    unfold firstHolding
    obtain rfl | hc := List.mem_cons.1 hc
    · rw [if_neg (by omega), if_pos hpos]
    · have hd : pos ∉ tree.rangeOf d := fun hd => hfree c hc pos hd hpos
      have hdc := hle c hc
      rw [if_neg (by omega), if_neg hd]
      exact ih hsorted hseparate hc

theorem childHolding_eq_some (hw : Wired tree) (hn : Nested tree) :
    tree.childHolding i pos = some c ↔ c ∈ tree.childrenOf i ∧ pos ∈ tree.rangeOf c :=
  ⟨mem_of_firstHolding, fun h => firstHolding_of_mem (hw.sorted i)
    ((hn.disjoint i).imp TextRange.separate_of_not_overlaps) h.1 h.2⟩

theorem descend_through (hw : Wired tree) (hn : Nested tree) (i : Nat) (hi : i < tree.size)
    (hpos : pos ∈ tree.rangeOf i) :
    ∃ k ≤ i, pos ∈ tree.rangeOf 0 ∧
      ∀ fuel, tree.descend pos (fuel + k) 0 = tree.descend pos fuel i := by
  induction i using Nat.strong_induction_on with
  | _ i ih =>
    by_cases hzero : i = 0
    · subst hzero
      exact ⟨0, Nat.le_refl 0, hpos, fun _ => rfl⟩
    · obtain ⟨p, hp, hmem⟩ := hw.exists_parent (by omega) hi
      have houter : pos ∈ tree.rangeOf p := (hn.covers p i hmem).mem hpos
      obtain ⟨k, hk, hroot, hpath⟩ := ih p hp (by omega) houter
      refine ⟨k + 1, by omega, hroot, ?_⟩
      intro fuel
      have hchild := (childHolding_eq_some hw hn).2 ⟨hmem, hpos⟩
      rw [show fuel + (k + 1) = fuel + 1 + k by omega, hpath (fuel + 1), descend, hchild]

theorem range_eq_rangeOf (i : Nat) : (⟨tree, i⟩ : Scope).range = tree.rangeOf i := by
  unfold Scope.range Scope.record rangeOf
  dsimp only
  cases tree.records[i]? <;> rfl

/-- The innermost scope at a position is the one that holds it and none of whose children does. -/
theorem innermost?_eq (hw : Wired tree) (hn : Nested tree) (hi : i < tree.size)
    (hpos : pos ∈ tree.rangeOf i) (hnone : tree.childHolding i pos = none) :
    tree.root.innermost? pos = some ⟨tree, i⟩ := by
  obtain ⟨k, hk, hroot, hpath⟩ := descend_through hw hn i hi hpos
  have hstop : ∀ fuel, tree.descend pos fuel i = i := by
    intro fuel
    cases fuel with
    | zero => rfl
    | succ fuel => rw [descend, hnone]
  have hend : tree.descend pos tree.size 0 = i := by
    have h := hpath (tree.size - k)
    rwa [Nat.sub_add_cancel (by omega), hstop] at h
  have hmem : pos ∈ tree.root.range := by
    rw [root, range_eq_rangeOf]
    exact hroot
  rw [Scope.innermost?, if_pos hmem]
  exact congrArg (fun j => some (Scope.mk tree j)) hend

end ScopeTree

end ScopeHints
