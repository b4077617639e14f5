import Mathlib.Data.List.TakeDrop
import Mathlib.Data.List.TakeWhile
import ScopeHints.Scope.Tree

/-! Scope trees whose records agree with each other, and the operations that keep them so. -/
namespace ScopeHints

namespace TextRange

def Apart (r s : TextRange) : Prop := r.stop ≤ s.start ∨ s.stop ≤ r.start

theorem Apart.symm {r s : TextRange} (h : r.Apart s) : s.Apart r := Or.symm h

theorem Apart.not_overlaps {r s : TextRange} (h : r.Apart s) : ¬ r.Overlaps s := by
  rintro ⟨h₁, h₂⟩
  obtain h | h := h <;> omega

theorem Covers.trans {r s t : TextRange} (h : r.Covers s) (h' : s.Covers t) : r.Covers t := by
  obtain ⟨h₁, h₂⟩ := h
  obtain ⟨h₁', h₂'⟩ := h'
  exact ⟨by omega, by omega⟩

theorem Apart.mono {r s t : TextRange} (h : r.Apart s) (hs : s.Covers t) : r.Apart t := by
  obtain ⟨h₁, h₂⟩ := hs
  obtain h | h := h
  · exact .inl (by omega)
  · exact .inr (by omega)

theorem Covers.mem {r s : TextRange} {pos : Int} (h : r.Covers s) (hpos : pos ∈ s) : pos ∈ r := by
  obtain ⟨hstart, hstop⟩ := h
  obtain ⟨hfrom, hto⟩ := mem_iff.1 hpos
  exact mem_iff.2 ⟨by omega, by omega⟩

theorem Apart.not_mem {r s : TextRange} {pos : Int} (h : r.Apart s) (hpos : pos ∈ s) : pos ∉ r := by
  intro hr
  obtain ⟨hfrom, hto⟩ := mem_iff.1 hpos
  obtain ⟨hfrom', hto'⟩ := mem_iff.1 hr
  obtain h | h := h <;> omega

def Separate (r s : TextRange) : Prop := ∀ pos : Int, pos ∈ r → pos ∉ s

theorem separate_of_not_overlaps {r s : TextRange} (h : ¬ r.Overlaps s) : r.Separate s := by
  intro pos hr hs
  obtain ⟨hfrom, hto⟩ := mem_iff.1 hr
  obtain ⟨hfrom', hto'⟩ := mem_iff.1 hs
  exact h ⟨by omega, by omega⟩

end TextRange

namespace ScopeTree
variable {tree tree' : ScopeTree} {length : Nat}

def parentOf (tree : ScopeTree) (i : Nat) : Option Int := tree.records[i]?.bind (·.parent)

/-- Record 0 is the scope of a file of `length` characters. Every other record is listed by its
parent, which is an older one, exactly once. The children of a record lie in its range, in the
order of their starts, and do not overlap. -/
structure Sound (length : Nat) (tree : ScopeTree) : Prop where
  nonempty : 0 < tree.size
  root_parent : tree.parentOf 0 = none
  root_range : tree.rangeOf 0 = ⟨0, length⟩
  owned : ∀ c, 0 < c → c < tree.size → ∃ i : Nat, i < c ∧ tree.parentOf c = some (i : Int)
  linked : ∀ i c, c ∈ tree.childrenOf i ↔ tree.parentOf c = some (i : Int)
  nodup : ∀ i, (tree.childrenOf i).Nodup
  covers : ∀ i, ∀ c ∈ tree.childrenOf i, (tree.rangeOf i).Covers (tree.rangeOf c)
  sorted : ∀ i, (tree.childrenOf i).Pairwise fun a b =>
    (tree.rangeOf a).start ≤ (tree.rangeOf b).start
  disjoint : ∀ i, (tree.childrenOf i).Pairwise fun a b =>
    ¬ (tree.rangeOf a).Overlaps (tree.rangeOf b)

theorem lt_size_of_parentOf {i : Nat} {p : Int} (h : tree.parentOf i = some p) : i < tree.size := by
  apply Nat.lt_of_not_le
  intro hle
  have hnone : tree.records[i]? = none := Array.getElem?_eq_none hle
  rw [parentOf, hnone] at h
  cases h

theorem childrenOf_of_size_le {i : Nat} (h : tree.size ≤ i) : tree.childrenOf i = [] := by
  have hnone : tree.records[i]? = none := Array.getElem?_eq_none h
  rw [childrenOf, hnone]
  rfl

theorem parent_lt_of_mem {i c : Nat} (hc : c ∈ tree.childrenOf i) : i < tree.size := by
  apply Nat.lt_of_not_le
  intro hle
  rw [childrenOf_of_size_le hle] at hc
  cases hc

/-- What holds of a tree whatever its ranges are: record 0 is the root, every other record is
listed by its parent, which is an older one, exactly once, and children stand in the order of
their starts. -/
structure Wired (tree : ScopeTree) : Prop where
  nonempty : 0 < tree.size
  root_parent : tree.parentOf 0 = none
  owned : ∀ c, 0 < c → c < tree.size → ∃ i : Nat, i < c ∧ tree.parentOf c = some (i : Int)
  linked : ∀ i c, c ∈ tree.childrenOf i ↔ tree.parentOf c = some (i : Int)
  nodup : ∀ i, (tree.childrenOf i).Nodup
  sorted : ∀ i, (tree.childrenOf i).Pairwise fun a b =>
    (tree.rangeOf a).start ≤ (tree.rangeOf b).start

theorem Sound.wired (h : Sound length tree) : Wired tree :=
  ⟨h.nonempty, h.root_parent, h.owned, h.linked, h.nodup, h.sorted⟩

theorem Wired.lt_size (h : Wired tree) {i c : Nat} (hc : c ∈ tree.childrenOf i) : c < tree.size :=
  lt_size_of_parentOf ((h.linked i c).1 hc)

theorem Wired.ne_zero (hw : Wired tree) {i c : Nat} (hc : c ∈ tree.childrenOf i) : c ≠ 0 := by
  rintro rfl
  have hparent := (hw.linked i 0).1 hc
  rw [hw.root_parent] at hparent
  cases hparent

theorem Wired.parent_unique (hw : Wired tree) {i j c : Nat} (hi : c ∈ tree.childrenOf i)
    (hj : c ∈ tree.childrenOf j) : i = j := by
  have h := ((hw.linked i c).1 hi).symm.trans ((hw.linked j c).1 hj)
  exact Int.ofNat.inj (Option.some.inj h)

theorem Wired.parent_lt (hw : Wired tree) {i c : Nat} (hc : c ∈ tree.childrenOf i) : i < c := by
  have hne := hw.ne_zero hc
  obtain ⟨j, hj, hparent⟩ := hw.owned c (by omega) (hw.lt_size hc)
  rwa [hw.parent_unique hc ((hw.linked j c).2 hparent)]

theorem Wired.exists_parent (hw : Wired tree) {c : Nat} (hc : 0 < c) (hlt : c < tree.size) :
    ∃ i, i < c ∧ c ∈ tree.childrenOf i := by
  obtain ⟨i, hi, hparent⟩ := hw.owned c hc hlt
  exact ⟨i, hi, (hw.linked i c).2 hparent⟩

theorem Sound.lt_size (h : Sound length tree) {i c : Nat} (hc : c ∈ tree.childrenOf i) :
    c < tree.size :=
  h.wired.lt_size hc

theorem childrenOf_ofRange (range : TextRange) (i : Nat) : (ofRange range).childrenOf i = [] := by
  cases i <;> rfl

theorem parentOf_ofRange (range : TextRange) (i : Nat) : (ofRange range).parentOf i = none := by
  cases i <;> rfl

theorem wired_ofRange (range : TextRange) : Wired (ofRange range) := by
  refine ⟨Nat.one_pos, parentOf_ofRange range 0, ?_, ?_, ?_, ?_⟩
  · intro c hc hlt
    have hsize : (ofRange range).size = 1 := rfl
    omega
  all_goals simp [childrenOf_ofRange, parentOf_ofRange]

theorem sound_ofRange (length : Nat) : Sound length (ofRange ⟨0, length⟩) := by
  obtain ⟨hnonempty, hroot, howned, hlinked, hnodup, hsorted⟩ := wired_ofRange ⟨0, length⟩
  refine ⟨hnonempty, hroot, rfl, howned, hlinked, hnodup, ?_, hsorted, ?_⟩
  all_goals simp [childrenOf_ofRange]

theorem Sound.freeze (h : Sound length tree) : Sound length tree.freeze :=
  ⟨h.nonempty, h.root_parent, h.root_range, h.owned, h.linked, h.nodup, h.covers, h.sorted,
    h.disjoint⟩

/-! ### Changes of one record -/

structure SameShape (tree tree' : ScopeTree) : Prop where
  frozen : tree'.frozen = tree.frozen
  size : tree'.size = tree.size
  parentOf : tree'.parentOf = tree.parentOf
  rangeOf : tree'.rangeOf = tree.rangeOf
  childrenOf : tree'.childrenOf = tree.childrenOf

theorem SameShape.refl (tree : ScopeTree) : SameShape tree tree := ⟨rfl, rfl, rfl, rfl, rfl⟩

theorem SameShape.trans {tree'' : ScopeTree} (h : SameShape tree tree')
    (h' : SameShape tree' tree'') : SameShape tree tree'' :=
  ⟨h'.frozen.trans h.frozen, h'.size.trans h.size, h'.parentOf.trans h.parentOf,
    h'.rangeOf.trans h.rangeOf, h'.childrenOf.trans h.childrenOf⟩

theorem SameShape.wired (h : SameShape tree tree') (hw : Wired tree) : Wired tree' := by
  obtain ⟨-, hsize, hparent, hrange, hchildren⟩ := h
  refine ⟨?_, ?_, ?_, ?_, ?_, ?_⟩
  · rw [hsize]; exact hw.nonempty
  · rw [hparent]; exact hw.root_parent
  · rw [hsize, hparent]; exact hw.owned
  · rw [hchildren, hparent]; exact hw.linked
  · rw [hchildren]; exact hw.nodup
  · rw [hchildren, hrange]; exact hw.sorted

theorem SameShape.sound (h : SameShape tree tree') (hs : Sound length tree) : Sound length tree' := by
  obtain ⟨hnonempty, hroot, howned, hlinked, hnodup, hsorted⟩ := h.wired hs.wired
  refine ⟨hnonempty, hroot, ?_, howned, hlinked, hnodup, ?_, hsorted, ?_⟩
  · rw [h.rangeOf]; exact hs.root_range
  · rw [h.childrenOf, h.rangeOf]; exact hs.covers
  · rw [h.childrenOf, h.rangeOf]; exact hs.disjoint

theorem update_sameShape {f : ScopeRecord → ScopeRecord} {i : Nat} (hf : tree.frozen = false)
    (hi : i < tree.size)
    (hkeep : ∀ r, (f r).parent = r.parent ∧ (f r).range = r.range ∧ (f r).children = r.children) :
    ∃ tree', tree.update i f = .ok tree' ∧ SameShape tree tree' := by
  refine ⟨{ tree with records := tree.records.modify i f }, ?_, rfl, Array.size_modify, ?_, ?_, ?_⟩
  · have hi : i < tree.records.size := hi
    simp [update, hf, hi]
  all_goals
    funext j
    simp only [parentOf, rangeOf, childrenOf, Array.getElem?_modify]
    split
    · cases tree.records[j]? with
      | none => rfl
      | some r => simp [hkeep r]
    · rfl

/-! ### New records -/

/-- The tree with a new record of a range, which `parent` lists between `before` and `after`. -/
structure Added (parent : Nat) (range : TextRange) (before after : List Nat)
    (tree tree' : ScopeTree) : Prop where
  frozen : tree'.frozen = tree.frozen
  size : tree'.size = tree.size + 1
  parentOf : ∀ i, tree'.parentOf i = if i = tree.size then some (parent : Int) else tree.parentOf i
  rangeOf : ∀ i, tree'.rangeOf i = if i = tree.size then range else tree.rangeOf i
  childrenOf : ∀ i, tree'.childrenOf i =
    if i = parent then before ++ tree.size :: after else tree.childrenOf i

theorem lt_of_mem_dropWhile {l : List Nat} {f : Nat → Int} {bound : Int}
    (h : l.Pairwise fun a b => f a ≤ f b) {c : Nat}
    (hc : c ∈ l.dropWhile fun i => f i ≤ bound) : bound < f c := by
  induction l with
  | nil => cases hc
  | cons a l ih =>
    obtain ⟨ha, hl⟩ := List.pairwise_cons.1 h
    by_cases hle : f a ≤ bound
    · rw [List.dropWhile_cons_of_pos (by simp [hle])] at hc
      exact ih hl hc
    · rw [List.dropWhile_cons_of_neg (by simp [hle])] at hc
      obtain rfl | hc := List.mem_cons.1 hc
      · omega
      · have := ha c hc
        omega

theorem resolve?_natCast {i : Nat} (h : i < tree.size) : tree.resolve? i = some i := by
  have hneg : ¬ (i : Int) < 0 := by omega
  have hlt : (i : Int) < tree.size := by omega
  simp [resolve?, hneg, hlt]

/-- The tree to which a record is added between two lists of children of its parent. -/
def withChild (tree : ScopeTree) (parent : Nat) (range : TextRange) (kind : ScopeKind)
    (before after : List Nat) : ScopeTree :=
  { tree with
    records := (tree.records.modify parent fun r =>
      { r with children := before ++ tree.size :: after }).push
        { parent := some (parent : Int), range, kind } }

theorem getElem?_withChild (parent : Nat) (range : TextRange) (kind : ScopeKind)
    (before after : List Nat) (i : Nat) :
    (tree.withChild parent range kind before after).records[i]? =
      if i = tree.size then some { parent := some (parent : Int), range, kind }
      else if parent = i then
        tree.records[i]?.map fun r => { r with children := before ++ tree.size :: after }
      else tree.records[i]? := by
  rw [withChild, Array.getElem?_push, Array.size_modify, Array.getElem?_modify]
  rfl

theorem withChild_added {parent : Nat} (hp : parent < tree.size) (range : TextRange)
    (kind : ScopeKind) (before after : List Nat) :
    Added parent range before after tree (tree.withChild parent range kind before after) := by
  have hrecord := @getElem?_withChild tree parent range kind before after
  refine ⟨rfl, by simp [withChild, size], ?_, ?_, ?_⟩
  · intro i
    simp only [parentOf, hrecord]
    split
    · rfl
    · split
      · cases tree.records[i]? <;> rfl
      · rfl
  · intro i
    simp only [rangeOf, hrecord]
    split
    · rfl
    · split
      · cases tree.records[i]? <;> rfl
      · rfl
  · intro i
    by_cases hi : i = tree.size
    · rw [if_neg (by omega), childrenOf_of_size_le (Nat.le_of_eq hi.symm), childrenOf, hrecord,
        if_pos hi]
      rfl
    · simp only [childrenOf, hrecord, if_neg hi]
      by_cases hpi : parent = i
      · subst hpi
        have hlt : parent < tree.records.size := hp
        simp [hlt]
      · rw [if_neg hpi, if_neg (Ne.symm hpi)]

/-- The place of a new child between the siblings that start no later and those that start later. -/
structure Slot (tree : ScopeTree) (parent : Nat) (range : TextRange) (before after : List Nat) :
    Prop where
  parent_lt : parent < tree.size
  siblings : tree.childrenOf parent = before ++ after
  before_le : ∀ c ∈ before, (tree.rangeOf c).start ≤ range.start
  lt_after : ∀ c ∈ after, range.start < (tree.rangeOf c).start

namespace Slot
variable {parent c : Nat} {range : TextRange} {before after : List Nat}

theorem mem_of_before (h : Slot tree parent range before after) (hc : c ∈ before) :
    c ∈ tree.childrenOf parent := by
  rw [h.siblings]
  exact List.mem_append_left _ hc

theorem mem_of_after (h : Slot tree parent range before after) (hc : c ∈ after) :
    c ∈ tree.childrenOf parent := by
  rw [h.siblings]
  exact List.mem_append_right _ hc

theorem mem_of_neighbour (h : Slot tree parent range before after)
    (hc : c ∈ before.getLast?.toList ++ after.head?.toList) : c ∈ tree.childrenOf parent := by
  obtain hc | hc := List.mem_append.1 hc
  · exact h.mem_of_before (List.mem_of_getLast? (by simpa using hc))
  · exact h.mem_of_after (List.mem_of_head? (by simpa using hc))

end Slot

theorem addChild_eq (hw : Wired tree) (hf : tree.frozen = false) {parent : Nat}
    (hp : parent < tree.size) (range : TextRange) (kind : ScopeKind) :
    ∃ before after, Slot tree parent range before after ∧
      tree.addChild parent range kind =
        match ((before.getLast?.toList ++ after.head?.toList).map tree.rangeOf).find?
            fun r => r.Overlaps range with
          | some existing => .error (.overlap existing range)
          | none => .ok (tree.size, tree.withChild parent range kind before after) := by
  have hsplit : tree.splitSiblings (tree.childrenOf parent) range.start =
      ((tree.childrenOf parent).takeWhile fun i => (tree.rangeOf i).start ≤ range.start,
        (tree.childrenOf parent).dropWhile fun i => (tree.rangeOf i).start ≤ range.start) :=
    List.span_eq_takeWhile_dropWhile _ _
  refine ⟨(tree.childrenOf parent).takeWhile fun i => (tree.rangeOf i).start ≤ range.start,
    (tree.childrenOf parent).dropWhile fun i => (tree.rangeOf i).start ≤ range.start,
    ⟨hp, List.takeWhile_append_dropWhile.symm, ?_, ?_⟩, ?_⟩
  · intro c hc
    simpa using List.mem_takeWhile_imp hc
  · intro c hc
    exact lt_of_mem_dropWhile (hw.sorted parent) hc
  · rw [addChild, if_neg (by simp [hf]), resolve?_natCast hp]
    dsimp only
    rw [hsplit]
    rfl

theorem addChild_added (hs : Sound length tree) (hf : tree.frozen = false) {parent : Nat}
    (hp : parent < tree.size) {range : TextRange} (kind : ScopeKind)
    (hfree : ∀ c ∈ tree.childrenOf parent, ¬ (tree.rangeOf c).Overlaps range) :
    ∃ tree' before after, tree.addChild parent range kind = .ok (tree.size, tree') ∧
      Slot tree parent range before after ∧ Added parent range before after tree tree' := by
  obtain ⟨before, after, hslot, hadd⟩ := addChild_eq hs.wired hf hp range kind
  -- The neighbours are children of the parent, so that none of them overlaps the range.
  have hfind : ((before.getLast?.toList ++ after.head?.toList).map tree.rangeOf).find?
      (fun r => r.Overlaps range) = none := by
    rw [List.find?_eq_none]
    intro r hr
    obtain ⟨c, hc, rfl⟩ := List.mem_map.1 hr
    simpa using hfree c (hslot.mem_of_neighbour hc)
  refine ⟨tree.withChild parent range kind before after, before, after, ?_, hslot,
    withChild_added hp range kind before after⟩
  rw [hadd, hfind]

theorem Added.rangeOf_of_lt {parent i : Nat} {range : TextRange} {before after : List Nat}
    (h : Added parent range before after tree tree') (hi : i < tree.size) :
    tree'.rangeOf i = tree.rangeOf i := by
  rw [h.rangeOf, if_neg (by omega)]

theorem Added.rangeOf_new {parent : Nat} {range : TextRange} {before after : List Nat}
    (h : Added parent range before after tree tree') : tree'.rangeOf tree.size = range := by
  rw [h.rangeOf, if_pos rfl]

/-- The children of the parent after a record was added, related pairwise as before if the new one
is related to those before and after it. -/
theorem Added.pairwise {parent : Nat} {range : TextRange} {before after : List Nat}
    {R : TextRange → TextRange → Prop} (h : Added parent range before after tree tree')
    (hs : Wired tree) (hlist : tree.childrenOf parent = before ++ after)
    (hR : ∀ i, (tree.childrenOf i).Pairwise fun a b => R (tree.rangeOf a) (tree.rangeOf b))
    (hbefore : ∀ c ∈ before, R (tree.rangeOf c) range)
    (hafter : ∀ c ∈ after, R range (tree.rangeOf c)) (i : Nat) :
    (tree'.childrenOf i).Pairwise fun a b => R (tree'.rangeOf a) (tree'.rangeOf b) := by
  have hold : ∀ {j c}, c ∈ tree.childrenOf j → tree'.rangeOf c = tree.rangeOf c :=
    fun hc => h.rangeOf_of_lt (hs.lt_size hc)
  have hb : ∀ c ∈ before, tree'.rangeOf c = tree.rangeOf c := fun c hc =>
    hold (j := parent) (by rw [hlist]; exact List.mem_append_left _ hc)
  have ha : ∀ c ∈ after, tree'.rangeOf c = tree.rangeOf c := fun c hc =>
    hold (j := parent) (by rw [hlist]; exact List.mem_append_right _ hc)
  rw [h.childrenOf]
  split
  · have hpair := hR parent
    rw [hlist, List.pairwise_append] at hpair
    obtain ⟨hpb, hpa, hcross⟩ := hpair
    refine List.pairwise_append.2 ⟨?_, List.pairwise_cons.2 ⟨?_, ?_⟩, ?_⟩
    · refine hpb.imp_of_mem ?_
      intro a b hma hmb hab
      rw [hb a hma, hb b hmb]
      exact hab
    · intro c hc
      rw [h.rangeOf_new, ha c hc]
      exact hafter c hc
    · refine hpa.imp_of_mem ?_
      intro a b hma hmb hab
      rw [ha a hma, ha b hmb]
      exact hab
    · intro a hma b hmb
      rw [hb a hma]
      obtain rfl | hmb := List.mem_cons.1 hmb
      · rw [h.rangeOf_new]
        exact hbefore a hma
      · rw [ha b hmb]
        exact hcross a hma b hmb
  · refine (hR i).imp_of_mem ?_
    intro a b hma hmb hab
    rw [hold hma, hold hmb]
    exact hab

theorem Added.mem_childrenOf {parent i c : Nat} {range : TextRange} {before after : List Nat}
    (h : Added parent range before after tree tree')
    (hlist : tree.childrenOf parent = before ++ after) :
    c ∈ tree'.childrenOf i ↔ c ∈ tree.childrenOf i ∨ (i = parent ∧ c = tree.size) := by
  rw [h.childrenOf]
  split
  · rename_i hi
    subst hi
    rw [hlist]
    simp only [List.mem_append, List.mem_cons, true_and]
    tauto
  · rename_i hi
    simp [hi]

theorem Added.ranges {parent : Nat} {range : TextRange} {before after : List Nat}
    (h : Added parent range before after tree tree') (hw : Wired tree)
    (hlist : tree.childrenOf parent = before ++ after) {Q : TextRange → Prop}
    (hQ : ∀ i, ∀ c ∈ tree.childrenOf i, Q (tree.rangeOf c)) (hnew : Q range) :
    ∀ i, ∀ c ∈ tree'.childrenOf i, Q (tree'.rangeOf c) := by
  intro i c hc
  obtain hc | ⟨-, rfl⟩ := (h.mem_childrenOf hlist).1 hc
  · rw [h.rangeOf_of_lt (hw.lt_size hc)]
    exact hQ i c hc
  · rw [h.rangeOf_new]
    exact hnew

theorem Added.wired {parent : Nat} {range : TextRange} {before after : List Nat}
    (h : Added parent range before after tree tree') (hw : Wired tree)
    (hslot : Slot tree parent range before after) : Wired tree' := by
  have hpos := hw.nonempty
  have hp := hslot.parent_lt
  have hlist := hslot.siblings
  refine ⟨by rw [h.size]; omega, ?_, ?_, ?_, ?_, ?_⟩
  · rw [h.parentOf, if_neg (by omega)]
    exact hw.root_parent
  · intro c hc hlt
    rw [h.size] at hlt
    by_cases hnew : c = tree.size
    · exact ⟨parent, by omega, by rw [h.parentOf, if_pos hnew]⟩
    · obtain ⟨i, hi, hparent⟩ := hw.owned c hc (by omega)
      exact ⟨i, hi, by rw [h.parentOf, if_neg hnew]; exact hparent⟩
  · intro i c
    rw [h.mem_childrenOf hlist, h.parentOf]
    by_cases hnew : c = tree.size
    · subst hnew
      have hnot : tree.size ∉ tree.childrenOf i := fun hc => Nat.lt_irrefl _ (hw.lt_size hc)
      simp only [hnot, false_or, and_true, if_true, Option.some.injEq]
      omega
    · simp only [hnew, and_false, or_false, if_false]
      exact hw.linked i c
  · intro i
    rw [h.childrenOf]
    split
    · have hnodup := hw.nodup parent
      rw [hlist] at hnodup
      have hnot : tree.size ∉ before ++ after := by
        rw [← hlist]
        exact fun hc => Nat.lt_irrefl _ (hw.lt_size hc)
      exact List.perm_middle.nodup_iff.2 (List.nodup_cons.2 ⟨hnot, hnodup⟩)
    · exact hw.nodup i
  · exact h.pairwise (R := fun r s => r.start ≤ s.start) hw hlist hw.sorted hslot.before_le
      fun c hc => Int.le_of_lt (hslot.lt_after c hc)

theorem Added.sound {parent : Nat} {range : TextRange} {before after : List Nat}
    (h : Added parent range before after tree tree') (hs : Sound length tree)
    (hslot : Slot tree parent range before after) (hcovers : (tree.rangeOf parent).Covers range)
    (hfree : ∀ c ∈ tree.childrenOf parent, ¬ (tree.rangeOf c).Overlaps range) :
    Sound length tree' := by
  obtain ⟨hnonempty, hroot, howned, hlinked, hnodup, hsorted⟩ := h.wired hs.wired hslot
  refine ⟨hnonempty, hroot, ?_, howned, hlinked, hnodup, ?_, hsorted, ?_⟩
  · rw [h.rangeOf_of_lt hs.nonempty]
    exact hs.root_range
  · intro i c hc
    obtain hc | ⟨rfl, rfl⟩ := (h.mem_childrenOf hslot.siblings).1 hc
    · rw [h.rangeOf_of_lt (parent_lt_of_mem hc), h.rangeOf_of_lt (hs.lt_size hc)]
      exact hs.covers i c hc
    · rw [h.rangeOf_of_lt hslot.parent_lt, h.rangeOf_new]
      exact hcovers
  · refine h.pairwise (R := fun r s => ¬ r.Overlaps s) hs.wired hslot.siblings hs.disjoint ?_ ?_
    · intro c hc
      exact hfree c (hslot.mem_of_before hc)
    · intro c hc ho
      exact hfree c (hslot.mem_of_after hc) ho.symm

end ScopeTree

end ScopeHints
