import Mathlib.Data.List.Nodup
import ScopeHints.Proofs.Scope.Mutation

/-! What a caller relies on who builds a scope tree by changes, whatever their order: children are
in order and apart, every scope is listed once, by its parent, and a child is refused exactly when
it overlaps a sibling. -/
namespace ScopeHints

namespace ScopeTree
variable {tree tree' : ScopeTree}

namespace Mutation

def scope? : Mutation → Option Nat
  | freeze | setRootRange _ => none
  | addChild i _ _ | declare i _ | addIdentifier i _ | addProperty i _ | addAssociation i _ =>
    some i

def Filled : Mutation → Prop
  | addChild _ range _ => range.start < range.stop
  | _ => True

instance decidableFilled : (m : Mutation) → Decidable m.Filled
  | addChild _ range _ => inferInstanceAs (Decidable (range.start < range.stop))
  | freeze | setRootRange _ | declare _ _ | addIdentifier _ _ | addProperty _ _
  | addAssociation _ _ => .isTrue trivial

end Mutation

structure Session where
  tree : ScopeTree
  known : List Nat

namespace Session

def start (range : TextRange) : Session := { tree := .ofRange range, known := [0] }

def ask (s : Session) (m : Mutation) : Session :=
  match s.tree.perform m with
  | (.ok (some i), tree) => { tree, known := i :: s.known }
  | (_, tree) => { s with tree }

def run (s : Session) (ms : List Mutation) : Session := ms.foldl ask s

/-- Every change is about a scope that the caller knows by then. -/
def Named (s : Session) : List Mutation → Prop
  | [] => True
  | m :: ms => (∀ i ∈ m.scope?, i ∈ s.known) ∧ (s.ask m).Named ms

instance decidableNamed (s : Session) : (ms : List Mutation) → Decidable (s.Named ms)
  | [] => .isTrue trivial
  | m :: ms =>
    haveI := decidableNamed (s.ask m) ms
    inferInstanceAs (Decidable (_ ∧ _))

end Session

/-! ### What every change keeps -/

/-- The children of every scope are listed in order, each with a range of its own that ends before
the next one starts. -/
structure Ordered (tree : ScopeTree) : Prop where
  wired : tree.Wired
  filled : ∀ i, ∀ c ∈ tree.childrenOf i, (tree.rangeOf c).start < (tree.rangeOf c).stop
  ordered : ∀ i, (tree.childrenOf i).Pairwise fun a b =>
    (tree.rangeOf a).stop ≤ (tree.rangeOf b).start

theorem Ordered.ascending (h : tree.Ordered) (i : Nat) :
    (tree.childrenOf i).Pairwise fun a b => (tree.rangeOf a).start < (tree.rangeOf b).start := by
  refine (h.ordered i).imp_of_mem ?_
  intro a b ha hb hab
  have hfilled := h.filled i a ha
  omega

theorem Ordered.disjoint (h : tree.Ordered) (i : Nat) :
    (tree.childrenOf i).Pairwise fun a b => ¬ (tree.rangeOf a).Overlaps (tree.rangeOf b) :=
  (h.ordered i).imp fun hab => TextRange.Apart.not_overlaps (.inl hab)

/-- A range that overlaps a sibling overlaps one of the two next to its slot: the siblings further
away are beyond these. -/
theorem Ordered.overlaps_neighbour (h : tree.Ordered) {parent : Nat} {range : TextRange}
    {before after : List Nat} (hslot : Slot tree parent range before after) {c : Nat}
    (hc : c ∈ tree.childrenOf parent) (ho : (tree.rangeOf c).Overlaps range) :
    ∃ b ∈ before.getLast?.toList ++ after.head?.toList, (tree.rangeOf b).Overlaps range := by
  obtain ⟨hstart, hstop⟩ := ho
  have hpair := h.ordered parent
  have hfilled := h.filled parent
  rw [hslot.siblings] at hc hpair hfilled
  obtain ⟨hpb, hpa, -⟩ := List.pairwise_append.1 hpair
  obtain hc | hc := List.mem_append.1 hc
  · -- Everything before the last sibling of `before` ends by its start, and so by the new start.
    obtain rfl | ⟨init, last, rfl⟩ := List.eq_nil_or_concat before
    · cases hc
    have hlast : last ∈ init.concat last := by simp
    refine ⟨last, by simp, ?_⟩
    have hle := hslot.before_le last hlast
    rw [List.concat_eq_append] at hc hpb
    obtain hc | hc := List.mem_append.1 hc
    · have hend := (List.pairwise_append.1 hpb).2.2 c hc last (by simp)
      omega
    · obtain rfl := List.mem_singleton.1 hc
      exact ⟨hstart, hstop⟩
  · cases after with
    | nil => cases hc
    | cons first rest =>
      refine ⟨first, by simp, ?_⟩
      have hge := hslot.lt_after first (by simp)
      have hfirst := hfilled first (by simp)
      obtain rfl | hc := List.mem_cons.1 hc
      · exact ⟨hstart, hstop⟩
      · have hend := (List.pairwise_cons.1 hpa).1 c hc
        exact ⟨by omega, by omega⟩

/-- A tree that is not frozen refuses a child exactly when the child overlaps a sibling. -/
theorem Ordered.addChild_cases (h : tree.Ordered) (hf : tree.frozen = false) {parent : Nat}
    (hp : parent < tree.size) (range : TextRange) (kind : ScopeKind) :
    (∃ c ∈ tree.childrenOf parent, (tree.rangeOf c).Overlaps range ∧
      tree.addChild parent range kind = .error (.overlap (tree.rangeOf c) range)) ∨
    (∀ c ∈ tree.childrenOf parent, ¬ (tree.rangeOf c).Overlaps range) ∧
      ∃ before after, Slot tree parent range before after ∧
        tree.addChild parent range kind =
          .ok (tree.size, tree.withChild parent range kind before after) := by
  obtain ⟨before, after, hslot, hadd⟩ := addChild_eq h.wired hf hp range kind
  rw [hadd]
  split
  · rename_i existing hfound
    obtain ⟨c, hc, rfl⟩ := List.mem_map.1 (List.mem_of_find?_eq_some hfound)
    have ho := List.find?_some hfound
    exact .inl ⟨c, hslot.mem_of_neighbour hc, of_decide_eq_true ho, rfl⟩
  · rename_i hnone
    refine .inr ⟨?_, before, after, hslot, rfl⟩
    intro c hc ho
    -- Only the neighbours were compared, and they are enough.
    obtain ⟨b, hb, hob⟩ := h.overlaps_neighbour hslot hc ho
    exact List.find?_eq_none.1 hnone _ (List.mem_map_of_mem hb) (decide_eq_true hob)

theorem Added.consecutive {parent : Nat} {range : TextRange} {before after : List Nat}
    (h : Added parent range before after tree tree') (hw : tree.Wired)
    (hproper : ∀ i, ∀ c ∈ tree.childrenOf i, (tree.rangeOf c).start ≤ (tree.rangeOf c).stop)
    (hrange : range.start ≤ range.stop) (hslot : Slot tree parent range before after)
    (hfree : ∀ c ∈ tree.childrenOf parent, ¬ (tree.rangeOf c).Overlaps range)
    (hclear : range.stop ≤ range.start → ∀ c ∈ tree.childrenOf parent,
      (tree.rangeOf c).start = range.start → (tree.rangeOf c).stop ≤ range.start)
    (hordered : ∀ i, (tree.childrenOf i).Pairwise fun a b =>
      (tree.rangeOf a).stop ≤ (tree.rangeOf b).start) (i : Nat) :
    (tree'.childrenOf i).Pairwise fun a b => (tree'.rangeOf a).stop ≤ (tree'.rangeOf b).start := by
  refine h.pairwise (R := fun r s => r.stop ≤ s.start) hw hslot.siblings hordered ?_ ?_ i
  · intro c hc
    -- A sibling that starts no later and does not overlap ends before the new child.
    have hmem := hslot.mem_of_before hc
    have hle := hslot.before_le c hc
    apply Int.le_of_not_gt
    intro hlt
    have hstop : range.stop ≤ (tree.rangeOf c).start := by
      apply Int.le_of_not_gt
      intro hstart
      exact hfree c hmem ⟨hstart, hlt⟩
    have hend := hclear (by omega) c hmem (by omega)
    omega
  · intro c hc
    have hmem := hslot.mem_of_after hc
    have hlt := hslot.lt_after c hc
    have hle := hproper parent c hmem
    apply Int.le_of_not_gt
    intro hstart
    exact hfree c hmem ⟨hstart, by omega⟩

theorem Ordered.withChild (h : tree.Ordered) {parent : Nat} {range : TextRange}
    (hrange : range.start < range.stop) (kind : ScopeKind) {before after : List Nat}
    (hslot : Slot tree parent range before after)
    (hfree : ∀ c ∈ tree.childrenOf parent, ¬ (tree.rangeOf c).Overlaps range) :
    (tree.withChild parent range kind before after).Ordered := by
  have hadded := withChild_added hslot.parent_lt range kind before after
  refine ⟨hadded.wired h.wired hslot,
    hadded.ranges (Q := fun r => r.start < r.stop) h.wired hslot.siblings h.filled hrange, ?_⟩
  exact hadded.consecutive h.wired (fun i c hc => Int.le_of_lt (h.filled i c hc))
    (Int.le_of_lt hrange) hslot hfree (by omega) h.ordered

/-- Two trees of the same links. Only the range of the whole file may differ, and the names. -/
structure SameLinks (tree tree' : ScopeTree) : Prop where
  size : tree'.size = tree.size
  parentOf : tree'.parentOf = tree.parentOf
  childrenOf : tree'.childrenOf = tree.childrenOf
  rangeOf : ∀ c, c ≠ 0 → tree'.rangeOf c = tree.rangeOf c

theorem SameShape.sameLinks (h : SameShape tree tree') : SameLinks tree tree' :=
  ⟨h.size, h.parentOf, h.childrenOf, fun c _ => congrFun h.rangeOf c⟩

theorem SameLinks.pairwise (h : SameLinks tree tree') (hw : tree.Wired)
    {R : TextRange → TextRange → Prop} {i : Nat}
    (hR : (tree.childrenOf i).Pairwise fun a b => R (tree.rangeOf a) (tree.rangeOf b)) :
    (tree'.childrenOf i).Pairwise fun a b => R (tree'.rangeOf a) (tree'.rangeOf b) := by
  rw [h.childrenOf]
  refine hR.imp_of_mem ?_
  intro a b ha hb hab
  rw [h.rangeOf a (hw.ne_zero ha), h.rangeOf b (hw.ne_zero hb)]
  exact hab

theorem SameLinks.ranges (h : SameLinks tree tree') (hw : tree.Wired) {Q : TextRange → Prop}
    (hQ : ∀ i, ∀ c ∈ tree.childrenOf i, Q (tree.rangeOf c)) :
    ∀ i, ∀ c ∈ tree'.childrenOf i, Q (tree'.rangeOf c) := by
  intro i c hc
  rw [h.childrenOf] at hc
  rw [h.rangeOf c (hw.ne_zero hc)]
  exact hQ i c hc

theorem SameLinks.wired (h : SameLinks tree tree') (hw : tree.Wired) : tree'.Wired := by
  refine ⟨?_, ?_, ?_, ?_, ?_, fun i => h.pairwise (R := fun r s => r.start ≤ s.start) hw (hw.sorted i)⟩
  · rw [h.size]; exact hw.nonempty
  · rw [h.parentOf]; exact hw.root_parent
  · rw [h.size, h.parentOf]; exact hw.owned
  · rw [h.childrenOf, h.parentOf]; exact hw.linked
  · rw [h.childrenOf]; exact hw.nodup

theorem SameLinks.ordered (h : SameLinks tree tree') (ho : tree.Ordered) : tree'.Ordered :=
  ⟨h.wired ho.wired, h.ranges (Q := fun r => r.start < r.stop) ho.wired ho.filled,
    fun i => h.pairwise (R := fun r s => r.stop ≤ s.start) ho.wired (ho.ordered i)⟩

theorem modify_sameLinks (range : TextRange) :
    SameLinks tree (tree.modify 0 fun r => { r with range }) := by
  refine ⟨Array.size_modify, ?_, ?_, ?_⟩
  · funext j
    simp only [parentOf, getElem?_modify]
    split
    · cases tree.records[j]? <;> rfl
    · rfl
  · funext j
    simp only [childrenOf, getElem?_modify]
    split
    · cases tree.records[j]? <;> rfl
    · rfl
  · intro c hc
    simp only [rangeOf, getElem?_modify, if_neg (Ne.symm hc)]

theorem settle_update {i : Nat} {f : ScopeRecord → ScopeRecord}
    (hlinks : SameLinks tree (tree.modify i f)) :
    (∃ e, tree.settle ((tree.update i f).map (none, ·)) = (.error e, tree)) ∨
      ∃ tree', tree.settle ((tree.update i f).map (none, ·)) = (.ok none, tree') ∧
        SameLinks tree tree' := by
  cases h : tree.update i f with
  | error e => exact .inl ⟨e, rfl⟩
  | ok tree' =>
    obtain ⟨-, rfl⟩ := update_ok h
    exact .inr ⟨_, rfl, hlinks⟩

theorem perform_cases (hw : tree.Wired) {m : Mutation} (hm : ∀ i ∈ m.scope?, i < tree.size) :
    (∃ e, tree.perform m = (.error e, tree)) ∨
    (∃ tree', tree.perform m = (.ok none, tree') ∧ SameLinks tree tree') ∨
    ∃ parent range kind tree', m = .addChild parent range kind ∧ tree.frozen = false ∧
      parent < tree.size ∧ tree.addChild parent range kind = .ok (tree.size, tree') ∧
      tree.perform m = (.ok (some tree.size), tree') := by
  rw [perform_eq hw]
  cases m with
  | freeze => exact .inr (.inl ⟨tree.freeze, rfl, rfl, rfl, rfl, fun _ _ => rfl⟩)
  | setRootRange range => exact (settle_update (modify_sameLinks range)).imp_right .inl
  | addChild parent range kind =>
    have hp := hm parent rfl
    rw [Mutation.on]
    cases hadd : tree.addChild parent range kind with
    | error e => exact .inl ⟨e, rfl⟩
    | ok added =>
      obtain ⟨i, tree'⟩ := added
      obtain ⟨before, after, rfl, -⟩ := addChild_ok hw hp hadd
      exact .inr (.inr ⟨parent, range, kind, tree', rfl, thawed_of_addChild hadd, hp, hadd, rfl⟩)
  | declare | addIdentifier | addProperty | addAssociation =>
    refine (settle_update ?_).imp_right .inl
    refine (modify_sameShape _ ?_).sameLinks
    exact fun r => ⟨rfl, rfl, rfl⟩

theorem perform_absent (hw : Wired tree) {m : Mutation} {i : Nat} (hi : i ∈ m.scope?) (hle : tree.size ≤ i) :
    ∃ e, tree.perform m = (.error e, tree) := by
  have hupdate : ∀ f, ∃ e, tree.update i f = .error e := by
    intro f
    unfold update
    split
    · exact ⟨_, rfl⟩
    · exact ⟨_, if_neg (Nat.not_lt.2 hle)⟩
  have hadd : ∀ range kind, ∃ e, tree.addChild i range kind = .error e := by
    intro range kind
    have hnone : tree.resolve? (i : Int) = none := by
      have hneg : ¬ (i : Int) < 0 := by omega
      simp only [resolve?, if_neg hneg]
      exact if_neg (by omega)
    unfold addChild
    split
    · exact ⟨_, rfl⟩
    · exact ⟨_, by rw [hnone]⟩
  rw [perform_eq hw]
  cases m with
  | freeze => cases hi
  | setRootRange range => cases hi
  | addChild parent range kind =>
    obtain rfl := Option.some.inj hi
    obtain ⟨e, he⟩ := hadd range kind
    exact ⟨e, by rw [Mutation.on, he]; rfl⟩
  | declare | addIdentifier | addProperty | addAssociation =>
    obtain rfl := Option.some.inj hi
    obtain ⟨e, he⟩ := hupdate _
    exact ⟨e, by
      simp only [Mutation.on, declare, addIdentifier, addProperty, addAssociation]
      rw [he]
      rfl⟩

/-- What any change does: it is refused, or it keeps the links, or it puts a child into its slot. -/
theorem perform_effect (hw : tree.Wired) (m : Mutation) :
    (∃ e, tree.perform m = (.error e, tree)) ∨
    (∃ tree', tree.perform m = (.ok none, tree') ∧ SameLinks tree tree') ∨
    ∃ parent range kind before after, m = .addChild parent range kind ∧ tree.frozen = false ∧
      Slot tree parent range before after ∧
      (∀ b ∈ before.getLast?.toList ++ after.head?.toList, ¬ (tree.rangeOf b).Overlaps range) ∧
      tree.perform m = (.ok (some tree.size), tree.withChild parent range kind before after) := by
  by_cases hm : ∀ i ∈ m.scope?, i < tree.size
  · refine (perform_cases hw hm).imp_right (.imp_right ?_)
    rintro ⟨parent, range, kind, tree', rfl, hf, hp, hadd, he⟩
    obtain ⟨before, after, -, rfl, hslot, hnext⟩ := addChild_ok hw hp hadd
    exact ⟨parent, range, kind, before, after, rfl, hf, hslot, hnext, he⟩
  · simp only [not_forall, Nat.not_lt] at hm
    obtain ⟨i, hi, hle⟩ := hm
    exact .inl (perform_absent hw hi hle)

theorem perform_wired (hw : Wired tree) (m : Mutation) : (tree.perform m).2.Wired := by
  obtain ⟨e, he⟩ | ⟨tree', he, hlinks⟩ | ⟨parent, range, kind, before, after, rfl, -, hslot, -, he⟩ :=
    perform_effect hw m
  · rw [he]
    exact hw
  · rw [he]
    exact hlinks.wired hw
  · rw [he]
    exact (withChild_added hslot.parent_lt range kind before after).wired hw hslot

theorem ordered_ofRange (range : TextRange) : (ofRange range).Ordered := by
  refine ⟨wired_ofRange range, ?_, ?_⟩
  all_goals simp [childrenOf_ofRange]

/-! ### Sessions -/

structure Session.Kept (s : Session) : Prop where
  ordered : s.tree.Ordered
  known : ∀ i ∈ s.known, i < s.tree.size

namespace Session
variable {s : Session}

theorem tree_ask (s : Session) (m : Mutation) : (s.ask m).tree = (s.tree.perform m).2 := by
  unfold Session.ask
  split <;> simp_all

theorem run_wired {s : Session} (hw : s.tree.Wired) (ms : List Mutation) :
    (s.run ms).tree.Wired := by
  induction ms generalizing s with
  | nil => exact hw
  | cons m ms ih =>
    refine ih (s := s.ask m) ?_
    rw [tree_ask]
    exact perform_wired hw m

theorem kept_start (range : TextRange) : (start range).Kept := by
  refine ⟨ordered_ofRange range, ?_⟩
  intro i hi
  obtain rfl := List.mem_singleton.1 hi
  exact Nat.one_pos

theorem Kept.ask (h : s.Kept) {m : Mutation} (hm : ∀ i ∈ m.scope?, i ∈ s.known) (hfilled : m.Filled) :
    (s.ask m).Kept := by
  obtain ⟨hordered, hknown⟩ := h
  have hsize : ∀ i ∈ m.scope?, i < s.tree.size := fun i hi => hknown i (hm i hi)
  unfold Session.ask
  obtain ⟨e, he⟩ | ⟨tree', he, hlinks⟩ | ⟨parent, range, kind, tree', rfl, hf, hp, hadd, he⟩ :=
    perform_cases hordered.wired hsize
  · rw [he]
    exact ⟨hordered, hknown⟩
  · rw [he]
    refine ⟨hlinks.ordered hordered, ?_⟩
    intro i hi
    rw [hlinks.size]
    exact hknown i hi
  · rw [he]
    obtain ⟨c, -, -, hc⟩ | ⟨hfree, before, after, hslot, hc⟩ :=
      hordered.addChild_cases hf hp range kind
    · rw [hadd] at hc
      cases hc
    rw [hadd] at hc
    obtain ⟨-, rfl⟩ := Prod.mk.inj (Except.ok.inj hc)
    refine ⟨hordered.withChild hfilled kind hslot hfree, ?_⟩
    have hnew := (withChild_added hp range kind before after).size
    intro i hi
    rw [hnew]
    obtain rfl | hi := List.mem_cons.1 hi
    · exact Nat.lt_succ_self _
    · exact Nat.lt_succ_of_lt (hknown i hi)

theorem Kept.run (h : s.Kept) {ms : List Mutation} (hnamed : s.Named ms)
    (hfilled : ∀ m ∈ ms, m.Filled) : (s.run ms).Kept := by
  induction ms generalizing s with
  | nil => exact h
  | cons m ms ih =>
    obtain ⟨hm, hms⟩ := hnamed
    have hnext := h.ask hm (hfilled m List.mem_cons_self)
    exact ih hnext hms fun m' hm' => hfilled m' (List.mem_cons_of_mem m hm')

structure Reliable (s : Session) : Prop where
  ascending : ∀ i, (s.tree.childrenOf i).Pairwise fun a b =>
    (s.tree.rangeOf a).start < (s.tree.rangeOf b).start
  disjoint : ∀ i, (s.tree.childrenOf i).Pairwise fun a b =>
    ¬ (s.tree.rangeOf a).Overlaps (s.tree.rangeOf b)
  /-- Every scope but the root has an older parent, and is listed once, by this one. -/
  listed : ∀ c, 0 < c → c < s.tree.size →
    ∃ i : Nat, i < c ∧ s.tree.parentOf c = some (i : Int) ∧
      ∀ j, (s.tree.childrenOf j).count c = if j = i then 1 else 0
  known : ∀ i ∈ s.known, i < s.tree.size
  /-- The steps of a change do what its operation does. -/
  operation : ∀ m, s.tree.perform m = s.tree.settle (m.on s.tree)
  /-- A child is refused exactly when it overlaps one of its siblings, be it a neighbour or not. -/
  overlap : s.tree.frozen = false → ∀ parent ∈ s.known, ∀ (range : TextRange) (kind : ScopeKind),
    range.start < range.stop →
    ((∃ e, (s.tree.perform (.addChild parent range kind)).1 = .error e) ↔
      ∃ c ∈ s.tree.childrenOf parent, (s.tree.rangeOf c).Overlaps range)
  reported : s.tree.frozen = false → ∀ parent ∈ s.known, ∀ (range : TextRange) (kind : ScopeKind),
    ∀ e, (s.tree.perform (.addChild parent range kind)).1 = .error e →
    ∃ c ∈ s.tree.childrenOf parent,
      (s.tree.rangeOf c).Overlaps range ∧ e = .overlap (s.tree.rangeOf c) range
  refused : ∀ m e, (s.tree.perform m).1 = .error e → (s.tree.perform m).2 = s.tree
  frozen : s.tree.frozen = true → ∀ m, (s.tree.perform m).2 = s.tree

theorem Kept.listed (h : s.Kept) {c : Nat} (hc : 0 < c) (hlt : c < s.tree.size) :
    ∃ i : Nat, i < c ∧ s.tree.parentOf c = some (i : Int) ∧
      ∀ j, (s.tree.childrenOf j).count c = if j = i then 1 else 0 := by
  have hw := h.ordered.wired
  obtain ⟨i, hi, hparent⟩ := hw.owned c hc hlt
  have hmem : c ∈ s.tree.childrenOf i := (hw.linked i c).2 hparent
  refine ⟨i, hi, hparent, ?_⟩
  intro j
  by_cases hj : j = i
  · subst hj
    rw [if_pos rfl]
    exact List.count_eq_one_of_mem (hw.nodup j) hmem
  · rw [if_neg hj, List.count_eq_zero]
    exact fun hc => hj (hw.parent_unique hc hmem)

theorem Kept.addChild_reply (h : s.Kept) (hf : s.tree.frozen = false) {parent : Nat}
    (hp : parent ∈ s.known) (range : TextRange) (kind : ScopeKind) :
    (∃ c ∈ s.tree.childrenOf parent, (s.tree.rangeOf c).Overlaps range ∧
      (s.tree.perform (.addChild parent range kind)).1 =
        .error (.overlap (s.tree.rangeOf c) range)) ∨
    (∀ c ∈ s.tree.childrenOf parent, ¬ (s.tree.rangeOf c).Overlaps range) ∧
      (s.tree.perform (.addChild parent range kind)).1 = .ok (some s.tree.size) := by
  rw [perform_eq h.ordered.wired, Mutation.on]
  obtain ⟨c, hc, ho, hadd⟩ | ⟨hfree, before, after, -, hadd⟩ :=
    h.ordered.addChild_cases hf (h.known parent hp) range kind
  · rw [hadd]
    exact .inl ⟨c, hc, ho, rfl⟩
  · rw [hadd]
    exact .inr ⟨hfree, rfl⟩

theorem Kept.frozen (h : s.Kept) (hf : s.tree.frozen = true) (m : Mutation) :
    (s.tree.perform m).2 = s.tree := by
  have hupdate : ∀ i f, s.tree.update i f = .error .frozen := fun i f => by
    rw [update, if_pos hf]
  rw [perform_eq h.ordered.wired]
  cases m with
  | freeze =>
    change s.tree.freeze = s.tree
    rw [freeze, ← hf]
  | setRootRange range => rw [Mutation.on, setRootRange, hupdate]; rfl
  | addChild parent range kind => rw [Mutation.on, addChild, if_pos hf]; rfl
  | declare scope o => rw [Mutation.on, declare, hupdate]; rfl
  | addIdentifier scope o => rw [Mutation.on, addIdentifier, hupdate]; rfl
  | addProperty scope o => rw [Mutation.on, addProperty, hupdate]; rfl
  | addAssociation scope a => rw [Mutation.on, addAssociation, hupdate]; rfl

theorem Kept.reliable (h : s.Kept) : s.Reliable := by
  have hw := h.ordered.wired
  refine ⟨h.ordered.ascending, h.ordered.disjoint, fun c hc hlt => h.listed hc hlt, h.known,
    perform_eq hw, ?_, ?_, ?_, h.frozen⟩
  · intro hf parent hp range kind _
    obtain ⟨c, hc, ho, hreply⟩ | ⟨hfree, hreply⟩ := h.addChild_reply hf hp range kind
    · exact ⟨fun _ => ⟨c, hc, ho⟩, fun _ => ⟨_, hreply⟩⟩
    · constructor
      · rintro ⟨e, he⟩
        rw [hreply] at he
        cases he
      · rintro ⟨c, hc, ho⟩
        exact absurd ho (hfree c hc)
  · intro hf parent hp range kind e he
    obtain ⟨c, hc, ho, hreply⟩ | ⟨hfree, hreply⟩ := h.addChild_reply hf hp range kind
    · rw [hreply] at he
      exact ⟨c, hc, ho, (Except.error.inj he).symm⟩
    · rw [hreply] at he
      cases he
  · intro m e he
    rw [perform_eq hw] at he ⊢
    cases hm : m.on s.tree with
    | error e' => rfl
    | ok _ =>
      rw [hm] at he
      cases he

/-- A tree that is built by changes of known scopes is reliable after each of them, whatever their
order and whether or not some of them were refused. -/
theorem run_reliable (range : TextRange) (ms : List Mutation) (hnamed : (start range).Named ms)
    (hfilled : ∀ m ∈ ms, m.Filled) : ((start range).run ms).Reliable :=
  ((kept_start range).run hnamed hfilled).reliable

def crossing : List Mutation :=
  [.addChild 0 ⟨10, 20⟩ .function, .addChild 0 ⟨2, 8⟩ .function, .addChild 1 ⟨12, 15⟩ .catchClause,
    .addChild 0 ⟨5, 12⟩ .function, .declare 2 ⟨"a", 3⟩, .freeze, .addChild 2 ⟨4, 5⟩ .function]

theorem run_reliable_crossing : (start ⟨0, 30⟩).Named crossing ∧ (∀ m ∈ crossing, m.Filled) ∧
    ((start ⟨0, 30⟩).run crossing).Reliable := by
  have hnamed : (start ⟨0, 30⟩).Named crossing := by decide +kernel
  have hfilled : ∀ m ∈ crossing, m.Filled := by decide
  exact ⟨hnamed, hfilled, run_reliable ⟨0, 30⟩ crossing hnamed hfilled⟩

end Session

end ScopeTree

end ScopeHints
