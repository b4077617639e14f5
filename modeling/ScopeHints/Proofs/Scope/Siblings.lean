import ScopeHints.Proofs.Scope.Arena

/-! Siblings with empty ranges among them. A new child is compared with its neighbours only, and an
empty neighbour at the start of a longer sibling keeps that one from being compared. -/
namespace ScopeHints

namespace ScopeTree
variable {tree tree' : ScopeTree} {parent : Nat} {range : TextRange} {kind : ScopeKind}
  {before after : List Nat} {m : Mutation}

/-! ### What is asked for -/

def Mutation.Proper : Mutation → Prop
  | addChild _ range _ => range.start ≤ range.stop
  | _ => True

instance Mutation.decidableProper : (m : Mutation) → Decidable m.Proper
  | addChild _ range _ => inferInstanceAs (Decidable (range.start ≤ range.stop))
  | freeze | setRootRange _ | declare _ _ | addIdentifier _ _ | addProperty _ _
  | addAssociation _ _ => .isTrue trivial

def Disjoint (tree : ScopeTree) : Prop :=
  ∀ i, (tree.childrenOf i).Pairwise fun a b => ¬ (tree.rangeOf a).Overlaps (tree.rangeOf b)

/-- The new child overlaps a sibling, no sibling that starts later, and the last sibling that starts
no later is an empty one at the start of the overlapped one. -/
def Overlooks (tree : ScopeTree) : Mutation → Prop
  | .addChild parent range _ => tree.frozen = false ∧
    ∃ c ∈ tree.childrenOf parent, (tree.rangeOf c).Overlaps range ∧
      (∀ d ∈ tree.childrenOf parent, range.start < (tree.rangeOf d).start →
        range.stop ≤ (tree.rangeOf d).start) ∧
      ∃ e, ((tree.childrenOf parent).filter fun d =>
          (tree.rangeOf d).start ≤ range.start).getLast? = some e ∧
        tree.rangeOf e = ⟨(tree.rangeOf c).start, (tree.rangeOf c).start⟩
  | _ => False

/-- The new child is empty and stands at the start of a longer sibling. -/
def Masks (tree : ScopeTree) : Mutation → Prop
  | .addChild parent range _ => range.stop ≤ range.start ∧
    ∃ c ∈ tree.childrenOf parent, (tree.rangeOf c).start = range.start ∧
      range.start < (tree.rangeOf c).stop
  | _ => False

instance decidableMasks (tree : ScopeTree) : (m : Mutation) → Decidable (tree.Masks m)
  | .addChild parent range _ => inferInstanceAs (Decidable (range.stop ≤ range.start ∧
      ∃ c ∈ tree.childrenOf parent, (tree.rangeOf c).start = range.start ∧
        range.start < (tree.rangeOf c).stop))
  | .freeze | .setRootRange _ | .declare _ _ | .addIdentifier _ _ | .addProperty _ _
  | .addAssociation _ _ => .isFalse id

/-! ### Trees of proper ranges -/

structure Proper (tree : ScopeTree) : Prop where
  wired : tree.Wired
  proper : ∀ i, ∀ c ∈ tree.childrenOf i, (tree.rangeOf c).start ≤ (tree.rangeOf c).stop

theorem proper_ofRange (range : TextRange) : (ofRange range).Proper := by
  refine ⟨wired_ofRange range, ?_⟩
  simp [childrenOf_ofRange]

theorem Proper.perform (h : tree.Proper) (hm : m.Proper) : (tree.perform m).2.Proper := by
  refine ⟨perform_wired h.wired m, ?_⟩
  obtain ⟨e, he⟩ | ⟨tree', he, hlinks⟩ | ⟨parent, range, kind, before, after, rfl, -, hslot, -, he⟩ :=
    perform_effect h.wired m
  · rw [he]
    exact h.proper
  · rw [he]
    exact hlinks.ranges (Q := fun r => r.start ≤ r.stop) h.wired h.proper
  · rw [he]
    exact (withChild_added hslot.parent_lt range kind before after).ranges
      (Q := fun r => r.start ≤ r.stop) h.wired hslot.siblings h.proper hm

/-! ### One change -/

theorem Slot.filter_siblings (h : Slot tree parent range before after) :
    (tree.childrenOf parent).filter (fun d => (tree.rangeOf d).start ≤ range.start) = before := by
  have hkept : before.filter (fun d => (tree.rangeOf d).start ≤ range.start) = before :=
    List.filter_eq_self.2 fun c hc => decide_eq_true (h.before_le c hc)
  have hdropped : after.filter (fun d => (tree.rangeOf d).start ≤ range.start) = [] :=
    List.filter_eq_nil_iff.2 fun c hc => by simpa using h.lt_after c hc
  rw [h.siblings, List.filter_append, hkept, hdropped, List.append_nil]

theorem Overlooks.taken (ho : tree.Overlooks m) (hw : tree.Wired) :
    ∃ tree', tree.perform m = (.ok (some tree.size), tree') := by
  cases m with
  | addChild parent range kind =>
    obtain ⟨hf, c, hc, hoverlap, hfree, e, hlast, hempty⟩ := ho
    obtain ⟨before, after, hslot, hadd⟩ := addChild_eq hw hf (parent_lt_of_mem hc) range kind
    rw [hslot.filter_siblings] at hlast
    -- The empty sibling overlaps nothing, and a later one is free.
    have hnone : ((before.getLast?.toList ++ after.head?.toList).map tree.rangeOf).find?
        (fun r => r.Overlaps range) = none := by
      rw [List.find?_eq_none]
      intro r hr
      obtain ⟨b, hb, rfl⟩ := List.mem_map.1 hr
      rw [decide_eq_true_eq]
      rintro ⟨hstart, hstop⟩
      obtain hb | hb := List.mem_append.1 hb
      · have hbe : b = e := by simpa [hlast] using hb
        have hle := hslot.before_le e (List.mem_of_getLast? hlast)
        rw [hempty] at hle
        rw [hbe, hempty] at hstop
        exact absurd hstop (Int.not_lt.2 hle)
      · have hb := List.mem_of_head? (by simpa using hb)
        have hend := hfree b (hslot.mem_of_after hb) (hslot.lt_after b hb)
        omega
    rw [hnone] at hadd
    rw [perform_eq hw, Mutation.on, hadd]
    exact ⟨_, rfl⟩
  | _ => exact ho.elim

theorem Proper.free_after (h : tree.Proper) (hslot : Slot tree parent range before after)
    (hnext : ∀ b ∈ before.getLast?.toList ++ after.head?.toList, ¬ (tree.rangeOf b).Overlaps range)
    {d : Nat} (hd : d ∈ after) : range.stop ≤ (tree.rangeOf d).start := by
  have hsorted := h.wired.sorted parent
  rw [hslot.siblings] at hsorted
  cases after with
  | nil => cases hd
  | cons first rest =>
    have hfirst : range.stop ≤ (tree.rangeOf first).start := by
      have hlt := hslot.lt_after first List.mem_cons_self
      have hle := h.proper parent first (hslot.mem_of_after List.mem_cons_self)
      apply Int.le_of_not_gt
      intro hgt
      exact hnext first (by simp) ⟨hgt, by omega⟩
    obtain rfl | hd := List.mem_cons.1 hd
    · exact hfirst
    · have hrest := (List.pairwise_cons.1 (List.pairwise_append.1 hsorted).2.1).1 d hd
      omega

theorem Proper.overlooks (h : tree.Proper) (hd : tree.Disjoint) (hf : tree.frozen = false)
    (hslot : Slot tree parent range before after)
    (hnext : ∀ b ∈ before.getLast?.toList ++ after.head?.toList, ¬ (tree.rangeOf b).Overlaps range)
    {c : Nat} (hc : c ∈ tree.childrenOf parent) (ho : (tree.rangeOf c).Overlaps range) :
    tree.Overlooks (.addChild parent range kind) := by
  have hfree : ∀ d ∈ after, range.stop ≤ (tree.rangeOf d).start := fun d =>
    h.free_after hslot hnext
  refine ⟨hf, c, hc, ho, ?_, ?_⟩
  · intro d hd hlt
    rw [hslot.siblings] at hd
    obtain hd | hd := List.mem_append.1 hd
    · have hle := hslot.before_le d hd
      omega
    · exact hfree d hd
  rw [hslot.filter_siblings]
  obtain ⟨hstart, hstop⟩ := ho
  have hsorted := h.wired.sorted parent
  have hdisjoint := hd parent
  rw [hslot.siblings] at hc hsorted hdisjoint
  have hc : c ∈ before := by
    obtain hc | hc := List.mem_append.1 hc
    · exact hc
    · have hle := hfree c hc
      omega
  obtain rfl | ⟨init, e, rfl⟩ := List.eq_nil_or_concat before
  · cases hc
  refine ⟨e, by simp, ?_⟩
  have hlast := hslot.before_le e (by simp)
  have hend := h.proper parent e (hslot.mem_of_before (by simp))
  rw [List.concat_eq_append] at hc hsorted hdisjoint
  obtain hc | hc := List.mem_append.1 hc
  · -- The last one is apart from the overlapped one and starts within it, so it is empty.
    have hle := (List.pairwise_append.1 (List.pairwise_append.1 hsorted).1).2.2 c hc e (by simp)
    have hnot := (List.pairwise_append.1 (List.pairwise_append.1 hdisjoint).1).2.2 c hc e (by simp)
    have hstop' : (tree.rangeOf e).stop ≤ (tree.rangeOf c).start := by
      apply Int.le_of_not_gt
      intro hlt
      exact hnot ⟨hlt, by omega⟩
    have hsame : (tree.rangeOf e).start = (tree.rangeOf c).start := by omega
    have hempty : (tree.rangeOf e).stop = (tree.rangeOf c).start := by omega
    calc tree.rangeOf e = ⟨(tree.rangeOf e).start, (tree.rangeOf e).stop⟩ := rfl
      _ = ⟨(tree.rangeOf c).start, (tree.rangeOf c).start⟩ := by rw [hsame, hempty]
  · obtain rfl := List.mem_singleton.1 hc
    exact absurd ⟨hstart, hstop⟩ (hnext c (by simp))

theorem withChild_disjoint_iff (hw : tree.Wired) (hd : tree.Disjoint)
    (hslot : Slot tree parent range before after) :
    (tree.withChild parent range kind before after).Disjoint ↔
      ∀ c ∈ tree.childrenOf parent, ¬ (tree.rangeOf c).Overlaps range := by
  have hadded := withChild_added hslot.parent_lt range kind before after
  constructor
  · intro h c hc ho
    have hnew : tree.size ∈ (tree.withChild parent range kind before after).childrenOf parent :=
      (hadded.mem_childrenOf hslot.siblings).2 (.inr ⟨rfl, rfl⟩)
    have hold : c ∈ (tree.withChild parent range kind before after).childrenOf parent :=
      (hadded.mem_childrenOf hslot.siblings).2 (.inl hc)
    have hlt := hw.lt_size hc
    have hsymm : Std.Symm fun a b =>
        ¬ ((tree.withChild parent range kind before after).rangeOf a).Overlaps
          ((tree.withChild parent range kind before after).rangeOf b) :=
      ⟨fun _ _ hab hba => hab hba.symm⟩
    have hpair := (h parent).forall hold hnew (Nat.ne_of_lt hlt)
    rw [hadded.rangeOf_of_lt hlt, hadded.rangeOf_new] at hpair
    exact hpair ho
  · intro hfree
    refine hadded.pairwise (R := fun r s => ¬ r.Overlaps s) hw hslot.siblings hd ?_ ?_
    · intro c hc
      exact hfree c (hslot.mem_of_before hc)
    · intro c hc ho
      exact hfree c (hslot.mem_of_after hc) ho.symm

/-- A change keeps siblings apart exactly when it is not one that is overlooked. -/
theorem Proper.perform_disjoint_iff (h : tree.Proper) (hd : tree.Disjoint) :
    (tree.perform m).2.Disjoint ↔ ¬ tree.Overlooks m := by
  obtain ⟨e, he⟩ | ⟨tree', he, hlinks⟩ | ⟨parent, range, kind, before, after, rfl, hf, hslot,
    hnext, he⟩ := perform_effect h.wired m
  · rw [he]
    refine iff_of_true hd ?_
    intro ho
    obtain ⟨tree', htaken⟩ := ho.taken h.wired
    cases htaken.symm.trans he
  · rw [he]
    refine iff_of_true (fun i => hlinks.pairwise (R := fun r s => ¬ r.Overlaps s) h.wired (hd i)) ?_
    intro ho
    obtain ⟨tree', htaken⟩ := ho.taken h.wired
    cases htaken.symm.trans he
  · rw [he, withChild_disjoint_iff h.wired hd hslot]
    constructor
    · rintro hfree ⟨-, c, hc, ho, -⟩
      exact hfree c hc ho
    · intro hnot c hc ho
      exact hnot (h.overlooks hd hf hslot hnext hc ho)

/-! ### Without masks -/

def Consecutive (tree : ScopeTree) : Prop :=
  ∀ i, (tree.childrenOf i).Pairwise fun a b => (tree.rangeOf a).stop ≤ (tree.rangeOf b).start

theorem Consecutive.disjoint (h : tree.Consecutive) : tree.Disjoint :=
  fun i => (h i).imp fun hab => TextRange.Apart.not_overlaps (.inl hab)

theorem Consecutive.not_overlooks (h : tree.Consecutive) : ¬ tree.Overlooks m := by
  intro ho
  cases m with
  | addChild parent range kind =>
    obtain ⟨-, c, hc, ⟨hstart, hstop⟩, hfree, e, hlast, hempty⟩ := ho
    have hle : (tree.rangeOf c).start ≤ range.start := by
      apply Int.le_of_not_gt
      intro hlt
      have hend := hfree c hc hlt
      omega
    -- The last one that starts no later is the overlapped one or starts behind it.
    have hmem : c ∈ (tree.childrenOf parent).filter fun d => (tree.rangeOf d).start ≤ range.start :=
      List.mem_filter.2 ⟨hc, decide_eq_true hle⟩
    have hpair := (h parent).filter fun d => (tree.rangeOf d).start ≤ range.start
    obtain ⟨init, hinit⟩ := List.getLast?_eq_some_iff.1 hlast
    rw [hinit] at hmem hpair
    obtain hmem | hmem := List.mem_append.1 hmem
    · have hend := (List.pairwise_append.1 hpair).2.2 c hmem e (by simp)
      rw [hempty] at hend
      dsimp only at hend
      omega
    · obtain rfl := List.mem_singleton.1 hmem
      rw [hempty] at hstop hle
      dsimp only at hstop hle
      omega
  | _ => exact ho.elim

theorem Consecutive.perform (h : tree.Consecutive) (hp : tree.Proper) (hm : m.Proper)
    (hmasks : ¬ tree.Masks m) : (tree.perform m).2.Consecutive := by
  obtain ⟨e, he⟩ | ⟨tree', he, hlinks⟩ | ⟨parent, range, kind, before, after, rfl, hf, hslot,
    hnext, he⟩ := perform_effect hp.wired m
  · rw [he]
    exact h
  · rw [he]
    exact fun i => hlinks.pairwise (R := fun r s => r.stop ≤ s.start) hp.wired (h i)
  · rw [he]
    refine (withChild_added hslot.parent_lt range kind before after).consecutive hp.wired hp.proper hm
      hslot ?_ ?_ h
    · intro c hc ho
      have hoverlooks : tree.Overlooks (.addChild parent range kind) :=
        hp.overlooks h.disjoint hf hslot hnext hc ho
      exact h.not_overlooks hoverlooks
    · intro hempty c hc hstart
      apply Int.le_of_not_gt
      intro hlt
      exact hmasks ⟨hempty, c, hc, hstart, hlt⟩

/-! ### Sessions -/

namespace Session
variable {s : Session}

/-- Something holds of every change that is asked for and the tree that it meets. -/
def Along (P : ScopeTree → Mutation → Prop) (s : Session) : List Mutation → Prop
  | [] => True
  | m :: ms => P s.tree m ∧ (s.ask m).Along P ms

instance decidableAlong (P : ScopeTree → Mutation → Prop) [∀ tree m, Decidable (P tree m)]
    (s : Session) : (ms : List Mutation) → Decidable (s.Along P ms)
  | [] => .isTrue trivial
  | m :: ms =>
    haveI := decidableAlong P (s.ask m) ms
    inferInstanceAs (Decidable (_ ∧ _))

theorem disjoint_iff_along (h : s.tree.Proper) {ms : List Mutation} (hproper : ∀ m ∈ ms, m.Proper) :
    (∀ k, (s.run (ms.take k)).tree.Disjoint) ↔
      s.tree.Disjoint ∧ s.Along (fun tree m => ¬ tree.Overlooks m) ms := by
  induction ms generalizing s with
  | nil => simp [run, Along]
  | cons m ms ih =>
    have hnext : (s.ask m).tree.Proper := by
      rw [tree_ask]
      exact h.perform (hproper m List.mem_cons_self)
    have hrest := ih hnext fun m' hm' => hproper m' (List.mem_cons_of_mem m hm')
    calc (∀ k, (s.run ((m :: ms).take k)).tree.Disjoint)
        ↔ s.tree.Disjoint ∧ ∀ k, ((s.ask m).run (ms.take k)).tree.Disjoint :=
          Nat.and_forall_add_one.symm
      _ ↔ s.tree.Disjoint ∧ (s.ask m).tree.Disjoint ∧
            (s.ask m).Along (fun tree m => ¬ tree.Overlooks m) ms := by rw [hrest]
      _ ↔ s.tree.Disjoint ∧ ¬ s.tree.Overlooks m ∧
            (s.ask m).Along (fun tree m => ¬ tree.Overlooks m) ms := by
          refine and_congr_right fun hd => and_congr_left fun _ => ?_
          rw [tree_ask]
          exact h.perform_disjoint_iff hd

theorem Along.not_overlooks (hp : s.tree.Proper) (hc : s.tree.Consecutive) {ms : List Mutation}
    (hproper : ∀ m ∈ ms, m.Proper) (h : s.Along (fun tree m => ¬ tree.Masks m) ms) :
    s.Along (fun tree m => ¬ tree.Overlooks m) ms := by
  induction ms generalizing s with
  | nil => trivial
  | cons m ms ih =>
    obtain ⟨hmasks, hrest⟩ := h
    have hm := hproper m List.mem_cons_self
    refine ⟨hc.not_overlooks, ih ?_ ?_ (fun m' hm' => hproper m' (List.mem_cons_of_mem m hm')) hrest⟩
    · rw [tree_ask]
      exact hp.perform hm
    · rw [tree_ask]
      exact hc.perform hp hm hmasks

/-- With empty ranges among those asked for, siblings stay apart as long as no overlap is overlooked
behind an empty sibling, and only so long. They do when no empty child is asked for at the start of a
longer sibling. -/
theorem run_disjoint_iff (range : TextRange) (ms : List Mutation) (hproper : ∀ m ∈ ms, m.Proper) :
    ((∀ k, ((start range).run (ms.take k)).tree.Disjoint) ↔
      (start range).Along (fun tree m => ¬ tree.Overlooks m) ms) ∧
    ((start range).Along (fun tree m => ¬ tree.Masks m) ms →
      ∀ k, ((start range).run (ms.take k)).tree.Disjoint) := by
  have hp : (start range).tree.Proper := proper_ofRange range
  have hc : (start range).tree.Consecutive := by
    intro i
    change ((ofRange range).childrenOf i).Pairwise _
    rw [childrenOf_ofRange]
    exact .nil
  have hiff := disjoint_iff_along hp hproper
  exact ⟨hiff.trans (and_iff_right hc.disjoint),
    fun h => hiff.2 ⟨hc.disjoint, h.not_overlooks hp hc hproper⟩⟩

def gaps : List Mutation :=
  [.addChild 0 ⟨5, 5⟩ .function, .addChild 0 ⟨5, 9⟩ .function, .addChild 0 ⟨9, 9⟩ .function,
    .addChild 0 ⟨6, 7⟩ .function, .addChild 0 ⟨7, 7⟩ .function]

theorem run_disjoint_iff_gaps : (∀ m ∈ gaps, m.Proper) ∧
    (start ⟨0, 20⟩).Along (fun tree m => ¬ tree.Masks m) gaps ∧
    ∀ k, ((start ⟨0, 20⟩).run (gaps.take k)).tree.Disjoint := by
  have hproper : ∀ m ∈ gaps, m.Proper := by decide
  have hmasks : (start ⟨0, 20⟩).Along (fun tree m => ¬ tree.Masks m) gaps := by decide +kernel
  exact ⟨hproper, hmasks, (run_disjoint_iff ⟨0, 20⟩ gaps hproper).2 hmasks⟩

/-- An empty child at the start of a longer one, and a third one within the longer one. -/
def masked : List Mutation :=
  [.addChild 0 ⟨0, 10⟩ .function, .addChild 0 ⟨0, 0⟩ .function, .addChild 0 ⟨5, 6⟩ .function]

/-- The third child is taken, though it overlaps the first. -/
theorem overlap_overlooked : (start ⟨0, 20⟩).Named masked ∧ (∀ m ∈ masked, m.Proper) ∧
    ((start ⟨0, 20⟩).run masked).tree.childrenOf 0 = [1, 2, 3] ∧
    ¬ ((start ⟨0, 20⟩).run masked).tree.Disjoint := by
  refine ⟨by decide +kernel, by decide, by decide +kernel, ?_⟩
  intro h
  have hroot := h 0
  revert hroot
  decide +kernel

end Session

end ScopeTree

end ScopeHints
