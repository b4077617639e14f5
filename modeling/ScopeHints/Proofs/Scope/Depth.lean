import ScopeHints.Proofs.Scope.Position

/-! How far up a name is declared. The depth of a name is the number of hops to the nearest scope
around that declares it, and further down the tree it grows by no more than the hops that lie
between. -/
namespace ScopeHints

namespace Scope
variable {s t a b : Scope} {name : String} {d e h : Nat}

def Declares (s : Scope) (name : String) : Prop := ∃ o ∈ s.record.declarations, o.name = name

theorem declaresHere_iff : s.declaresHere name = true ↔ s.Declares name := by
  simp [declaresHere, Declares]

/-- The second scope is met by this many hops, each of them from a child to its parent. -/
inductive Hops : Nat → Scope → Scope → Prop where
  | here (s : Scope) : Hops 0 s s
  | up {d : Nat} {s p a : Scope} (child : s ∈ p.children) (rest : Hops d p a) : Hops (d + 1) s a

theorem hops_add : Hops (h + d) t a ↔ ∃ s, Hops h t s ∧ Hops d s a := by
  induction h generalizing t with
  | zero =>
    rw [Nat.zero_add]
    refine ⟨fun hta => ⟨t, .here t, hta⟩, ?_⟩
    rintro ⟨s, ⟨⟩, hta⟩
    exact hta
  | succ h ih =>
    rw [Nat.add_right_comm]
    constructor
    · rintro (_ | ⟨hchild, hrest⟩)
      obtain ⟨s, hps, hsa⟩ := ih.1 hrest
      exact ⟨s, .up hchild hps, hsa⟩
    · rintro ⟨s, _ | ⟨hchild, hrest⟩, hsa⟩
      exact .up hchild (ih.2 ⟨s, hrest, hsa⟩)

/-! ### Lineages -/

theorem mem_children_iff {p : Scope} :
    s ∈ p.children ↔ s.tree = p.tree ∧ s.index ∈ p.tree.childrenOf p.index := by
  rw [children_eq, List.mem_map]
  constructor
  · rintro ⟨c, hc, rfl⟩
    exact ⟨rfl, hc⟩
  · rintro ⟨htree, hi⟩
    exact ⟨s.index, hi, by rw [← htree]⟩

theorem hops_zero : Hops 0 s a ↔ s = a := by
  constructor
  · rintro ⟨⟩
    rfl
  · rintro rfl
    exact .here s

theorem hops_succ {tree : ScopeTree} {i : Nat} (hw : tree.Wired) :
    Hops (d + 1) ⟨tree, i⟩ a ↔ ∃ p, tree.parentOf? i = some p ∧ Hops d ⟨tree, p⟩ a := by
  constructor
  · rintro (_ | ⟨hchild, hrest⟩)
    rename_i p
    obtain ⟨rfl, hi⟩ := mem_children_iff.1 hchild
    exact ⟨p.index, (ScopeTree.parentOf?_eq_some hw).2 hi, hrest⟩
  · rintro ⟨p, hp, hrest⟩
    have hi : i ∈ tree.childrenOf p := (ScopeTree.parentOf?_eq_some hw).1 hp
    exact .up (p := ⟨tree, p⟩) (mem_children_iff.2 ⟨rfl, hi⟩) hrest

theorem getElem?_lineageFrom {tree : ScopeTree} (hw : tree.Wired) {fuel i : Nat} (hi : i < fuel) :
    (tree.lineageFrom fuel i)[d]?.map (Scope.mk tree) = some a ↔ Hops d ⟨tree, i⟩ a := by
  induction fuel generalizing i d with
  | zero => omega
  | succ fuel ih =>
    rw [ScopeTree.lineageFrom]
    cases d with
    | zero => simp [hops_zero]
    | succ d =>
      rw [List.getElem?_cons_succ, hops_succ hw]
      cases hp : tree.parentOf? i with
      | none => simp
      | some p =>
        have hlt := hw.parent_lt ((ScopeTree.parentOf?_eq_some hw).1 hp)
        simpa using ih (d := d) (i := p) (by omega)

theorem getElem?_lineage (hw : s.tree.Wired) (hs : s.index < s.tree.size) :
    s.lineage[d]? = some a ↔ Hops d s a := by
  rw [lineage, List.getElem?_map]
  exact getElem?_lineageFrom hw hs

theorem Hops.unique (hw : s.tree.Wired) (hs : s.index < s.tree.size) (ha : Hops d s a)
    (hb : Hops d s b) : a = b := by
  rw [← getElem?_lineage hw hs] at ha hb
  exact Option.some.inj (ha.symm.trans hb)

theorem Hops.within (hw : a.tree.Wired) (ha : a.index < a.tree.size) (hsa : Hops d s a) :
    s.tree.Wired ∧ s.index < s.tree.size := by
  induction hsa with
  | here => exact ⟨hw, ha⟩
  | up hchild _ ih =>
    obtain ⟨hp, -⟩ := ih hw ha
    obtain ⟨htree, hmem⟩ := mem_children_iff.1 hchild
    rw [htree]
    exact ⟨hp, hp.lt_size hmem⟩

/-- Above a scope the hops from a descendant are those from the scope, after the hops up to it. -/
theorem Hops.above_iff (hw : t.tree.Wired) (ht : t.index < t.tree.size) (hts : Hops h t s) :
    Hops (h + d) t a ↔ Hops d s a := by
  rw [hops_add]
  constructor
  · rintro ⟨b, htb, hba⟩
    rwa [hts.unique hw ht htb]
  · exact fun hsa => ⟨s, hts, hsa⟩

/-! ### Depths -/

theorem depthOf?_eq_some (hw : s.tree.Wired) (hs : s.index < s.tree.size) :
    s.depthOf? name = some d ↔ (∃ a, Hops d s a ∧ a.Declares name) ∧
      ∀ e < d, ∀ b, Hops e s b → ¬ b.Declares name := by
  simp only [← getElem?_lineage hw hs, ← declaresHere_iff]
  rw [depthOf?, List.findIdx?_eq_some_iff_getElem]
  constructor
  · rintro ⟨hd, hdeclares, hnearer⟩
    refine ⟨⟨_, List.getElem?_eq_getElem hd, hdeclares⟩, ?_⟩
    intro e he b hb
    obtain ⟨-, rfl⟩ := List.getElem?_eq_some_iff.1 hb
    exact hnearer e he
  · rintro ⟨⟨a, ha, hdeclares⟩, hnearer⟩
    obtain ⟨hd, rfl⟩ := List.getElem?_eq_some_iff.1 ha
    exact ⟨hd, hdeclares, fun e he => hnearer e he _ (List.getElem?_eq_getElem (by omega))⟩

theorem depthOf?_eq_none (hw : s.tree.Wired) (hs : s.index < s.tree.size) :
    s.depthOf? name = none ↔ ∀ d a, Hops d s a → ¬ a.Declares name := by
  simp only [← getElem?_lineage hw hs, ← declaresHere_iff]
  rw [depthOf?, List.findIdx?_eq_none_iff]
  constructor
  · intro hnone d a ha
    simp [hnone a (List.mem_of_getElem? ha)]
  · intro hnone a ha
    obtain ⟨d, hd⟩ := List.mem_iff_getElem?.1 ha
    simpa using hnone d a hd

theorem mem_visible (hw : s.tree.Wired) (hs : s.index < s.tree.size) {o : Occurrence} :
    o ∈ s.visible ↔ ∃ d a, Hops d s a ∧ o ∈ a.record.declarations := by
  rw [visible, List.mem_flatMap]
  constructor
  · rintro ⟨a, ha, ho⟩
    obtain ⟨d, hd⟩ := List.mem_iff_getElem?.1 ha
    exact ⟨d, a, (getElem?_lineage hw hs).1 hd, ho⟩
  · rintro ⟨d, a, hsa, ho⟩
    exact ⟨a, List.mem_of_getElem? ((getElem?_lineage hw hs).2 hsa), ho⟩

/-- From a descendant a name is no further away than by the hops up to the scope and from there on,
and it is nearer exactly if it is declared again below the scope. -/
theorem depthOf?_below (hw : s.tree.Wired) (hs : s.index < s.tree.size) (hts : Hops h t s)
    (hd : s.depthOf? name = some d) :
    ∃ d', t.depthOf? name = some d' ∧ d' ≤ h + d ∧
      (d' = h + d ↔ ∀ e < h, ∀ b, Hops e t b → ¬ b.Declares name) := by
  obtain ⟨hwt, ht⟩ := hts.within hw hs
  obtain ⟨⟨a, hsa, hdeclares⟩, hnearer⟩ := (depthOf?_eq_some hw hs).1 hd
  have hta : Hops (h + d) t a := hops_add.2 ⟨s, hts, hsa⟩
  cases hd' : t.depthOf? name with
  | none => exact absurd hdeclares ((depthOf?_eq_none hwt ht).1 hd' _ a hta)
  | some d' =>
    obtain ⟨⟨b, htb, hbdeclares⟩, hnearer'⟩ := (depthOf?_eq_some hwt ht).1 hd'
    have hle : d' ≤ h + d := by
      apply Nat.le_of_not_lt
      intro hlt
      exact hnearer' _ hlt a hta hdeclares
    refine ⟨d', rfl, hle, ?_⟩
    constructor
    · rintro rfl e he
      exact hnearer' e (by omega)
    · intro hbelow
      -- The declaring scope is not below `s`, and from `s` on none is nearer than `d` hops.
      have hge : h ≤ d' := by
        apply Nat.le_of_not_lt
        intro hlt
        exact hbelow d' hlt b htb hbdeclares
      obtain ⟨e, rfl⟩ := Nat.exists_eq_add_of_le hge
      have hsb : Hops e s b := (hts.above_iff hwt ht).1 htb
      apply Nat.le_antisymm hle
      apply Nat.le_of_not_lt
      intro hlt
      exact hnearer e (by omega) b hsb hbdeclares

/-- How a scope and its descendants resolve a name: by the nearest scope around that declares it. -/
structure Resolves (s : Scope) (name : String) : Prop where
  depth : ∀ d, s.depthOf? name = some d ↔ (∃ a, Hops d s a ∧ a.Declares name) ∧
    ∀ e < d, ∀ b, Hops e s b → ¬ b.Declares name
  visible : ∀ o, o ∈ s.visible ↔ ∃ d a, Hops d s a ∧ o ∈ a.record.declarations
  hidden : s.depthOf? name = none ↔ ∀ o ∈ s.visible, o.name ≠ name
  below : ∀ h t, Hops h t s → ∀ d, s.depthOf? name = some d →
    ∃ d', t.depthOf? name = some d' ∧ d' ≤ h + d ∧
      (d' = h + d ↔ ∀ e < h, ∀ b, Hops e t b → ¬ b.Declares name)

end Scope

namespace ScopeTree.Session
open Scope

/-- However a scope tree is built, each of its scopes resolves every name. -/
theorem run_resolves (range : TextRange) (ms : List Mutation) (s : Scope)
    (htree : s.tree = ((start range).run ms).tree) (hs : s.index < s.tree.size) (name : String) :
    s.Resolves name := by
  have hw : s.tree.Wired := by
    rw [htree]
    exact run_wired (wired_ofRange range) ms
  refine ⟨fun d => depthOf?_eq_some hw hs, fun o => mem_visible hw hs, ?_,
    fun h t hts d hd => depthOf?_below hw hs hts hd⟩
  rw [depthOf?_eq_none hw hs]
  constructor
  · intro hnone o ho hname
    obtain ⟨d, a, hsa, hmem⟩ := (mem_visible hw hs).1 ho
    exact hnone d a hsa ⟨o, hmem, hname⟩
  · rintro hhidden d a hsa ⟨o, ho, hname⟩
    exact hhidden o ((mem_visible hw hs).2 ⟨d, a, hsa, ho⟩) hname

def shadowing : Session :=
  (start ⟨0, 40⟩).run [.addChild 0 ⟨2, 30⟩ .function, .addChild 1 ⟨4, 20⟩ .catchClause,
    .addChild 2 ⟨6, 10⟩ .function, .declare 0 ⟨"a", 0⟩, .declare 2 ⟨"a", 5⟩, .declare 2 ⟨"a", 5⟩]

theorem run_resolves_shadowing :
    1 < shadowing.tree.size ∧ (⟨shadowing.tree, 1⟩ : Scope).Resolves "a" ∧
    (⟨shadowing.tree, 1⟩ : Scope).depthOf? "a" = some 1 ∧
    Hops 2 ⟨shadowing.tree, 3⟩ ⟨shadowing.tree, 1⟩ ∧
    (⟨shadowing.tree, 3⟩ : Scope).depthOf? "a" = some 1 := by
  have hs : 1 < shadowing.tree.size := by decide +kernel
  have hup : Hops 2 ⟨shadowing.tree, 3⟩ ⟨shadowing.tree, 1⟩ :=
    .up (p := ⟨shadowing.tree, 2⟩) (by decide +kernel)
      (.up (p := ⟨shadowing.tree, 1⟩) (by decide +kernel) (.here _))
  exact ⟨hs, run_resolves ⟨0, 40⟩ _ ⟨shadowing.tree, 1⟩ rfl hs "a", by decide +kernel, hup,
    by decide +kernel⟩

end ScopeTree.Session

end ScopeHints
