import ScopeHints.Proofs.Scope.Nested
import ScopeHints.Proofs.Scope.Tree
import ScopeHints.Scope.Builder

/-! What one step of the builder does to the tree, and where the names in its records come from:
every one of them is spelled by a node of the parse tree, and every declared name is also recorded
as an occurrence. -/
namespace ScopeHints

theorem bind_eq_ok {ε α β : Type} {x : Except ε α} {f : α → Except ε β} {b : β}
    (h : (x >>= f) = .ok b) : ∃ a, x = .ok a ∧ f a = .ok b := by
  cases x with
  | error e => cases h
  | ok a => exact ⟨a, rfl, h⟩

theorem mapError_eq_ok {ε ε' α : Type} {x : Except ε α} {f : ε → ε'} {a : α}
    (h : x.mapError f = .ok a) : x = .ok a := by
  cases x with
  | error e => cases h
  | ok b => exact congrArg Except.ok (Except.ok.inj h)

theorem exists_eq_ok {ε α : Type} {x : Except ε α} (h : x.isOk = true) : ∃ a, x = .ok a := by
  cases x with
  | error e => cases h
  | ok a => exact ⟨a, rfl⟩

namespace ScopeTree
variable {tree tree' : ScopeTree}

def modify (tree : ScopeTree) (i : Nat) (f : ScopeRecord → ScopeRecord) : ScopeTree :=
  { tree with records := tree.records.modify i f }

theorem update_ok {i : Nat} {f : ScopeRecord → ScopeRecord} (h : tree.update i f = .ok tree') :
    i < tree.size ∧ tree' = tree.modify i f := by
  unfold update at h
  split at h
  · cases h
  · split at h
    · rename_i hi
      exact ⟨hi, (Except.ok.inj h).symm⟩
    · cases h

theorem getElem?_modify (i j : Nat) (f : ScopeRecord → ScopeRecord) :
    (tree.modify i f).records[j]? = if i = j then tree.records[j]?.map f else tree.records[j]? :=
  Array.getElem?_modify

theorem modify_modify (i : Nat) (f g : ScopeRecord → ScopeRecord) :
    (tree.modify i f).modify i g = tree.modify i fun r => g (f r) := by
  have hrecords : ((tree.records.modify i f).modify i g) = tree.records.modify i fun r => g (f r) := by
    apply Array.ext_getElem?
    intro j
    simp only [Array.getElem?_modify]
    by_cases hij : i = j
    · simp [hij, Function.comp_def]
    · simp [hij]
  exact congrArg (fun records => { tree with records }) hrecords

theorem modify_sameShape (i : Nat) {f : ScopeRecord → ScopeRecord}
    (hkeep : ∀ r, (f r).parent = r.parent ∧ (f r).range = r.range ∧ (f r).children = r.children) :
    SameShape tree (tree.modify i f) := by
  refine ⟨rfl, Array.size_modify, ?_, ?_, ?_⟩
  all_goals
    funext j
    simp only [parentOf, rangeOf, childrenOf, getElem?_modify]
    split
    · cases tree.records[j]? with
      | none => rfl
      | some r => simp [hkeep r]
    · rfl

theorem thawed_of_addChild {parent : Int} {range : TextRange} {kind : ScopeKind} {added : Nat × ScopeTree}
    (h : tree.addChild parent range kind = .ok added) : tree.frozen = false := by
  rw [addChild] at h
  split at h
  · cases h
  · simp_all

theorem addChild_ok (hw : Wired tree) {parent i : Nat} (hp : parent < tree.size) {range : TextRange}
    {kind : ScopeKind} (h : tree.addChild parent range kind = .ok (i, tree')) :
    ∃ before after, i = tree.size ∧ tree' = tree.withChild parent range kind before after ∧
      Slot tree parent range before after ∧
      ∀ b ∈ before.getLast?.toList ++ after.head?.toList, ¬ (tree.rangeOf b).Overlaps range := by
  obtain ⟨before, after, hslot, hadd⟩ :=
    addChild_eq hw (thawed_of_addChild h) hp range kind
  rw [hadd] at h
  split at h
  · cases h
  · rename_i hnone
    obtain ⟨rfl, rfl⟩ := Prod.mk.inj (Except.ok.inj h)
    refine ⟨before, after, rfl, rfl, hslot, ?_⟩
    intro b hb ho
    exact List.find?_eq_none.1 hnone _ (List.mem_map_of_mem hb) (decide_eq_true ho)

end ScopeTree

/-! ### What facts add to a record -/

namespace Builder
open ScopeTree
variable {src : Source} {tree tree' : ScopeTree} {Q : Nat → Fact → Prop}

inductive Noted (src : Source) : Fact → (ScopeRecord → ScopeRecord) → Prop
  | declaration {n : Node} {o : Occurrence} (h : occurrence src n = .ok o) :
      Noted src (.declaration n) fun r =>
        { r with declarations := r.declarations ++ [o], identifiers := r.identifiers ++ [o] }
  | identifier {n : Node} {o : Occurrence} (h : occurrence src n = .ok o) :
      Noted src (.identifier n) fun r => { r with identifiers := r.identifiers ++ [o] }
  | property {n : Node} {o : Occurrence} (h : occurrence src n = .ok o) :
      Noted src (.property n) fun r => { r with properties := r.properties ++ [o] }
  | association (object property : Node) :
      Noted src (.association object property) fun r =>
        { r with associations := r.associations ++ [(src.textOf object, src.textOf property)] }

theorem change_ok {i : Nat} {f : ScopeRecord → ScopeRecord}
    (h : change (tree.update i f) = .ok tree') : i < tree.size ∧ tree' = tree.modify i f :=
  update_ok (mapError_eq_ok h)

theorem record_ok {scope : Nat} {fact : Fact} (h : record src tree scope fact = .ok tree') :
    ∃ f, Noted src fact f ∧ scope < tree.size ∧ tree' = tree.modify scope f := by
  cases fact with
  | declaration n =>
    obtain ⟨o, ho, h⟩ := bind_eq_ok h
    obtain ⟨tree₁, h₁, h⟩ := bind_eq_ok h
    obtain ⟨hscope, rfl⟩ := change_ok h₁
    obtain ⟨-, rfl⟩ := change_ok h
    exact ⟨_, .declaration ho, hscope, modify_modify scope _ _⟩
  | identifier n =>
    obtain ⟨o, ho, h⟩ := bind_eq_ok h
    exact ⟨_, .identifier ho, change_ok h⟩
  | property n =>
    obtain ⟨o, ho, h⟩ := bind_eq_ok h
    exact ⟨_, .property ho, change_ok h⟩
  | association object property => exact ⟨_, .association object property, change_ok h⟩

theorem Noted.keeps {fact : Fact} {f : ScopeRecord → ScopeRecord} (h : Noted src fact f)
    (r : ScopeRecord) :
    (f r).parent = r.parent ∧ (f r).range = r.range ∧ (f r).children = r.children := by
  cases h <;> exact ⟨rfl, rfl, rfl⟩

theorem recordAll_ok_sameShape {outer inner : Nat} {facts : List (Place × Fact)}
    (h : recordAll src outer inner tree facts = .ok tree') : SameShape tree tree' := by
  induction facts generalizing tree with
  | nil =>
    obtain rfl : tree = tree' := Except.ok.inj h
    exact SameShape.refl tree
  | cons f facts ih =>
    obtain ⟨tree₁, h₁, h⟩ := bind_eq_ok h
    obtain ⟨f, hf, -, rfl⟩ := record_ok h₁
    exact (modify_sameShape _ hf.keeps).trans (ih h)

theorem apply_cases (hw : tree.Wired) {task : Task} (hscope : task.scope < tree.size) {p : Plan}
    {inner : Nat} (h : apply src tree task p = .ok (inner, tree')) :
    (p.opens = none ∧ inner = task.scope ∧ SameShape tree tree') ∨
    ∃ kind range before after middle, p.opens = some kind ∧ span src task.node = .ok range ∧
      inner = tree.size ∧ Slot tree task.scope range before after ∧
      Added task.scope range before after tree middle ∧ SameShape middle tree' := by
  obtain ⟨⟨inner', tree₁⟩, henter, h⟩ := bind_eq_ok h
  obtain ⟨tree₂, hrecord, h⟩ := bind_eq_ok h
  obtain ⟨rfl, rfl⟩ := Prod.mk.inj (Except.ok.inj h)
  have hshape := recordAll_ok_sameShape hrecord
  cases ho : p.opens with
  | none =>
    rw [ho] at henter
    obtain ⟨rfl, rfl⟩ := Prod.mk.inj (Except.ok.inj henter)
    exact .inl ⟨rfl, rfl, hshape⟩
  | some kind =>
    rw [ho] at henter
    obtain ⟨range, hrange, hadd⟩ := bind_eq_ok henter
    obtain ⟨before, after, rfl, rfl, hslot, -⟩ := addChild_ok hw hscope (mapError_eq_ok hadd)
    exact .inr ⟨kind, range, before, after, _, rfl, hrange, rfl, hslot,
      withChild_added hscope range kind before after, hshape⟩

theorem apply_wired (hw : tree.Wired) {task : Task} (hscope : task.scope < tree.size) {p : Plan}
    {inner : Nat} (h : apply src tree task p = .ok (inner, tree')) :
    tree'.Wired ∧ tree.size ≤ tree'.size ∧ inner < tree'.size := by
  obtain ⟨-, rfl, hs⟩ | ⟨kind, range, before, after, middle, -, -, rfl, hslot, hadded,
    hs⟩ := apply_cases hw hscope h
  · exact ⟨hs.wired hw, Nat.le_of_eq hs.size.symm, by rw [hs.size]; exact hscope⟩
  · have hsize : tree'.size = tree.size + 1 := hs.size.trans hadded.size
    exact ⟨hs.wired (hadded.wired hw hslot), by omega, by omega⟩

end Builder

open Builder in
/-- The names of a record come from facts with a property, and each declared one is also recorded
as an occurrence. -/
structure ScopeRecord.Filed (src : Source) (Q : Fact → Prop) (r : ScopeRecord) : Prop where
  noted : ∀ o ∈ r.declarations, o ∈ r.identifiers
  declarations : ∀ o ∈ r.declarations, ∃ n, Q (.declaration n) ∧ occurrence src n = .ok o
  identifiers : ∀ o ∈ r.identifiers,
    ∃ n, (Q (.declaration n) ∨ Q (.identifier n)) ∧ occurrence src n = .ok o
  properties : ∀ o ∈ r.properties, ∃ n, Q (.property n) ∧ occurrence src n = .ok o

theorem ScopeRecord.filed_of_empty {src : Source} {Q : Fact → Prop} {r : ScopeRecord}
    (hd : r.declarations = []) (hi : r.identifiers = []) (hp : r.properties = []) :
    r.Filed src Q := by
  refine ⟨?_, ?_, ?_, ?_⟩ <;> simp [hd, hi, hp]

theorem ScopeRecord.Filed.mono {src : Source} {P Q : Fact → Prop} {r : ScopeRecord}
    (h : r.Filed src P) (hPQ : ∀ fact, P fact → Q fact) : r.Filed src Q := by
  refine ⟨h.noted, ?_, ?_, ?_⟩
  · intro o ho
    obtain ⟨n, hn, hon⟩ := h.declarations o ho
    exact ⟨n, hPQ _ hn, hon⟩
  · intro o ho
    obtain ⟨n, hn, hon⟩ := h.identifiers o ho
    exact ⟨n, hn.imp (hPQ _) (hPQ _), hon⟩
  · intro o ho
    obtain ⟨n, hn, hon⟩ := h.properties o ho
    exact ⟨n, hPQ _ hn, hon⟩

open Builder in
theorem ScopeRecord.Filed.noting {src : Source} {Q : Fact → Prop} {r : ScopeRecord}
    (h : r.Filed src Q) {fact : Fact} {f : ScopeRecord → ScopeRecord} (hf : Noted src fact f)
    (hQ : Q fact) : (f r).Filed src Q := by
  obtain ⟨hnoted, hdecl, hident, hprop⟩ := h
  cases hf with
  | @declaration n o ho =>
    refine ⟨?_, ?_, ?_, hprop⟩
    · intro o' ho'
      obtain h' | h' := List.mem_append.1 ho'
      · exact List.mem_append_left _ (hnoted o' h')
      · exact List.mem_append_right _ h'
    · intro o' ho'
      obtain h' | h' := List.mem_append.1 ho'
      · exact hdecl o' h'
      · obtain rfl := List.mem_singleton.1 h'
        exact ⟨n, hQ, ho⟩
    · intro o' ho'
      obtain h' | h' := List.mem_append.1 ho'
      · exact hident o' h'
      · obtain rfl := List.mem_singleton.1 h'
        exact ⟨n, .inl hQ, ho⟩
  | @identifier n o ho =>
    refine ⟨fun o' ho' => List.mem_append_left _ (hnoted o' ho'), hdecl, ?_, hprop⟩
    intro o' ho'
    obtain h' | h' := List.mem_append.1 ho'
    · exact hident o' h'
    · obtain rfl := List.mem_singleton.1 h'
      exact ⟨n, .inr hQ, ho⟩
  | @property n o ho =>
    refine ⟨hnoted, hdecl, hident, ?_⟩
    intro o' ho'
    obtain h' | h' := List.mem_append.1 ho'
    · exact hprop o' h'
    · obtain rfl := List.mem_singleton.1 h'
      exact ⟨n, hQ, ho⟩
  | association => exact ⟨hnoted, hdecl, hident, hprop⟩

/-- Every record is filed, by a property that may depend on its number. -/
def ScopeTree.Filed (src : Source) (Q : Nat → Fact → Prop) (tree : ScopeTree) : Prop :=
  ∀ (i : Nat) (r : ScopeRecord), tree.records[i]? = some r → r.Filed src (Q i)

namespace Builder
open ScopeTree
variable {src : Source} {tree tree' : ScopeTree} {Q : Nat → Fact → Prop}

theorem filed_ofRange (range : TextRange) : (ofRange range).Filed src Q := by
  intro i r hr
  cases i with
  | zero =>
    obtain rfl := Option.some.inj hr
    exact ScopeRecord.filed_of_empty rfl rfl rfl
  | succ i => cases hr

theorem record_filed {scope : Nat} {fact : Fact} (h : record src tree scope fact = .ok tree')
    (hfiled : tree.Filed src Q) (hQ : Q scope fact) : tree'.Filed src Q := by
  obtain ⟨f, hf, -, rfl⟩ := record_ok h
  intro i r hr
  rw [getElem?_modify] at hr
  split at hr
  · rename_i hi
    subst hi
    obtain ⟨r₀, hr₀, rfl⟩ := Option.map_eq_some_iff.1 hr
    exact (hfiled scope r₀ hr₀).noting hf hQ
  · exact hfiled i r hr

theorem recordAll_filed {outer inner : Nat} {facts : List (Place × Fact)}
    (h : recordAll src outer inner tree facts = .ok tree') (hfiled : tree.Filed src Q)
    (hQ : ∀ f ∈ facts, Q (scopeAt outer inner f.1) f.2) : tree'.Filed src Q := by
  induction facts generalizing tree with
  | nil =>
    cases h
    exact hfiled
  | cons f facts ih =>
    obtain ⟨tree₁, h₁, h⟩ := bind_eq_ok h
    have h₁ := record_filed h₁ hfiled (hQ f List.mem_cons_self)
    exact ih h h₁ fun g hg => hQ g (List.mem_cons_of_mem f hg)

theorem withChild_filed {parent : Nat} {range : TextRange} {kind : ScopeKind}
    {before after : List Nat} (h : tree.Filed src Q) :
    (tree.withChild parent range kind before after).Filed src Q := by
  intro i r hr
  rw [getElem?_withChild] at hr
  split at hr
  · obtain rfl := Option.some.inj hr
    exact ScopeRecord.filed_of_empty rfl rfl rfl
  · split at hr
    · obtain ⟨r₀, hr₀, rfl⟩ := Option.map_eq_some_iff.1 hr
      obtain ⟨hnoted, hdecl, hident, hprop⟩ := h i r₀ hr₀
      exact ⟨hnoted, hdecl, hident, hprop⟩
    · exact h i r hr

theorem apply_filed (hw : tree.Wired) {task : Task} (hscope : task.scope < tree.size) {p : Plan}
    {inner : Nat} (h : apply src tree task p = .ok (inner, tree')) (hfiled : tree.Filed src Q)
    (hQ : ∀ f ∈ p.facts, Q (scopeAt task.scope inner f.1) f.2) : tree'.Filed src Q := by
  obtain ⟨⟨inner', tree₁⟩, henter, h⟩ := bind_eq_ok h
  obtain ⟨tree₂, hrecord, h⟩ := bind_eq_ok h
  obtain ⟨rfl, rfl⟩ := Prod.mk.inj (Except.ok.inj h)
  refine recordAll_filed hrecord ?_ hQ
  cases ho : p.opens with
  | none =>
    rw [ho] at henter
    obtain ⟨-, rfl⟩ := Prod.mk.inj (Except.ok.inj henter)
    exact hfiled
  | some kind =>
    rw [ho] at henter
    obtain ⟨range, -, hadd⟩ := bind_eq_ok henter
    obtain ⟨before, after, -, rfl, -⟩ := addChild_ok hw hscope (mapError_eq_ok hadd)
    exact withChild_filed hfiled

/-! ### Whole builds -/

theorem run_keeps {I : ScopeTree → List Task → Prop}
    (hstep : ∀ {tree tree' : ScopeTree} {task : Task} {rest : List Task} {p : Plan} {inner : Nat},
      I tree (task :: rest) → task.node.plan task.treatment = some p →
      apply src tree task p = .ok (inner, tree') → I tree' (tasksOf p task.scope inner ++ rest))
    (tasks : List Task) (tree : ScopeTree) (h : run src tree tasks = .ok tree')
    (hI : I tree tasks) : I tree' [] := by
  fun_induction run src tree tasks with
  | case1 tree =>
    cases h
    exact hI
  | case2 => cases h
  | case3 => cases h
  | case4 tree task rest p hp inner tree₁ happly ih => exact ih h (hstep hI hp happly)

/-- What the start of a build has and every step keeps holds of the finished tree before it is
frozen. -/
theorem buildScopes_keeps {I : ScopeTree → List Task → Prop} {root : Node}
    (hstep : ∀ {tree tree' : ScopeTree} {task : Task} {rest : List Task} {p : Plan} {inner : Nat},
      I tree (task :: rest) → task.node.plan task.treatment = some p →
      apply src tree task p = .ok (inner, tree') → I tree' (tasksOf p task.scope inner ++ rest))
    (hstart : I (.ofRange ⟨0, src.length⟩) (start root)) (h : buildScopes src root = .ok tree) :
    ∃ built, built.freeze = tree ∧ I built [] := by
  unfold buildScopes at h
  cases hrun : run src (.ofRange ⟨0, src.length⟩) (start root) with
  | error e =>
    rw [hrun] at h
    cases h
  | ok built =>
    rw [hrun] at h
    exact ⟨built, Except.ok.inj h, run_keeps hstep _ _ hrun hstart⟩

/-- A wired tree whose names come from nodes with a property, and tasks that go on with such
nodes. -/
structure Building (src : Source) (Q : Node → Prop) (tree : ScopeTree) (tasks : List Task) :
    Prop where
  wired : tree.Wired
  filed : tree.Filed src fun _ fact => fact.At Q
  ready : ∀ task ∈ tasks, task.scope < tree.size ∧ Q task.node

theorem Building.step {Q : Node → Prop} (hQ : Plan.Inherited Q) {task : Task} {rest : List Task}
    {p : Plan} {inner : Nat} (h : Building src Q tree (task :: rest))
    (hp : task.node.plan task.treatment = some p)
    (happly : apply src tree task p = .ok (inner, tree')) :
    Building src Q tree' (tasksOf p task.scope inner ++ rest) := by
  obtain ⟨hscope, hnode⟩ := h.ready task List.mem_cons_self
  obtain ⟨hwired, hsize, hinner⟩ := apply_wired h.wired hscope happly
  refine ⟨hwired, apply_filed h.wired hscope happly h.filed (hQ.facts hnode hp), ?_⟩
  intro t ht
  obtain ht | ht := List.mem_append.1 ht
  · obtain ⟨⟨place, treatment, n⟩, hu, rfl⟩ := List.mem_map.1 ht
    refine ⟨?_, hQ.tasks hnode hp _ hu⟩
    cases place with
    | here => exact Nat.lt_of_lt_of_le hscope hsize
    | inside => exact hinner
  · obtain ⟨hlt, hq⟩ := h.ready t (List.mem_cons_of_mem task ht)
    exact ⟨Nat.lt_of_lt_of_le hlt hsize, hq⟩

theorem start_building {Q : Node → Prop} (hQ : Plan.Inherited Q) {root : Node} (hroot : Q root) :
    Building src Q (.ofRange ⟨0, src.length⟩) (start root) := by
  refine ⟨(sound_ofRange src.length).wired, filed_ofRange _, ?_⟩
  intro task ht
  obtain ⟨n, hn, rfl⟩ := List.mem_map.1 ht
  exact ⟨Nat.one_pos, hQ.namedChild hroot hn⟩

end Builder

inductive Node.Within (root : Node) : Node → Prop
  | root : Within root root
  | child {n c : Node} (h : Within root n) (hc : c ∈ n.children) : Within root c

theorem Node.Within.root_or_child {root n : Node} (h : root.Within n) :
    n = root ∨ ∃ c ∈ root.children, c.Within n := by
  induction h with
  | root => exact .inl rfl
  | @child n d h hd ih =>
    obtain rfl | ⟨c, hc, hn⟩ := ih
    · exact .inr ⟨d, hd, .root⟩
    · exact .inr ⟨c, hc, hn.child hd⟩

theorem Node.Within.of_child {root c n : Node} (hc : c ∈ root.children) (h : c.Within n) :
    root.Within n := by
  induction h with
  | root => exact Node.Within.root.child hc
  | child _ hd ih => exact ih.child hd

theorem Node.Within.holds {root n : Node} (h : root.Within n) (hroot : root.WellPlaced) :
    root.Holds n := by
  induction h with
  | root => exact ⟨Node.Encloses.refl root, hroot⟩
  | child _ hc ih => exact ih.child hc

/-- A finished tree is wired, and its names are those of nodes of the parse tree. -/
theorem buildScopes_building {src : Source} {root : Node} {tree : ScopeTree}
    (h : buildScopes src root = .ok tree) :
    tree.Wired ∧ tree.Filed src fun _ fact => fact.At root.Within := by
  have hQ : Plan.Inherited root.Within := fun _ _ hn hc => hn.child hc
  obtain ⟨built, rfl, hend⟩ := Builder.buildScopes_keeps
    (fun hI hp happly => Builder.Building.step hQ hI hp happly) (Builder.start_building hQ .root) h
  obtain ⟨hnonempty, hroot, howned, hlinked, hnodup, hsorted⟩ := hend.wired
  exact ⟨⟨hnonempty, hroot, howned, hlinked, hnodup, hsorted⟩, hend.filed⟩

end ScopeHints
