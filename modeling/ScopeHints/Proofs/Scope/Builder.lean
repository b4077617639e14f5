import ScopeHints.Proofs.Scope.Nested
import ScopeHints.Proofs.Scope.Tree
import ScopeHints.Proofs.Text.Offset
import ScopeHints.Scope.Builder

/-! The builder gives a sound tree for every text and every tree of nodes that lie in their parents
and one after the other. The nodes that wait lie in the ranges of their scopes, apart from each
other and from the scopes that stand there already. -/
namespace ScopeHints

namespace Source

/-- The offsets up to `bytes` fall on characters of the text, in order. -/
structure Regular (src : Source) (bytes : Nat) : Prop where
  total : ∀ b, b ≤ bytes → ∃ c, src.offsets.toChar? b = some c ∧ c ≤ src.length
  mono : ∀ a b x y, a ≤ b → src.offsets.toChar? a = some x → src.offsets.toChar? b = some y → x ≤ y

theorem regular_ofText (text : String) : (ofText text).Regular (Text.byteLength text.toList) :=
  ⟨fun _ h => Text.OffsetMap.toChar?_of_le h, fun _ _ _ _ => Text.OffsetMap.toChar?_mono⟩

def charAt (src : Source) (byte : Nat) : Nat := (src.offsets.toChar? byte).getD 0

def spanOf (src : Source) (n : Node) : TextRange := ⟨src.charAt n.firstByte, src.charAt n.endByte⟩

namespace Regular
variable {src : Source} {bytes : Nat}

theorem toChar? (h : src.Regular bytes) {b : Nat} (hb : b ≤ bytes) :
    src.offsets.toChar? b = some (src.charAt b) := by
  obtain ⟨c, hc, -⟩ := h.total b hb
  rw [charAt, hc]
  rfl

theorem charAt_le (h : src.Regular bytes) {b : Nat} (hb : b ≤ bytes) :
    src.charAt b ≤ src.length := by
  obtain ⟨c, hc, hle⟩ := h.total b hb
  rw [h.toChar? hb, Option.some.injEq] at hc
  omega

theorem charAt_mono (h : src.Regular bytes) {a b : Nat} (hab : a ≤ b) (hb : b ≤ bytes) :
    src.charAt a ≤ src.charAt b :=
  h.mono a b _ _ hab (h.toChar? (Nat.le_trans hab hb)) (h.toChar? hb)

theorem spanOf_covers (h : src.Regular bytes) {n c : Node} (hn : n.endByte ≤ bytes)
    (hc : n.Holds c) : (src.spanOf n).Covers (src.spanOf c) := by
  obtain ⟨⟨h₁, h₂⟩, hwell⟩ := hc
  have hordered := hwell.ordered
  have hstart := h.charAt_mono h₁ (by omega)
  have hstop := h.charAt_mono h₂ hn
  simp only [TextRange.Covers, spanOf]
  omega

theorem spanOf_apart (h : src.Regular bytes) {a b : Node} (ha : a.WellPlaced) (hb : b.WellPlaced)
    (ha' : a.endByte ≤ bytes) (hb' : b.endByte ≤ bytes) (hab : a.Apart b) :
    (src.spanOf a).Apart (src.spanOf b) := by
  have hoa := ha.ordered
  have hob := hb.ordered
  obtain hab | hab := hab
  · have := h.charAt_mono hab (by omega)
    exact .inl (by simp only [spanOf]; omega)
  · have := h.charAt_mono hab (by omega)
    exact .inr (by simp only [spanOf]; omega)

theorem root_covers (h : src.Regular bytes) {n : Node} (hn : n.endByte ≤ bytes) :
    (⟨0, src.length⟩ : TextRange).Covers (src.spanOf n) := by
  have := h.charAt_le hn
  simp only [TextRange.Covers, spanOf]
  omega

end Regular

end Source

namespace Builder
open ScopeTree
variable {src : Source} {bytes : Nat} {tree tree' : ScopeTree}

theorem occurrence_ok (hr : src.Regular bytes) {n : Node} (h : n.firstByte ≤ bytes) :
    ∃ o, occurrence src n = .ok o := by
  rw [occurrence, Source.startOf?, hr.toChar? h]
  exact ⟨_, rfl⟩

theorem span_eq (hr : src.Regular bytes) {n : Node} (hn : n.WellPlaced) (h : n.endByte ≤ bytes) :
    span src n = .ok (src.spanOf n) := by
  have hordered := hn.ordered
  rw [span, Source.startOf?, Source.endOf?, hr.toChar? h, hr.toChar? (by omega)]
  rfl

theorem unknown_eq (hr : src.Regular bytes) {n : Node} (h : n.firstByte ≤ bytes) :
    unknown src n = .unknownKind n.kind (src.charAt n.firstByte) := by
  rw [unknown, Source.startOf?, hr.toChar? h]

theorem change_sameShape {f : ScopeRecord → ScopeRecord} {scope : Nat} (hf : tree.frozen = false)
    (hscope : scope < tree.size)
    (hkeep : ∀ r, (f r).parent = r.parent ∧ (f r).range = r.range ∧ (f r).children = r.children) :
    ∃ tree', change (tree.update scope f) = .ok tree' ∧ SameShape tree tree' := by
  obtain ⟨tree', h, hs⟩ := update_sameShape hf hscope hkeep
  exact ⟨tree', by rw [h]; rfl, hs⟩

theorem record_sameShape (hr : src.Regular bytes) (hf : tree.frozen = false) {scope : Nat}
    (hscope : scope < tree.size) {fact : Fact} (hfact : fact.At fun n => n.firstByte ≤ bytes) :
    ∃ tree', record src tree scope fact = .ok tree' ∧ SameShape tree tree' := by
  cases fact with
  | declaration n =>
    obtain ⟨o, ho⟩ := occurrence_ok hr hfact
    obtain ⟨tree₁, h₁, hs₁⟩ : ∃ tree₁, change (tree.declare scope o) = .ok tree₁ ∧
        SameShape tree tree₁ := change_sameShape hf hscope fun _ => ⟨rfl, rfl, rfl⟩
    have hscope₁ : scope < tree₁.size := by rw [hs₁.size]; exact hscope
    obtain ⟨tree₂, h₂, hs₂⟩ : ∃ tree₂, change (tree₁.addIdentifier scope o) = .ok tree₂ ∧
        SameShape tree₁ tree₂ :=
      change_sameShape (hs₁.frozen.trans hf) hscope₁ fun _ => ⟨rfl, rfl, rfl⟩
    exact ⟨tree₂, by simp only [record, ho, h₁, h₂, bind, Except.bind], hs₁.trans hs₂⟩
  | identifier n =>
    obtain ⟨o, ho⟩ := occurrence_ok hr hfact
    simp only [record, ho, bind, Except.bind]
    exact change_sameShape hf hscope fun _ => ⟨rfl, rfl, rfl⟩
  | property n =>
    obtain ⟨o, ho⟩ := occurrence_ok hr hfact
    simp only [record, ho, bind, Except.bind]
    exact change_sameShape hf hscope fun _ => ⟨rfl, rfl, rfl⟩
  | association object property => exact change_sameShape hf hscope fun _ => ⟨rfl, rfl, rfl⟩

theorem recordAll_sameShape (hr : src.Regular bytes) {outer inner : Nat}
    (facts : List (Place × Fact)) {tree : ScopeTree} (hf : tree.frozen = false)
    (houter : outer < tree.size) (hinner : inner < tree.size)
    (hfacts : ∀ f ∈ facts, f.2.At fun n => n.firstByte ≤ bytes) :
    ∃ tree', recordAll src outer inner tree facts = .ok tree' ∧ SameShape tree tree' := by
  induction facts generalizing tree with
  | nil => exact ⟨tree, rfl, SameShape.refl tree⟩
  | cons f facts ih =>
    obtain ⟨place, fact⟩ := f
    have hscope : scopeAt outer inner place < tree.size := by
      cases place
      · exact houter
      · exact hinner
    obtain ⟨tree₁, h₁, hs₁⟩ := record_sameShape hr hf hscope (hfacts _ List.mem_cons_self)
    obtain ⟨tree₂, h₂, hs₂⟩ := ih (hs₁.frozen.trans hf) (by rw [hs₁.size]; exact houter)
      (by rw [hs₁.size]; exact hinner) fun f hm => hfacts f (List.mem_cons_of_mem _ hm)
    refine ⟨tree₂, ?_, hs₁.trans hs₂⟩
    rw [recordAll, h₁]
    exact h₂

/-! ### The tasks and the tree -/

structure Ready (src : Source) (bytes : Nat) (tree : ScopeTree) (task : Task) : Prop where
  placed : task.node.WellPlaced
  within : task.node.endByte ≤ bytes
  scope : task.scope < tree.size
  covers : (tree.rangeOf task.scope).Covers (src.spanOf task.node)
  free : ∀ c ∈ tree.childrenOf task.scope, (tree.rangeOf c).Apart (src.spanOf task.node)

def TasksApart (src : Source) (s t : Task) : Prop :=
  s.scope = t.scope → (src.spanOf s.node).Apart (src.spanOf t.node)

structure Invariant (src : Source) (bytes : Nat) (tree : ScopeTree) (tasks : List Task) : Prop where
  sound : tree.Sound src.length
  thawed : tree.frozen = false
  ready : ∀ task ∈ tasks, Ready src bytes tree task
  apart : tasks.Pairwise (TasksApart src)

theorem Invariant.sameShape {tasks : List Task} (h : Invariant src bytes tree tasks)
    (hs : SameShape tree tree') : Invariant src bytes tree' tasks := by
  refine ⟨hs.sound h.sound, hs.frozen.trans h.thawed, ?_, h.apart⟩
  intro task ht
  obtain ⟨hplaced, hwithin, hscope, hcovers, hfree⟩ := h.ready task ht
  refine ⟨hplaced, hwithin, by rw [hs.size]; exact hscope, by rw [hs.rangeOf]; exact hcovers, ?_⟩
  rw [hs.childrenOf, hs.rangeOf]
  exact hfree

theorem mem_tasksOf {p : Plan} {outer inner : Nat} {task : Task}
    (h : task ∈ tasksOf p outer inner) :
    ∃ t ∈ p.tasks, task.node = t.2.2 ∧ task.scope = scopeAt outer inner t.1 := by
  obtain ⟨t, ht, rfl⟩ := List.mem_map.1 h
  exact ⟨t, ht, rfl, rfl⟩

theorem tasksOf_apart (hr : src.Regular bytes) {n : Node} (hn : n.WellPlaced)
    (hwithin : n.endByte ≤ bytes) {p : Plan} (hp : Plan.Spread n (fun _ => True) p.tasks)
    (outer inner : Nat) : (tasksOf p outer inner).Pairwise (TasksApart src) := by
  refine List.pairwise_map.2 (hp.apart.imp_of_mem ?_)
  intro s t hs ht hst _
  have hs := (hp.below s hs).holds hn
  have ht := (hp.below t ht).holds hn
  exact hr.spanOf_apart hs.2 ht.2 (Nat.le_trans hs.1.2 hwithin) (Nat.le_trans ht.1.2 hwithin) hst

theorem Invariant.passed (hr : src.Regular bytes) {task : Task} {rest : List Task} {p : Plan}
    (h : Invariant src bytes tree (task :: rest))
    (hp : Plan.Spread task.node (fun _ => True) p.tasks) :
    Invariant src bytes tree (tasksOf p task.scope task.scope ++ rest) := by
  obtain ⟨hplaced, hwithin, hscope, hcovers, hfree⟩ := h.ready task List.mem_cons_self
  obtain ⟨hhead, hrest⟩ := List.pairwise_cons.1 h.apart
  have hnew : ∀ t ∈ tasksOf p task.scope task.scope, t.scope = task.scope ∧
      task.node.Holds t.node := by
    intro t ht
    obtain ⟨u, hu, hnode, hat⟩ := mem_tasksOf ht
    rw [hnode, hat]
    exact ⟨by cases u.1 <;> rfl, (hp.below u hu).holds hplaced⟩
  refine ⟨h.sound, h.thawed, ?_, List.pairwise_append.2
    ⟨tasksOf_apart hr hplaced hwithin hp _ _, hrest, ?_⟩⟩
  · intro t ht
    obtain ht | ht := List.mem_append.1 ht
    · obtain ⟨hat, hholds⟩ := hnew t ht
      have hspan := hr.spanOf_covers hwithin hholds
      refine ⟨hholds.2, Nat.le_trans hholds.1.2 hwithin, by rw [hat]; exact hscope, ?_, ?_⟩
      · rw [hat]
        exact hcovers.trans hspan
      · rw [hat]
        exact fun c hc => (hfree c hc).mono hspan
    · exact h.ready t (List.mem_cons_of_mem _ ht)
  · intro t ht r hr' hsame
    obtain ⟨hat, hholds⟩ := hnew t ht
    have happart := hhead r hr' (hat.symm.trans hsame)
    exact (happart.symm.mono (hr.spanOf_covers hwithin hholds)).symm

theorem Invariant.entered (hr : src.Regular bytes) {task : Task} {rest : List Task} {p : Plan}
    (kind : ScopeKind) (h : Invariant src bytes tree (task :: rest))
    (hp : Plan.Spread task.node (fun _ => True) p.tasks) (hinside : ∀ t ∈ p.tasks, t.1 = .inside) :
    ∃ tree', enter src tree task.node task.scope (some kind) = .ok (tree.size, tree') ∧
      tree'.size = tree.size + 1 ∧
      Invariant src bytes tree' (tasksOf p task.scope tree.size ++ rest) := by
  obtain ⟨hplaced, hwithin, hscope, hcovers, hfree⟩ := h.ready task List.mem_cons_self
  obtain ⟨hhead, hrest⟩ := List.pairwise_cons.1 h.apart
  have hdisjoint : ∀ c ∈ tree.childrenOf task.scope,
      ¬ (tree.rangeOf c).Overlaps (src.spanOf task.node) := fun c hc => (hfree c hc).not_overlaps
  obtain ⟨tree', before, after, hadd, hslot, hadded⟩ :=
    addChild_added h.sound h.thawed hscope kind hdisjoint
  have hnew : ∀ t ∈ tasksOf p task.scope tree.size, t.scope = tree.size ∧
      task.node.Holds t.node := by
    intro t ht
    obtain ⟨u, hu, hnode, hat⟩ := mem_tasksOf ht
    rw [hinside u hu] at hat
    rw [hnode]
    exact ⟨hat, (hp.below u hu).holds hplaced⟩
  refine ⟨tree', ?_, hadded.size, ?_, hadded.frozen.trans h.thawed, ?_, ?_⟩
  · simp only [enter, span_eq hr hplaced hwithin, bind, Except.bind]
    rw [hadd]
    rfl
  · exact hadded.sound h.sound hslot hcovers hdisjoint
  · intro t ht
    obtain ht | ht := List.mem_append.1 ht
    · obtain ⟨hat, hholds⟩ := hnew t ht
      refine ⟨hholds.2, Nat.le_trans hholds.1.2 hwithin, by rw [hat, hadded.size]; omega, ?_, ?_⟩
      · rw [hat, hadded.rangeOf_new]
        exact hr.spanOf_covers hwithin hholds
      · rw [hat, hadded.childrenOf, if_neg (by omega), childrenOf_of_size_le (Nat.le_refl _)]
        simp
    · -- A task that waited keeps its scope, in which the new one may stand now.
      obtain ⟨hplaced', hwithin', hscope', hcovers', hfree'⟩ :=
        h.ready t (List.mem_cons_of_mem _ ht)
      refine ⟨hplaced', hwithin', by rw [hadded.size]; omega, ?_, ?_⟩
      · rw [hadded.rangeOf_of_lt hscope']
        exact hcovers'
      · intro c hc
        obtain hc | ⟨hsame, rfl⟩ := (hadded.mem_childrenOf hslot.siblings).1 hc
        · rw [hadded.rangeOf_of_lt (h.sound.lt_size hc)]
          exact hfree' c hc
        · rw [hadded.rangeOf_new]
          exact hhead t ht hsame.symm
  · refine List.pairwise_append.2 ⟨tasksOf_apart hr hplaced hwithin hp _ _, hrest, ?_⟩
    intro t ht r hr' hsame
    have hlt := (h.ready r (List.mem_cons_of_mem _ hr')).scope
    rw [(hnew t ht).1] at hsame
    omega

/-- Carrying out the plan of a task succeeds and keeps the invariant. -/
theorem Invariant.step (hr : src.Regular bytes) {task : Task} {rest : List Task} {p : Plan}
    (h : Invariant src bytes tree (task :: rest)) (hp : task.node.plan task.treatment = some p) :
    ∃ inner tree', apply src tree task p = .ok (inner, tree') ∧
      Invariant src bytes tree' (tasksOf p task.scope inner ++ rest) := by
  obtain ⟨hplaced, hwithin, hscope, -, -⟩ := h.ready task List.mem_cons_self
  have hspread := Plan.spread_plan hplaced hp
  obtain ⟨inner, tree₁, henter, houter, hinner, hinv⟩ : ∃ inner tree₁,
      enter src tree task.node task.scope p.opens = .ok (inner, tree₁) ∧ task.scope < tree₁.size ∧
        inner < tree₁.size ∧ Invariant src bytes tree₁ (tasksOf p task.scope inner ++ rest) := by
    cases ho : p.opens with
    | none => exact ⟨task.scope, tree, rfl, hscope, hscope, h.passed hr hspread⟩
    | some kind =>
      obtain ⟨tree₁, henter, hsize, hinv⟩ :=
        h.entered hr kind hspread (Plan.inside_of_opens hp ho)
      exact ⟨tree.size, tree₁, henter, by omega, by omega, hinv⟩
  have hfacts : ∀ f ∈ p.facts, f.2.At fun n => n.firstByte ≤ bytes := by
    intro f hf
    refine (Plan.held_plan hplaced hp f hf).imp ?_
    intro n hn
    have hordered := hn.2.ordered
    have hend := hn.1.2
    omega
  obtain ⟨tree₂, hrecord, hshape⟩ :=
    recordAll_sameShape hr p.facts hinv.thawed houter hinner hfacts
  refine ⟨inner, tree₂, ?_, hinv.sameShape hshape⟩
  simp only [apply, henter, hrecord, bind, Except.bind, pure, Except.pure]

/-- Treating the tasks ends with a sound tree, unless a node is of a kind that is not known. -/
theorem run_sound (hr : src.Regular bytes) (tasks : List Task) (tree : ScopeTree)
    (h : Invariant src bytes tree tasks) :
    (∃ tree', run src tree tasks = .ok tree' ∧ tree'.Sound src.length) ∨
      ∃ kind offset, run src tree tasks = .error (.unknownKind kind offset) := by
  fun_induction run src tree tasks with
  | case1 tree => exact .inl ⟨tree, rfl, h.sound⟩
  | case2 tree task rest hp =>
    obtain ⟨hplaced, hwithin, -⟩ := h.ready task List.mem_cons_self
    have hordered := hplaced.ordered
    exact .inr ⟨_, _, congrArg Except.error (unknown_eq hr (by omega))⟩
  | case3 tree task rest p hp e happly =>
    obtain ⟨inner, tree', hok, -⟩ := h.step hr hp
    rw [happly] at hok
    cases hok
  | case4 tree task rest p hp inner tree' happly ih =>
    obtain ⟨inner', tree'', hok, hinv⟩ := h.step hr hp
    rw [happly] at hok
    cases hok
    exact ih hinv

theorem start_invariant (hr : src.Regular bytes) {root : Node} (hroot : root.WellPlaced)
    (hwithin : root.endByte ≤ bytes) :
    Invariant src bytes (.ofRange ⟨0, src.length⟩) (start root) := by
  have hself : root.Holds root := ⟨Node.Encloses.refl root, hroot⟩
  refine ⟨sound_ofRange src.length, rfl, ?_, ?_⟩
  · intro task ht
    obtain ⟨n, hn, rfl⟩ := List.mem_map.1 ht
    have hholds := hself.namedChild hn
    have hend := Nat.le_trans hholds.1.2 hwithin
    exact ⟨hholds.2, hend, Nat.one_pos, hr.root_covers hend, by simp [childrenOf, ofRange]⟩
  · refine List.pairwise_map.2 ((hroot.children_apart.sublist List.filter_sublist).imp_of_mem ?_)
    intro a b ha hb hab _
    have ha := hself.namedChild ha
    have hb := hself.namedChild hb
    exact hr.spanOf_apart ha.2 hb.2 (Nat.le_trans ha.1.2 hwithin) (Nat.le_trans hb.1.2 hwithin) hab

end Builder

theorem buildScopes_cases (text : String) {root : Node} (hroot : root.WellPlaced)
    (hwithin : root.endByte ≤ Text.byteLength text.toList) :
    (∃ built : ScopeTree, buildScopes (Source.ofText text) root = .ok built.freeze ∧
      built.Sound text.length) ∨
    ∃ kind offset, buildScopes (Source.ofText text) root = .error (.unknownKind kind offset) := by
  have hr := Source.regular_ofText text
  unfold buildScopes
  obtain ⟨built, hrun, hsound⟩ | ⟨kind, offset, hrun⟩ :=
    Builder.run_sound hr _ _ (Builder.start_invariant hr hroot hwithin)
  · have hlength : (Source.ofText text).length = text.length := String.length_toList
    rw [hlength] at hsound
    exact .inl ⟨built, by rw [hrun]; rfl, hsound⟩
  · exact .inr ⟨kind, offset, by rw [hrun]; rfl⟩

/-- The builder never breaks down on a tree of well-placed nodes: it gives a frozen sound tree,
unless it meets a node of a kind that it does not know. -/
theorem buildScopes_sound (text : String) {root : Node} (hroot : root.WellPlaced)
    (hwithin : root.endByte ≤ Text.byteLength text.toList) :
    (∃ tree, buildScopes (Source.ofText text) root = .ok tree ∧ tree.frozen = true ∧
      tree.Sound text.length) ∨
    ∃ kind offset, buildScopes (Source.ofText text) root = .error (.unknownKind kind offset) := by
  obtain ⟨built, hbuilt, hsound⟩ | hfailed := buildScopes_cases text hroot hwithin
  · exact .inl ⟨built.freeze, hbuilt, rfl, hsound.freeze⟩
  · exact .inr hfailed

theorem sound_of_buildScopes {text : String} {root : Node} {tree : ScopeTree}
    (hroot : root.WellPlaced) (hwithin : root.endByte ≤ Text.byteLength text.toList)
    (h : buildScopes (Source.ofText text) root = .ok tree) : tree.Sound text.length := by
  obtain ⟨built, hbuilt, hsound⟩ | ⟨kind, offset, hfailed⟩ := buildScopes_cases text hroot hwithin
  · obtain rfl := Except.ok.inj (hbuilt.symm.trans h)
    exact hsound.freeze
  · cases hfailed.symm.trans h

theorem unknownKind_of_buildScopes {text : String} {root : Node} {e : BuildError}
    (hroot : root.WellPlaced) (hwithin : root.endByte ≤ Text.byteLength text.toList)
    (h : buildScopes (Source.ofText text) root = .error e) :
    ∃ kind offset, e = .unknownKind kind offset := by
  obtain ⟨built, hbuilt, -⟩ | ⟨kind, offset, hfailed⟩ := buildScopes_cases text hroot hwithin
  · cases hbuilt.symm.trans h
  · exact ⟨kind, offset, Except.error.inj (h.symm.trans hfailed)⟩

def arrowProgram : Node :=
  let leaf (kind : String) (named : Bool) (firstByte endByte : Nat) (field : Option String) : Node :=
    { kind, named, missing := false, hasError := false, firstByte, endByte, row := 0, field,
      children := [] }
  { leaf "program" true 0 7 none with
    children := [{ leaf "arrow_function" true 0 7 none with
      children := [leaf "identifier" true 0 2 (some "parameter"), leaf "=>" false 3 5 none,
        leaf "number" true 6 7 (some "body")] }] }

theorem arrowProgram_wellPlaced : arrowProgram.WellPlaced := by
  refine .intro (by decide) ?_ ?_ ?_ ?_ <;> simp [arrowProgram, Node.Encloses]
  refine .intro (by decide) ?_ ?_ ?_ ?_ <;> simp [Node.Encloses]
  exact ⟨.of_leaf rfl (by decide), .of_leaf rfl (by decide), .of_leaf rfl (by decide)⟩

theorem buildScopes_sound_arrowProgram :
    ∃ tree, buildScopes (Source.ofText "é => 0") arrowProgram = .ok tree ∧ tree.size = 2 ∧
      tree.Sound 6 := by
  obtain ⟨tree, hok, -, hsound⟩ | ⟨kind, offset, herror⟩ :=
    buildScopes_sound "é => 0" arrowProgram_wellPlaced (by decide)
  · have hsize : (buildScopes (Source.ofText "é => 0") arrowProgram).toOption.map (·.size) = some 2 := by
      decide +kernel
    rw [hok] at hsize
    exact ⟨tree, hok, Option.some.inj hsize, hsound⟩
  · have hok : (buildScopes (Source.ofText "é => 0") arrowProgram).isOk = true := by decide +kernel
    rw [herror] at hok
    cases hok

end ScopeHints
