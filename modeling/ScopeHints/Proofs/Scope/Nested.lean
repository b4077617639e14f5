import Mathlib.Data.List.Pairwise
import ScopeHints.Scope.Plan

/-! Trees whose nodes lie in their parents and one after the other. What a node of such a tree
leaves to be treated lies below it, in parts that are apart from each other. -/
namespace ScopeHints

namespace Node

/-- The bytes of the second node are among those of the first. -/
def Encloses (n c : Node) : Prop := n.firstByte ≤ c.firstByte ∧ c.endByte ≤ n.endByte

/-- One of two nodes ends before the other starts. -/
def Apart (a b : Node) : Prop := a.endByte ≤ b.firstByte ∨ b.endByte ≤ a.firstByte

/-- Every node starts before it ends and lies in its parent, no child starts before the one
before it has ended, and no decorator is the name, the body or the parameters of its parent. -/
inductive WellPlaced : Node → Prop
  | intro {n : Node} (ordered : n.firstByte ≤ n.endByte)
      (encloses : ∀ c ∈ n.children, n.Encloses c)
      (consecutive : n.children.IsChain fun a b => a.endByte ≤ b.firstByte)
      (decorators : ∀ c ∈ n.children, c.kind = "decorator" →
        c.field ≠ some "name" ∧ c.field ≠ some "body" ∧ c.field ≠ some "parameters")
      (children : ∀ c ∈ n.children, WellPlaced c) : WellPlaced n

theorem Encloses.refl (n : Node) : n.Encloses n := ⟨Nat.le_refl _, Nat.le_refl _⟩

theorem Encloses.trans {a b c : Node} (h : a.Encloses b) (h' : b.Encloses c) : a.Encloses c :=
  ⟨Nat.le_trans h.1 h'.1, Nat.le_trans h'.2 h.2⟩

theorem Apart.symm {a b : Node} (h : a.Apart b) : b.Apart a := Or.symm h

instance : Std.Symm Apart := ⟨fun _ _ => Apart.symm⟩

theorem Apart.mono {a b c d : Node} (h : a.Apart b) (hc : a.Encloses c) (hd : b.Encloses d) :
    c.Apart d := by
  obtain ⟨hc, hc'⟩ := hc
  obtain ⟨hd, hd'⟩ := hd
  obtain h | h := h
  · exact .inl (by omega)
  · exact .inr (by omega)

namespace WellPlaced
variable {n c : Node}

theorem ordered (h : n.WellPlaced) : n.firstByte ≤ n.endByte := by
  cases h
  assumption

theorem of_leaf (hc : n.children = []) (h : n.firstByte ≤ n.endByte) : n.WellPlaced := by
  refine .intro h ?_ ?_ ?_ ?_ <;> simp [hc]

theorem child (h : n.WellPlaced) (hc : c ∈ n.children) : n.Encloses c ∧ c.WellPlaced := by
  cases h with
  | intro _ encloses _ _ children => exact ⟨encloses c hc, children c hc⟩

theorem decorator (h : n.WellPlaced) (hc : c ∈ n.children) (hk : c.kind = "decorator") :
    c.field ≠ some "name" ∧ c.field ≠ some "body" ∧ c.field ≠ some "parameters" := by
  cases h with
  | intro _ _ _ decorators _ => exact decorators c hc hk

theorem pairwise_of_isChain {l : List Node} (hl : ∀ c ∈ l, c.firstByte ≤ c.endByte)
    (h : l.IsChain fun a b => a.endByte ≤ b.firstByte) :
    l.Pairwise fun a b => a.endByte ≤ b.firstByte := by
  induction l with
  | nil => exact .nil
  | cons a l ih =>
    cases l with
    | nil => exact List.pairwise_singleton _ _
    | cons b l =>
      obtain ⟨hab, hrest⟩ := List.isChain_cons_cons.1 h
      have hp := ih (fun c hc => hl c (List.mem_cons_of_mem a hc)) hrest
      refine List.pairwise_cons.2 ⟨?_, hp⟩
      intro c hc
      obtain rfl | hc := List.mem_cons.1 hc
      · exact hab
      · have hb := hl b (by simp)
        have hbc := (List.pairwise_cons.1 hp).1 c hc
        omega

theorem children_apart (h : n.WellPlaced) : n.children.Pairwise Apart := by
  have hordered : ∀ c ∈ n.children, c.firstByte ≤ c.endByte := fun c hc => (h.child hc).2.ordered
  cases h with
  | intro _ _ consecutive _ _ => exact (pairwise_of_isChain hordered consecutive).imp .inl

end WellPlaced

def Holds (n c : Node) : Prop := n.Encloses c ∧ c.WellPlaced

theorem Holds.child {n c d : Node} (h : n.Holds c) (hd : d ∈ c.children) : n.Holds d :=
  ⟨h.1.trans (h.2.child hd).1, (h.2.child hd).2⟩

theorem Holds.namedChild {n c d : Node} (h : n.Holds c) (hd : d ∈ c.namedChildren) : n.Holds d :=
  h.child (List.mem_filter.1 hd).1

theorem mem_of_child? {n c : Node} {role : String} (h : n.child? role = some c) :
    c ∈ n.children ∧ c.field = some role :=
  ⟨List.mem_of_find?_eq_some h, by simpa using List.find?_some h⟩

theorem mem_of_mem_child? {n c : Node} {role : String} (h : c ∈ (n.child? role).toList) :
    c ∈ n.children ∧ c.field = some role :=
  mem_of_child? (by simpa using h)

def Below (n : Node) (F : Option String → Prop) (c : Node) : Prop :=
  ∃ x ∈ n.children, F x.field ∧ x.Holds c

theorem Below.holds {n c : Node} {F : Option String → Prop} (h : n.Below F c)
    (hn : n.WellPlaced) : n.Holds c := by
  obtain ⟨x, hx, -, hc⟩ := h
  exact ⟨(hn.child hx).1.trans hc.1, hc.2⟩

theorem Below.apart {n a b : Node} {F G : Option String → Prop} (hn : n.WellPlaced)
    (ha : n.Below F a) (hb : n.Below G b) (hFG : ∀ f, F f → ¬ G f) : a.Apart b := by
  obtain ⟨x, hx, hF, hxa⟩ := ha
  obtain ⟨y, hy, hG, hyb⟩ := hb
  have hne : x ≠ y := by
    rintro rfl
    exact hFG _ hF hG
  exact (hn.children_apart.forall hx hy hne).mono hxa.1 hyb.1

end Node

def Fact.At (P : Node → Prop) : Fact → Prop
  | .declaration m | .identifier m | .property m => P m
  | .association _ _ => True

theorem Fact.At.imp {P Q : Node → Prop} {fact : Fact} (h : fact.At P) (hPQ : ∀ n, P n → Q n) :
    fact.At Q := by
  cases fact with
  | association => trivial
  | _ n => exact hPQ n h

namespace Plan
open Node
variable {n : Node} {F G : Option String → Prop} {l m : List (Place × Treatment × Node)}

/-- The nodes of some tasks lie below children of roles of a kind, apart from each other. -/
structure Spread (n : Node) (F : Option String → Prop) (l : List (Place × Treatment × Node)) :
    Prop where
  below : ∀ t ∈ l, n.Below F t.2.2
  apart : l.Pairwise fun s t => s.2.2.Apart t.2.2

theorem Spread.mono (h : Spread n F l) (hFG : ∀ f, F f → G f) : Spread n G l := by
  refine ⟨?_, h.apart⟩
  intro t ht
  obtain ⟨x, hx, hF, hc⟩ := h.below t ht
  exact ⟨x, hx, hFG _ hF, hc⟩

theorem Spread.append (hn : n.WellPlaced) (hl : Spread n F l) (hm : Spread n G m)
    (hFG : ∀ f, F f → ¬ G f) : Spread n (fun f => F f ∨ G f) (l ++ m) := by
  refine ⟨?_, List.pairwise_append.2 ⟨hl.apart, hm.apart, ?_⟩⟩
  · intro t ht
    obtain ht | ht := List.mem_append.1 ht
    · exact (hl.mono fun _ => .inl).below t ht
    · exact (hm.mono fun _ => .inr).below t ht
  · intro s hs t ht
    exact (hl.below s hs).apart hn (hm.below t ht) hFG

theorem spread_nil : Spread n F [] := ⟨by simp, .nil⟩

theorem spread_each {ns : List Node} (hn : n.WellPlaced) (place : Place) (t : Treatment)
    (hsub : ns.Sublist n.children) (hF : ∀ c ∈ ns, F c.field) : Spread n F (each place t ns) := by
  refine ⟨?_, ?_⟩
  · intro task ht
    obtain ⟨c, hc, rfl⟩ := List.mem_map.1 ht
    have hmem := hsub.subset hc
    exact ⟨c, hmem, hF c hc, Encloses.refl c, (hn.child hmem).2⟩
  · exact List.pairwise_map.2 (hn.children_apart.sublist hsub)

theorem Spread.reverse {ns : List Node} {place : Place} {t : Treatment}
    (h : Spread n F (each place t ns)) : Spread n F (each place t ns.reverse) := by
  have heach : each place t ns.reverse = (each place t ns).reverse := List.map_reverse
  rw [heach]
  refine ⟨fun task ht => h.below task (List.mem_reverse.1 ht), List.pairwise_reverse.2 ?_⟩
  exact h.apart.imp Apart.symm

theorem spread_child (hn : n.WellPlaced) (place : Place) (t : Treatment) (name : String)
    (p : Node → Bool) :
    Spread n (· = some name) (each place t ((n.child? name).toList.filter p)) := by
  cases hc : n.child? name with
  | none => exact spread_nil
  | some c =>
    obtain ⟨hmem, hfield⟩ := mem_of_child? hc
    rw [Option.toList_some]
    have hsub : ([c].filter p).Sublist n.children :=
      List.filter_sublist.trans (List.singleton_sublist.2 hmem)
    refine spread_each hn place t hsub ?_
    intro d hd
    rw [List.mem_singleton.1 (List.mem_filter.1 hd).1]
    exact hfield

theorem spread_role (hn : n.WellPlaced) (place : Place) (t : Treatment) (name : String) :
    Spread n (· = some name) (role place t n name) := by
  have h := spread_child hn place t name fun _ => true
  rw [List.filter_eq_self.2 (by simp)] at h
  exact h

theorem spread_parameters (hn : n.WellPlaced) (place : Place) (t : Treatment) :
    Spread n (· = some "parameters")
      (each place t ((n.child? "parameters").toList.flatMap Node.namedChildren)) := by
  cases hc : n.child? "parameters" with
  | none => exact spread_nil
  | some c =>
    obtain ⟨hmem, hfield⟩ := mem_of_child? hc
    have hwell := (hn.child hmem).2
    simp only [Option.toList_some, List.flatMap_singleton]
    refine ⟨?_, List.pairwise_map.2 (hwell.children_apart.sublist List.filter_sublist)⟩
    intro task ht
    obtain ⟨d, hd, rfl⟩ := List.mem_map.1 ht
    exact ⟨c, hmem, hfield, Holds.namedChild ⟨Encloses.refl c, hwell⟩ hd⟩

theorem spread_parametersAndBody (hn : n.WellPlaced) :
    Spread n (fun f => f = some "parameters" ∨ f = some "body") (parametersAndBody n) := by
  refine (spread_parameters hn .inside .bind).append hn (spread_role hn .inside .visit "body") ?_
  rintro f rfl
  simp

theorem Spread.any (h : Spread n F l) : Spread n (fun _ => True) l := h.mono fun _ _ => trivial

theorem spread_two_roles (hn : n.WellPlaced) (place : Place) (t t' : Treatment) {a b : String}
    (hab : a ≠ b) :
    Spread n (fun f => f = some a ∨ f = some b) (role place t n a ++ role place t' n b) := by
  refine (spread_role hn place t a).append hn (spread_role hn place t' b) ?_
  rintro f rfl
  simpa using hab

/-- The decorators of a method lie apart from its name, its parameters and its body. -/
theorem spread_decorators (hn : n.WellPlaced) :
    Spread n (fun f => f ≠ some "name" ∧ f ≠ some "body" ∧ f ≠ some "parameters")
      (each .inside .visit (n.namedChildren.filter (·.kind = "decorator")).reverse) := by
  refine Spread.reverse ?_
  refine spread_each hn .inside .visit (List.filter_sublist.trans List.filter_sublist) ?_
  intro c hc
  obtain ⟨hc, hk⟩ := List.mem_filter.1 hc
  exact hn.decorator (List.mem_filter.1 hc).1 (of_decide_eq_true hk)

theorem spread_method (hn : n.WellPlaced) : Spread n (fun _ => True) (method n).tasks := by
  have hname := spread_child hn .inside .visit "name" (·.kind ≠ "property_identifier")
  refine (((spread_decorators hn).append hn hname ?_).append hn (spread_parametersAndBody hn) ?_).any
  · rintro f ⟨hf, -, -⟩
    exact hf
  · rintro f (⟨-, hb, hp⟩ | rfl) (hf | hf)
    · exact hp hf
    · exact hb hf
    · simp at hf
    · simp at hf

theorem spread_forIn (hn : n.WellPlaced) : Spread n (fun _ => True) (forIn n).tasks := by
  have hleft := spread_role hn .here
    (if n.children.any fun c => !c.named && (c.kind = "var" || c.kind = "let" || c.kind = "const")
      then .bind else .visit) "left"
  have hvalue := spread_role hn .here .visit "value"
  have hright := spread_role hn .here .visit "right"
  have hbody := spread_role hn .here .visit "body"
  refine (((hleft.append hn hvalue ?_).append hn hright ?_).append hn hbody ?_).any
  · rintro f rfl
    simp
  · rintro f (rfl | rfl) <;> simp
  · rintro f ((rfl | rfl) | rfl) <;> simp

theorem spread_visitPlan (hn : n.WellPlaced) {p : Plan} (h : n.visitPlan = some p) :
    Spread n (fun _ => True) p.tasks := by
  have hchildren : n.namedChildren.Sublist n.children := List.filter_sublist
  unfold Node.visitPlan at h
  cases hs : Shape.ofKind n.kind <;> rw [hs] at h <;>
    simp only [Option.some.injEq, reduceCtorEq] at h <;> subst h
  case member => exact (spread_role hn .here .visit "object").any
  case functionDeclaration | functionExpression | arrow => exact (spread_parametersAndBody hn).any
  case method => exact spread_method hn
  case catchClause => exact (spread_two_roles hn .inside .bind .visit (by decide)).any
  case declarator => exact (spread_two_roles hn .here .bind .visit (by decide)).any
  case classDeclaration =>
    exact spread_each hn .here .visit (List.filter_sublist.trans List.eraseP_sublist) (by simp)
  case forIn => exact spread_forIn hn
  case pass => exact spread_each hn .here .visit hchildren (by simp)
  all_goals exact spread_nil

/-- A node is treated as an expression or statement, or it has no name and contributes nothing, or
it is a pattern: a name, one with a default, a pair, or a collection of patterns. -/
theorem plan_cases {t : Treatment} {p : Plan} {P : Plan → Prop} (h : n.plan t = some p)
    (visit : ∀ {p}, n.visitPlan = some p → P p) (empty : P {})
    (name : P { facts := [(.here, .declaration n)] })
    (withDefault : P { tasks := role .here .bind n "left" ++ role .here .visit n "right" })
    (pair : P
      { facts := ((n.child? "key").toList.filter (·.kind = "property_identifier")).map
          fun c => (.here, .property c)
        tasks := each .here .visit ((n.child? "key").toList.filter (·.kind ≠ "property_identifier"))
          ++ role .here .bind n "value" })
    (collection : P { tasks := each .here .bind (n.namedChildren.filter (·.kind ≠ "comment")) }) :
    P p := by
  have hvisit : ∀ {p}, n.planVisit = some p → P p := by
    intro p h
    unfold Node.planVisit at h
    split at h
    · exact visit h
    · obtain rfl := Option.some.inj h
      exact empty
  cases t with
  | visit => exact hvisit h
  | bind =>
    rw [Node.plan, Node.planBind] at h
    cases hs : PatternShape.ofKind n.kind <;> rw [hs] at h
    case reference => exact hvisit h
    all_goals obtain rfl := Option.some.inj h
    case name => exact name
    case withDefault => exact withDefault
    case pair => exact pair
    case collection => exact collection

/-- What a node leaves to be treated lies below it, in parts that are apart. -/
theorem spread_plan (hn : n.WellPlaced) {t : Treatment} {p : Plan} (h : n.plan t = some p) :
    Spread n (fun _ => True) p.tasks := by
  refine plan_cases h (spread_visitPlan hn) spread_nil spread_nil ?withDefault ?pair ?collection
  case withDefault => exact (spread_two_roles hn .here .bind .visit (by decide)).any
  case pair =>
    have hkey := spread_child hn .here .visit "key" (·.kind ≠ "property_identifier")
    refine (hkey.append hn (spread_role hn .here .bind "value") ?_).any
    rintro f rfl
    simp
  case collection =>
    exact spread_each hn .here .bind (List.filter_sublist.trans List.filter_sublist) (by simp)

theorem inside_of_visitPlan {p : Plan} {kind : ScopeKind} (h : n.visitPlan = some p)
    (ho : p.opens = some kind) : ∀ task ∈ p.tasks, task.1 = .inside := by
  have heach : ∀ (t : Treatment) (ns : List Node), ∀ task ∈ each .inside t ns, task.1 = .inside := by
    intro t ns task ht
    obtain ⟨c, -, rfl⟩ := List.mem_map.1 ht
    rfl
  have hparameters : ∀ task ∈ parametersAndBody n, task.1 = .inside := by
    intro task ht
    exact (List.mem_append.1 ht).elim (heach _ _ task) (heach _ _ task)
  unfold Node.visitPlan at h
  cases hs : Shape.ofKind n.kind <;> rw [hs] at h <;>
    simp only [Option.some.injEq, reduceCtorEq] at h <;> subst h
  case functionDeclaration | functionExpression | arrow => exact hparameters
  case method =>
    intro task ht
    obtain ht | ht := List.mem_append.1 ht
    · exact (List.mem_append.1 ht).elim (heach _ _ task) (heach _ _ task)
    · exact hparameters task ht
  case catchClause =>
    intro task ht
    exact (List.mem_append.1 ht).elim (heach _ _ task) (heach _ _ task)
  all_goals cases ho

theorem inside_of_opens {t : Treatment} {p : Plan} {kind : ScopeKind} (h : n.plan t = some p)
    (ho : p.opens = some kind) : ∀ task ∈ p.tasks, task.1 = .inside := by
  revert ho
  refine plan_cases h inside_of_visitPlan ?_ ?_ ?_ ?_ ?_
  all_goals
    intro ho
    cases ho

/-! ### What children inherit -/

def Inherited (Q : Node → Prop) : Prop := ∀ n c : Node, Q n → c ∈ n.children → Q c

section Inherited
variable {Q : Node → Prop}

theorem Inherited.child? (hQ : Inherited Q) (hn : Q n) {role : String} {c : Node}
    (hc : c ∈ (n.child? role).toList) : Q c :=
  hQ n c hn (mem_of_mem_child? hc).1

theorem Inherited.namedChild (hQ : Inherited Q) (hn : Q n) {c : Node} (hc : c ∈ n.namedChildren) :
    Q c :=
  hQ n c hn (List.mem_filter.1 hc).1

theorem Inherited.importedNames (hQ : Inherited Q) (hn : Q n) : ∀ c ∈ importedNames n, Q c := by
  intro c hc
  obtain ⟨clause, hclause, hc⟩ := List.mem_flatMap.1 hc
  have hclause := hQ.namedChild hn (List.mem_filter.1 hclause).1
  obtain ⟨part, hpart, hc⟩ := List.mem_flatMap.1 hc
  have hpart := hQ.namedChild hclause hpart
  split at hc
  · rw [List.mem_singleton.1 hc]
    exact hpart
  · split at hc
    · exact hQ.namedChild hpart (List.mem_filter.1 hc).1
    · split at hc
      · obtain ⟨specifier, hspecifier, hc⟩ := List.mem_flatMap.1 hc
        have hspecifier := hQ.namedChild hpart (List.mem_filter.1 hspecifier).1
        have hname : (specifier.child? "alias").or (specifier.child? "name") = some c := by
          simpa using (List.mem_filter.1 hc).1
        obtain h | ⟨-, h⟩ := Option.or_eq_some_iff.1 hname
        · exact hQ _ c hspecifier (mem_of_child? h).1
        · exact hQ _ c hspecifier (mem_of_child? h).1
      · cases hc

theorem Inherited.roleFact (hQ : Inherited Q) (hn : Q n) (place : Place) {fact : Node → Fact}
    (name : String) (hfact : ∀ c, Q c → (fact c).At Q) :
    ∀ f ∈ roleFact place fact n name, f.2.At Q := by
  intro f hf
  obtain ⟨c, hc, rfl⟩ := List.mem_map.1 hf
  exact hfact c (hQ.child? hn hc)

theorem Inherited.member (hQ : Inherited Q) (hn : Q n) : ∀ f ∈ (member n).facts, f.2.At Q := by
  intro f hf
  cases hp : n.child? "property" with
  | none => simp [Plan.member, hp] at hf
  | some prop =>
    have hprop : Q prop := hQ n prop hn (mem_of_child? hp).1
    simp only [Plan.member, hp] at hf
    split at hf
    · obtain rfl | hf := List.mem_cons.1 hf
      · exact hprop
      · split at hf
        · split at hf
          · rw [List.mem_singleton.1 hf]
            trivial
          · cases hf
        · cases hf
    · cases hf

theorem Inherited.visitFacts (hQ : Inherited Q) (hn : Q n) {p : Plan} (h : n.visitPlan = some p) :
    ∀ f ∈ p.facts, f.2.At Q := by
  unfold Node.visitPlan at h
  cases hs : Shape.ofKind n.kind <;> rw [hs] at h <;>
    simp only [Option.some.injEq, reduceCtorEq] at h <;> subst h
  case identifier | propertyName =>
    intro f hf
    rw [List.mem_singleton.1 hf]
    exact hn
  case shorthand =>
    intro f hf
    obtain rfl | hf := List.mem_cons.1 hf
    · exact hn
    · rw [List.mem_singleton.1 hf]
      exact hn
  case member => exact hQ.member hn
  case functionDeclaration => exact hQ.roleFact hn .here "name" fun _ hc => hc
  case functionExpression => exact hQ.roleFact hn .inside "name" fun _ hc => hc
  case arrow => exact hQ.roleFact hn .inside "parameter" fun _ hc => hc
  case method =>
    intro f hf
    obtain ⟨c, hc, rfl⟩ := List.mem_map.1 hf
    exact hQ.child? hn (List.mem_filter.1 hc).1
  case classDeclaration => exact hQ.roleFact hn .here "name" fun _ hc => hc
  case importStatement =>
    intro f hf
    obtain ⟨c, hc, rfl⟩ := List.mem_map.1 hf
    exact hQ.importedNames hn c hc
  case forIn => simp [forIn]
  all_goals simp

theorem Inherited.facts (hQ : Inherited Q) (hn : Q n) {t : Treatment} {p : Plan}
    (h : n.plan t = some p) : ∀ f ∈ p.facts, f.2.At Q := by
  refine plan_cases h (hQ.visitFacts hn) ?empty ?name ?withDefault ?pair ?collection
  case name =>
    intro f hf
    rw [List.mem_singleton.1 hf]
    exact hn
  case pair =>
    intro f hf
    obtain ⟨c, hc, rfl⟩ := List.mem_map.1 hf
    exact hQ.child? hn (List.mem_filter.1 hc).1
  all_goals simp

theorem forall_each {ns : List Node} (place : Place) (t : Treatment) (h : ∀ c ∈ ns, Q c) :
    ∀ task ∈ each place t ns, Q task.2.2 := by
  intro task ht
  obtain ⟨c, hc, rfl⟩ := List.mem_map.1 ht
  exact h c hc

theorem Inherited.role (hQ : Inherited Q) (hn : Q n) (place : Place) (t : Treatment)
    (name : String) : ∀ task ∈ role place t n name, Q task.2.2 :=
  forall_each place t fun _ hc => hQ.child? hn hc

theorem Inherited.twoRoles (hQ : Inherited Q) (hn : Q n) (place : Place) (t t' : Treatment)
    (a b : String) : ∀ task ∈ Plan.role place t n a ++ Plan.role place t' n b, Q task.2.2 :=
  List.forall_mem_append.2 ⟨hQ.role hn place t a, hQ.role hn place t' b⟩

theorem Inherited.parametersAndBody (hQ : Inherited Q) (hn : Q n) :
    ∀ task ∈ parametersAndBody n, Q task.2.2 := by
  refine List.forall_mem_append.2 ⟨forall_each _ _ fun c hc => ?_, hQ.role hn .inside .visit "body"⟩
  obtain ⟨list, hlist, hc⟩ := List.mem_flatMap.1 hc
  exact hQ.namedChild (hQ.child? hn hlist) hc

theorem Inherited.visitTasks (hQ : Inherited Q) (hn : Q n) {p : Plan} (h : n.visitPlan = some p) :
    ∀ task ∈ p.tasks, Q task.2.2 := by
  unfold Node.visitPlan at h
  cases hs : Shape.ofKind n.kind <;> rw [hs] at h <;>
    simp only [Option.some.injEq, reduceCtorEq] at h <;> subst h
  case member => exact hQ.role hn .here .visit "object"
  case functionDeclaration | functionExpression | arrow => exact hQ.parametersAndBody hn
  case method =>
    refine List.forall_mem_append.2 ⟨List.forall_mem_append.2 ⟨?_, ?_⟩, hQ.parametersAndBody hn⟩
    · refine forall_each _ _ fun c hc => ?_
      exact hQ.namedChild hn (List.mem_filter.1 (List.mem_reverse.1 hc)).1
    · exact forall_each _ _ fun c hc => hQ.child? hn (List.mem_filter.1 hc).1
  case catchClause => exact hQ.twoRoles hn .inside .bind .visit "parameter" "body"
  case declarator => exact hQ.twoRoles hn .here .bind .visit "name" "value"
  case classDeclaration =>
    refine forall_each _ _ fun c hc => ?_
    exact hQ n c hn (List.mem_of_mem_eraseP (List.mem_filter.1 hc).1)
  case forIn =>
    refine List.forall_mem_append.2 ⟨List.forall_mem_append.2 ⟨?_, ?_⟩, ?_⟩
    · exact hQ.twoRoles hn .here _ .visit "left" "value"
    · exact hQ.role hn .here .visit "right"
    · exact hQ.role hn .here .visit "body"
  case pass => exact forall_each _ _ fun c hc => hQ.namedChild hn hc
  all_goals simp

theorem Inherited.tasks (hQ : Inherited Q) (hn : Q n) {t : Treatment} {p : Plan}
    (h : n.plan t = some p) : ∀ task ∈ p.tasks, Q task.2.2 := by
  refine plan_cases h (hQ.visitTasks hn) ?empty ?name ?withDefault ?pair ?collection
  case withDefault => exact hQ.twoRoles hn .here .bind .visit "left" "right"
  case pair =>
    refine List.forall_mem_append.2 ⟨?_, hQ.role hn .here .bind "value"⟩
    exact forall_each _ _ fun c hc => hQ.child? hn (List.mem_filter.1 hc).1
  case collection => exact forall_each _ _ fun c hc => hQ.namedChild hn (List.mem_filter.1 hc).1
  all_goals simp

end Inherited

theorem held_plan (hn : n.WellPlaced) {t : Treatment} {p : Plan} (h : n.plan t = some p) :
    ∀ f ∈ p.facts, f.2.At n.Holds :=
  Inherited.facts (Q := n.Holds) (fun _ _ hc hd => hc.child hd) ⟨Encloses.refl n, hn⟩ h

end Plan

end ScopeHints
