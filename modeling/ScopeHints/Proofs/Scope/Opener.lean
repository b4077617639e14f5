import ScopeHints.Proofs.Scope.Nested

/-! The nodes that open scopes. What a node contributes at once stands apart from what it leaves to
be treated, and a node with a scope of its own contributes nothing but its name to the scope around
it. -/
namespace ScopeHints

namespace Node

def declaredName? (n : Node) : Option Node :=
  if Shape.ofKind n.kind = .functionDeclaration then n.child? "name" else none

def plainName? (n : Node) : Option Node :=
  if Shape.ofKind n.kind = .method then (n.child? "name").filter (·.kind = "property_identifier")
  else none

end Node

def Fact.Names (n : Node) : Fact → Prop
  | .declaration m => n.declaredName? = some m
  | .property m => n.plainName? = some m
  | .identifier _ | .association _ _ => False

theorem Fact.At.of_forall {P : Node → Prop} (h : ∀ n, P n) (fact : Fact) : fact.At P := by
  cases fact with
  | association => trivial
  | _ n => exact h n

theorem Fact.At.and {P Q : Node → Prop} {fact : Fact} (h : fact.At P) (h' : fact.At Q) :
    fact.At fun n => P n ∧ Q n := by
  cases fact with
  | association => trivial
  | _ n => exact ⟨h, h'⟩

namespace Plan
open Node
variable {n c : Node} {F : Option String → Prop} {l m : List (Place × Treatment × Node)} {p : Plan}

/-! ### Facts and tasks -/

def Clear (l : List (Place × Treatment × Node)) (m : Node) : Prop := ∀ t ∈ l, m.Apart t.2.2

theorem clear_nil (m : Node) : Clear [] m := by simp [Clear]

theorem Clear.append (hl : Clear l c) (hm : Clear m c) : Clear (l ++ m) c :=
  List.forall_mem_append.2 ⟨hl, hm⟩

theorem Spread.clear (hs : Spread n F l) (hn : n.WellPlaced) {name : String}
    (hc : c ∈ (n.child? name).toList) (hF : ¬ F (some name)) : Clear l c := by
  intro t ht
  obtain ⟨hmem, hfield⟩ := mem_of_mem_child? hc
  have hbelow : n.Below (· = some name) c :=
    ⟨c, hmem, hfield, Encloses.refl c, (hn.child hmem).2⟩
  refine hbelow.apart hn (hs.below t ht) ?_
  rintro f rfl
  exact hF

theorem clear_roleFact (hn : n.WellPlaced) (hs : Spread n F l) (place : Place) {name : String}
    (hF : ¬ F (some name)) : ∀ f ∈ roleFact place .declaration n name, f.2.At (Clear l) := by
  intro f hf
  obtain ⟨c, hc, rfl⟩ := List.mem_map.1 hf
  exact hs.clear hn hc hF

theorem computed_eq_nil {name : String} (hc : c ∈ (n.child? name).toList.filter
    (·.kind = "property_identifier")) :
    (n.child? name).toList.filter (·.kind ≠ "property_identifier") = [] := by
  obtain ⟨hmem, hkind⟩ := List.mem_filter.1 hc
  have hchild : n.child? name = some c := by simpa using hmem
  have hk : c.kind = "property_identifier" := of_decide_eq_true hkind
  simp [hchild, hk]

theorem clear_member (hn : n.WellPlaced) :
    ∀ f ∈ (member n).facts, f.2.At (Clear (member n).tasks) := by
  intro f hf
  cases hp : n.child? "property" with
  | none => simp [Plan.member, hp] at hf
  | some prop =>
    have hmem : prop ∈ (n.child? "property").toList := by simp [hp]
    have hprop : Clear (member n).tasks prop :=
      (spread_role hn .here .visit "object").clear hn hmem (by simp)
    simp only [Plan.member, hp] at hf
    split at hf
    · obtain rfl | hf := List.mem_cons.1 hf
      · exact hprop
      · split at hf
        · split at hf
          · rw [List.mem_singleton.1 hf]
            trivial
          · cases hf
        · cases hf
    · cases hf

theorem clear_method (hn : n.WellPlaced) :
    ∀ f ∈ (method n).facts, f.2.At (Clear (method n).tasks) := by
  intro f hf
  obtain ⟨c, hc, rfl⟩ := List.mem_map.1 hf
  have hname : c ∈ (n.child? "name").toList := (List.mem_filter.1 hc).1
  have hcomputed := computed_eq_nil hc
  simp only [method, hcomputed]
  refine Clear.append (Clear.append ?_ (clear_nil c)) ?_
  · exact (spread_decorators hn).clear hn hname (by simp)
  · exact (spread_parametersAndBody hn).clear hn hname (by simp)

theorem rel_of_mem_eraseP {α : Type} {R : α → α → Prop} (hsymm : ∀ a b, R a b → R b a)
    {q : α → Bool} {l : List α} (hl : l.Pairwise R) {a b : α} (ha : l.find? q = some a)
    (hb : b ∈ l.eraseP q) : R a b := by
  induction l with
  | nil => cases ha
  | cons d l ih =>
    obtain ⟨hd, hl⟩ := List.pairwise_cons.1 hl
    cases hq : q d with
    | true =>
      rw [List.find?_cons_of_pos hq] at ha
      rw [List.eraseP_cons_of_pos hq] at hb
      rw [← Option.some.inj ha]
      exact hd b hb
    | false =>
      rw [List.find?_cons_of_neg (by simp [hq])] at ha
      rw [List.eraseP_cons_of_neg (by simp [hq])] at hb
      obtain rfl | hb := List.mem_cons.1 hb
      · exact hsymm _ _ (hd a (List.mem_of_find?_eq_some ha))
      · exact ih hl ha hb

theorem clear_visitPlan (hn : n.WellPlaced) (h : n.visitPlan = some p) :
    ∀ f ∈ p.facts, f.2.At (Clear p.tasks) := by
  have hbody := spread_parametersAndBody hn
  unfold Node.visitPlan at h
  cases hs : Shape.ofKind n.kind <;> rw [hs] at h <;>
    simp only [Option.some.injEq, reduceCtorEq] at h <;> subst h
  case member => exact clear_member hn
  case functionDeclaration => exact clear_roleFact hn hbody .here (by simp)
  case functionExpression => exact clear_roleFact hn hbody .inside (by simp)
  case arrow => exact clear_roleFact hn hbody .inside (by simp)
  case method => exact clear_method hn
  case classDeclaration =>
    intro f hf
    obtain ⟨c, hc, rfl⟩ := List.mem_map.1 hf
    intro t ht
    obtain ⟨d, hd, rfl⟩ := List.mem_map.1 ht
    have hname : n.child? "name" = some c := by simpa using hc
    exact rel_of_mem_eraseP (fun _ _ => Apart.symm) hn.children_apart hname (List.mem_filter.1 hd).1
  case catchClause | declarator | forIn | pass | leaf => simp [forIn]
  all_goals exact fun f _ => Fact.At.of_forall clear_nil f.2

/-- What a node contributes at once is apart from what it leaves to be treated. -/
theorem clear_plan (hn : n.WellPlaced) {t : Treatment} (h : n.plan t = some p) :
    ∀ f ∈ p.facts, f.2.At (Clear p.tasks) := by
  refine plan_cases h (clear_visitPlan hn) ?empty ?name ?withDefault ?pair ?collection
  case name => exact fun f _ => Fact.At.of_forall clear_nil f.2
  case pair =>
    intro f hf
    obtain ⟨c, hc, rfl⟩ := List.mem_map.1 hf
    have hkey : c ∈ (n.child? "key").toList := (List.mem_filter.1 hc).1
    have hcomputed := computed_eq_nil hc
    simp only [hcomputed]
    exact (spread_role hn .here .bind "value").clear hn hkey (by simp)
  all_goals simp

/-! ### The name of a scope -/

theorem names_of_visitPlan {kind : ScopeKind} (h : n.visitPlan = some p) (ho : p.opens = some kind) :
    ∀ f ∈ p.facts, f.1 = .here → f.2.Names n := by
  unfold Node.visitPlan at h
  cases hs : Shape.ofKind n.kind <;> rw [hs] at h <;>
    simp only [Option.some.injEq, reduceCtorEq] at h <;> subst h
  case functionDeclaration =>
    intro f hf _
    obtain ⟨c, hc, rfl⟩ := List.mem_map.1 hf
    have hname : n.declaredName? = n.child? "name" := if_pos hs
    exact hname.trans (by simpa using hc)
  case method =>
    intro f hf _
    obtain ⟨c, hc, rfl⟩ := List.mem_map.1 hf
    have hname : n.plainName? = (n.child? "name").filter (·.kind = "property_identifier") :=
      if_pos hs
    obtain ⟨hmem, hkind⟩ := List.mem_filter.1 hc
    have hchild : n.child? "name" = some c := by simpa using hmem
    refine hname.trans ?_
    rw [hchild, Option.filter_some, if_pos hkind]
  case functionExpression | arrow =>
    intro f hf hhere
    obtain ⟨c, -, rfl⟩ := List.mem_map.1 hf
    cases hhere
  case catchClause => simp
  all_goals cases ho

/-- What a node with a scope of its own contributes to the scope around it is its name. -/
theorem names_of_opens {t : Treatment} {kind : ScopeKind} (h : n.plan t = some p)
    (ho : p.opens = some kind) : ∀ f ∈ p.facts, f.1 = .here → f.2.Names n := by
  revert ho
  refine plan_cases h names_of_visitPlan ?_ ?_ ?_ ?_ ?_
  all_goals
    intro ho
    cases ho

end Plan

/-! ### The order in which scopes are opened -/

def openers : List (Treatment × Node) → List Node
  | [] => []
  | (t, n) :: rest =>
    match _h : n.plan t with
    | none => []
    | some p => (p.opens.toList.map fun _ => n) ++ openers (p.tasks.map Prod.snd ++ rest)
termination_by tasks => Node.weights (tasks.map Prod.snd)
decreasing_by
  have hload := Plan.load_plan_lt _h
  rw [Plan.load] at hload
  simp only [List.map_append, List.map_map, Node.weights_append, List.map_cons, Node.weights_cons]
  exact Nat.add_lt_add_right hload _

def Node.scopeNodes (root : Node) : List Node :=
  root :: openers (root.namedChildren.map fun n => (.visit, n))

theorem openers_cons {t : Treatment} {n : Node} {p : Plan} (rest : List (Treatment × Node))
    (h : n.plan t = some p) :
    openers ((t, n) :: rest) =
      (p.opens.toList.map fun _ => n) ++ openers (p.tasks.map Prod.snd ++ rest) := by
  rw [openers]
  split
  · rename_i hnone
    cases hnone.symm.trans h
  · rename_i p' hp'
    rw [Option.some.inj (hp'.symm.trans h)]

end ScopeHints
