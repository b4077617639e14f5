import ScopeHints.ParseTree.Source
import ScopeHints.Scope.Plan

/-! Builds the scope tree of a parsed text. Nodes that wait to be treated stand on a list of
tasks; a treated node puts what it leaves to be treated in front of the others. Deep texts
therefore cost list space only, and the loop ends because the weight on the list falls. -/
namespace ScopeHints

inductive BuildError where
  | unknownKind (kind : String) (offset : Nat)
  /-- A node lies at byte offsets that the text does not have. -/
  | outsideText
  | refused (reason : ScopeTree.Refusal)
  deriving DecidableEq, Repr

structure Task where
  treatment : Treatment
  node : Node
  scope : Nat
  deriving Repr

namespace Builder

def occurrence (src : Source) (n : Node) : Except BuildError Occurrence :=
  match src.startOf? n with
  | none => .error .outsideText
  | some pos => .ok { name := src.textOf n, position := pos }

def span (src : Source) (n : Node) : Except BuildError TextRange :=
  match src.startOf? n, src.endOf? n with
  | some start, some stop => .ok ⟨start, stop⟩
  | _, _ => .error .outsideText

def change (result : Except ScopeTree.Refusal ScopeTree) : Except BuildError ScopeTree :=
  result.mapError .refused

def record (src : Source) (tree : ScopeTree) (scope : Nat) : Fact → Except BuildError ScopeTree
  | .declaration n => do
    let o ← occurrence src n
    let tree ← change (tree.declare scope o)
    change (tree.addIdentifier scope o)
  | .identifier n => do change (tree.addIdentifier scope (← occurrence src n))
  | .property n => do change (tree.addProperty scope (← occurrence src n))
  | .association obj prop => change (tree.addAssociation scope (src.textOf obj, src.textOf prop))

def scopeAt (outer inner : Nat) : Place → Nat
  | .here => outer
  | .inside => inner

def recordAll (src : Source) (outer inner : Nat) :
    ScopeTree → List (Place × Fact) → Except BuildError ScopeTree
  | tree, [] => .ok tree
  | tree, (place, fact) :: facts => do
    let tree ← record src tree (scopeAt outer inner place) fact
    recordAll src outer inner tree facts

def enter (src : Source) (tree : ScopeTree) (n : Node) (outer : Nat) :
    Option ScopeKind → Except BuildError (Nat × ScopeTree)
  | none => .ok (outer, tree)
  | some kind => do
    let range ← span src n
    (tree.addChild outer range kind).mapError .refused

def unknown (src : Source) (n : Node) : BuildError :=
  match src.startOf? n with
  | none => .outsideText
  | some offset => .unknownKind n.kind offset

def tasksOf (p : Plan) (outer inner : Nat) : List Task :=
  p.tasks.map fun (place, treatment, n) => ⟨treatment, n, scopeAt outer inner place⟩

def apply (src : Source) (tree : ScopeTree) (task : Task) (p : Plan) :
    Except BuildError (Nat × ScopeTree) := do
  let (inner, tree) ← enter src tree task.node task.scope p.opens
  let tree ← recordAll src task.scope inner tree p.facts
  return (inner, tree)

def pending (tasks : List Task) : Nat := Node.weights (tasks.map (·.node))

theorem pending_tasksOf (p : Plan) (outer inner : Nat) :
    pending (tasksOf p outer inner) = Plan.load p.tasks := by
  simp [pending, tasksOf, Plan.load, Function.comp_def]

theorem pending_append (l m : List Task) : pending (l ++ m) = pending l + pending m := by
  simp [pending]

def run (src : Source) (tree : ScopeTree) : List Task → Except BuildError ScopeTree
  | [] => .ok tree
  | task :: rest =>
    match _h : task.node.plan task.treatment with
    | none => .error (unknown src task.node)
    | some p =>
      match apply src tree task p with
      | .error e => .error e
      | .ok (inner, tree) => run src tree (tasksOf p task.scope inner ++ rest)
termination_by tasks => pending tasks
decreasing_by
  have := Plan.load_plan_lt _h
  rw [pending_append, pending_tasksOf]
  simp only [pending, List.map_cons, Node.weights_cons]
  omega

/-- The tasks with which a build starts: the named children of the root, in the file's scope. -/
def start (root : Node) : List Task := root.namedChildren.map fun n => ⟨.visit, n, 0⟩

end Builder

def buildScopes (src : Source) (root : Node) : Except BuildError ScopeTree :=
  (Builder.run src (.ofRange ⟨0, src.length⟩) (Builder.start root)).map ScopeTree.freeze

end ScopeHints
