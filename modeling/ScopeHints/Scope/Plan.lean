import ScopeHints.ParseTree.Node
import ScopeHints.Scope.Tree

/-! What each kind of parse-tree node contributes to the scopes: the scope it opens, the facts
that are recorded at once, and the nodes below it that are still to be treated. -/
namespace ScopeHints

/-- How a node is treated: as an expression or statement, or as a pattern that binds names. -/
inductive Treatment where
  | visit | bind
  deriving DecidableEq, Repr

inductive Place where
  | here | inside
  deriving DecidableEq, Repr

/-- What a node contributes at once; the names are those that the nodes spell. -/
inductive Fact where
  /-- Declares a name, which is also an occurrence of it. -/
  | declaration (n : Node)
  | identifier (n : Node)
  | property (n : Node)
  | association (object property : Node)
  deriving Repr

/-- The contribution of one node. The tasks stand in the order in which they are treated. -/
structure Plan where
  opens : Option ScopeKind := none
  facts : List (Place × Fact) := []
  tasks : List (Place × Treatment × Node) := []
  deriving Repr, Inhabited

/-- Kinds without identifiers or scopes below them. -/
def leafKinds : List String := [
  "comment", "hash_bang_line", "html_comment", "string", "string_fragment", "escape_sequence",
  "number", "regex", "regex_pattern", "regex_flags", "this", "super", "true", "false", "null",
  "undefined", "statement_identifier", "meta_property", "import", "optional_chain",
  "empty_statement", "debugger_statement", "jsx_text", "html_character_reference",
  "private_property_identifier", "glimmer_template", "glimmer_opening_tag", "glimmer_closing_tag"]

/-- Kinds whose named children are visited in the current scope. -/
def passKinds : List String := [
  "program", "expression_statement", "statement_block", "lexical_declaration",
  "variable_declaration", "using_declaration", "if_statement", "else_clause", "switch_statement",
  "switch_body", "switch_case", "switch_default", "for_statement", "while_statement",
  "do_statement", "try_statement", "finally_clause", "with_statement", "return_statement",
  "throw_statement", "break_statement", "continue_statement", "labeled_statement",
  "parenthesized_expression", "assignment_expression", "augmented_assignment_expression",
  "binary_expression", "unary_expression", "update_expression", "ternary_expression",
  "sequence_expression", "call_expression", "new_expression", "await_expression",
  "yield_expression", "subscript_expression", "spread_element", "template_string",
  "template_substitution", "tagged_template", "arguments", "object", "array", "pair",
  "computed_property_name", "object_pattern", "array_pattern", "pair_pattern",
  "assignment_pattern", "object_assignment_pattern", "rest_pattern", "class", "class_expression",
  "class_body", "class_heritage", "field_definition", "class_static_block", "decorator",
  "export_statement", "export_clause", "export_specifier", "namespace_export", "import_attribute",
  "jsx_element", "jsx_self_closing_element", "jsx_opening_element", "jsx_closing_element",
  "jsx_attribute", "jsx_expression", "jsx_namespace_name", "jsx_member_expression",
  "nested_identifier"]

inductive Shape where
  | identifier | shorthand | propertyName | member | functionDeclaration | functionExpression
  | arrow | method | catchClause | declarator | classDeclaration | importStatement | forIn
  | pass | leaf | unknown
  deriving DecidableEq, Repr

def shapedKinds : List (String × Shape) := [
  ("identifier", .identifier), ("shorthand_property_identifier", .shorthand),
  ("shorthand_property_identifier_pattern", .identifier), ("property_identifier", .propertyName),
  ("member_expression", .member), ("function_declaration", .functionDeclaration),
  ("generator_function_declaration", .functionDeclaration),
  ("function_expression", .functionExpression), ("function", .functionExpression),
  ("generator_function", .functionExpression), ("arrow_function", .arrow),
  ("method_definition", .method), ("catch_clause", .catchClause),
  ("variable_declarator", .declarator), ("class_declaration", .classDeclaration),
  ("import_statement", .importStatement), ("for_in_statement", .forIn)]

def Shape.ofKind (kind : String) : Shape :=
  match shapedKinds.lookup kind with
  | some shape => shape
  | none =>
    if passKinds.contains kind then .pass else if leafKinds.contains kind then .leaf else .unknown

inductive PatternShape where
  | name | withDefault | pair | collection | reference
  deriving DecidableEq, Repr

def patternKinds : List (String × PatternShape) := [
  ("identifier", .name), ("shorthand_property_identifier_pattern", .name),
  ("assignment_pattern", .withDefault), ("object_assignment_pattern", .withDefault),
  ("pair_pattern", .pair), ("object_pattern", .collection), ("array_pattern", .collection),
  ("rest_pattern", .collection)]

def PatternShape.ofKind (kind : String) : PatternShape :=
  (patternKinds.lookup kind).getD .reference

namespace Plan

def each (place : Place) (treatment : Treatment) (ns : List Node) :
    List (Place × Treatment × Node) :=
  ns.map fun n => (place, treatment, n)

def role (place : Place) (treatment : Treatment) (n : Node) (name : String) :
    List (Place × Treatment × Node) :=
  each place treatment (n.child? name).toList

def roleFact (place : Place) (fact : Node → Fact) (n : Node) (name : String) :
    List (Place × Fact) :=
  (n.child? name).toList.map fun c => (place, fact c)

/-- The parameters of a function, then its body, both inside its scope. -/
def parametersAndBody (n : Node) : List (Place × Treatment × Node) :=
  each .inside .bind ((n.child? "parameters").toList.flatMap Node.namedChildren)
    ++ role .inside .visit n "body"

def importedNames (n : Node) : List Node :=
  (n.namedChildren.filter (·.kind = "import_clause")).flatMap fun clause =>
    clause.namedChildren.flatMap fun part =>
      if part.kind = "identifier" then [part]
      else if part.kind = "namespace_import" then
        part.namedChildren.filter (·.kind = "identifier")
      else if part.kind = "named_imports" then
        (part.namedChildren.filter (·.kind = "import_specifier")).flatMap fun specifier =>
          ((specifier.child? "alias").or (specifier.child? "name")).toList.filter
            (·.kind = "identifier")
      else []

/-- A property read: the property and, of a plain object name, the association. -/
def member (n : Node) : Plan :=
  let facts := match n.child? "property" with
    | some prop =>
      if prop.kind = "property_identifier" then
        (.here, .property prop) :: match n.child? "object" with
          | some obj => if obj.kind = "identifier" then [(.here, .association obj prop)] else []
          | none => []
      else []
    | none => []
  { facts, tasks := role .here .visit n "object" }

/-- A method: its plain name is a property of the enclosing scope; a computed name and the
decorators, the last one first, lie inside the scope of the method. -/
def method (n : Node) : Plan :=
  let plain := (n.child? "name").toList.filter (·.kind = "property_identifier")
  let computed := (n.child? "name").toList.filter (·.kind ≠ "property_identifier")
  let decorators := n.namedChildren.filter (·.kind = "decorator")
  { opens := some .function
    facts := plain.map fun c => (.here, .property c)
    tasks := each .inside .visit decorators.reverse ++ each .inside .visit computed
      ++ parametersAndBody n }

/-- A loop over the members of a value; a declaration keyword makes its target a pattern. -/
def forIn (n : Node) : Plan :=
  let declares := n.children.any fun c =>
    !c.named && (c.kind = "var" || c.kind = "let" || c.kind = "const")
  { tasks := role .here (if declares then .bind else .visit) n "left" ++ role .here .visit n "value"
      ++ role .here .visit n "right" ++ role .here .visit n "body" }

end Plan

namespace Node

open Plan

/-- The contribution of a named node as an expression or statement; none for an unknown kind. -/
def visitPlan (n : Node) : Option Plan :=
  match Shape.ofKind n.kind with
  | .identifier => some { facts := [(.here, .identifier n)] }
  | .shorthand => some { facts := [(.here, .identifier n), (.here, .property n)] }
  | .propertyName => some { facts := [(.here, .property n)] }
  | .member => some (member n)
  | .functionDeclaration =>
    some { opens := some .function
           facts := roleFact .here .declaration n "name"
           tasks := parametersAndBody n }
  | .functionExpression =>
    some { opens := some .function
           facts := roleFact .inside .declaration n "name"
           tasks := parametersAndBody n }
  | .arrow =>
    some { opens := some .function
           facts := roleFact .inside .declaration n "parameter"
           tasks := parametersAndBody n }
  | .method => some (method n)
  | .catchClause =>
    some { opens := some .catchClause
           tasks := role .inside .bind n "parameter" ++ role .inside .visit n "body" }
  | .declarator => some { tasks := role .here .bind n "name" ++ role .here .visit n "value" }
  | .classDeclaration =>
    some { facts := roleFact .here .declaration n "name"
           tasks := each .here .visit (n.namedChildrenExcept "name") }
  | .importStatement => some { facts := (importedNames n).map fun c => (.here, .declaration c) }
  | .forIn => some (forIn n)
  | .pass => some { tasks := each .here .visit n.namedChildren }
  | .leaf => some {}
  | .unknown => none

/-- The contribution of a visited node. Nodes without a name contribute nothing. -/
def planVisit (n : Node) : Option Plan := if n.named then n.visitPlan else some {}

/-- The contribution of a pattern: the names it binds, and the expressions inside it. What is no
pattern is a plain reference. -/
def planBind (n : Node) : Option Plan :=
  match PatternShape.ofKind n.kind with
  | .name => some { facts := [(.here, .declaration n)] }
  | .withDefault => some { tasks := role .here .bind n "left" ++ role .here .visit n "right" }
  | .pair =>
    let plain := (n.child? "key").toList.filter (·.kind = "property_identifier")
    let computed := (n.child? "key").toList.filter (·.kind ≠ "property_identifier")
    some { facts := plain.map fun c => (.here, .property c)
           tasks := each .here .visit computed ++ role .here .bind n "value" }
  | .collection =>
    some { tasks := each .here .bind (n.namedChildren.filter (·.kind ≠ "comment")) }
  | .reference => n.planVisit

def plan : Treatment → Node → Option Plan
  | .visit, n => n.planVisit
  | .bind, n => n.planBind

end Node

namespace Plan

def load (tasks : List (Place × Treatment × Node)) : Nat := Node.weights (tasks.map (·.2.2))

@[simp] theorem load_append (l m : List (Place × Treatment × Node)) :
    load (l ++ m) = load l + load m := by
  simp [load]

@[simp] theorem load_nil : load [] = 0 := rfl

@[simp] theorem load_each (place : Place) (t : Treatment) (ns : List Node) :
    load (each place t ns) = Node.weights ns := by
  simp [load, each, Function.comp_def]

theorem load_role_le (place : Place) (t : Treatment) (n : Node) (name : String) :
    load (role place t n name) ≤ Node.weights n.children := by
  simpa [role] using n.weights_child?_le name

theorem weights_parameters_le (n : Node) :
    Node.weights ((n.child? "parameters").toList.flatMap Node.namedChildren)
      ≤ Node.weights n.children := by
  cases h : n.child? "parameters" with
  | none => simp
  | some c =>
    have hc : c.weight ≤ Node.weights n.children :=
      Node.weight_le_weights (List.mem_of_find?_eq_some h)
    have hn := c.weights_namedChildren_le
    have := c.weight_eq
    simp
    omega

theorem load_parametersAndBody_le (n : Node) :
    load (parametersAndBody n) ≤ 2 * Node.weights n.children := by
  have h := weights_parameters_le n
  have hb := load_role_le .inside .visit n "body"
  simp only [parametersAndBody, load_append, load_each]
  omega

theorem weights_filter_child?_le (n : Node) (name : String) (p : Node → Bool) :
    Node.weights ((n.child? name).toList.filter p) ≤ Node.weights n.children :=
  Nat.le_trans (Node.weights_filter_le _ _) (n.weights_child?_le name)

theorem load_method_le (n : Node) : load (method n).tasks ≤ 4 * Node.weights n.children := by
  have hd : Node.weights (n.namedChildren.filter (·.kind = "decorator"))
      ≤ Node.weights n.children :=
    Nat.le_trans (Node.weights_filter_le _ _) n.weights_namedChildren_le
  have hc := weights_filter_child?_le n "name" (·.kind ≠ "property_identifier")
  have hb := load_parametersAndBody_le n
  simp only [method, load_append, load_each, Node.weights_reverse]
  omega

theorem load_forIn_le (n : Node) : load (forIn n).tasks ≤ 4 * Node.weights n.children := by
  simp only [forIn, load_append]
  have h1 := load_role_le .here .visit n "value"
  have h2 := load_role_le .here .visit n "right"
  have h3 := load_role_le .here .visit n "body"
  split
  · have := load_role_le .here .bind n "left"
    omega
  · have := load_role_le .here .visit n "left"
    omega

theorem load_visitPlan_le {n : Node} {p : Plan} (h : n.visitPlan = some p) :
    load p.tasks ≤ 4 * Node.weights n.children := by
  have hpb := load_parametersAndBody_le n
  unfold Node.visitPlan at h
  split at h <;> simp only [Option.some.injEq, reduceCtorEq] at h <;> subst h
  case h_4 =>
    have := load_role_le .here .visit n "object"
    simp only [member]
    omega
  case h_8 => exact load_method_le n
  case h_9 =>
    have h1 := load_role_le .inside .bind n "parameter"
    have h2 := load_role_le .inside .visit n "body"
    simp only [load_append]
    omega
  case h_10 =>
    have h1 := load_role_le .here .bind n "name"
    have h2 := load_role_le .here .visit n "value"
    simp only [load_append]
    omega
  case h_11 =>
    have := n.weights_namedChildrenExcept_le "name"
    simp only [load_each]
    omega
  case h_13 => exact load_forIn_le n
  case h_14 =>
    have := n.weights_namedChildren_le
    simp only [load_each]
    omega
  case h_5 | h_6 | h_7 => dsimp only; omega
  all_goals simp only [load_nil]; omega

theorem load_planVisit_le {n : Node} {p : Plan} (h : n.planVisit = some p) :
    load p.tasks ≤ 4 * Node.weights n.children := by
  unfold Node.planVisit at h
  split at h
  · exact load_visitPlan_le h
  · simp only [Option.some.injEq] at h
    subst h
    simp

theorem load_planBind_le {n : Node} {p : Plan} (h : n.planBind = some p) :
    load p.tasks ≤ 4 * Node.weights n.children := by
  unfold Node.planBind at h
  split at h
  · simp only [Option.some.injEq] at h
    subst h
    simp
  · simp only [Option.some.injEq] at h
    subst h
    have h1 := load_role_le .here .bind n "left"
    have h2 := load_role_le .here .visit n "right"
    simp only [load_append]
    omega
  · simp only [Option.some.injEq] at h
    subst h
    have h1 := weights_filter_child?_le n "key" (·.kind ≠ "property_identifier")
    have h2 := load_role_le .here .bind n "value"
    simp only [load_append, load_each]
    omega
  · simp only [Option.some.injEq] at h
    subst h
    have h1 := Node.weights_filter_le (·.kind ≠ "comment") n.namedChildren
    have h2 := n.weights_namedChildren_le
    simp only [load_each]
    omega
  · exact load_planVisit_le h

/-- What a node leaves to be treated weighs less than the node. -/
theorem load_plan_lt {t : Treatment} {n : Node} {p : Plan} (h : n.plan t = some p) :
    load p.tasks < n.weight := by
  have hw := n.weight_eq
  cases t with
  | visit =>
    have := load_planVisit_le h
    omega
  | bind =>
    have := load_planBind_le h
    omega

end Plan

end ScopeHints
