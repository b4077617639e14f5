import ScopeHints.Data.Table

/-! Completion candidates and how occurrences of names are gathered into them. -/
namespace ScopeHints

inductive HintKind where
  | identifier | global | keyword | property
  deriving DecidableEq, Repr, Inhabited

def HintKind.name : HintKind → String
  | identifier => "identifier"
  | global => "global"
  | keyword => "keyword"
  | property => "property"

/-- A completion candidate. `positions` are the offsets at which its name stands in its file;
globals and keywords have none. Properties carry the path of their file, and identifiers that
were matched with a scope the number of scopes between it and their declaration. -/
structure HintToken where
  value : String
  positions : List Int := []
  kind : HintKind := .identifier
  path : Option String := none
  level : Option Int := none
  deriving DecidableEq, Repr, Inhabited

/-- Positions by name, the names in the order in which they were first met. -/
abbrev Collector := Table String (List Int)

namespace Collector

def add (t : Collector) (name : String) (position : Int) : Collector :=
  t.insert name ((t.get? name).getD [] ++ [position])

def tokens (t : Collector) (kind : HintKind) (path : Option String) : List HintToken :=
  t.entries.map fun (name, positions) =>
    { value := name, positions := positions.mergeSort, kind, path }

end Collector

def collectTokens (items : List (String × Int)) (kind : HintKind) (path : Option String) :
    List HintToken :=
  Collector.tokens (items.foldl (fun t (name, pos) => Collector.add t name pos) Table.empty)
    kind path

/-- The tokens whose value no earlier token has. -/
def distinctTokens (tokens : List HintToken) : List HintToken :=
  (tokens.foldl (fun (t : Table String HintToken) token => t.insertNew token.value token)
    Table.empty).values

end ScopeHints
