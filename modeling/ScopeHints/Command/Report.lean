import ScopeHints.Data.Json
import ScopeHints.Hint.Session
import ScopeHints.Text.Grid
import ScopeHints.Text.Markup

/-! What the commands print. -/
namespace ScopeHints.Command

def lineWidth : Nat := 80

def wrapped (width : Nat) (text : String) : Except Text.MarkupError (List String) := do
  if width = 0 then return []
  let lines ← Text.Styled.readable (Text.wrap width .fold (← Text.Markup.render text.toList))
  return lines.map fun line => String.ofList (line.shown width)

def printed (lines : List String) : String := String.join (lines.map (· ++ "\n"))

structure Printout where
  text : String := ""
  broken : Option Text.MarkupError := none
  deriving Repr, Inhabited

namespace Printout

def print (p : Printout) (lines : Except Text.MarkupError (List String)) : Printout :=
  if p.broken.isSome then p
  else match lines with
    | .ok lines => { p with text := p.text ++ printed lines }
    | .error e => { p with broken := some e }

end Printout

/-! ### Scopes -/

def scopeValue : Nat → Scope → Value
  | 0, _ => .null
  | fuel + 1, s =>
    .fields [("kind", .text s.kind.name), ("start", .int s.range.start),
      ("end", .int s.range.stop),
      ("declarations", .list (s.record.declarations.map fun d => .text d.name)),
      ("children", .list (s.children.map (scopeValue fuel)))]

def scopesJson (file : Path) (p : ParsedFile) : String :=
  Json.pretty 0 (.fields [("path", .text file.render), ("attempts", .int p.attempts),
    ("globals", .list (p.globals.map .text)), ("scope", scopeValue p.tree.size p.tree.root)])
    ++ "\n"

def scopeLabel (s : Scope) : String :=
  "[cyan]" ++ s.kind.name ++ "[/cyan] [" ++ toString s.range.start ++ ", "
    ++ toString s.range.stop ++ ") "
    ++ (if s.declaredNames = "" then "[dim]no declarations[/dim]" else s.declaredNames)

/-- Draws a scope and its descendants. `first` stands before the first line of its label, `rest`
before the other lines and, at `depth` levels, before its children. -/
def drawScope (depth : Nat) (first rest : String) : Nat → Scope →
    Except Text.MarkupError (List String)
  | 0, _ => .ok []
  | fuel + 1, s => do
    let label ← wrapped (lineWidth - 4 * depth) (scopeLabel s)
    let own := label.zipIdx.map fun (l, i) => (if i = 0 then first else rest) ++ l
    let last := s.children.length - 1
    let below ← s.children.zipIdx.mapM fun (child, i) =>
      if i = last then drawScope (depth + 1) (rest ++ "└── ") (rest ++ "    ") fuel child
      else drawScope (depth + 1) (rest ++ "├── ") (rest ++ "│   ") fuel child
    return own ++ below.flatten

def scopesText (file : Path) (p : ParsedFile) : Printout :=
  let title := wrapped lineWidth ("[bold]" ++ file.render ++ "[/bold]")
  let out := (({} : Printout).print title).print (drawScope 0 "" "" p.tree.size p.tree.root)
  if p.recovered then
    out.print (wrapped lineWidth
      ("Recovered after " ++ toString p.attempts ++ " attempts - some lines were blanked"))
  else out

/-! ### Hints -/

def hintsJson (degraded : Bool) (hints : List HintToken) : String :=
  Json.pretty 0 (.fields [("degraded", .bool degraded),
    ("hints", .list (hints.map fun h => .fields [("value", .text h.value),
      ("kind", .text h.kind.name), ("level", .ofInt? h.level), ("path", .ofText? h.path)]))])
    ++ "\n"

def hintColumns : List Text.GridColumn := [
  { heading := "hint" }, { heading := "kind" }, { heading := "level", right := true },
  { heading := "origin" }]

/-- The cells of hints. Their texts and their origins may hold style tags, and all texts are read
before all origins. -/
def hintRows (hints : List HintToken) : Except Text.MarkupError (List (List Text.Styled)) := do
  let values ← hints.mapM fun h => Text.Markup.render h.value.toList
  let origins ← hints.mapM fun h => Text.Markup.render (h.path.getD "").toList
  return (hints.zip (values.zip origins)).map fun (h, value, origin) =>
    let level := (h.level.map fun n => toString n).getD ""
    [value, { chars := h.kind.name.toList }, { chars := level.toList }, origin]

def hintLines (hints : List HintToken) : Except Text.MarkupError (List String) := do
  if hints.isEmpty then return ["No hints"]
  Text.Grid.render lineWidth hintColumns (← hintRows hints)

def hintsText (degraded : Bool) (hints : List HintToken) : Printout :=
  let out : Printout := {}
  (if degraded then out.print (.ok ["File could not be parsed - keywords only"]) else out).print
    (hintLines hints)

end ScopeHints.Command
