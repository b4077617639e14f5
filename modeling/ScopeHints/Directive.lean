import ScopeHints.ParseTree.Source
import ScopeHints.Text.Blank
import ScopeHints.Text.Word

/-! Global names that the comments at the head of a file announce: a list of names after
`global`, or environments after one of the words that switch them on. -/
namespace ScopeHints

def environments : List (String × List String) := [
  ("browser", ["window", "document", "navigator", "location", "history", "localStorage",
    "sessionStorage", "setTimeout", "clearTimeout", "setInterval", "clearInterval",
    "requestAnimationFrame", "XMLHttpRequest", "fetch", "Element", "HTMLElement", "Event",
    "Image", "FormData"]),
  ("node", ["require", "module", "exports", "process", "global", "Buffer", "__dirname",
    "__filename", "setImmediate", "clearImmediate"]),
  ("devel", ["console", "alert", "confirm", "prompt"]),
  ("worker", ["self", "importScripts", "postMessage", "onmessage"]),
  ("jquery", ["$", "jQuery"]),
  ("amd", ["define", "require"])]

def environmentNames (name : List Char) : List String :=
  (environments.lookup (String.ofList name)).getD []

namespace Directive

inductive Form where
  | names | environments | switches
  deriving DecidableEq, Repr

def words : List (String × Form) := [
  ("global", .names), ("globals", .names), ("jslint", .switches), ("jshint", .switches),
  ("eslint-env", .environments)]

def after? : List Char → List Char → Option (List Char)
  | [], cs => some cs
  | _ :: _, [] => none
  | p :: ps, c :: cs => if p = c then after? ps cs else none

/-- Splits at the first comment end, if the text ends there. -/
def bodyOf? : List Char → Option (List Char)
  | [] => none
  | ['*', '/'] => some []
  | c :: cs => (bodyOf? cs).map (c :: ·)

def endsWord (cs : List Char) : Bool := cs.head?.all fun c => !Text.isWordChar c

def form? (comment : List Char) : Option (Form × List Char) := do
  let rest ← after? ['/', '*'] (Text.strip comment)
  let rest := rest.dropWhile Text.isBlank
  words.findSome? fun (word, form) => do
    let rest ← after? word.toList rest
    if endsWord rest then
      let body ← bodyOf? rest
      some (form, body)
    else none

def cutAtCommas : List Char → List (List Char)
  | [] => [[]]
  | c :: cs =>
    if c = ',' then [] :: cutAtCommas cs
    else match cutAtCommas cs with
      | [] => [[c]]
      | l :: ls => (c :: l) :: ls

/-- The name before the first colon of an entry and the value after it, without blanks around
them. -/
def entry (part : List Char) : List Char × List Char :=
  (Text.strip (part.takeWhile (· ≠ ':')), Text.strip ((part.dropWhile (· ≠ ':')).drop 1))

def entries (body : List Char) : List (List Char × List Char) :=
  ((cutAtCommas body).map entry).filter fun e => !e.1.isEmpty

/-- A letter of ASCII, a low line or a dollar sign, then word characters and dollar signs. -/
def isName : List Char → Bool
  | [] => false
  | c :: cs =>
    (c.isAlpha || c = '_' || c = '$') && cs.all fun d => Text.isWordChar d || d = '$'

def namesOf (form : Form) (body : List Char) : List String :=
  match form with
  | .names =>
    ((entries body).filter fun e => e.2 ≠ "false".toList && isName e.1).map
      fun e => String.ofList e.1
  | .environments => (entries body).flatMap fun e => environmentNames e.1
  | .switches =>
    ((entries body).filter fun e => e.2 = "true".toList).flatMap fun e => environmentNames e.1

end Directive

/-- The global names that one comment announces; none if it is no directive. -/
def directiveNames (comment : String) : List String :=
  match Directive.form? comment.toList with
  | none => []
  | some (form, body) => Directive.namesOf form body

namespace Source

/-- The block comments before the first statement; a line that names an interpreter may stand
before or among them. -/
def headComments (src : Source) (root : Node) : List String :=
  (root.namedChildren.takeWhile fun n => n.kind = "hash_bang_line" || n.kind = "comment").filterMap
    fun n =>
      let text := src.textOf n
      if n.kind = "comment" && (Directive.after? ['/', '*'] text.toList).isSome then some text
      else none

def globals (src : Source) (root : Node) : List String :=
  ((src.headComments root).flatMap directiveNames).foldl
    (fun seen name => if seen.contains name then seen else seen ++ [name]) []

end Source

end ScopeHints
