import ScopeHints.Text.Literal
import ScopeHints.Text.Style
import ScopeHints.Text.Word

/-! Text with style tags in square brackets. What is shown is the text without its tags. -/
namespace ScopeHints.Text

namespace Markup

/-- A tag: its name, which starts with a slash if it closes another one, and its parameters. -/
structure Tag where
  name : String
  parameters : Option String
  deriving Repr

inductive Piece where
  | plain (cs : List Char)
  | tag (t : Tag)
  deriving Repr

def startsTag (c : Char) : Bool := ('a' ≤ c && c ≤ 'z') || c = '#' || c = '/' || c = '@'

def tagText? : List Char → Option (List Char)
  | '[' :: c :: cs =>
    let text := (c :: cs).takeWhile fun d => d ≠ '[' && d ≠ ']'
    if startsTag c && ((c :: cs).drop text.length).head? = some ']' then some text else none
  | _ => none

def tagOf (text : List Char) : Tag :=
  let name := text.takeWhile (· ≠ '=')
  let rest := text.drop name.length
  ⟨String.ofList name, if rest.isEmpty then none else some (String.ofList (rest.drop 1))⟩

def gathered (acc : List Char) : List Piece := if acc.isEmpty then [] else [.plain acc.reverse]

/-- The parts of a text. Two backslashes before a tag stand for one, and a single one takes the
tag for plain text. -/
def pieces : Nat → List Char → List Char → List Piece
  | 0, acc, cs => gathered (cs.reverse ++ acc)
  | _ + 1, acc, [] => gathered acc
  | fuel + 1, acc, c :: cs =>
    let slashes := (c :: cs).takeWhile (· = '\\')
    let after := (c :: cs).drop slashes.length
    match tagText? after with
    | some text =>
      let rest := after.drop (text.length + 2)
      let kept := List.replicate (slashes.length / 2) '\\'
      let before := gathered acc ++ (if kept.isEmpty then [] else [.plain kept])
      let piece := if slashes.length % 2 = 1 then .plain ('[' :: text ++ [']'])
        else .tag (tagOf text)
      before ++ piece :: pieces fuel [] rest
    | none =>
      if slashes.isEmpty then pieces fuel (c :: acc) cs
      else pieces fuel (slashes ++ acc) after

/-- A backslash before an opening bracket that starts no tag does not count. -/
def unescaped : List Char → List Char
  | '\\' :: '[' :: cs => '[' :: unescaped cs
  | c :: cs => c :: unescaped cs
  | [] => []

/-- The parameters of an action can be read: the name of a handler, which may be missing, and
literals in brackets on one line, or else a literal alone. -/
def areReadable (parameters : String) : Bool :=
  let cs := strip parameters.toList
  let rest := cs.dropWhile fun c => isWordChar c || c = '.'
  rest.isEmpty ||
    (if rest.head? = some '(' && rest.getLast? = some ')' && !rest.contains '\n' then
      Literal.isLiteral rest
    else Literal.isLiteral cs)

structure OpenTag where
  start : Nat
  tag : Tag
  deriving Repr

def Tag.isAction (t : Tag) : Bool := t.name.toList.head? = some '@'

def Tag.hasStyle (t : Tag) : Bool :=
  match Style.read {} (plainWords (t.name ++ " " ++ t.parameters.getD "")) with
  | .error .badColor => false
  | _ => true

def OpenTag.span (o : OpenTag) (stop : Nat) : Span := ⟨o.start, stop, o.tag.hasStyle⟩

/-- Closes the last tag that a closing tag matches: that tag, and those which are still open. -/
def close (name : String) (openTags : List OpenTag) :
    Except MarkupError (OpenTag × List OpenTag) := do
  let wanted ← Style.normalName name
  let matching (o : OpenTag) : Bool := name = "" || o.tag.name = wanted
  match openTags.find? matching with
  | none => .error .nothingToClose
  | some o =>
    if o.tag.isAction && (o.tag.parameters.any fun p => p ≠ "" && !areReadable p) then
      .error .badParameters
    else return (o, openTags.eraseP matching)

/-- Controls that would move the cursor, other than line feeds and tabs. -/
def isControl (c : Char) : Bool := [7, 8, 11, 12, 13].contains c.toNat

def build (openTags : List OpenTag) (before : Styled) : List Piece → Except MarkupError Styled
  | [] => .ok { before with spans := before.spans ++ openTags.map (·.span before.length) }
  | .plain cs :: rest =>
    let shown := (withEmoji (unescaped cs)).filter fun c => !isControl c
    build openTags { before with chars := before.chars ++ shown } rest
  | .tag t :: rest =>
    match t.name.toList with
    | '/' :: name => do
      let (o, openTags) ← close (String.ofList (strip name)) openTags
      build openTags { before with spans := before.spans ++ [o.span before.length] } rest
    | _ => do
      let name ← Style.normalName t.name
      build (⟨before.length, { t with name }⟩ :: openTags) before rest

def render (cs : List Char) : Except MarkupError Styled :=
  build [] { chars := [] } (pieces (cs.length + 1) [] cs)

end Markup

end ScopeHints.Text
