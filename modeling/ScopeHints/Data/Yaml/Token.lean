import ScopeHints.Data.Yaml.ScalarText
import ScopeHints.Data.Yaml.Tag

/-! The tokens of a document. Blocks are told by their columns: a deeper line opens one, and a
line that is less deep closes it. A scalar or a flow collection turns out to be a key by the value
mark after it, which must stand on the same line and not too far away. -/
namespace ScopeHints.Yaml

inductive Token where
  | directive (d : Directive)
  | documentStart
  | documentEnd
  | blockListStart
  | blockRecordStart
  | blockEnd
  | flowListStart
  | flowListEnd
  | flowRecordStart
  | flowRecordEnd
  | flowEntry
  | blockEntry
  | key
  | value
  | anchor (name : String)
  | «alias» (name : String)
  | tag (t : TagText)
  /-- A scalar that is not plain is a text, whatever it says. -/
  | scalar (text : String) (plain : Bool)
  | streamEnd
  deriving DecidableEq, Repr

def Token.name : Token → String
  | .directive _ => "<directive>"
  | .documentStart => "<document start>"
  | .documentEnd => "<document end>"
  | .blockListStart => "<block sequence start>"
  | .blockRecordStart => "<block mapping start>"
  | .blockEnd => "<block end>"
  | .flowListStart => "["
  | .flowListEnd => "]"
  | .flowRecordStart => "\x7b"
  | .flowRecordEnd => "\x7d"
  | .flowEntry => ","
  | .blockEntry => "-"
  | .key => "?"
  | .value => ":"
  | .anchor _ => "<anchor>"
  | .alias _ => "<alias>"
  | .tag _ => "<tag>"
  | .scalar .. => "<scalar>"
  | .streamEnd => "<stream end>"

structure Placed where
  token : Token
  mark : Mark
  deriving DecidableEq, Repr

/-- A token that may turn out to be a key: its number, and where it starts. At the column of the
block that it stands in it has to be one. -/
structure PossibleKey where
  token : Nat
  required : Bool
  index : Nat
  line : Nat
  column : Nat
  deriving Repr

structure Lexer where
  cursor : Cursor
  tokens : Array Placed := #[]
  /-- The tokens before this number will not change. -/
  settled : Nat := 0
  flow : Nat := 0
  /-- The possible keys by the number of open flow collections. -/
  keys : List (Nat × PossibleKey) := []
  /-- The column of the innermost block, and those of the blocks around it. -/
  indent : Int := -1
  outer : List Int := []
  keyAllowed : Bool := true
  done : Bool := false

namespace Lexer

abbrev Step := Except Refusal Lexer

def push (l : Lexer) (t : Token) (mark : Mark) : Lexer :=
  { l with tokens := l.tokens.push ⟨t, mark⟩ }

def mark (l : Lexer) : Mark := l.cursor.mark

def advance (l : Lexer) (n : Nat) : Lexer := { l with cursor := l.cursor.advance n }

def pushMark (l : Lexer) (t : Token) (length : Nat) : Lexer := (l.advance length).push t l.mark

def refuse {α : Type} (l : Lexer) (problem : String) : Except Refusal α :=
  .error (.malformed { problem, mark := l.mark })

def scanned {α : Type} (l : Lexer) : Scan α → Except Refusal α
  | .ok a => .ok a
  | .error .outOfRange => .error .outOfRange
  | .error (.unexpected context problem rest) =>
    .error (.malformed ⟨some context, some l.mark, problem, (l.cursor.goTo rest).mark⟩)

/-! ### Possible keys -/

def keyLength : Nat := 1024

def isStale (c : Cursor) (k : PossibleKey) : Bool :=
  k.line ≠ c.line || keyLength < c.index - k.index

def refuseKey (l : Lexer) (k : PossibleKey) : Step :=
  .error (.malformed ⟨some "while scanning a simple key", some ⟨k.line, k.column⟩,
    "could not find expected ':'", l.mark⟩)

def dropStale (l : Lexer) : Step :=
  match l.keys.find? fun (_, k) => isStale l.cursor k && k.required with
  | some (_, k) => l.refuseKey k
  | none => .ok { l with keys := l.keys.filter fun (_, k) => !isStale l.cursor k }

def key? (l : Lexer) : Option PossibleKey := l.keys.lookup l.flow

def dropKey (l : Lexer) : Step :=
  match l.key?.filter (·.required) with
  | some k => l.refuseKey k
  | none => .ok { l with keys := l.keys.filter fun (level, _) => level ≠ l.flow }

def saveKey (l : Lexer) : Step := do
  if l.keyAllowed then
    let c := l.cursor
    let required := l.flow = 0 && l.indent = c.column
    let l ← l.dropKey
    let key : PossibleKey := ⟨l.tokens.size, required, c.index, c.line, c.column⟩
    return { l with keys := (l.flow, key) :: l.keys }
  else return l

/-- Settles the tokens before the first one that may still turn out to be a key. -/
def settle (l : Lexer) : Lexer :=
  { l with settled := l.keys.foldl (fun n (_, k) => min n k.token) l.tokens.size }

/-! ### Blocks -/

def closeBlocks (column : Int) : List Int → Int → Nat → List Int × Int × Nat
  | [], indent, closed => ([], indent, closed)
  | next :: outer, indent, closed =>
    if column < indent then closeBlocks column outer next (closed + 1)
    else (next :: outer, indent, closed)

def unwind (l : Lexer) (column : Int) : Lexer :=
  if 0 < l.flow then l
  else
    let (outer, indent, closed) := closeBlocks column l.outer l.indent 0
    { l with outer, indent, tokens := l.tokens ++ Array.replicate closed ⟨.blockEnd, l.mark⟩ }

/-- Opens a block at a mark if that is deeper than the innermost block; the token of its start goes
to the given place among the tokens. -/
def openBlock (l : Lexer) (mark : Mark) (place : Nat) (t : Token) : Lexer :=
  if 0 < l.flow || (mark.column : Int) ≤ l.indent then l
  else
    { l with
      indent := mark.column
      outer := l.indent :: l.outer
      tokens := l.tokens.insertIdxIfInBounds place ⟨t, mark⟩ }

/-! ### Tokens -/

def skip : Nat → Lexer → Lexer
  | 0, l => l
  | fuel + 1, l =>
    let rest := l.cursor.rest.dropWhile (· = ' ')
    let rest := if rest.head? = some '#' then rest.dropWhile fun c => !isBreak c else rest
    let l := { l with cursor := l.cursor.goTo rest }
    if l.cursor.peek?.any isBreak then
      skip fuel { l with cursor := l.cursor.step, keyAllowed := l.keyAllowed || l.flow = 0 }
    else l

def readEnd (l : Lexer) : Step := do
  let l ← (l.unwind (-1)).dropKey
  return { l.push .streamEnd l.mark with keys := [], done := true }

def readDirectiveLine (l : Lexer) : Step := do
  let l ← (l.unwind (-1)).dropKey
  let (d, rest) ← l.scanned (readDirective (l.cursor.rest.drop 1))
  return { l.push (.directive d) l.mark with
    cursor := (l.cursor.goTo rest).step, keyAllowed := false }

def readDocumentMark (l : Lexer) (t : Token) : Step := do
  let l ← (l.unwind (-1)).dropKey
  return { l.pushMark t 3 with keyAllowed := false }

def readFlowStart (l : Lexer) (t : Token) : Step := do
  let l ← l.saveKey
  return { l.pushMark t 1 with flow := l.flow + 1, keyAllowed := true }

def readFlowEnd (l : Lexer) (t : Token) : Step := do
  let l ← l.dropKey
  return { l.pushMark t 1 with flow := l.flow - 1, keyAllowed := false }

def readFlowEntry (l : Lexer) : Step := do
  let l ← l.dropKey
  return { l.pushMark .flowEntry 1 with keyAllowed := true }

/-- The mark of an entry, of a key that has a mark of its own or of a value without a key, each of
which opens a block of its kind. `called` is what such marks belong to. -/
def readBlockMark (l : Lexer) (called : String) (start t : Token) (keyAllowed : Bool) : Step := do
  if l.flow = 0 && !l.keyAllowed then l.refuse (called ++ " are not allowed here")
  let l ← (l.openBlock l.mark l.tokens.size start).dropKey
  return { l.pushMark t 1 with keyAllowed }

/-- The mark of a value. If the token before it may be a key, it is one. -/
def readValueMark (l : Lexer) : Step :=
  match l.key? with
  | some k =>
    let mark : Mark := ⟨k.line, k.column⟩
    let l := { l with
      keys := l.keys.filter fun (level, _) => level ≠ l.flow
      tokens := l.tokens.insertIdxIfInBounds k.token ⟨.key, mark⟩ }
    .ok { (l.openBlock mark k.token .blockRecordStart).pushMark .value 1 with
      keyAllowed := false }
  | none => l.readBlockMark "mapping values" .blockRecordStart .value (l.flow = 0)

def endsName (cs : List Char) : Bool :=
  atGap cs || cs.head?.any fun c =>
    ['?', ':', ',', ']', '\x7d', '%', '@', Char.ofNat 96].contains c

def readName (what : String) (cs : List Char) : Scan (String × List Char) :=
  let name := cs.takeWhile isNameChar
  let rest := cs.drop name.length
  if name.isEmpty || !endsName rest then
    .error (.unexpected ("while scanning an " ++ what)
      ("expected alphabetic or numeric character, but found " ++ found rest) rest)
  else .ok (String.ofList name, rest)

def readReference (l : Lexer) (what : String) (token : String → Token) : Step := do
  let l ← l.saveKey
  let (name, rest) ← l.scanned (readName what (l.cursor.rest.drop 1))
  return { l.push (token name) l.mark with cursor := l.cursor.goTo rest, keyAllowed := false }

def readTagMark (l : Lexer) : Step := do
  let l ← l.saveKey
  let (t, rest) ← l.scanned (readTag (l.cursor.rest.drop 1))
  return { l.push (.tag t) l.mark with cursor := l.cursor.goTo rest, keyAllowed := false }

def readBlockScalar (l : Lexer) (fold : Bool) : Step := do
  let l ← l.dropKey
  let (text, cursor) ← l.scanned (readBlockText fold l.indent l.cursor.step)
  return { l.push (.scalar text false) l.mark with cursor, keyAllowed := true }

def readQuotedScalar (l : Lexer) (double : Bool) : Step := do
  let l ← l.saveKey
  let (text, rest) ← l.scanned (readQuoted double l.cursor.rest.length [] (l.cursor.rest.drop 1))
  return { l.push (.scalar text false) l.mark with
    cursor := l.cursor.goTo rest, keyAllowed := false }

def readPlainScalar (l : Lexer) : Step := do
  let l ← l.saveKey
  let (text, cursor, keyAllowed) :=
    readPlain (0 < l.flow) l.indent l.cursor.rest.length [] [] false l.cursor
  return { l.push (.scalar (String.ofList text) true) l.mark with cursor, keyAllowed }

def isIndicator (c : Char) : Bool :=
  isFlowMark c || ['-', '?', ':', '#', '&', '*', '!', '|', '>', '\'', '"', '%', '@',
    Char.ofNat 96].contains c

/-- A plain scalar can start here: not with an indicator, but with one of `-?:` when no gap
follows it (nor, for all but `-`, inside a flow collection). -/
def startsPlain (inFlow : Bool) : List Char → Bool
  | [] => false
  | c :: cs =>
    !(isBlank c || isBreak c || isIndicator c)
      || (!atGap cs && (c = '-' || (!inFlow && (c = '?' || c = ':'))))

def readToken (l : Lexer) : Step := do
  let l ← (skip (l.cursor.rest.length + 1) l).dropStale
  let l := l.unwind l.cursor.column
  let inFlow := decide (0 < l.flow)
  match l.cursor.rest with
  | [] => l.readEnd
  | c :: cs =>
    let atMark (mark : Char) : Bool := l.cursor.column = 0 && startsTriple mark (c :: cs)
    if c = '%' && l.cursor.column = 0 then l.readDirectiveLine
    else if atMark '-' then l.readDocumentMark .documentStart
    else if atMark '.' then l.readDocumentMark .documentEnd
    else if c = '[' then l.readFlowStart .flowListStart
    else if c = '\x7b' then l.readFlowStart .flowRecordStart
    else if c = ']' then l.readFlowEnd .flowListEnd
    else if c = '\x7d' then l.readFlowEnd .flowRecordEnd
    else if c = ',' then l.readFlowEntry
    else if c = '-' && atGap cs then
      l.readBlockMark "sequence entries" .blockListStart .blockEntry true
    else if c = '?' && (inFlow || atGap cs) then
      l.readBlockMark "mapping keys" .blockRecordStart .key (!inFlow)
    else if c = ':' && (inFlow || atGap cs) then l.readValueMark
    else if c = '*' then l.readReference "alias" .alias
    else if c = '&' then l.readReference "anchor" .anchor
    else if c = '!' then l.readTagMark
    else if c = '|' && !inFlow then l.readBlockScalar false
    else if c = '>' && !inFlow then l.readBlockScalar true
    else if c = '\'' then l.readQuotedScalar false
    else if c = '"' then l.readQuotedScalar true
    else if startsPlain inFlow (c :: cs) then l.readPlainScalar
    else
      .error (.malformed
        { context := some "while scanning for the next token"
          problem := "found character " ++ found [c] ++ " that cannot start any token"
          mark := l.mark })

/-- Reads all tokens. What was read and settled before something was refused is kept. -/
def run : Nat → Lexer → List Placed × Option Refusal
  | 0, l => (l.tokens.toList.take l.settled, some .unfinished)
  | fuel + 1, l =>
    match l.dropStale with
    | .error e => (l.tokens.toList.take l.settled, some e)
    | .ok l =>
      let l := l.settle
      if l.done then (l.tokens.toList, none)
      else match l.readToken with
        | .error e => (l.tokens.toList.take l.settled, some e)
        | .ok l => run fuel l

end Lexer

def tokens (text : List Char) : List Placed × Option Refusal :=
  let rest := if text.head? = some Cursor.orderMark then text.drop 1 else text
  Lexer.run (text.length + 2) { cursor := { rest, index := text.length - rest.length } }

end ScopeHints.Yaml
