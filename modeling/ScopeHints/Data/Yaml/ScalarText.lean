import ScopeHints.Data.JsonReader
import ScopeHints.Data.Yaml.Cursor

/-! The texts of scalars: in quotes, plain, and in blocks. Within a scalar a single line end
stands for a blank, and of several the first does not count. -/
namespace ScopeHints.Yaml

def folded (first : Char) (breaks : List Char) : List Char :=
  if breakText first ≠ '\n' then breakText first :: breaks
  else if breaks.isEmpty then [' ']
  else breaks

/-! ### In quotes -/

def quotedError (problem : String) (rest : List Char) : ScanError :=
  .unexpected "while scanning a quoted scalar" problem rest

/-- Skips white space in quotes from the start of a line on and returns the line ends in it. The
mark of a document must not stand there. -/
def skipBreaks (lineStart : Bool) (breaks : List Char) :
    List Char → Scan (List Char × List Char)
  | [] => .ok (breaks.reverse, [])
  | c :: cs =>
    if lineStart && startsMark (c :: cs) then
      .error (quotedError "found unexpected document separator" (c :: cs))
    else if isBlank c then skipBreaks false breaks cs
    else if isBreak c then skipBreaks true (breakText c :: breaks) cs
    else .ok (breaks.reverse, c :: cs)

def escape? : Char → Option Char
  | '0' => some (Char.ofNat 0)
  | 'a' => some (Char.ofNat 7)
  | 'b' => some (Char.ofNat 8)
  | 't' => some '\t'
  | '\t' => some '\t'
  | 'n' => some '\n'
  | 'v' => some (Char.ofNat 11)
  | 'f' => some (Char.ofNat 12)
  | 'r' => some '\r'
  | 'e' => some (Char.ofNat 27)
  | ' ' => some ' '
  | '"' => some '"'
  | '/' => some '/'
  | '\\' => some '\\'
  | 'N' => some (Char.ofNat 0x85)
  | '_' => some (Char.ofNat 0xA0)
  | 'L' => some (Char.ofNat 0x2028)
  | 'P' => some (Char.ofNat 0x2029)
  | _ => none

def hexPlaces? : Char → Option Nat
  | 'x' => some 2
  | 'u' => some 4
  | 'U' => some 8
  | _ => none

/-- The character with a code; half of a pair of codes is replaced. -/
def charOf (code : Nat) : Scan Char :=
  if 0x110000 ≤ code then .error .outOfRange
  else if 0xD800 ≤ code && code < 0xE000 then .ok Text.replacement
  else .ok (Char.ofNat code)

def escapeError (problem : String) (rest : List Char) : ScanError :=
  .unexpected "while scanning a double-quoted scalar" problem rest

def readCode (places : Nat) (cs : List Char) : Scan (List Char × List Char) :=
  let digits := (cs.take places).takeWhile fun c => (Json.hexValue? c).isSome
  if digits.length < places then
    .error (escapeError ("expected escape sequence of " ++ toString places
      ++ " hexadecimal numbers, but found " ++ found (cs.drop digits.length)) cs)
  else do return ([← charOf ((Json.ofHex? digits).getD 0)], cs.drop places)

def readEscape (cs : List Char) : Scan (List Char × List Char) :=
  match cs with
  | [] => .error (escapeError ("found unknown escape character " ++ found []) [])
  | e :: rest =>
    match escape? e, hexPlaces? e with
    | some d, _ => .ok ([d], rest)
    | none, some places => readCode places rest
    | none, none =>
      if isBreak e then skipBreaks true [] rest
      else .error (escapeError ("found unknown escape character " ++ found cs) cs)

def unclosed : ScanError := quotedError "found unexpected end of stream" []

/-- Reads the rest of a scalar in quotes. In single quotes a doubled one stands for itself, in
double quotes a backslash starts an escape. The text so far is in reverse. -/
def readQuoted (double : Bool) : Nat → List Char → List Char → Scan (String × List Char)
  | 0, _, _ => .error unclosed
  | _ + 1, _, [] => .error unclosed
  | fuel + 1, acc, c :: cs =>
    if double && c = '"' then .ok (String.ofList acc.reverse, cs)
    else if !double && c = '\'' then
      if cs.head? = some '\'' then readQuoted double fuel ('\'' :: acc) (cs.drop 1)
      else .ok (String.ofList acc.reverse, cs)
    else if double && c = '\\' then
      match readEscape cs with
      | .error e => .error e
      | .ok (text, rest) => readQuoted double fuel (text.reverse ++ acc) rest
    else if isBlank c || isBreak c then
      match (c :: cs).dropWhile isBlank with
      | [] => .error unclosed
      | d :: rest =>
        if isBreak d then
          match skipBreaks true [] rest with
          | .error e => .error e
          | .ok (breaks, rest) => readQuoted double fuel ((folded d breaks).reverse ++ acc) rest
        else
          readQuoted double fuel (((c :: cs).takeWhile isBlank).reverse ++ acc) (d :: rest)
    else readQuoted double fuel (c :: acc) cs

/-! ### Plain -/

def isFlowMark (c : Char) : Bool := [',', '[', ']', '\x7b', '\x7d'].contains c

def plainChunk (inFlow : Bool) : List Char → List Char
  | [] => []
  | c :: cs =>
    if isBlank c || isBreak c || (inFlow && (isFlowMark c || c = '?')) then []
    else if c = ':' && (atGap cs || (inFlow && cs.head?.all isFlowMark)) then []
    else c :: plainChunk inFlow cs

def gapBreaks (breaks : List Char) : List Char → Option (List Char) × List Char
  | [] => (some breaks.reverse, [])
  | c :: cs =>
    if c = ' ' then gapBreaks breaks cs
    else if isBreak c then
      if startsMark cs then (none, cs) else gapBreaks (breakText c :: breaks) cs
    else (some breaks.reverse, c :: cs)

/-- The gap between two chunks of a plain scalar: what it contributes, which is nothing if the
scalar ends before it, the rest of the text, and whether a line ended. -/
def plainGap (cs : List Char) : List Char × List Char × Bool :=
  match cs.dropWhile (· = ' ') with
  | [] => (cs, [], false)
  | c :: rest =>
    if isBreak c then
      if startsMark rest then ([], rest, true)
      else match gapBreaks [] rest with
        | (none, rest) => ([], rest, true)
        | (some breaks, rest) => (folded c breaks, rest, true)
    else (cs.takeWhile (· = ' '), c :: rest, false)

/-- Reads a plain scalar: its text, the place after it and whether that follows a line end. In a
block a line that is not deeper than `indent` ends it, and so does a comment. `text` is what was
read so far, and `gap` what lies between it and the next chunk. -/
def readPlain (inFlow : Bool) (indent : Int) : Nat → List Char → List Char → Bool → Cursor →
    List Char × Cursor × Bool
  | 0, text, _, lineStart, c => (text, c, lineStart)
  | fuel + 1, text, gap, lineStart, c =>
    let chunk := plainChunk inFlow c.rest
    if chunk.isEmpty then (text, c, lineStart)
    else
      let text := text ++ gap ++ chunk
      let c := c.advance chunk.length
      let (gap, rest, lineStart) := plainGap c.rest
      let c := c.goTo rest
      if gap.isEmpty || c.peek? = some '#' || (!inFlow && (c.column : Int) ≤ indent) then
        (text, c, lineStart)
      else readPlain inFlow indent fuel text gap lineStart c

/-! ### In blocks -/

inductive Chomping where
  | clip
  | strip
  | keep
  deriving DecidableEq, Repr

def chomping? : Char → Option Chomping
  | '+' => some .keep
  | '-' => some .strip
  | _ => none

def depth? (c : Char) : Option Nat :=
  if c.isDigit && c ≠ '0' then some (Json.digitValue c) else none

def blockError (problem : String) (rest : List Char) : ScanError :=
  .unexpected "while scanning a block scalar" problem rest

def readDepth (cs : List Char) : Scan (Option Nat × List Char) :=
  if cs.head? = some '0' then
    .error (blockError "expected indentation indicator in the range 1-9, but found 0" cs)
  else match cs.head?.bind depth? with
    | some depth => .ok (some depth, cs.drop 1)
    | none => .ok (none, cs)

def readChomping (cs : List Char) : Option Chomping × List Char :=
  match cs.head?.bind chomping? with
  | some chomping => (some chomping, cs.drop 1)
  | none => (none, cs)

def blockHeader (cs : List Char) : Scan (Chomping × Option Nat × List Char) := do
  match readChomping cs with
  | (some chomping, rest) =>
    let (depth, rest) ← readDepth rest
    return (chomping, depth, rest)
  | (none, _) =>
    match ← readDepth cs with
    | (none, rest) => return (.clip, none, rest)
    | (some depth, rest) =>
      let (chomping, rest) := readChomping rest
      return (chomping.getD .clip, some depth, rest)

def blockLineEnd (rest : List Char) : Scan (List Char) :=
  if !(rest.head?.all fun d => d = ' ' || isBreak d) then
    .error (blockError
      ("expected chomping or indentation indicators, but found " ++ found rest) rest)
  else
    let rest := rest.dropWhile (· = ' ')
    let rest := if rest.head? = some '#' then rest.dropWhile fun d => !isBreak d else rest
    if atLineEnd rest then .ok rest
    else .error (blockError ("expected a comment or a line break, but found " ++ found rest) rest)

/-- The line ends before the first line of a block, the widest margin before it, and the rest. -/
def blockLead (breaks : List Char) (column widest : Nat) :
    List Char → List Char × Nat × List Char
  | [] => (breaks.reverse, widest, [])
  | c :: cs =>
    if c = ' ' then blockLead breaks (column + 1) (max widest (column + 1)) cs
    else if isBreak c then blockLead (breakText c :: breaks) 0 widest cs
    else (breaks.reverse, widest, c :: cs)

def blockBreaks (indent : Nat) (breaks : List Char) (column : Nat) :
    List Char → List Char × List Char
  | [] => (breaks.reverse, [])
  | c :: cs =>
    if c = ' ' && column < indent then blockBreaks indent breaks (column + 1) cs
    else if isBreak c then blockBreaks indent (breakText c :: breaks) 0 cs
    else (breaks.reverse, c :: cs)

/-- Reads the lines of a block that stand at a column. `text` is what was read so far, and
`breaks` are the line ends before the next line. -/
def blockLines (fold : Bool) (indent : Nat) (chomping : Chomping) :
    Nat → List Char → List Char → Cursor → List Char × Cursor
  | 0, text, _, c => (text, c)
  | fuel + 1, text, breaks, c =>
    let line := c.rest.takeWhile fun d => !isBreak d
    let text := text ++ breaks ++ line
    let c := c.advance line.length
    let ending := (c.peek?.map breakText).toList
    let c := c.step
    let (breaks, rest) := blockBreaks indent [] c.column c.rest
    let c := c.goTo rest
    if c.column = indent && c.peek?.isSome then
      let joins := fold && ending = ['\n'] && !(line.head?.any isBlank)
        && !(c.peek?.any isBlank)
      let ending := if joins then (if breaks.isEmpty then [' '] else []) else ending
      blockLines fold indent chomping fuel (text ++ ending) breaks c
    else
      match chomping with
      | .strip => (text, c)
      | .clip => (text ++ ending, c)
      | .keep => (text ++ ending ++ breaks, c)

def readBlockText (fold : Bool) (indent : Int) (c : Cursor) : Scan (String × Cursor) := do
  let (chomping, depth, rest) ← blockHeader c.rest
  let c := (c.goTo (← blockLineEnd rest)).step
  let least := (max (indent + 1) 1).toNat
  let (column, breaks, c) := match depth with
    | none =>
      let (breaks, widest, rest) := blockLead [] c.column 0 c.rest
      (max least widest, breaks, c.goTo rest)
    | some depth =>
      let column := least + depth - 1
      let (breaks, rest) := blockBreaks column [] c.column c.rest
      (column, breaks, c.goTo rest)
  if c.column = column && c.peek?.isSome then
    let (text, c) := blockLines fold column chomping (c.rest.length + 1) [] breaks c
    return (String.ofList text, c)
  else return (String.ofList (if chomping = .keep then breaks else []), c)

end ScopeHints.Yaml
