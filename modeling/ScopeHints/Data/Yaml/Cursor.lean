import ScopeHints.Data.Display

/-! Places in the text of a document, what is wrong there, and the characters that part the text
into lines and words. -/
namespace ScopeHints.Yaml

structure Mark where
  line : Nat := 0
  column : Nat := 0
  deriving DecidableEq, Repr, Inhabited

def Mark.render (file : String) (m : Mark) : String :=
  "  in \"" ++ file ++ "\", line " ++ toString (m.line + 1) ++ ", column "
    ++ toString (m.column + 1)

/-- What is wrong with a document and where, and what was being read there since when. -/
structure Complaint where
  context : Option String := none
  start : Option Mark := none
  problem : String
  mark : Mark
  deriving DecidableEq, Repr, Inhabited

def Complaint.lines (file : String) (c : Complaint) : List String :=
  c.context.toList ++ ((c.start.filter (· ≠ c.mark)).map (·.render file)).toList
    ++ [c.problem, c.mark.render file]

inductive Refusal where
  | malformed (c : Complaint)
  | forbidden (c : Char) (position : Nat)
  | outOfRange
  deriving DecidableEq, Repr, Inhabited

def Refusal.reason? (file : String) : Refusal → Option String
  | .malformed c => some ("\n".intercalate (c.lines file))
  | .forbidden c position =>
    some ("unacceptable character #x" ++ Text.hex 4 c.toNat
      ++ ": special characters are not allowed\n  in \"" ++ file ++ "\", position "
      ++ toString position)
  | .outOfRange => none

/-- A refusal for a reading that never ends; there is none such. -/
def Refusal.unfinished : Refusal :=
  .malformed { problem := "the document does not end", mark := {} }

inductive ScanError where
  /-- What was being read, what is wrong, and the rest of the text from there on. -/
  | unexpected (context problem : String) (rest : List Char)
  | outOfRange
  deriving DecidableEq, Repr

abbrev Scan (α : Type) := Except ScanError α

/-- The first character of a text as it is named in complaints; the end is the null character. -/
def found (cs : List Char) : String := Text.quoted (String.singleton (cs.head?.getD '\x00'))

def isAllowed (c : Char) : Bool :=
  let n := c.toNat
  n = 9 || n = 10 || n = 13 || (32 ≤ n && n < 127) || n = 0x85 || (0xA0 ≤ n && n < 0xFFFE)
    || 0x10000 ≤ n

/-- A line ends at a line feed, a next-line character or a separator of lines or paragraphs. -/
def isBreak (c : Char) : Bool :=
  c = '\n' || c.toNat = 0x85 || c.toNat = 0x2028 || c.toNat = 0x2029

/-- What a line end contributes to a scalar: only the separators are kept as they are. -/
def breakText (c : Char) : Char := if c.toNat = 0x85 then '\n' else c

def isBlank (c : Char) : Bool := c = ' ' || c = '\t'

def atGap (cs : List Char) : Bool := cs.head?.all fun c => isBlank c || isBreak c

def atLineEnd (cs : List Char) : Bool := cs.head?.all isBreak

def startsTriple (mark : Char) (cs : List Char) : Bool :=
  cs.take 3 = [mark, mark, mark] && atGap (cs.drop 3)

def startsMark (cs : List Char) : Bool := startsTriple '-' cs || startsTriple '.' cs

structure Cursor where
  rest : List Char
  index : Nat := 0
  line : Nat := 0
  column : Nat := 0
  deriving Repr, Inhabited

namespace Cursor

def orderMark : Char := Char.ofNat 0xFEFF

def step (c : Cursor) : Cursor :=
  match c.rest with
  | [] => c
  | d :: rest =>
    if isBreak d then ⟨rest, c.index + 1, c.line + 1, 0⟩
    else ⟨rest, c.index + 1, c.line, if d = orderMark then c.column else c.column + 1⟩

def advance : Nat → Cursor → Cursor
  | 0, c => c
  | n + 1, c => advance n c.step

def goTo (c : Cursor) (rest : List Char) : Cursor := c.advance (c.rest.length - rest.length)

def peek? (c : Cursor) : Option Char := c.rest.head?

def mark (c : Cursor) : Mark := ⟨c.line, c.column⟩

end Cursor

end ScopeHints.Yaml
