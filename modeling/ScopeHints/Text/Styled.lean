import ScopeHints.Text.Cells
import ScopeHints.Text.Lines

/-! Text with styled spans. Where such a text is shown it falls into segments at the ends of its
spans, and each segment is measured by itself: a joiner at the end of a segment hides nothing of
the next one. -/
namespace ScopeHints.Text

inductive MarkupError where
  | nothingToClose
  | badParameters
  | badColor
  deriving DecidableEq, Repr

structure Span where
  start : Nat
  stop : Nat
  /-- Whether the style can be read. If not, a text with this span cannot be shown. -/
  readable : Bool := true
  deriving DecidableEq, Repr

structure Styled where
  chars : List Char
  spans : List Span := []
  deriving Repr, Inhabited

namespace Styled

def length (t : Styled) : Nat := t.chars.length

def readable (ts : List Styled) : Except MarkupError (List Styled) :=
  if ts.all fun t => t.spans.all Span.readable then .ok ts else .error .badColor

/-! ### Parts -/

/-- The spans of the part of a text from `start` up to `stop`: what they share with it. One that
shares nothing is dropped. -/
def spansWithin (spans : List Span) (start stop : Nat) : List Span :=
  spans.filterMap fun s =>
    let first := max s.start start
    let last := min s.stop stop
    if first < last then some { s with start := first - start, stop := last - start } else none

def partsFrom (spans : List Span) (gap start : Nat) (cs : List Char) : List Nat → List Styled
  | [] => []
  | n :: rest =>
    ⟨cs.take n, spansWithin spans start (start + n)⟩
      :: partsFrom spans gap (start + n + gap) (cs.drop (n + gap)) rest

def parts (t : Styled) (lengths : List Nat) : List Styled := partsFrom t.spans 0 0 t.chars lengths

/-- Cuts a text into parts of the given lengths. A text that stays whole keeps its empty spans. -/
def cut (t : Styled) (lengths : List Nat) : List Styled :=
  if lengths.length ≤ 1 then [t] else t.parts lengths

def lines (t : Styled) : List Styled :=
  if t.chars.contains '\n' then
    partsFrom t.spans 1 0 t.chars ((Text.lines t.chars).map List.length)
  else [t]

/-- The first characters of a text. A span that starts after them is dropped. -/
def take (t : Styled) (n : Nat) : Styled :=
  if t.length ≤ n then t
  else
    { chars := t.chars.take n
      spans := (t.spans.filter fun s => s.start < n).map fun s => { s with stop := min n s.stop } }

def withChars (t : Styled) (cs : List Char) : Styled := { t.take cs.length with chars := cs }

/-! ### Blanks -/

def blanks (n : Nat) : List Char := List.replicate n ' '

def padRight (t : Styled) (n : Nat) : Styled := { t with chars := t.chars ++ blanks n }

def padLeft (t : Styled) (n : Nat) : Styled where
  chars := blanks n ++ t.chars
  spans := t.spans.map fun s => { s with start := s.start + n, stop := s.stop + n }

def extend (t : Styled) (n : Nat) : Styled where
  chars := t.chars ++ blanks n
  spans := t.spans.map fun s => if t.length ≤ s.stop then { s with stop := s.stop + n } else s

def append (t u : Styled) : Styled where
  chars := t.chars ++ u.chars
  spans := t.spans ++
    u.spans.map fun s => { s with start := s.start + t.length, stop := s.stop + t.length }

/-! ### Segments -/

def segmentsFrom (ends : List Nat) (i : Nat) : List Char → List (List Char)
  | [] => []
  | c :: cs =>
    match segmentsFrom ends (i + 1) cs with
    | [] => [[c]]
    | s :: rest => if ends.contains (i + 1) then [c] :: s :: rest else (c :: s) :: rest

def segments (t : Styled) : List (List Char) :=
  segmentsFrom (t.spans.flatMap fun s => [s.start, s.stop]) 0 t.chars

def segmentCells : List (List Char) → Nat
  | [] => 0
  | s :: rest => cellLength s + segmentCells rest

def cropSegments : Nat → List (List Char) → List Char
  | _, [] => []
  | room, s :: rest =>
    if cellLength s < room then s ++ cropSegments (room - cellLength s) rest else setCells s room

def shown (t : Styled) (width : Nat) : List Char :=
  if segmentCells t.segments ≤ width then t.chars else cropSegments width t.segments

def filled (t : Styled) (width : Nat) : List Char :=
  t.shown width ++ blanks (width - segmentCells t.segments)

end Styled

end ScopeHints.Text
