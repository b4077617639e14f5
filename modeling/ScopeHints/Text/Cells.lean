import ScopeHints.Text.CellTable

/-! The width of a text on a terminal. Wide characters take two cells; marks, controls and
invisible characters take none. A joiner hides the character after it, and a selector of pictures
widens some of the characters before it. -/
namespace ScopeHints.Text

def cellWidth (c : Char) : Nat :=
  if 32 ≤ c.toNat && c.toNat < 127 then 1
  else if c.toNat < 0xA0 then 0
  else if inIntervals zeroWidthIntervals c.toNat then 0
  else if inIntervals wideIntervals c.toNat then 2
  else 1

/-- Joins the characters around it to one sign. -/
def joiner : Char := Char.ofNat 0x200D

/-- Asks for the picture of the character before it. -/
def pictureSelector : Char := Char.ofNat 0xFE0F

def widening : Option Char → Nat
  | some c => if inIntervals widenedIntervals c.toNat then 1 else 0
  | none => 0

def cellsFrom : Option Char → List Char → Nat
  | _, [] => 0
  | last, c :: cs =>
    if c = pictureSelector then widening last + cellsFrom none cs
    else if c = joiner then
      match cs with
      | [] => 0
      | _ :: rest => cellsFrom last rest
    else if cellWidth c = 0 then cellsFrom last cs
    else cellWidth c + cellsFrom (some c) cs

def cellLength (cs : List Char) : Nat := cellsFrom none cs

/-! ### Signs -/

/-- Characters that are shown as one sign, and the cells that it takes. -/
structure Sign where
  chars : List Char
  cells : Nat
  deriving Repr, Inhabited

def extendSign (chars : List Char) (cells : Nat) : List Sign → List Sign
  | [] => [⟨chars, 0⟩]
  | s :: rest => ⟨s.chars ++ chars, s.cells + cells⟩ :: rest

def signsFrom : List Sign → Option Char → List Char → List Sign
  | done, _, [] => done.reverse
  | done, last, c :: cs =>
    if c = pictureSelector then
      let cells := widening last
      signsFrom (extendSign [c] cells done) (if cells = 0 then last else none) cs
    else if c = joiner && !done.isEmpty then
      match cs with
      | [] => (extendSign [c] 0 done).reverse
      | d :: rest => signsFrom (extendSign [c, d] 0 done) last rest
    else if cellWidth c = 0 then signsFrom (extendSign [c] 0 done) last cs
    else signsFrom (⟨[c], cellWidth c⟩ :: done) (some c) cs

def signs (cs : List Char) : List Sign := signsFrom [] none cs

/-- The signs that fit into some cells. Half of a sign at the end is a blank. -/
def takeCells : Nat → List Sign → List Char
  | _, [] => []
  | room, s :: rest =>
    if s.cells ≤ room then s.chars ++ takeCells (room - s.cells) rest
    else if room = 0 then []
    else [' ']

def setCells (cs : List Char) (size : Nat) : List Char :=
  if size = 0 then []
  else if cellLength cs ≤ size then cs ++ List.replicate (size - cellLength cs) ' '
  else takeCells size (signs cs)

/-- Cuts signs into pieces of at most `width` cells, each as long as possible. A piece that takes
`used` cells is gathered in `piece`. -/
def chopSigns (width : Nat) : Nat → List Char → List Sign → List (List Char)
  | used, piece, [] => if used = 0 then [] else [piece]
  | used, piece, s :: rest =>
    if used + s.cells ≤ width then chopSigns width (used + s.cells) (piece ++ s.chars) rest
    else piece :: chopSigns width s.cells s.chars rest

def chop (width : Nat) (cs : List Char) : List (List Char) := chopSigns width 0 [] (signs cs)

end ScopeHints.Text
