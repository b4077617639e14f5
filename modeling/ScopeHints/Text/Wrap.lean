import ScopeHints.Text.Blank
import ScopeHints.Text.Styled

/-! Wrapping of text to a width in cells. Lines are broken before words; white space after a
word stays with it as long as it fits. -/
namespace ScopeHints.Text

/-- The words of a text with the white space after them; the first one has also the white space
before it. A text of white space only has none. -/
def words (cs : List Char) : List (List Char) := go cs.length cs
where
  go : Nat → List Char → List (List Char)
    | 0, _ => []
    | fuel + 1, cs =>
      let before := cs.takeWhile isBlank
      let rest := cs.dropWhile isBlank
      let body := rest.takeWhile fun c => !isBlank c
      let rest := rest.dropWhile fun c => !isBlank c
      if body.isEmpty then []
      else (before ++ body ++ rest.takeWhile isBlank) :: go fuel (rest.dropWhile isBlank)

def stripEnd (cs : List Char) : List Char := (cs.reverse.dropWhile isBlank).reverse

def extendLast (w : List Char) : List (List Char) → List (List Char)
  | [] => [w]
  | l :: ls => (l ++ w) :: ls

/-- Lays words out on lines. A word that fits on no line is cut into pieces if `fold` says so;
otherwise it stands alone on its line. The lines so far are in reverse. -/
def layOut (width : Nat) (fold : Bool) : List (List Char) → Nat → List (List Char) →
    List (List Char)
  | [], _, done => done.reverse
  | w :: ws, used, done =>
    let length := cellLength (stripEnd w)
    if length + used ≤ width then layOut width fold ws (used + cellLength w) (extendLast w done)
    else if width < length then
      if fold then
        let pieces := chop width w
        layOut width fold ws (cellLength (pieces.getLast?.getD [])) (pieces.reverse ++ done)
      else layOut width fold ws (cellLength w) (w :: done)
    else if used = 0 then layOut width fold ws used (extendLast w done)
    else layOut width fold ws (cellLength w) (w :: done)

def cropEnd (width : Nat) (line : Styled) : Styled :=
  let excess := line.length - width
  let trailing := line.length - (stripEnd line.chars).length
  line.take (line.length - min excess trailing)

inductive Overflow where
  | fold
  | ellipsis
  deriving DecidableEq, Repr

def truncate (width : Nat) (overflow : Overflow) (line : Styled) : Styled :=
  if cellLength line.chars ≤ width then line
  else line.withChars <| match overflow with
    | .fold => setCells line.chars width
    | .ellipsis => setCells line.chars (width - 1) ++ ['…']

def tabWidth : Nat := 8

/-- The lengths of the parts of a text that end with tabs, and of what is left after them. A part
has `n` characters so far. -/
def tabbedLengths : Nat → List Char → List Nat
  | n, [] => if n = 0 then [] else [n]
  | n, c :: cs => if c = '\t' then (n + 1) :: tabbedLengths 0 cs else tabbedLengths (n + 1) cs

/-- Puts blanks in the place of tabs: at least one, and as many as lead to the next stop. Each part
but the last ends with a tab, and the first one starts at the cell `column`. -/
def fillTabs (column : Nat) : List Styled → Styled
  | [] => { chars := [] }
  | part :: rest =>
    if part.chars.getLast? = some '\t' then
      let part := { part with chars := part.chars.dropLast ++ [' '] }
      let column := column + cellLength part.chars
      let fill := (tabWidth - column % tabWidth) % tabWidth
      (part.extend fill).append (fillTabs (column + fill) rest)
    else part.append (fillTabs (column + cellLength part.chars) rest)

def expandTabs (t : Styled) : Styled :=
  if t.chars.contains '\t' then fillTabs 0 (t.parts (tabbedLengths 0 t.chars)) else t

def wrapLine (width : Nat) (overflow : Overflow) (line : Styled) : List Styled :=
  let line := expandTabs line
  let laid := layOut width (overflow = .fold) (words line.chars) 0 []
  (line.cut (laid.map List.length)).map (cropEnd width)

def wrap (width : Nat) (overflow : Overflow) (text : Styled) : List Styled :=
  (text.lines.flatMap (wrapLine width overflow)).map (truncate width overflow)

end ScopeHints.Text
