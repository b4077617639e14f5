import ScopeHints.Data.Binary64
import ScopeHints.Text.Wrap

/-! Tables of text. Columns are two blanks apart and as wide as their widest cell; where the
whole is too wide, the widest columns give way first. -/
namespace ScopeHints.Text

structure GridColumn where
  heading : String
  right : Bool := false
  deriving Repr

namespace Grid

def padding (count i : Nat) : Nat × Nat :=
  (if i = 0 then 0 else 1, if i + 1 = count then 0 else 1)

def endsLine (c : Char) : Bool :=
  [0x0A, 0x1C, 0x1D, 0x1E, 0x85, 0x2028, 0x2029].contains c.toNat

def cellWidest (cell : List Char) : Nat :=
  ((cell.splitBy fun a b => !endsLine a && !endsLine b).map cellLength).foldl max 0

def naturalWidths (limit : Nat) (rows : List (List Styled)) (count : Nat) : List Nat :=
  (List.range count).map fun i =>
    let (before, after) := padding count i
    let cells := rows.map fun row => cellWidest ((row[i]?.map Styled.chars).getD [])
    min limit (max 1 (cells.foldl max 0 + before + after))

def total : List Nat → Nat
  | [] => 0
  | w :: ws => w + total ws

def reduce (most : Nat) : Nat → Nat → List (Nat × Bool) → List Nat
  | _, _, [] => []
  | excess, shares, (width, marked) :: rest =>
    if marked && 0 < shares then
      let taken := min most (Binary64.roundDiv excess shares)
      (width - taken) :: reduce most (excess - taken) (shares - 1) rest
    else width :: reduce most excess shares rest

def collapse (limit : Nat) : Nat → List Nat → List Nat
  | 0, widths => widths
  | fuel + 1, widths =>
    let excess := total widths - limit
    let widest := widths.foldl max 0
    let next := (widths.filter (· ≠ widest)).foldl max 0
    if excess = 0 || widest = next then widths
    else
      let marked := widths.map fun w => (w, decide (w = widest))
      collapse limit fuel
        (reduce (min excess (widest - next)) excess (widths.count widest) marked)

def widths (limit : Nat) (rows : List (List Styled)) (count : Nat) : List Nat :=
  let natural := naturalWidths limit rows count
  collapse limit (total natural) natural

def justified (width : Nat) (right : Bool) (line : Styled) : Styled :=
  let room := width - cellLength line.chars
  if right then
    let line := truncate width .ellipsis (line.withChars (stripEnd line.chars))
    line.padLeft (width - cellLength line.chars)
  else (truncate width .ellipsis line).padRight room

def cellLines (count i width : Nat) (right : Bool) (cell : Styled) :
    Except MarkupError (List (List Char)) := do
  let (before, after) := padding count i
  let inner := width - before - after
  if inner = 0 then return []
  let wrapped ← Styled.readable
    ((cell.lines.flatMap (wrapLine inner .ellipsis)).map (justified inner right))
  return wrapped.map fun line =>
    Styled.blanks before ++ line.filled inner ++ Styled.blanks after

def rowLines (columns : List GridColumn) (widths : List Nat) (row : List Styled) :
    Except MarkupError (List (List Char)) := do
  let cells ← (columns.zip (widths.zip row)).zipIdx.mapM fun ((column, width, cell), i) => do
    return (width, ← cellLines columns.length i width column.right cell)
  let height := (cells.map fun (_, lines) => lines.length).foldl max 0
  return (List.range height).map fun n =>
    cells.flatMap fun (width, lines) => lines[n]?.getD (Styled.blanks width)

def render (limit : Nat) (columns : List GridColumn) (rows : List (List Styled)) :
    Except MarkupError (List String) := do
  let all := columns.map (fun c => { chars := c.heading.toList }) :: rows
  let widths := widths limit all columns.length
  let lines ← all.mapM (rowLines columns widths)
  return lines.flatten.map String.ofList

end Grid

end ScopeHints.Text
