/-! Lines of a text end at a line feed; blanking a line keeps every later offset. -/
namespace ScopeHints.Text

/-- The text cut at every line feed: one line more than there are line feeds. -/
def lines : List Char → List (List Char)
  | [] => [[]]
  | c :: cs =>
    if c = '\n' then [] :: lines cs
    else match lines cs with
      | [] => [[c]]
      | l :: ls => (c :: l) :: ls

def unlines : List (List Char) → List Char
  | [] => []
  | [l] => l
  | l :: ls => l ++ '\n' :: unlines ls

/-- A line without its final run of carriage returns. -/
def lineBody (line : List Char) : List Char :=
  (line.reverse.dropWhile (· = '\r')).reverse

/-- Spaces in place of a line, its final run of carriage returns kept. -/
def blanked (line : List Char) : List Char :=
  List.replicate (lineBody line).length ' ' ++ line.drop (lineBody line).length

/-- Blanks the line with the given number, counted from one; any other number changes nothing. -/
def blankLine (text : List Char) (line : Int) : List Char :=
  if 1 ≤ line ∧ line ≤ (lines text).length then
    unlines ((lines text).modify (line - 1).toNat blanked)
  else text

end ScopeHints.Text
