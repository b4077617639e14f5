import ScopeHints.Text.Interval

/-! White space: the characters that separate words in any script. The zero-width space, the
Mongolian vowel separator and the byte order mark are not among them. -/
namespace ScopeHints.Text

/-- White space, as closed intervals of code points in rising order. -/
def blankIntervals : List (Nat × Nat) := [
  (0x9, 0xD), (0x1C, 0x20), (0x85, 0x85), (0xA0, 0xA0), (0x1680, 0x1680), (0x2000, 0x200A),
  (0x2028, 0x2029), (0x202F, 0x202F), (0x205F, 0x205F), (0x3000, 0x3000)]

def isBlank (c : Char) : Bool := inIntervals blankIntervals c.toNat

def strip (cs : List Char) : List Char :=
  ((cs.dropWhile isBlank).reverse.dropWhile isBlank).reverse

end ScopeHints.Text
