/-! Edits, and which of them can change the scopes of a file. -/
namespace ScopeHints

structure TextChange where
  fromLine : Int
  toLine : Int
  text : String := ""
  deriving DecidableEq, Repr

namespace TextChange

def isIdentifierChar (c : Char) : Bool := c.isAlphanum || c = '_' || c = '$'

/-- An edit within a line that only deletes, or only types part of a name, opens and closes no
scope. Every other edit may. -/
def isSignificant (change : TextChange) : Bool :=
  if change.fromLine ≠ change.toLine || change.text.toList.contains '\n' then true
  else !(change.text.toList.all isIdentifierChar)

end TextChange

end ScopeHints
