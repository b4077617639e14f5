import ScopeHints.Text.Utf8

/-! What files hold: bytes, which may form a text. -/
namespace ScopeHints

/-- The bytes of a file, given as the text that they form, or one by one. -/
inductive FileContent where
  | text (s : String)
  | bytes (l : List Nat)
  deriving DecidableEq, Repr, Inhabited

namespace FileContent

def text? : FileContent → Option String
  | .text s => some s
  | .bytes l => (Text.decode? l).map String.ofList

def repaired : FileContent → String
  | .text s => s
  | .bytes l => String.ofList (Text.decode l)

/-- The text of a file as an editor shows it: repaired, and its newlines made uniform. -/
def readable (c : FileContent) : String := String.ofList (Text.unifyNewlines c.repaired.toList)

end FileContent

end ScopeHints
