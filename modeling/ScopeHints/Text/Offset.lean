/-! Byte offsets of the UTF-8 form of a text, and the characters they fall on. -/
namespace ScopeHints.Text

def byteLength : List Char → Nat
  | [] => 0
  | c :: cs => c.utf8Size + byteLength cs

def isAscii (text : List Char) : Bool := text.all fun c => c.toNat < 128

/-- For each byte the number of the character it belongs to, then the number of characters. -/
def offsetTable (text : List Char) : List Nat :=
  (text.zipIdx.flatMap fun (c, i) => List.replicate c.utf8Size i) ++ [text.length]

/-- Converts byte offsets of a text to character offsets. An ASCII text needs no table. -/
inductive OffsetMap where
  | identity
  | table (entries : Array Nat)
  deriving Repr, Inhabited

namespace OffsetMap

def ofText (text : List Char) : OffsetMap :=
  if isAscii text then .identity else .table (offsetTable text).toArray

/-- The character offset of a byte offset; past the end of the table there is none. -/
def toChar? : OffsetMap → Nat → Option Nat
  | identity, byte => some byte
  | table entries, byte => entries[byte]?

end OffsetMap

/-- The line feeds that stand before a byte offset. -/
def rowOf : List Char → Nat → Nat
  | [], _ => 0
  | c :: cs, byte =>
    if byte = 0 then 0
    else (if c = '\n' then 1 else 0) + rowOf cs (byte - c.utf8Size)

def replacement : Char := Char.ofNat 0xFFFD

/-- The characters in the first `count` bytes. A character cut off at its end leaves one
replacement character, since its bytes start a valid character. -/
def takeBytes : List Char → Nat → List Char
  | [], _ => []
  | c :: cs, count =>
    if count = 0 then []
    else if c.utf8Size ≤ count then c :: takeBytes cs (count - c.utf8Size)
    else [replacement]

/-- The text that the bytes from `first` up to `last` spell. A character cut off at its front
leaves one replacement character for each of its bytes in the span. -/
def byteSlice : List Char → Nat → Nat → List Char
  | [], _, _ => []
  | c :: cs, first, last =>
    if first = 0 then takeBytes (c :: cs) last
    else if c.utf8Size ≤ first then byteSlice cs (first - c.utf8Size) (last - c.utf8Size)
    else
      List.replicate (min c.utf8Size last - first) replacement
        ++ takeBytes cs (last - c.utf8Size)

end ScopeHints.Text
