import ScopeHints.Text.Offset

/-! Decoding of UTF-8. The longest start of a character that its continuation breaks off becomes
one replacement character, and so does each byte that starts none. -/
namespace ScopeHints.Text

/-- What a first byte promises: how many bytes follow, the bits it holds, and the interval in
which the next byte must lie. -/
structure Lead where
  owed : Nat
  bits : Nat
  low : Nat := 0x80
  high : Nat := 0xBF

def lead? (b : Nat) : Option Lead :=
  if b < 0x80 then some ⟨0, b, 0x80, 0xBF⟩
  else if 0xC2 ≤ b && b ≤ 0xDF then some ⟨1, b - 0xC0, 0x80, 0xBF⟩
  else if b = 0xE0 then some ⟨2, 0, 0xA0, 0xBF⟩
  else if b = 0xED then some ⟨2, 0xD, 0x80, 0x9F⟩
  else if 0xE1 ≤ b && b ≤ 0xEF then some ⟨2, b - 0xE0, 0x80, 0xBF⟩
  else if b = 0xF0 then some ⟨3, 0, 0x90, 0xBF⟩
  else if 0xF1 ≤ b && b ≤ 0xF3 then some ⟨3, b - 0xF0, 0x80, 0xBF⟩
  else if b = 0xF4 then some ⟨3, 4, 0x80, 0x8F⟩
  else none

/-- The characters that bytes form, with nothing in place of bytes that form none; `state` is a
character that is not complete yet. -/
def decodeFrom : Option Lead → List Nat → List (Option Char)
  | none, [] => []
  | some _, [] => [none]
  | none, b :: bs =>
    match lead? b with
    | none => none :: decodeFrom none bs
    | some l =>
      if l.owed = 0 then some (Char.ofNat l.bits) :: decodeFrom none bs
      else decodeFrom (some l) bs
  | some l, b :: bs =>
    if l.low ≤ b && b ≤ l.high then
      let bits := 64 * l.bits + (b - 0x80)
      if l.owed = 1 then some (Char.ofNat bits) :: decodeFrom none bs
      else decodeFrom (some ⟨l.owed - 1, bits, 0x80, 0xBF⟩) bs
    else
      -- The byte that broke the character off may start the next one.
      match lead? b with
      | none => none :: none :: decodeFrom none bs
      | some m =>
        none ::
          (if m.owed = 0 then some (Char.ofNat m.bits) :: decodeFrom none bs
            else decodeFrom (some m) bs)

def decode (bytes : List Nat) : List Char :=
  (decodeFrom none bytes).map fun c => c.getD replacement

def decode? (bytes : List Nat) : Option (List Char) := (decodeFrom none bytes).mapM id

/-- Line feeds in place of carriage returns, alone or before a line feed. -/
def unifyNewlines : List Char → List Char
  | [] => []
  | '\r' :: '\n' :: cs => '\n' :: unifyNewlines cs
  | c :: cs => (if c = '\r' then '\n' else c) :: unifyNewlines cs

end ScopeHints.Text
