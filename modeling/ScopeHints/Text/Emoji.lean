import ScopeHints.Data.JsonReader
import ScopeHints.Text.Blank
import ScopeHints.Text.EmojiNames
import ScopeHints.Text.LowerCase

/-! Names of emoji between colons, and the emoji in their place. -/
namespace ScopeHints.Text

def plainWords (s : String) : List String :=
  ((s.toList.splitBy fun a b => isBlank a = isBlank b).filter fun w => !w.any isBlank).map
    String.ofList

def pairs : List String → List (String × String)
  | a :: b :: rest => (a, b) :: pairs rest
  | _ => []

def emojiTable : List (String × String) := pairs (plainWords emojiNames)

def ofCodes (s : String) : List Char :=
  ((s.toList.splitBy fun a b => (a = '-') = (b = '-')).filter (· ≠ ['-'])).map fun ds =>
    Char.ofNat ((Json.ofHex? ds).getD 0)

def emojiOf? (name : String) : Option (List Char) := (emojiTable.lookup (toLower name)).map ofCodes

/-- A name and how its emoji is to be shown: as a picture or as text, where the name asks for one
of them. -/
def variantOf (name : List Char) : List Char × List Char :=
  let without (suffix : String) : Option (List Char) :=
    if suffix.toList.isSuffixOf name then some (name.take (name.length - suffix.length)) else none
  match without "-emoji", without "-text" with
  | some base, _ => (base, [Char.ofNat 0xFE0F])
  | none, some base => (base, [Char.ofNat 0xFE0E])
  | none, none => (name, [])

def namedEmoji (name : List Char) : List Char :=
  let (base, variant) := variantOf name
  match emojiOf? (String.ofList base) with
  | some emoji => emoji ++ variant
  | none => ':' :: name ++ [':']

/-- Puts emoji in the place of their names. A name stands between two colons and holds neither
colons nor white space. -/
def replaceEmoji : Nat → List Char → List Char
  | 0, cs => cs
  | _ + 1, [] => []
  | fuel + 1, c :: cs =>
    if c = ':' then
      let name := cs.takeWhile fun d => d ≠ ':' && !isBlank d
      match cs.drop name.length with
      | ':' :: rest => namedEmoji name ++ replaceEmoji fuel rest
      | _ => ':' :: replaceEmoji fuel cs
    else c :: replaceEmoji fuel cs

def withEmoji (cs : List Char) : List Char := replaceEmoji (cs.length + 1) cs

end ScopeHints.Text
