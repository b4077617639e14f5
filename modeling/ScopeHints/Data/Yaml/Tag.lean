import ScopeHints.Data.JsonReader
import ScopeHints.Data.Yaml.Cursor
import ScopeHints.Text.Utf8

/-! Tags, which say what a node is whatever it looks like, and the directives before a
document. -/
namespace ScopeHints.Yaml

/-- A tag as it is written: a handle that stands for its start, and the rest. -/
structure TagText where
  handle : Option String
  suffix : String
  deriving DecidableEq, Repr

inductive Directive where
  | version (major : Nat)
  | handle (name stem : String)
  | other
  deriving DecidableEq, Repr

def isNameChar (c : Char) : Bool := c.isAlphanum || c = '-' || c = '_'

/-- A blank or the end of a line stands here; a tab does not count. -/
def atWordEnd (cs : List Char) : Bool := cs.head?.all fun c => c = ' ' || isBreak c

def isTagChar (c : Char) : Bool := c.isAlphanum || "-;/?:@&=+$,_.!~*'()[]".toList.contains c

def readByteEscapes (what : String) : List Char → Scan (List Nat × List Char)
  | '%' :: cs =>
    match cs with
    | a :: b :: rest =>
      match Json.hexValue? a, Json.hexValue? b with
      | some x, some y => do
        let (bytes, rest) ← readByteEscapes what rest
        return ((16 * x + y) :: bytes, rest)
      | none, _ => .error (wrong a cs)
      | some _, none => .error (wrong b cs)
    | [a] => .error (wrong (if (Json.hexValue? a).isSome then '\x00' else a) cs)
    | [] => .error (wrong '\x00' cs)
  | cs => .ok ([], cs)
where
  wrong (c : Char) (rest : List Char) : ScanError :=
    .unexpected ("while scanning a " ++ what)
      ("expected URI escape sequence of 2 hexadecimal numbers, but found " ++ found [c]) rest

def readTagChars (what : String) : Nat → List Char → Scan (List Char × List Char)
  | fuel + 1, c :: cs =>
    if c = '%' then do
      let (bytes, rest) ← readByteEscapes what (c :: cs)
      match Text.decode? bytes with
      | none =>
        .error (.unexpected ("while scanning a " ++ what) "found bytes of no text" (c :: cs))
      | some escaped =>
        let (more, rest) ← readTagChars what fuel rest
        return (escaped ++ more, rest)
    else if isTagChar c then do
      let (more, rest) ← readTagChars what fuel cs
      return (c :: more, rest)
    else .ok ([], c :: cs)
  | _, cs => .ok ([], cs)

def readSuffix (what : String) (cs : List Char) : Scan (String × List Char) := do
  let (suffix, rest) ← readTagChars what cs.length cs
  if suffix.isEmpty then
    .error (.unexpected ("while parsing a " ++ what)
      ("expected URI, but found " ++ found rest) rest)
  else return (String.ofList suffix, rest)

def readHandle (what : String) (cs : List Char) : Scan (String × List Char) :=
  let name := cs.takeWhile isNameChar
  let rest := cs.drop name.length
  if rest.head? = some '!' then .ok (String.ofList ('!' :: name ++ ['!']), rest.drop 1)
  else .error (.unexpected ("while scanning a " ++ what) ("expected '!', but found " ++ found rest)
    rest)

def readTagText (cs : List Char) : Scan (TagText × List Char) :=
  match cs with
  | '<' :: rest => do
    let (suffix, rest) ← readSuffix "tag" rest
    if rest.head? = some '>' then return (⟨none, suffix⟩, rest.drop 1)
    else .error (.unexpected "while parsing a tag" ("expected '>', but found " ++ found rest) rest)
  | cs =>
    if atGap cs then .ok (⟨none, "!"⟩, cs)
    else if (cs.takeWhile fun c => c ≠ ' ' && !isBreak c).contains '!' then do
      let (handle, rest) ← readHandle "tag" cs
      let (suffix, rest) ← readSuffix "tag" rest
      return (⟨some handle, suffix⟩, rest)
    else do
      let (suffix, rest) ← readSuffix "tag" cs
      return (⟨some "!", suffix⟩, rest)

def readTag (cs : List Char) : Scan (TagText × List Char) := do
  let (tag, rest) ← readTagText cs
  if atWordEnd rest then return (tag, rest)
  else .error (.unexpected "while scanning a tag" ("expected ' ', but found " ++ found rest) rest)

/-! ### Directives -/

def directiveError (expected : String) (rest : List Char) : ScanError :=
  .unexpected "while scanning a directive"
    ("expected " ++ expected ++ ", but found " ++ found rest) rest

def readVersionNumber (cs : List Char) : Scan (Nat × List Char) :=
  let digits := cs.takeWhile Char.isDigit
  if digits.isEmpty then .error (directiveError "a digit" cs)
  else .ok (Json.ofDigits digits, cs.drop digits.length)

def readVersion (cs : List Char) : Scan (Directive × List Char) := do
  let (major, rest) ← readVersionNumber cs
  if rest.head? ≠ some '.' then .error (directiveError "a digit or '.'" rest)
  let (_, rest) ← readVersionNumber (rest.drop 1)
  if atWordEnd rest then return (.version major, rest)
  else .error (directiveError "a digit or ' '" rest)

def readHandleRule (cs : List Char) : Scan (Directive × List Char) := do
  let (name, rest) ← match cs with
    | '!' :: rest => if rest.head? = some ' ' then pure ("!", rest) else readHandle "directive" rest
    | cs => .error (directiveError "'!'" cs)
  if rest.head? ≠ some ' ' then .error (directiveError "' '" rest)
  let (stem, rest) ← readSuffix "directive" (rest.dropWhile (· = ' '))
  if atWordEnd rest then return (.handle name stem, rest) else .error (directiveError "' '" rest)

def readDirective (cs : List Char) : Scan (Directive × List Char) := do
  let name := cs.takeWhile isNameChar
  let rest := cs.drop name.length
  if name.isEmpty || !atWordEnd rest then
    .error (directiveError "alphabetic or numeric character" rest)
  let value := rest.dropWhile (· = ' ')
  let (d, rest) ← match String.ofList name with
    | "YAML" => readVersion value
    | "TAG" => readHandleRule value
    | _ => pure (.other, rest.dropWhile fun c => !isBreak c)
  let tail := rest.dropWhile (· = ' ')
  let tail := if tail.head? = some '#' then tail.dropWhile fun c => !isBreak c else tail
  if atLineEnd tail then return (d, tail)
  else .error (directiveError "a comment or a line break" tail)

end ScopeHints.Yaml
