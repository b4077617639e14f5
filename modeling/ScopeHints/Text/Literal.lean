import ScopeHints.Data.Display
import ScopeHints.Data.JsonReader

/-! Literal values in a text: numbers, quoted texts, constants and collections of them. What is
asked is only whether a text spells such a value. -/
namespace ScopeHints.Text.Literal

inductive Token where
  | number (imaginary : Bool)
  | quoted (bytes : Bool)
  | name (word : String)
  | mark (c : Char)
  | dots
  /-- The end of a line that no bracket holds open. -/
  | lineEnd
  deriving DecidableEq, Repr

/-! ### Numbers -/

/-- The rest after digits. A low line may stand before each of them. -/
def afterDigits (isDigit : Char → Bool) : List Char → List Char
  | '_' :: c :: cs => if isDigit c then afterDigits isDigit cs else '_' :: c :: cs
  | c :: cs => if isDigit c then afterDigits isDigit cs else c :: cs
  | [] => []

def isNameChar (c : Char) : Bool := c.isAlphanum || c = '_' || 128 ≤ c.toNat

def endsNumber (cs : List Char) : Bool := !cs.head?.any isNameChar

def radixDigits? (c : Char) : Option (Char → Bool) :=
  if c = 'x' || c = 'X' then some fun d => (Json.ofHex? [d]).isSome
  else if c = 'o' || c = 'O' then some fun d => '0' ≤ d && d ≤ '7'
  else if c = 'b' || c = 'B' then some fun d => d = '0' || d = '1'
  else none

def afterFraction : List Char → Option (List Char)
  | '.' :: c :: cs => some (if c.isDigit then afterDigits Char.isDigit cs else c :: cs)
  | ['.'] => some []
  | _ => none

def afterExponent : List Char → Option (List Char)
  | e :: s :: c :: cs =>
    if e ≠ 'e' && e ≠ 'E' then none
    else if s.isDigit then some (afterDigits Char.isDigit (c :: cs))
    else if (s = '+' || s = '-') && c.isDigit then some (afterDigits Char.isDigit cs)
    else none
  | [e, s] => if (e = 'e' || e = 'E') && s.isDigit then some [] else none
  | _ => none

/-- Digits of a whole number: only zero starts with a zero, and there are not too many. -/
def isWhole (digits : List Char) : Bool :=
  (digits.head? ≠ some '0' || digits.all (· = '0')) && digits.length ≤ Scalar.digitLimit

def decimal? (cs : List Char) : Option (Token × List Char) :=
  let afterWhole := if cs.head?.any Char.isDigit then afterDigits Char.isDigit cs else cs
  let digits := (cs.take (cs.length - afterWhole.length)).filter Char.isDigit
  let fraction := afterFraction afterWhole
  let rest := fraction.getD afterWhole
  let exponent := afterExponent rest
  let rest := exponent.getD rest
  let (imaginary, rest) := match rest with
    | 'j' :: rest | 'J' :: rest => (true, rest)
    | rest => (false, rest)
  let whole := fraction.isNone && exponent.isNone && !imaginary
  if endsNumber rest && (!whole || isWhole digits) then some (.number imaginary, rest) else none

def number? (cs : List Char) : Option (Token × List Char) :=
  match cs with
  | '0' :: c :: rest =>
    match radixDigits? c with
    | some isDigit =>
      let after := afterDigits isDigit rest
      if after.length < rest.length && endsNumber after then some (.number false, after) else none
    | none => decimal? cs
  | cs => decimal? cs

/-! ### Quoted texts -/

structure Quoting where
  quote : Char
  tripled : Bool
  raw : Bool
  bytes : Bool

def completes (bytes : Bool) (c : Char) (rest : List Char) : Bool :=
  let hex (n : Nat) : Option Nat := if n ≤ rest.length then Json.ofHex? (rest.take n) else none
  if c = 'x' then (hex 2).isSome
  else if bytes then true
  else if c = 'u' then (hex 4).isSome
  else if c = 'U' then (hex 8).any (· ≤ 0x10FFFF)
  else if c = 'N' then
    match rest with
    | '\x7b' :: name =>
      let word := name.takeWhile fun d => d.isAlphanum || d = ' ' || d = '-'
      !word.isEmpty && (name.drop word.length).head? = some '\x7d'
    | _ => false
  else true

def afterQuoted (q : Quoting) : List Char → Option (List Char)
  | [] => none
  | '\\' :: c :: cs =>
    if (q.bytes && 128 ≤ c.toNat) || !(q.raw || completes q.bytes c cs) then none
    else afterQuoted q cs
  | c :: cs =>
    if c = q.quote then
      if !q.tripled then some cs
      else if cs.take 2 = [c, c] then some (cs.drop 2)
      else afterQuoted q cs
    else if (c = '\n' && !q.tripled) || (q.bytes && 128 ≤ c.toNat) then none
    else afterQuoted q cs

def quoted? (letters : String) : List Char → Option (Token × List Char)
  | c :: cs =>
    if (c = '\'' || c = '"') && ["", "r", "u", "b", "br", "rb"].contains letters then
      let tripled := cs.take 2 = [c, c]
      let bytes := letters.contains 'b'
      let text := if tripled then cs.drop 2 else cs
      (afterQuoted ⟨c, tripled, letters.contains 'r', bytes⟩ text).map fun rest =>
        (.quoted bytes, rest)
    else none
  | [] => none

/-! ### Tokens -/

def isBlank (c : Char) : Bool := c = ' ' || c = '\t' || c = '\x0c'

/-- Brackets that hold others are at most this deep. -/
def nestingLimit : Nat := 200

def token? (c : Char) (cs : List Char) : Option (Token × List Char) :=
  if c.isDigit || (c = '.' && cs.head?.any Char.isDigit) then number? (c :: cs)
  else if c = '\'' || c = '"' then quoted? "" (c :: cs)
  else if c = '.' then if cs.take 2 = ['.', '.'] then some (.dots, cs.drop 2) else none
  else if isNameChar c then
    let word := (c :: cs).takeWhile isNameChar
    let rest := (c :: cs).drop word.length
    if rest.head?.any fun d => d = '\'' || d = '"' then
      quoted? (String.ofList word).toLower rest
    else some (.name (String.ofList word), rest)
  else if "()[]\x7b\x7d,:+-".contains c then some (.mark c, cs)
  else none

def tokens? : Nat → Nat → List Char → Option (List Token)
  | 0, _, _ => none
  | _ + 1, _, [] => some []
  | fuel + 1, depth, c :: cs =>
    if isBlank c then tokens? fuel depth cs
    else if c = '#' then tokens? fuel depth (cs.dropWhile (· ≠ '\n'))
    else if c = '\\' && cs.head? = some '\n' && 1 < cs.length then tokens? fuel depth (cs.drop 1)
    else if c = '\n' then
      if depth = 0 then do return .lineEnd :: (← tokens? fuel depth cs) else tokens? fuel depth cs
    else if "([\x7b".contains c && nestingLimit ≤ depth then none
    else do
      let (t, rest) ← token? c cs
      let depth := if "([\x7b".contains c then depth + 1
        else if ")]\x7d".contains c then depth - 1
        else depth
      return t :: (← tokens? fuel depth rest)

/-! ### Values -/

inductive Shape where
  | number (imaginary signed : Bool)
  /-- Any other value that can be a key. -/
  | key
  /-- A collection that can change, or one that holds such a collection. -/
  | changing
  deriving DecidableEq, Repr

/-- A group of values can be a key if all of them can. -/
def Shape.group (shapes : List Shape) : Shape :=
  if shapes.contains .changing then .changing else .key

def afterSetName? : List Token → Option (List Token)
  | .name "set" :: rest => some rest
  | .mark '(' :: rest =>
    match afterSetName? rest with
    | some (.mark ')' :: rest) => some rest
    | _ => none
  | _ => none

def afterEmptySet? (ts : List Token) : Option (List Token) :=
  match afterSetName? ts with
  | some (.mark '(' :: .mark ')' :: rest) => some rest
  | _ => none

mutual

def value? : Nat → List Token → Option (Shape × List Token)
  | 0, _ => none
  | fuel + 1, ts => do
    let (a, rest) ← signed? fuel ts
    match rest with
    | .mark c :: rest' =>
      if c = '+' || c = '-' then
        let (b, rest) ← signed? fuel rest'
        match a, b with
        | .number false _, .number true false => some (.key, rest)
        | _, _ => none
      else some (a, rest)
    | _ => some (a, rest)

def signed? : Nat → List Token → Option (Shape × List Token)
  | 0, _ => none
  | fuel + 1, ts =>
    match ts with
    | .mark c :: rest =>
      if c = '+' || c = '-' then
        match simple? fuel rest with
        | some (.number imaginary false, rest) => some (.number imaginary true, rest)
        | _ => none
      else simple? fuel ts
    | ts => simple? fuel ts

/-- A number, a text, a constant or a collection. Texts that follow each other are one. -/
def simple? : Nat → List Token → Option (Shape × List Token)
  | 0, _ => none
  | fuel + 1, ts =>
    match afterEmptySet? ts, ts with
    | some rest, _ => some (.changing, rest)
    | none, .number imaginary :: rest => some (.number imaginary false, rest)
    | none, .quoted bytes :: .quoted other :: rest =>
      if bytes = other then simple? fuel (.quoted other :: rest) else none
    | none, .quoted _ :: rest => some (.key, rest)
    | none, .dots :: rest => some (.key, rest)
    | none, .name word :: rest =>
      if ["None", "True", "False"].contains word then some (.key, rest) else none
    | none, .mark '(' :: rest =>
      match items? fuel ')' rest with
      | some ([a], false, rest) => some (a, rest)
      | some (shapes, _, rest) => some (.group shapes, rest)
      | none => none
    | none, .mark '[' :: rest => (items? fuel ']' rest).map fun (_, _, rest) => (.changing, rest)
    | none, .mark '\x7b' :: .mark '\x7d' :: rest => some (.changing, rest)
    | none, .mark '\x7b' :: rest => (entries? fuel none rest).map fun rest => (.changing, rest)
    | none, _ => none

def items? : Nat → Char → List Token → Option (List Shape × Bool × List Token)
  | 0, _, _ => none
  | fuel + 1, close, ts =>
    if ts.head? = some (.mark close) then some ([], false, ts.drop 1)
    else do
      let (a, rest) ← value? fuel ts
      match rest with
      | .mark c :: rest =>
        if c = close then some ([a], false, rest)
        else if c = ',' then
          let (others, _, rest) ← items? fuel close rest
          some (a :: others, true, rest)
        else none
      | _ => none

/-- The entries of a set or of a table up to the closing brace. The first entry decides which of
them it is. -/
def entries? : Nat → Option Bool → List Token → Option (List Token)
  | 0, _, _ => none
  | fuel + 1, isTable, ts => do
    let (a, rest) ← value? fuel ts
    let hasValue := rest.head? = some (.mark ':')
    if a = .changing || isTable = some (!hasValue) then none
    else
      let rest ← if hasValue then (value? fuel (rest.drop 1)).map Prod.snd else some rest
      match rest with
      | .mark '\x7d' :: rest => some rest
      | .mark ',' :: .mark '\x7d' :: rest => some rest
      | .mark ',' :: rest => entries? fuel (some hasValue) rest
      | _ => none

end

def areValues : Nat → Nat → List Token → Bool
  | 0, _, _ => false
  | fuel + 1, depth, ts =>
    match value? depth ts with
    | none => false
    | some (_, rest) =>
      rest.all (· = .lineEnd) ||
        match rest with
        | .mark ',' :: rest => rest.all (· = .lineEnd) || areValues fuel depth rest
        | _ => false

def withLineFeeds : List Char → List Char
  | '\r' :: '\n' :: cs => '\n' :: withLineFeeds cs
  | c :: cs => (if c = '\r' then '\n' else c) :: withLineFeeds cs
  | [] => []

def afterVoidLines : Nat → List Char → List Char
  | 0, cs => cs
  | fuel + 1, cs =>
    let line := cs.takeWhile (· ≠ '\n')
    let isVoid := (line.dropWhile isBlank).head?.all (· = '#')
    if isVoid && line.length < cs.length then afterVoidLines fuel (cs.drop (line.length + 1))
    else cs

/-- The text spells a literal value, or several with commas between them. The line on which they
start has no margin, unless it is the first one. -/
def isLiteral (cs : List Char) : Bool :=
  let text := withLineFeeds cs
  let rest := afterVoidLines text.length text
  let hasMargin := rest.length < text.length && rest.head?.any fun c => c = ' ' || c = '\t'
  !cs.contains '\x00' && !hasMargin &&
    match tokens? (rest.length + 1) 0 rest with
    | some ts => areValues (ts.length + 1) (4 * ts.length + 8) ts
    | none => false

end ScopeHints.Text.Literal
