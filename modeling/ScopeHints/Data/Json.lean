import ScopeHints.Data.Display

/-! JSON text of a datum. Characters outside ASCII are written as escapes, those past U+FFFF as
two of them. -/
namespace ScopeHints.Json

def escaped (c : Char) : String :=
  let n := c.toNat
  if c = '"' then "\\\""
  else if c = '\\' then "\\\\"
  else if c = '\n' then "\\n"
  else if c = '\r' then "\\r"
  else if c = '\t' then "\\t"
  else if n = 8 then "\\b"
  else if n = 12 then "\\f"
  else if 32 ≤ n && n < 127 then String.singleton c
  else if n < 0x10000 then "\\u" ++ Text.hex 4 n
  else
    let m := n - 0x10000
    "\\u" ++ Text.hex 4 (0xD800 + m / 0x400) ++ "\\u" ++ Text.hex 4 (0xDC00 + m % 0x400)

def string (s : String) : String := "\"" ++ String.join (s.toList.map escaped) ++ "\""

def number : Binary64 → String
  | .nan => "NaN"
  | .infinite negative => if negative then "-Infinity" else "Infinity"
  | x => x.render

def scalar : Scalar → String
  | .null => "null"
  | .bool b => if b then "true" else "false"
  | .int n => toString n
  | .real x => number x
  | .text s => string s
  | s => string s.quoted

def key : Scalar → String
  | .text s => string s
  | .null => string "null"
  | .bool b => string (if b then "true" else "false")
  | s => string s.display

mutual

def line : Value → String
  | .scalar s => scalar s
  | .list items => "[" ++ ", ".intercalate (lineItems items) ++ "]"
  | .record fields => "\x7b" ++ ", ".intercalate (lineFields fields) ++ "\x7d"

def lineItems : List Value → List String
  | [] => []
  | v :: vs => line v :: lineItems vs

def lineFields : List (Scalar × Value) → List String
  | [] => []
  | (k, v) :: fs => (key k ++ ": " ++ line v) :: lineFields fs

end

def newline (depth : Nat) : String := String.ofList ('\n' :: List.replicate (2 * depth) ' ')

mutual

def pretty (depth : Nat) : Value → String
  | .list [] => "[]"
  | .record [] => "\x7b\x7d"
  | .list items =>
    "[" ++ newline (depth + 1)
      ++ ("," ++ newline (depth + 1)).intercalate (prettyItems (depth + 1) items)
      ++ newline depth ++ "]"
  | .record fields =>
    "\x7b" ++ newline (depth + 1)
      ++ ("," ++ newline (depth + 1)).intercalate (prettyFields (depth + 1) fields)
      ++ newline depth ++ "\x7d"
  | .scalar s => scalar s

def prettyItems (depth : Nat) : List Value → List String
  | [] => []
  | v :: vs => pretty depth v :: prettyItems depth vs

def prettyFields (depth : Nat) : List (Scalar × Value) → List String
  | [] => []
  | (k, v) :: fs => (key k ++ ": " ++ pretty depth v) :: prettyFields depth fs

end

end ScopeHints.Json
