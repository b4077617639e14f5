import ScopeHints.Data.Display
import ScopeHints.Text.CodePoint

/-! Reads JSON text. Numbers with a fraction or an exponent are reals, all others whole numbers
of at most `Scalar.digitLimit` digits; of two fields with one name the later wins. -/
namespace ScopeHints.Json

def skipBlank (cs : List Char) : List Char :=
  cs.dropWhile fun c => c = ' ' || c = '\t' || c = '\n' || c = '\r'

def digitValue (c : Char) : Nat := c.toNat - '0'.toNat

def ofDigits (ds : List Char) : Nat := ds.foldl (fun n d => 10 * n + digitValue d) 0

def hexValue? (c : Char) : Option Nat :=
  if c.isDigit then some (c.toNat - '0'.toNat)
  else if 'a' ≤ c && c ≤ 'f' then some (c.toNat - 'a'.toNat + 10)
  else if 'A' ≤ c && c ≤ 'F' then some (c.toNat - 'A'.toNat + 10)
  else none

def ofHex? (ds : List Char) : Option Nat :=
  ds.foldl (fun n d => do return 16 * (← n) + (← hexValue? d)) (some 0)

def afterPrefix? : List Char → List Char → Option (List Char)
  | [], cs => some cs
  | _ :: _, [] => none
  | p :: ps, c :: cs => if p = c then afterPrefix? ps cs else none

def readUnit? (cs : List Char) : Option (Nat × List Char) :=
  if (cs.take 4).length = 4 then do return (← ofHex? (cs.take 4), cs.drop 4) else none

/-- Reads the rest of a string after its opening quote. A code unit that pairs with the next one
forms a character with it; one that stands alone is a surrogate. -/
def readPoints : Nat → List CodePoint → List Char → Option (List CodePoint × List Char)
  | 0, _, _ => none
  | _ + 1, _, [] => none
  | fuel + 1, acc, c :: cs =>
    if c = '"' then some (acc.reverse, cs)
    else if c = '\\' then
      match cs with
      | [] => none
      | e :: cs =>
        match e with
        | '"' => readPoints fuel (.char '"' :: acc) cs
        | '\\' => readPoints fuel (.char '\\' :: acc) cs
        | '/' => readPoints fuel (.char '/' :: acc) cs
        | 'b' => readPoints fuel (.char (Char.ofNat 8) :: acc) cs
        | 'f' => readPoints fuel (.char (Char.ofNat 12) :: acc) cs
        | 'n' => readPoints fuel (.char '\n' :: acc) cs
        | 'r' => readPoints fuel (.char '\r' :: acc) cs
        | 't' => readPoints fuel (.char '\t' :: acc) cs
        | 'u' =>
          match readUnit? cs with
          | none => none
          | some (u, cs) =>
            let alone := CodePoint.surrogate (Fin.ofNat 0x800 (u - 0xD800))
            if 0xD800 ≤ u && u < 0xDC00 then
              match afterPrefix? ['\\', 'u'] cs |>.bind readUnit? with
              | some (v, rest) =>
                if 0xDC00 ≤ v && v < 0xE000 then
                  let n := 0x10000 + (u - 0xD800) * 0x400 + (v - 0xDC00)
                  readPoints fuel (.char (Char.ofNat n) :: acc) rest
                else readPoints fuel (alone :: acc) cs
              | none => readPoints fuel (alone :: acc) cs
            else if 0xDC00 ≤ u && u < 0xE000 then readPoints fuel (alone :: acc) cs
            else readPoints fuel (.char (Char.ofNat u) :: acc) cs
        | _ => none
    else if c.toNat < 32 then none
    else readPoints fuel (.char c :: acc) cs

def readString (fuel : Nat) (cs : List Char) : Option (String × List Char) :=
  (readPoints fuel [] cs).map fun (points, rest) => (CodePoint.replaced points, rest)

def readNumber (negative : Bool) (cs : List Char) : Option (Value × List Char) :=
  let whole := cs.takeWhile Char.isDigit
  let whole := if whole.head? = some '0' then ['0'] else whole
  if whole.isEmpty then none
  else
    let rest := cs.drop whole.length
    let (fraction, rest) := match rest with
      | '.' :: ds =>
        let f := ds.takeWhile Char.isDigit
        if f.isEmpty then ([], rest) else (f, ds.drop f.length)
      | _ => ([], rest)
    let (power, rest) := match rest with
      | e :: ds =>
        if e = 'e' || e = 'E' then
          let (sign, ds) := match ds with
            | '+' :: ds => ((1 : Int), ds)
            | '-' :: ds => (-1, ds)
            | ds => (1, ds)
          let x := ds.takeWhile Char.isDigit
          if x.isEmpty then (none, rest) else (some (sign * (ofDigits x : Nat)), ds.drop x.length)
        else (none, rest)
      | [] => (none, rest)
    if fraction.isEmpty && power.isNone then
      let n : Int := (ofDigits whole : Nat)
      if Scalar.digitLimit < whole.length then none
      else some (.int (if negative then -n else n), rest)
    else
      let exponent : Int := power.getD 0 - fraction.length
      some (.real (Binary64.ofDecimal negative (ofDigits (whole ++ fraction)) exponent), rest)

mutual

/-- Reads a value; the first argument bounds the number of steps, of which every character takes
at most two. -/
def readValue : Nat → List Char → Option (Value × List Char)
  | 0, _ => none
  | fuel + 1, cs =>
    match skipBlank cs with
    | [] => none
    | '\x7b' :: rest =>
      match skipBlank rest with
      | '\x7d' :: rest => some (.record [], rest)
      | rest => readFields fuel [] rest
    | '[' :: rest =>
      match skipBlank rest with
      | ']' :: rest => some (.list [], rest)
      | rest => readItems fuel [] rest
    | '"' :: rest => (readString fuel rest).map fun (s, rest) => (.text s, rest)
    | '-' :: rest =>
      match afterPrefix? "Infinity".toList rest with
      | some rest => some (.real (.infinite true), rest)
      | none => readNumber true rest
    | c :: rest =>
      if c.isDigit then readNumber false (c :: rest)
      else if let some rest := afterPrefix? "null".toList (c :: rest) then some (.null, rest)
      else if let some rest := afterPrefix? "true".toList (c :: rest) then some (.bool true, rest)
      else if let some rest := afterPrefix? "false".toList (c :: rest) then some (.bool false, rest)
      else if let some rest := afterPrefix? "NaN".toList (c :: rest) then some (.real .nan, rest)
      else if let some rest := afterPrefix? "Infinity".toList (c :: rest) then
        some (.real (.infinite false), rest)
      else none

def readItems : Nat → List Value → List Char → Option (Value × List Char)
  | 0, _, _ => none
  | fuel + 1, acc, cs =>
    match readValue fuel cs with
    | none => none
    | some (v, rest) =>
      match skipBlank rest with
      | ',' :: rest => readItems fuel (v :: acc) rest
      | ']' :: rest => some (.list (v :: acc).reverse, rest)
      | _ => none

def readFields : Nat → List (Scalar × Value) → List Char → Option (Value × List Char)
  | 0, _, _ => none
  | fuel + 1, acc, cs =>
    match skipBlank cs with
    | '"' :: rest =>
      match readString fuel rest with
      | none => none
      | some (key, rest) =>
        match skipBlank rest with
        | ':' :: rest =>
          match readValue fuel rest with
          | none => none
          | some (v, rest) =>
            match skipBlank rest with
            | ',' :: rest => readFields fuel (Value.setField (.text key) v acc) rest
            | '\x7d' :: rest => some (.record (Value.setField (.text key) v acc), rest)
            | _ => none
        | _ => none
    | _ => none

end

def read? (s : String) : Option Value :=
  match readValue (2 * s.length + 2) s.toList with
  | some (v, rest) => if (skipBlank rest).isEmpty then some v else none
  | none => none

end ScopeHints.Json
