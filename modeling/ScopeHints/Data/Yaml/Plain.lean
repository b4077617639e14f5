import ScopeHints.Data.Yaml.ScalarText

/-! What plain scalars mean: a scalar that looks like a switch, a number, a day or a time is one,
and any other one is a text. -/
namespace ScopeHints.Yaml

inductive PlainMeaning where
  | datum (s : Scalar)
  /-- As a key: the fields of the value belong to the record. -/
  | merge
  /-- As a key: a text. -/
  | standard
  deriving Repr

namespace Plain

def isDigitOrLine (c : Char) : Bool := c.isDigit || c = '_'

/-- Low lines within a number do not count. -/
def digits (cs : List Char) : List Char := cs.filter (· ≠ '_')

def sign : List Char → Bool × List Char
  | '-' :: cs => (true, cs)
  | '+' :: cs => (false, cs)
  | cs => (false, cs)

def ofBase (base : Nat) (cs : List Char) : Except Refusal Nat :=
  if (digits cs).isEmpty then .error .outOfRange
  else .ok ((digits cs).foldl (fun n c => base * n + (Json.hexValue? c).getD 0) 0)

def ofDecimal (cs : List Char) : Except Refusal Nat :=
  if Scalar.digitLimit < (digits cs).length then .error .outOfRange
  else .ok (Json.ofDigits (digits cs))

def cutAtColons : List Char → List (List Char)
  | [] => [[]]
  | c :: cs =>
    if c = ':' then [] :: cutAtColons cs
    else match cutAtColons cs with
      | [] => [[c]]
      | l :: ls => (c :: l) :: ls

def isSixtieth : List Char → Bool
  | [c] => c.isDigit
  | [c, d] => '0' ≤ c && c ≤ '5' && d.isDigit
  | _ => false

def startsWhole : List Char → Bool
  | c :: cs => c.isDigit && c ≠ '0' && cs.all isDigitOrLine
  | [] => false

/-! ### Whole numbers -/

/-- The whole number that a text without a sign spells, if it looks like one: binary, octal,
hexadecimal, decimal, or in parts to the base sixty. -/
def magnitude? (cs : List Char) : Option (Except Refusal Nat) :=
  match cs with
  | ['0'] => some (.ok 0)
  | '0' :: 'b' :: rest =>
    if !rest.isEmpty && rest.all (fun c => c = '0' || c = '1' || c = '_') then
      some (ofBase 2 rest)
    else none
  | '0' :: 'x' :: rest =>
    if !rest.isEmpty && rest.all (fun c => (Json.hexValue? c).isSome || c = '_') then
      some (ofBase 16 rest)
    else none
  | '0' :: rest =>
    if rest.all fun c => ('0' ≤ c && c ≤ '7') || c = '_' then some (ofBase 8 cs) else none
  | cs =>
    match cutAtColons cs with
    | [] => none
    | first :: rest =>
      if startsWhole first && rest.all isSixtieth then
        some ((ofDecimal first).map fun n => rest.foldl (fun n p => 60 * n + Json.ofDigits p) n)
      else none

def whole? (cs : List Char) : Option (Except Refusal Int) :=
  let (negative, rest) := sign cs
  (magnitude? rest).map fun r => r.map fun n => if negative then -(n : Int) else n

/-! ### Reals -/

def exponent? : List Char → Option Int
  | [] => some 0
  | e :: s :: ds =>
    if (e = 'e' || e = 'E') && (s = '+' || s = '-') && !ds.isEmpty && ds.all Char.isDigit then
      let n : Int := Json.ofDigits ds
      some (if s = '-' then -n else n)
    else none
  | _ => none

def pointed? (cs : List Char) : Option (List Char × List Char × List Char) :=
  let before := cs.takeWhile isDigitOrLine
  match cs.drop before.length with
  | '.' :: rest =>
    let after := rest.takeWhile isDigitOrLine
    some (digits before, digits after, rest.drop after.length)
  | _ => none

def ofPointed (negative : Bool) (before after : List Char) (power : Int) : Binary64 :=
  Binary64.ofDecimal negative (Json.ofDigits (before ++ after)) (power - after.length)

/-- The sum of parts to the base sixty, the last of them first; every step is rounded. -/
def sixtieths (base : Nat) (total : Binary64) : List Binary64 → Binary64
  | [] => total
  | part :: rest =>
    let scale := Binary64.ofQuotient false base 1
    sixtieths (60 * base) (total.addMagnitude (part.mulMagnitude scale)) rest

def real? (cs : List Char) : Option Binary64 :=
  let (negative, rest) := sign cs
  let word := String.ofList rest
  if [".inf", ".Inf", ".INF"].contains word then some (.infinite negative)
  else if [".nan", ".NaN", ".NAN"].contains (String.ofList cs) then some .nan
  else match cutAtColons rest with
    | [] | [_] =>
      -- Only a number with a digit before its point has a sign.
      let starts := match rest with
        | '.' :: c :: _ => c.isDigit && rest.length = cs.length
        | c :: _ => c.isDigit
        | [] => false
      if !starts then none
      else do
        let (before, after, tail) ← pointed? rest
        return ofPointed negative before after (← exponent? tail)
    | first :: parts => do
      let last ← parts.getLast?
      let (before, after, tail) ← pointed? last
      let middle := parts.dropLast
      if !(first.head?.any Char.isDigit && first.all isDigitOrLine && middle.all isSixtieth
          && isSixtieth (last.takeWhile (· ≠ '.')) && tail.isEmpty) then none
      else
        let wholes := (first :: middle).map fun p => ofPointed false (digits p) [] 0
        let total := sixtieths 1 (.finite false 0 0)
          (ofPointed false before after 0 :: wholes.reverse)
        some (if negative then total.negated else total)

/-! ### Days and times -/

def readNumber (least most : Nat) (cs : List Char) : Option (Nat × List Char) :=
  let ds := (cs.take most).takeWhile Char.isDigit
  if ds.length < least then none else some (Json.ofDigits ds, cs.drop ds.length)

def readChar (c : Char) : List Char → Option (List Char)
  | d :: cs => if c = d then some cs else none
  | [] => none

def readDay (least : Nat) (cs : List Char) : Option ((Nat × Nat × Nat) × List Char) := do
  let (year, cs) ← readNumber 4 4 cs
  let (month, cs) ← readNumber least 2 (← readChar '-' cs)
  let (day, cs) ← readNumber least 2 (← readChar '-' cs)
  return ((year, month, day), cs)

def readAhead (cs : List Char) : Option (Option Int) :=
  if cs.isEmpty then some none
  else match cs.dropWhile isBlank with
    | ['Z'] => some (some 0)
    | s :: cs =>
      if s = '+' || s = '-' then do
        let (hours, cs) ← readNumber 1 2 cs
        let minutes ← if cs.isEmpty then some 0 else do
          let (minutes, cs) ← readNumber 2 2 (← readChar ':' cs)
          if cs.isEmpty then some minutes else none
        let n : Int := 60 * hours + minutes
        return some (if s = '-' then -n else n)
      else none
    | [] => none

/-- Reads the fraction of a second in microseconds; further digits do not count. -/
def readMicros : List Char → Nat × List Char
  | '.' :: cs =>
    let ds := cs.takeWhile Char.isDigit
    let six := ds.take 6
    (Json.ofDigits (six ++ List.replicate (6 - six.length) '0'), cs.drop ds.length)
  | cs => (0, cs)

def skipToTime : List Char → Option (List Char)
  | c :: cs =>
    if c = 'T' || c = 't' then some cs
    else if isBlank c then some (cs.dropWhile isBlank)
    else none
  | [] => none

/-- The day or the time that a text spells, if it looks like one; it may not exist. -/
def time? (cs : List Char) : Option (Except Refusal Scalar) :=
  match readDay 2 cs with
  | some ((year, month, day), []) =>
    some (match CalendarDate.ofParts? year month day with
      | some d => .ok (.date d)
      | none => .error .outOfRange)
  | _ => do
    let ((year, month, day), cs) ← readDay 1 cs
    let (hour, cs) ← readNumber 1 2 (← skipToTime cs)
    let (minute, cs) ← readNumber 2 2 (← readChar ':' cs)
    let (second, cs) ← readNumber 2 2 (← readChar ':' cs)
    let (micros, cs) := readMicros cs
    let ahead ← readAhead cs
    let moment := (CalendarDate.ofParts? year month day).bind fun d =>
      Moment.ofParts? d hour minute second micros ahead
    return match moment with
      | some m => .ok (.moment m)
      | none => .error .outOfRange

end Plain

def meaning (text : String) : Except Refusal PlainMeaning :=
  let cs := text.toList
  if ["", "~", "null", "Null", "NULL"].contains text then .ok (.datum .null)
  else if ["yes", "Yes", "YES", "true", "True", "TRUE", "on", "On", "ON"].contains text then
    .ok (.datum (.bool true))
  else if ["no", "No", "NO", "false", "False", "FALSE", "off", "Off", "OFF"].contains text then
    .ok (.datum (.bool false))
  else if text = "<<" then .ok .merge
  else if text = "=" then .ok .standard
  else match Plain.real? cs with
    | some x => .ok (.datum (.real x))
    | none =>
      match Plain.whole? cs with
      | some n => n.map fun n => .datum (.int n)
      | none =>
        match Plain.time? cs with
        | some s => s.map .datum
        | none => .ok (.datum (.text text))

end ScopeHints.Yaml
