/-! Numbers of the 64-bit binary format, read from decimal text and written with the fewest
digits that read back. All arithmetic is on natural numbers. -/
namespace ScopeHints

/-- A number of the 64-bit binary format; a finite one is `mantissa * 2 ^ exponent`. -/
inductive Binary64 where
  | finite (negative : Bool) (mantissa : Nat) (exponent : Int)
  | infinite (negative : Bool)
  | nan
  deriving DecidableEq, Repr, Inhabited

namespace Binary64

/-- A quotient rounded to the nearest whole number, a half to the even neighbour. -/
def roundDiv (num den : Nat) : Nat :=
  let q := num / den
  let r := 2 * (num % den)
  if r < den then q else if den < r then q + 1 else q + q % 2

def twoTo (e : Int) : Nat := Nat.pow 2 e.toNat

def tenTo (e : Int) : Nat := Nat.pow 10 e.toNat

/-- The nearest finite number to `num / den`, or an infinity past the largest. -/
def ofQuotient (negative : Bool) (num den : Nat) : Binary64 :=
  if num = 0 then .finite negative 0 0
  else
    -- The quotient lies between 2 ^ (e - 1) and 2 ^ (e + 1).
    let e : Int := num.log2 - den.log2
    let e := if 0 ≤ e then (if num < den * twoTo e then e - 1 else e)
      else (if num * twoTo (-e) < den then e - 1 else e)
    let q : Int := max (e - 52) (-1074)
    let m := if 0 ≤ q then roundDiv num (den * twoTo q) else roundDiv (num * twoTo (-q)) den
    let (m, q) := if m = twoTo 53 then (twoTo 52, q + 1) else (m, q)
    if 971 < q then .infinite negative else .finite negative m q

def ofDecimal (negative : Bool) (digits : Nat) (exponent : Int) : Binary64 :=
  if digits = 0 then .finite negative 0 0
  else if 400 < exponent then .infinite negative
  else if exponent + (Nat.log2 digits : Int) < -1200 then .finite negative 0 0
  else if 0 ≤ exponent then ofQuotient negative (digits * tenTo exponent) 1
  else ofQuotient negative digits (tenTo (-exponent))

def quotient (mantissa : Nat) (exponent : Int) : Nat × Nat :=
  if 0 ≤ exponent then (mantissa * twoTo exponent, 1) else (mantissa, twoTo (-exponent))

def isZero : Binary64 → Bool
  | .finite _ m _ => m = 0
  | _ => false

def mulMagnitude : Binary64 → Binary64 → Binary64
  | .finite _ m q, .finite _ n r =>
    let (a, b) := quotient m q
    let (c, d) := quotient n r
    ofQuotient false (a * c) (b * d)
  | .nan, _ | _, .nan => .nan
  | x, y => if x.isZero || y.isZero then .nan else .infinite false

def addMagnitude : Binary64 → Binary64 → Binary64
  | .finite _ m q, .finite _ n r =>
    let (a, b) := quotient m q
    let (c, d) := quotient n r
    ofQuotient false (a * d + c * b) (b * d)
  | .nan, _ | _, .nan => .nan
  | _, _ => .infinite false

def negated : Binary64 → Binary64
  | .finite negative m q => .finite (!negative) m q
  | .infinite negative => .infinite (!negative)
  | .nan => .nan

def toInt? : Binary64 → Option Int
  | .finite negative m q =>
    let (num, den) := quotient m q
    let whole : Int := (num / den : Nat)
    if num % den = 0 then some (if negative then -whole else whole) else none
  | _ => none

/-- The power of ten with `10 ^ k ≤ num / den < 10 ^ (k + 1)`, looked for from above. -/
def decimalExponent (num den : Nat) : Nat → Int → Int
  | 0, k => k
  | fuel + 1, k =>
    let reached := if 0 ≤ k then den * tenTo k ≤ num else den ≤ num * tenTo (-k)
    if reached then k else decimalExponent num den fuel (k - 1)

def unitsBelow (num den : Nat) (unit : Int) : Nat :=
  if 0 ≤ unit then num / (den * tenTo unit) else num * tenTo (-unit) / den

def nearerBelow (num den : Nat) (unit : Int) (below : Nat) : Ordering :=
  let middle := 2 * below + 1
  if 0 ≤ unit then compare (2 * num) (middle * den * tenTo unit)
  else compare (2 * num * tenTo (-unit)) (middle * den)

/-- The shortest decimal, as digits and the power of ten of the last one, that reads back as the
number; of two of one length the nearer. -/
def shortest (mantissa : Nat) (exponent : Int) : Nat × Int :=
  let (num, den) := quotient mantissa exponent
  let k := decimalExponent num den 700 (309 : Int)
  let reads (d : Nat) (unit : Int) : Bool :=
    ofDecimal false d unit == .finite false mantissa exponent
  let rec search : Nat → Nat → Nat × Int
    | 0, _ => (unitsBelow num den (k - 16), k - 16)
    | fuel + 1, n =>
      let unit := k - n
      let below := unitsBelow num den unit
      match reads below unit, reads (below + 1) unit with
      | true, true =>
        match nearerBelow num den unit below with
        | .lt => (below, unit)
        | .gt => (below + 1, unit)
        | .eq => (below + below % 2, unit)
      | true, false => (below, unit)
      | false, true => (below + 1, unit)
      | false, false => search fuel (n + 1)
  search 17 0

def stripZeros : Nat → Nat → Int → Nat × Int
  | 0, d, e => (d, e)
  | fuel + 1, d, e => if d % 10 = 0 ∧ d ≠ 0 then stripZeros fuel (d / 10) (e + 1) else (d, e)

/-- Decimal text: positional while the point falls within four places before and sixteen after
the first digit, with a point always, and otherwise with an exponent of at least two places. -/
def render : Binary64 → String
  | .nan => "nan"
  | .infinite negative => if negative then "-inf" else "inf"
  | .finite negative m q =>
    let sign := if negative then "-" else ""
    if m = 0 then sign ++ "0.0"
    else
      let (d, e) := shortest m q
      let (d, e) := stripZeros 20 d e
      let ds := toString d
      let point : Int := ds.length + e
      if -4 < point ∧ point ≤ 16 then
        if point ≤ 0 then sign ++ "0." ++ String.ofList (List.replicate (-point).toNat '0') ++ ds
        else if (ds.length : Int) ≤ point then
          sign ++ ds ++ String.ofList (List.replicate (point - ds.length).toNat '0') ++ ".0"
        else
          sign ++ String.ofList (ds.toList.take point.toNat) ++ "."
            ++ String.ofList (ds.toList.drop point.toNat)
      else
        let x := point - 1
        let places := toString x.natAbs
        let places := if places.length < 2 then "0" ++ places else places
        let tail := ds.toList.drop 1
        sign ++ String.ofList (ds.toList.take 1)
          ++ (if tail.isEmpty then "" else "." ++ String.ofList tail)
          ++ "e" ++ (if x < 0 then "-" else "+") ++ places

end Binary64

end ScopeHints
