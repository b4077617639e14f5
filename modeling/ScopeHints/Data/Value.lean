import ScopeHints.Data.Binary64
import ScopeHints.Data.Calendar

/-! Plain data: what a settings file, an environment variable or a log field can hold. -/
namespace ScopeHints

inductive Scalar where
  | null
  | bool (b : Bool)
  | int (n : Int)
  | real (x : Binary64)
  | text (s : String)
  | date (d : CalendarDate)
  | moment (m : Moment)
  deriving DecidableEq, Repr, Inhabited

/-- What a datum counts as where it stands as a key. -/
inductive KeyIdentity where
  | null
  | whole (n : Int)
  | real (x : Binary64)
  | text (s : String)
  | date (d : CalendarDate)
  | localTime (micros : Int)
  | instant (micros : Int)
  deriving DecidableEq, Repr

namespace Scalar

/-- Numbers are the same key if they are equal, true and false count as one and zero. Times are
the same key if they are the same instant, or, without a known clock, the same reading. -/
def identity : Scalar → KeyIdentity
  | .null => .null
  | .bool b => .whole (if b then 1 else 0)
  | .int n => .whole n
  | .real x =>
    match x.toInt? with
    | some n => .whole n
    | none => .real x
  | .text s => .text s
  | .date d => .date d
  | .moment m =>
    match m.ahead with
    | none => .localTime (m.since 0)
    | some ahead => .instant (m.since ahead)

def same (a b : Scalar) : Bool := a.identity = b.identity

end Scalar

/-- A datum. A record keeps its fields in order and has each key once. -/
inductive Value where
  | scalar (s : Scalar)
  | list (items : List Value)
  | record (fields : List (Scalar × Value))
  deriving Inhabited, BEq, Repr

namespace Value

@[match_pattern] abbrev null : Value := .scalar .null

@[match_pattern] abbrev bool (b : Bool) : Value := .scalar (.bool b)

@[match_pattern] abbrev int (n : Int) : Value := .scalar (.int n)

@[match_pattern] abbrev real (x : Binary64) : Value := .scalar (.real x)

@[match_pattern] abbrev text (s : String) : Value := .scalar (.text s)

def fieldIn (key : Scalar) : List (Scalar × Value) → Option Value
  | [] => none
  | (k, v) :: rest => if k.same key then some v else fieldIn key rest

/-- Writes a value in the place of the one under the same key, which stays as it was first
written, or at the end. -/
def setField (key : Scalar) (v : Value) : List (Scalar × Value) → List (Scalar × Value)
  | [] => [(key, v)]
  | (k, w) :: rest => if k.same key then (k, v) :: rest else (k, w) :: setField key v rest

def ofFields (fields : List (Scalar × Value)) : Value :=
  .record (fields.foldl (fun acc (k, v) => setField k v acc) [])

def named (fields : List (String × Value)) : List (Scalar × Value) :=
  fields.map fun (name, v) => (.text name, v)

def fields (fields : List (String × Value)) : Value := .record (named fields)

def get? : Value → String → Option Value
  | .record fields, name => fieldIn (.text name) fields
  | _, _ => none

def ofText? : Option String → Value
  | none => .null
  | some s => .text s

def ofInt? : Option Int → Value
  | none => .null
  | some n => .int n

end Value

end ScopeHints
