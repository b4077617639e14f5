import ScopeHints.Data.Yaml.Node
import ScopeHints.Data.Yaml.Plain
import ScopeHints.Text.LowerCase
import ScopeHints.Text.Utf8

/-! Settings files: documents of nested blocks and flow collections, and the data that they
hold. -/
namespace ScopeHints.Yaml

/-! ### Merged records -/

/-- How a scalar is understood: by what it looks like, as a text, or by its tag. -/
inductive Manner where
  | plain
  | quoted
  | tagged (tag : String)
  deriving DecidableEq, Repr, Inhabited

/-- A node in which every record holds also the fields that it merges. -/
inductive Form where
  | scalar (text : String) (manner : Manner) (mark : Mark)
  | list (items : List Form) (mark : Mark)
  | record (fields : List (Form × Form)) (mark : Mark)
  /-- A record that merges something else than records, or a collection with a tag that does not
  fit it. -/
  | broken (kind : String) (c : Complaint) (mark : Mark)
  deriving Inhabited, Repr

namespace Form

def mark : Form → Mark
  | .scalar _ _ mark | .list _ mark | .record _ mark | .broken _ _ mark => mark

def kind : Form → String
  | .scalar .. => "scalar"
  | .list .. => "sequence"
  | .record .. => "mapping"
  | .broken kind .. => kind

def fields (start : Mark) (expected : String) : Form → Except Complaint (List (Form × Form))
  | .record fields _ => .ok fields
  | .broken "mapping" c _ => .error c
  | f =>
    .error ⟨some "while constructing a mapping", some start,
      "expected a mapping" ++ expected ++ " for merging, but found " ++ f.kind, f.mark⟩

/-- The fields that a value gives to a record that merges it: those of a record, or those of all
records of a list, the last of them first. -/
def merged (start : Mark) : Form → Except Complaint (List (Form × Form))
  | .list items _ => (items.mapM (fields start "")).map fun l => l.reverse.flatten
  | f => f.fields start " or list of mappings"

def mergeFields (start : Mark) :
    List (Form × Form) → Except Complaint (List (Form × Form) × List (Form × Form))
  | [] => .ok ([], [])
  | (k, v) :: rest =>
    match k with
    | .scalar "<<" .plain _ => do
      let given ← v.merged start
      let (more, own) ← mergeFields start rest
      return (given ++ more, own)
    | k => do
      let k := match k with
        | .scalar "=" .plain mark => .scalar "=" .quoted mark
        | k => k
      let (more, own) ← mergeFields start rest
      return (more, (k, v) :: own)

def ofFields (fields : List (Form × Form)) (mark : Mark) : Form :=
  match mergeFields mark fields with
  | .ok (more, own) => .record (more ++ own) mark
  | .error c => .broken "mapping" c mark

def fullTag (tag : String) : String :=
  match tag.toList with
  | '!' :: '!' :: name => "tag:yaml.org,2002:" ++ String.ofList name
  | _ => tag

def unknownTag (tag : String) (mark : Mark) : Complaint where
  problem := "could not determine a constructor for the tag " ++ Text.quoted (fullTag tag)
  mark := mark

def tagKind? (tag : String) : Option String :=
  if tag = "!!seq" then some "sequence"
  else if tag = "!!map" then some "mapping"
  else if ["!!str", "!!null", "!!bool", "!!int", "!!float", "!!timestamp"].contains tag then
    some "scalar"
  else none

def misfit (tag : String) (f : Form) : Form :=
  let c := match tagKind? tag with
    | some kind =>
      { problem := "expected a " ++ kind ++ " node, but found " ++ f.kind, mark := f.mark }
    | none => unknownTag tag f.mark
  .broken f.kind c f.mark

def withTag (tag : String) : Form → Form
  | .scalar text _ mark => .scalar text (.tagged tag) mark
  | .broken kind c mark => .broken kind c mark
  | f => if tagKind? tag = some f.kind then f else misfit tag f

mutual

def ofNode : Node → Form
  | .tagged tag n => (ofNode n).withTag tag
  | .scalar text plain mark => .scalar text (if plain then .plain else .quoted) mark
  | .list items mark => .list (ofNodes items) mark
  | .record fields mark => ofFields (ofPairs fields) mark

def ofNodes : List Node → List Form
  | [] => []
  | n :: ns => ofNode n :: ofNodes ns

def ofPairs : List (Node × Node) → List (Form × Form)
  | [] => []
  | (k, v) :: rest => (ofNode k, ofNode v) :: ofPairs rest

end

/-! ### Data -/

def taggedScalar (tag text : String) (mark : Mark) : Except Refusal Scalar :=
  let word := Text.toLower text
  let refused := .error (.malformed (unknownTag tag mark))
  match tag with
  | "!!str" => .ok (.text text)
  | "!!null" => .ok .null
  | "!!bool" =>
    if ["yes", "true", "on"].contains word then .ok (.bool true)
    else if ["no", "false", "off"].contains word then .ok (.bool false)
    else refused
  | "!!int" => ((Plain.whole? text.toList).getD (.error .outOfRange)).map .int
  | "!!float" =>
    match Plain.real? word.toList, Json.read? word with
    | some x, _ => .ok (.real x)
    | none, some (.real x) => .ok (.real x)
    | none, some (.int n) => .ok (.real (Binary64.ofQuotient (n < 0) n.natAbs 1))
    | none, _ => .error .outOfRange
  | "!!timestamp" => (Plain.time? text.toList).getD refused
  | "!!seq" | "!!map" =>
    .error (.malformed
      { problem := "expected a " ++ (tagKind? tag).getD "" ++ " node, but found scalar", mark })
  | _ => refused

/-- The datum of a scalar; the marks of merged records and of standard values are none. -/
def scalarOf (text : String) (manner : Manner) (mark : Mark) : Except Refusal Scalar :=
  match manner with
  | .quoted => .ok (.text text)
  | .tagged tag => taggedScalar tag text mark
  | .plain => do
    match ← meaning text with
    | .datum s => return s
    | .merge => .error (.malformed (unknownTag "!!merge" mark))
    | .standard => .error (.malformed (unknownTag "!!value" mark))

def refusal? : Form → Option Refusal
  | .scalar text manner mark =>
    match scalarOf text manner mark with
    | .ok _ => none
    | .error e => some e
  | _ => none

def keyRefusal? (start : Mark) : Form → Option Refusal
  | .scalar text manner mark => refusal? (.scalar text manner mark)
  | f =>
    some (.malformed
      ⟨some "while constructing a mapping", some start, "found unhashable key", f.mark⟩)

def partRefusal? : Form → Option Refusal
  | .scalar text manner mark => refusal? (.scalar text manner mark)
  | .list items _ => items.findSome? refusal?
  | .record fields mark => fields.findSome? fun (k, v) => (keyRefusal? mark k).or (refusal? v)
  | .broken _ c _ => some (.malformed c)

def collections : Form → List Form
  | .list items _ => items.filter isCollection
  | .record fields _ => (fields.map Prod.snd).filter isCollection
  | _ => []
where
  isCollection : Form → Bool
    | .scalar .. => false
    | _ => true

mutual

def size : Form → Nat
  | .scalar .. | .broken .. => 1
  | .list items _ => 1 + sizeItems items
  | .record fields _ => 1 + sizeFields fields

def sizeItems : List Form → Nat
  | [] => 0
  | f :: fs => size f + sizeItems fs

def sizeFields : List (Form × Form) → Nat
  | [] => 0
  | (k, v) :: rest => size k + size v + sizeFields rest

end

/-- What is wrong in waiting forms, those that are less deep first. -/
def firstRefusal? : Nat → List Form → Option Refusal
  | 0, _ => none
  | _ + 1, [] => none
  | fuel + 1, f :: rest =>
    (partRefusal? f).or (firstRefusal? fuel (rest ++ f.collections))

def keyOf : Form → Scalar
  | .scalar text manner mark => (scalarOf text manner mark).toOption.getD .null
  | _ => .null

mutual

def toValue : Form → Value
  | .scalar text manner mark => .scalar (keyOf (.scalar text manner mark))
  | .list items _ => .list (toValues items)
  | .record fields _ => Value.ofFields (toFields fields)
  | .broken .. => .null

def toValues : List Form → List Value
  | [] => []
  | f :: fs => toValue f :: toValues fs

def toFields : List (Form × Form) → List (Scalar × Value)
  | [] => []
  | (k, v) :: rest => (keyOf k, toValue v) :: toFields rest

end

end Form

def read (s : String) : Except Refusal Value := do
  let text := Text.unifyNewlines s.toList
  match text.zipIdx.find? fun (c, _) => !isAllowed c with
  | some (c, position) => .error (.forbidden c position)
  | none => pure ()
  match ← root? text with
  | none => return .null
  | some root =>
    let form := Form.ofNode root
    match Form.firstRefusal? (form.size + 1) [form] with
    | some e => .error e
    | none => return form.toValue

end ScopeHints.Yaml
