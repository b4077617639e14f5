import ScopeHints.Data.Yaml.Token

/-! The nodes of a document: scalars, lists and records, whatever their scalars mean. -/
namespace ScopeHints.Yaml

inductive Node where
  | scalar (text : String) (plain : Bool) (mark : Mark)
  | list (items : List Node) (mark : Mark)
  | record (fields : List (Node × Node)) (mark : Mark)
  | tagged (tag : String) (n : Node)
  deriving Inhabited, Repr

namespace Node

def mark : Node → Mark
  | .scalar _ _ mark | .list _ mark | .record _ mark => mark
  | .tagged _ n => n.mark

def empty (mark : Mark) : Node := .scalar "" true mark

/-- A node with a tag, if it has one. The mark alone makes a scalar count as a plain one. -/
def withTag : Option String → Node → Node
  | none, n => n
  | some "!", .scalar text _ mark => .scalar text true mark
  | some "!", n => n
  | some tag, n => .tagged tag n

end Node

def knownHandles : List (String × String) := [("!", "!"), ("!!", "!!")]

/-- The tokens that are still to be read, what follows them if the text was refused there, the
nodes that have names, and what the handles of tags stand for. -/
structure Stream where
  tokens : List Placed
  refusal : Option Refusal := none
  anchors : List (String × Node) := []
  handles : List (String × String) := knownHandles

abbrev Reader (α : Type) := StateT Stream (Except Refusal) α

namespace Reader

def placed : Reader Placed := do
  let s ← get
  match s.tokens with
  | t :: _ => return t
  | [] => throw (s.refusal.getD .unfinished)

def peek : Reader Token := return (← placed).token

def here : Reader Mark := return (← placed).mark

def atAny (l : List Token) : Reader Bool := return l.contains (← peek)

def drop : Reader Unit := modify fun s => { s with tokens := s.tokens.tail }

def dropMark : Reader Mark := do
  let m ← here
  drop
  return { m with column := m.column + 1 }

def refuse {α : Type} (problem : String) (mark : Mark) : Reader α :=
  throw (.malformed { problem, mark })

def unexpected {α : Type} (context : String) (start : Mark) (expected : String) : Reader α := do
  let t ← placed
  throw (.malformed ⟨some ("while parsing a " ++ context), some start,
    "expected " ++ expected ++ " " ++ Text.quoted t.token.name, t.mark⟩)

def anchor? : Reader (Option String) := do
  match ← peek with
  | .anchor name =>
    drop
    return some name
  | _ => return none

def tag? : Reader (Option (TagText × Mark)) := do
  match ← placed with
  | ⟨.tag t, mark⟩ =>
    drop
    return some (t, mark)
  | _ => return none

structure Properties where
  anchor : Option String
  tag : Option String
  mark : Mark

def resolved (start : Mark) : Option (TagText × Mark) → Reader (Option String)
  | none => return none
  | some (⟨none, suffix⟩, _) => return some suffix
  | some (⟨some handle, suffix⟩, mark) => do
    match (← get).handles.lookup handle with
    | some stem => return some (stem ++ suffix)
    | none =>
      throw (.malformed ⟨some "while parsing a node", some start,
        "found undefined tag handle " ++ Text.quoted handle, mark⟩)

def properties : Reader Properties := do
  let start ← here
  match ← peek with
  | .tag _ =>
    let tag ← tag?
    let anchor ← anchor?
    return ⟨anchor, ← resolved start tag, start⟩
  | _ =>
    let anchor ← anchor?
    return ⟨anchor, ← resolved start (← tag?), start⟩

def Properties.any (p : Properties) : Bool := p.anchor.isSome || p.tag.isSome

def checkAnchor (p : Properties) : Reader Unit := do
  match p.anchor with
  | none => return
  | some a =>
    match (← get).anchors.lookup a with
    | none => return
    | some n =>
      throw (.malformed
        ⟨some ("found duplicate anchor " ++ Text.quoted a ++ "; first occurrence"), some n.mark,
          "second occurrence", p.mark⟩)

def finish (p : Properties) (n : Node) : Reader Node := do
  let n := n.withTag p.tag
  match p.anchor with
  | none => return n
  | some a =>
    modify fun s => { s with anchors := (a, n) :: s.anchors }
    return n

def named (name : String) (mark : Mark) : Reader Node := do
  match (← get).anchors.lookup name with
  | some n => return n
  | none => refuse ("found undefined alias " ++ Text.quoted name) mark

mutual

/-- Reads a node. In a block it may be a block, and below a key also a list at the column of the
key. -/
def node (block belowKey : Bool) : Nat → Reader Node
  | 0 => throw .unfinished
  | fuel + 1 => do
    match ← placed with
    | ⟨.alias name, mark⟩ =>
      drop
      named name mark
    | _ =>
      let said ← properties
      let ⟨t, start⟩ ← placed
      match t with
      | .scalar text plain =>
        drop
        checkAnchor said
        finish said (.scalar text plain said.mark)
      | .flowListStart =>
        drop
        checkAnchor said
        finish said (.list (← flowItems start true fuel) said.mark)
      | .flowRecordStart =>
        drop
        checkAnchor said
        finish said (.record (← flowFields start true fuel) said.mark)
      | _ =>
        if belowKey && t = .blockEntry then
          checkAnchor said
          finish said (.list (← entries none fuel) said.mark)
        else if block && t = .blockListStart then
          drop
          checkAnchor said
          finish said (.list (← entries (some start) fuel) said.mark)
        else if block && t = .blockRecordStart then
          drop
          checkAnchor said
          finish said (.record (← blockFields start fuel) said.mark)
        else if said.any then
          checkAnchor said
          finish said (.empty said.mark)
        else
          unexpected (if block then "block node" else "flow node") start
            "the node content, but found"

/-- Reads a node, unless one of some tokens stands in its place: then it is empty, at a place that
is given or at that token. -/
def nodeUnless (ends : List Token) (place : Option Mark) (block belowKey : Bool) :
    Nat → Reader Node
  | 0 => throw .unfinished
  | fuel + 1 => do
    if ← atAny ends then return .empty (place.getD (← here)) else node block belowKey fuel

/-- Reads the entries of a block list, which starts at a place. One that has no column of its own
has no such place and no end either. -/
def entries (start : Option Mark) : Nat → Reader (List Node)
  | 0 => throw .unfinished
  | fuel + 1 => do
    if (← peek) = .blockEntry then
      let after ← dropMark
      let ends : List Token := if start.isSome then [.blockEntry, .blockEnd]
        else [.blockEntry, .key, .value, .blockEnd]
      let n ← nodeUnless ends (some after) true false fuel
      return n :: (← entries start fuel)
    else
      match start with
      | none => return []
      | some start =>
        if (← peek) ≠ .blockEnd then
          unexpected "block collection" start "<block end>, but found"
        drop
        return []

def blockFields (start : Mark) : Nat → Reader (List (Node × Node))
  | 0 => throw .unfinished
  | fuel + 1 => do
    let ends : List Token := [.key, .value, .blockEnd]
    match ← peek with
    | .key =>
      let after ← dropMark
      let k ← nodeUnless ends (some after) true true fuel
      let v ← if (← peek) = .value then do
          let after ← dropMark
          nodeUnless ends (some after) true true fuel
        else do pure (.empty (← here))
      return (k, v) :: (← blockFields start fuel)
    | .blockEnd =>
      drop
      return []
    | _ => unexpected "block mapping" start "<block end>, but found"

def flowItems (start : Mark) (first : Bool) : Nat → Reader (List Node)
  | 0 => throw .unfinished
  | fuel + 1 => do
    if (← peek) = .flowListEnd then
      drop
      return []
    if !first then
      if (← peek) ≠ .flowEntry then unexpected "flow sequence" start "',' or ']', but got"
      drop
    match ← placed with
    | ⟨.flowListEnd, _⟩ =>
      drop
      return []
    | ⟨.key, mark⟩ =>
      let after ← dropMark
      let ends : List Token := [.flowEntry, .flowListEnd]
      let k ← nodeUnless (.value :: ends) (some after) false false fuel
      let v ← flowValue ends fuel
      return .record [(k, v)] mark :: (← flowItems start false fuel)
    | _ =>
      let n ← node false false fuel
      return n :: (← flowItems start false fuel)

def flowValue (ends : List Token) : Nat → Reader Node
  | 0 => throw .unfinished
  | fuel + 1 => do
    if (← peek) = .value then
      let after ← dropMark
      nodeUnless ends (some after) false false fuel
    else return .empty (← here)

/-- Reads the fields of a flow record and its end. A node without the mark of a key is one without
a value. -/
def flowFields (start : Mark) (first : Bool) : Nat → Reader (List (Node × Node))
  | 0 => throw .unfinished
  | fuel + 1 => do
    if (← peek) = .flowRecordEnd then
      drop
      return []
    if !first then
      if (← peek) ≠ .flowEntry then unexpected "flow mapping" start "',' or '\x7d', but got"
      drop
    match ← peek with
    | .flowRecordEnd =>
      drop
      return []
    | .key =>
      let after ← dropMark
      let ends : List Token := [.flowEntry, .flowRecordEnd]
      let k ← nodeUnless (.value :: ends) (some after) false false fuel
      let v ← flowValue ends fuel
      return (k, v) :: (← flowFields start false fuel)
    | _ =>
      let k ← node false false fuel
      return (k, .empty (← here)) :: (← flowFields start false fuel)

end

def dropEnds : Nat → Reader Unit
  | 0 => return
  | fuel + 1 => do
    if (← peek) = .documentEnd then
      drop
      dropEnds fuel

/-- Passes directives, which say the version once and each handle once. The version and the
handles that were said are given. -/
def directives (version : Bool) (handles : List (String × String)) : Nat → Reader Unit
  | 0 => return
  | fuel + 1 => do
    match ← placed with
    | ⟨.directive d, mark⟩ =>
      drop
      match d with
      | .version major =>
        if version then refuse "found duplicate YAML directive" mark
        if major ≠ 1 then
          refuse "found incompatible YAML document (version 1.* is required)" mark
        directives true handles fuel
      | .handle name stem =>
        if (handles.lookup name).isSome then
          refuse ("duplicate tag handle " ++ Text.quoted name) mark
        directives version ((name, stem) :: handles) fuel
      | .other => directives version handles fuel
    | _ => modify fun s => { s with handles := handles ++ knownHandles }

def documentStart (fuel : Nat) : Reader Unit := do
  directives false [] fuel
  let t ← placed
  if t.token ≠ .documentStart then
    refuse ("expected '<document start>', but found " ++ Text.quoted t.token.name) t.mark
  drop

def content (fuel : Nat) : Reader Node := do
  match ← placed with
  | ⟨.directive _, mark⟩ => return .empty mark
  | _ => nodeUnless [.documentStart, .documentEnd, .streamEnd] none true false fuel

/-- Reads the only document; there is no node in an empty text. After directives it must have a
mark of its start. -/
def document (fuel : Nat) : Reader (Option Node) := do
  let t ← peek
  if t = .streamEnd then return none
  let root ← if t = .documentStart || t matches .directive _ then do
      documentStart fuel
      content fuel
    else node true false fuel
  dropEnds fuel
  let next ← placed
  if next.token ≠ .streamEnd then
    documentStart fuel
    throw (.malformed ⟨some "expected a single document in the stream", some root.mark,
      "but found another document", next.mark⟩)
  return some root

end Reader

def root? (text : List Char) : Except Refusal (Option Node) :=
  let (tokens, refusal) := Yaml.tokens text
  (Reader.document (4 * tokens.length + 8)).run' { tokens, refusal }

end ScopeHints.Yaml
