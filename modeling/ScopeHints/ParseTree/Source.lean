import ScopeHints.ParseTree.Node
import ScopeHints.Text.Offset

/-! A parsed text: how the nodes of its tree are read back as names and offsets. -/
namespace ScopeHints

structure Source where
  chars : List Char
  offsets : Text.OffsetMap
  deriving Inhabited

namespace Source

def ofText (text : String) : Source := ⟨text.toList, Text.OffsetMap.ofText text.toList⟩

def length (src : Source) : Nat := src.chars.length

def textOf (src : Source) (n : Node) : String :=
  String.ofList (Text.byteSlice src.chars n.firstByte n.endByte)

/-- The character offset at which a node starts, if its byte offset is one of the text. -/
def startOf? (src : Source) (n : Node) : Option Nat := src.offsets.toChar? n.firstByte

def endOf? (src : Source) (n : Node) : Option Nat := src.offsets.toChar? n.endByte

end Source

/-- Where a parse tree shows its first error: the line, the offset and the kind of the node that
is missing there, or `ERROR`. -/
structure ErrorPlace where
  line : Nat
  offset : Nat
  kind : String
  deriving DecidableEq, Repr

namespace Node

def isFault (n : Node) : Bool := n.kind = "ERROR" || n.missing

mutual

/-- The first node that stands for an error, among this node and those of its descendants that
are reached through children marked as holding one. -/
def firstFault? : Node → Option Node
  | ⟨kind, named, missing, hasError, firstByte, endByte, row, field, children⟩ =>
    if kind = "ERROR" || missing then
      some ⟨kind, named, missing, hasError, firstByte, endByte, row, field, children⟩
    else firstFaultIn children

def firstFaultIn : List Node → Option Node
  | [] => none
  | n :: rest =>
    if n.hasError || n.missing then
      match firstFault? n with
      | some f => some f
      | none => firstFaultIn rest
    else firstFaultIn rest

end

end Node

inductive ErrorSearch where
  | clean
  | found (place : ErrorPlace)
  /-- The error starts at a byte offset that the text does not have. -/
  | outsideText
  deriving DecidableEq, Repr

namespace Source

/-- The first error of a tree. The search is made only if the root is marked as holding one. -/
def firstError (src : Source) (root : Node) : ErrorSearch :=
  if root.hasError then
    match root.firstFault? with
    | none => .clean
    | some n =>
      match src.startOf? n with
      | none => .outsideText
      | some offset =>
        .found { line := n.line, offset, kind := if n.missing then n.kind else "ERROR" }
  else .clean

end Source

end ScopeHints
