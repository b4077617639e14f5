import ScopeHints.Data.Value
import ScopeHints.ParseTree.Node
import ScopeHints.Text.Offset

/-! Parse trees as plain data. A tree is a list of rows in pre-order, each of them a node's kind,
its flags, its first byte, its end byte, its role and the number of its children. The line on which
a node starts is not recorded, since a parser counts the line feeds before its first byte. -/
namespace ScopeHints

namespace Node

/-- Reads one row and takes as many finished nodes for its children as it says. -/
def pushRow (text : List Char) (row : Value) (finished : List Node) : List Node :=
  match row with
  | .list [.text kind, .int flags, .int firstByte, .int endByte, role, .int count] =>
    let bits := flags.toNat
    { kind
      named := bits % 2 = 1
      missing := bits / 2 % 2 = 1
      hasError := bits / 4 % 2 = 1
      firstByte := firstByte.toNat
      endByte := endByte.toNat
      row := Text.rowOf text firstByte.toNat
      field := match role with
        | .text s => some s
        | _ => none
      children := finished.take count.toNat } :: finished.drop count.toNat
  | _ => finished

/-- The tree of a text that rows spell. They are read from the last one on, so that the children of
a node are finished before it. -/
def ofRows? (text : List Char) (rows : List Value) : Option Node :=
  (rows.foldr (pushRow text) []).head?

end Node

/-- The parser that gives recorded answers, each a text with the rows of its tree. -/
def Parser.ofAnswers (answers : List Value) : Parser :=
  let trees := answers.filterMap fun a =>
    match a.get? "text", a.get? "nodes" with
    | some (.text text), some (.list rows) =>
      (Node.ofRows? text.toList rows).map fun n => (text, n)
    | _, _ => none
  fun text => trees.lookup text

end ScopeHints
