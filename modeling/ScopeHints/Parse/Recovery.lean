import ScopeHints.ParseTree.Source
import ScopeHints.Text.Lines

/-! Parsing with recovery: while a text has a syntax error, the line of the first one is blanked
and the text is parsed again, as long as the budget of retries lasts and the line still holds
something. Blanking keeps offsets, so that the last text answers for the first one. -/
namespace ScopeHints

inductive Ending where
  | clean (src : Source) (root : Node)
  /-- An error is left on a line and no retry. -/
  | exhausted (line : Nat)
  /-- An error is left on a line on which nothing is left to blank. -/
  | stuck (line : Nat)
  | crashed
  /-- The first error starts outside the text. -/
  | outsideText

/-- The attempts to parse a text: the lines that were blanked, in order, the text of the last
attempt and its ending. -/
structure Attempts where
  blanked : List Nat := []
  text : String
  ending : Ending

namespace Attempts

def count (a : Attempts) : Nat := a.blanked.length + 1

end Attempts

def blankLine (text : String) (line : Int) : String :=
  String.ofList (Text.blankLine text.toList line)

/-- Parses a text, blanking a line for each of at most `budget` retries. -/
def attempts (parser : Parser) : Nat → String → Attempts
  | budget, text =>
    match parser text with
    | none => { text, ending := .crashed }
    | some root =>
      let src := Source.ofText text
      match src.firstError root with
      | .clean => { text, ending := .clean src root }
      | .outsideText => { text, ending := .outsideText }
      | .found place =>
        match budget with
        | 0 => { text, ending := .exhausted place.line }
        | budget + 1 =>
          if blankLine text place.line = text then { text, ending := .stuck place.line }
          else
            let later := attempts parser budget (blankLine text place.line)
            { later with blanked := place.line :: later.blanked }

end ScopeHints
