import ScopeHints.Directive
import ScopeHints.Fault
import ScopeHints.Log.Event
import ScopeHints.Parse.Recovery
import ScopeHints.Scope.Builder
import ScopeHints.Scope.Query
import ScopeHints.Text.CodePoint
import ScopeHints.Token

/-! What one text contributes to the index: its scopes, its globals, and its identifiers,
properties and associations over all scopes. -/
namespace ScopeHints

/-- How often each property was read on each object. -/
abbrev AssociationCounts := Table Association Int

structure ParsedFile where
  tree : ScopeTree
  globals : List String
  identifiers : List HintToken
  properties : List HintToken
  associations : AssociationCounts
  textLength : Nat
  attempts : Nat
  deriving Inhabited

namespace ParsedFile

/-- Lines had to be blanked, so that the scopes may miss some of the text. -/
def recovered (p : ParsedFile) : Bool := 1 < p.attempts

end ParsedFile

inductive ParseError where
  | fault (f : Fault)
  /-- The text has no UTF-8 form, so that the parser cannot be asked. -/
  | unencodable
  | crashed
  /-- The parser answered with a node outside the text. -/
  | outsideText
  deriving Inhabited

def countAssociations (counts : AssociationCounts) (l : List Association) : AssociationCounts :=
  l.foldl (fun t a => t.insert a ((t.get? a).getD 0 + 1)) counts

namespace ScopeTree

def identifierTokens (tree : ScopeTree) : List HintToken :=
  let all := tree.scopes.flatMap fun s => s.record.identifiers
  collectTokens (all.map fun o => (o.name, o.position)) .identifier none

def propertyTokens (tree : ScopeTree) : List HintToken :=
  let all := tree.scopes.flatMap fun s => s.record.properties
  collectTokens (all.map fun o => (o.name, o.position)) .property none

def associationCounts (tree : ScopeTree) : AssociationCounts :=
  countAssociations Table.empty (tree.scopes.flatMap fun s => s.record.associations)

def Refusal.fault : Refusal → Fault
  | .frozen => .unexpected "scope tree is frozen" []
  | .noRecord => .unexpected "no such scope" []
  | .overlap existing new =>
    .unexpected "overlapping sibling scopes"
      [("existing", .text existing.render), ("new", .text new.render)]

end ScopeTree

namespace BuildError

def fault? : BuildError → Option Fault
  | .unknownKind kind offset => some (.unknownKind kind offset)
  | .outsideText => none
  | .refused reason => some reason.fault

def toParseError : BuildError → ParseError
  | .unknownKind kind offset => .fault (.scopesAborted kind offset)
  | .outsideText => .outsideText
  | .refused reason => .fault reason.fault

end BuildError

structure ParseReport where
  events : List LogEvent
  outcome : Except ParseError ParsedFile

namespace Attempts

/-- One event for each line that was blanked, numbered from `attempt` on. -/
def retryEvents (attempt : Nat) : List Nat → List LogEvent
  | [] => []
  | line :: rest =>
    .debug "parse_retry" [("line", .int line), ("attempt", .int attempt)]
      :: retryEvents (attempt + 1) rest

def conclude (a : Attempts) : ParseReport :=
  match a.ending with
  | .crashed => ⟨[], .error .crashed⟩
  | .outsideText => ⟨[], .error .outsideText⟩
  | .exhausted line =>
    ⟨[.debug "parse_failed" [("line", .int line), ("attempts", .int a.count)]],
      .error (.fault (.syntaxError line a.count))⟩
  | .stuck line =>
    ⟨[.debug "parse_retry" [("line", .int line), ("attempt", .int a.count)]],
      .error (.fault (.syntaxError line a.count))⟩
  | .clean src root =>
    match buildScopes src root with
    | .error e =>
      let events := match e with
        | .unknownKind kind offset =>
          [.warning "scope_build_failed" [("kind", .text kind), ("offset", .int offset)]]
        | _ => []
      ⟨events, .error e.toParseError⟩
    | .ok tree =>
      ⟨[.debug "scope_tree_built" [("scopes", .int tree.size)]],
        .ok { tree
              globals := src.globals root
              identifiers := tree.identifierTokens
              properties := tree.propertyTokens
              associations := tree.associationCounts
              textLength := src.length
              attempts := a.count }⟩

def report (a : Attempts) : ParseReport :=
  let last := a.conclude
  { last with events := retryEvents 1 a.blanked ++ last.events }

end Attempts

def parseReport (parser : Parser) (text : String) (maxRetries : Int) : ParseReport :=
  (attempts parser maxRetries.toNat text).report

/-- Parses a text with at most `maxRetries` retries. -/
def parseText (parser : Parser) (text : String) (maxRetries : Int) :
    Except ParseError ParsedFile :=
  (parseReport parser text maxRetries).outcome

/-- Parses a text that may hold surrogates. -/
def parsePoints (parser : Parser) (points : List CodePoint) (maxRetries : Int) :
    Except ParseError ParsedFile :=
  match CodePoint.text? points with
  | none => .error .unencodable
  | some text => parseText parser text maxRetries

end ScopeHints
