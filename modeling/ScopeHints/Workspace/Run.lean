import ScopeHints.Hint.Session
import ScopeHints.Workspace.Basic

/-! Runs of an index over texts held in memory. A step is a request of the host, an edit of the
texts or the work of a parser. -/
namespace ScopeHints

structure World where
  texts : Memory := {}
  /-- The directories that refuse to be listed. -/
  unlistable : List String := []
  parser : Parser
  settings : Settings := {}
  workspace : Workspace := {}
  sessions : Table String HintSession := {}

inductive Step where
  | refresh (path : String) (force : Bool)
  | markDirty (path : String)
  | change (path : String) (change : Option TextChange)
  | refreshDirectory (path : String)
  | rename (old new : String)
  | reset
  | status (path : String)
  | paths
  | lookup (path : String) (offset : Int)
  /-- Hints from the session of a path, which is fed by a lookup first if `fed` says so. -/
  | hints (path : String) (query : HintQuery) (maxResults : Int) (fed : Bool)
  | cancel (ticket : Nat)
  | deliver (place : Nat)
  | idle
  | start
  | stop
  | setText (path text : String)
  | delete (path : String)
  | renameText (old new : String)

inductive Reply where
  | done
  | noWorkers
  | flag (b : Bool)
  | count (n : Nat)
  | paths (l : List String)
  | status (s : Option FileStatus)
  | info (i : ScopeInfo)
  | pending (ticket : Nat)
  | hints (l : List HintToken)
  | job (j : Option Job)

namespace World

def host (w : World) : Host where
  source := w.texts.source w.unlistable
  parser := w.parser
  settings := w.settings

def answer {α : Type} (w : World) (reply : α → Reply) (result : α × Workspace) : Reply × World :=
  (reply result.1, { w with workspace := result.2 })

def sessionFor (w : World) (path : String) (maxResults : Int) : HintSession :=
  (w.sessions.get? path).getD { path, maxResults }

def answerHints (w : World) (session : HintSession) (query : HintQuery) : Reply × World :=
  (.hints (session.hints query), { w with sessions := w.sessions.insert session.path session })

def step (w : World) : Step → Reply × World
  | .refresh path force => w.answer .flag (w.workspace.refresh w.host path force)
  | .markDirty path => (.done, { w with workspace := w.workspace.markDirty path })
  | .change path change => w.answer .flag (w.workspace.textChanged w.host path change)
  | .refreshDirectory path => w.answer .paths (w.workspace.refreshDirectory w.host path)
  | .rename old new => (.done, { w with workspace := w.workspace.rename w.host old new })
  | .reset => (.done, { w with workspace := w.workspace.reset })
  | .status path => (.status (w.workspace.status? path), w)
  | .paths => (.paths w.workspace.paths, w)
  | .lookup path offset =>
    w.answer (fun | .info i => .info i | .pending t => .pending t)
      (w.workspace.lookup w.host path offset)
  | .hints path query maxResults fed =>
    let session := w.sessionFor path maxResults
    if fed then
      match w.workspace.lookup w.host path query.offset with
      | (.pending ticket, ws) =>
        (.pending ticket,
          { w with workspace := ws, sessions := w.sessions.insert path session })
      | (.info info, ws) => { w with workspace := ws }.answerHints (session.update info) query
    else w.answerHints session query
  | .cancel ticket => w.answer .flag (w.workspace.cancel ticket)
  | .deliver place => w.answer .job (w.workspace.deliver w.host place)
  | .idle => w.answer .count (w.workspace.idle w.host)
  | .start =>
    match w.workspace.start w.host with
    | some ws => (.done, { w with workspace := ws })
    | none => (.noWorkers, w)
  | .stop => w.answer .count (w.workspace.stop w.host)
  | .setText path text => (.done, { w with texts := w.texts.insert path text })
  | .delete path => (.done, { w with texts := Memory.delete w.texts path })
  | .renameText old new => (.done, { w with texts := Memory.rename w.texts old new })

def run (w : World) : List Step → List Reply × World
  | [] => ([], w)
  | s :: rest =>
    let (reply, w) := w.step s
    let (replies, w) := run w rest
    (reply :: replies, w)

end World

end ScopeHints
