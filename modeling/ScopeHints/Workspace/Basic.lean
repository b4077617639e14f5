import ScopeHints.Settings.Basic
import ScopeHints.Source.Memory
import ScopeHints.Token.Keyword
import ScopeHints.Workspace.Change
import ScopeHints.Workspace.FileIndex

/-! The index of a project. Texts are parsed by jobs that wait in a queue, each with the text it
was given; an answer counts only while its file awaits one. A file whose text changed in the
meantime is handed to the parser again as soon as the answer is in. -/
namespace ScopeHints

structure Job where
  path : String
  text : String
  retries : Int
  deriving DecidableEq, Repr, Inhabited

inductive Answer where
  | info (i : ScopeInfo)
  | rejected (f : Fault)
  | cancelled
  deriving Inhabited

/-- Who parses: workers that the host lends, or workers of the index's own, running or not. -/
inductive Workers where
  | lent
  | own (running : Bool)
  deriving DecidableEq, Repr, Inhabited

/-- The state of the index. Lookups that have to wait are numbered by `issued`. -/
structure Workspace where
  files : Table String FileIndex := {}
  queue : List Job := []
  issued : Nat := 0
  answers : Table Nat Answer := {}
  events : List LogEvent := []
  workers : Workers := .lent
  deriving Inhabited

structure Host where
  source : TextSource
  parser : Parser
  settings : Settings

namespace Workspace

def log (ws : Workspace) (e : LogEvent) : Workspace := { ws with events := ws.events ++ [e] }

def file (ws : Workspace) (path : String) : FileIndex := (ws.files.get? path).getD { path }

def put (ws : Workspace) (path : String) (f : FileIndex) : Workspace :=
  { ws with files := ws.files.insert path f }

def track (ws : Workspace) (path : String) : Workspace := ws.put path (ws.file path)

def paths (ws : Workspace) : List String := ws.files.keys

def status? (ws : Workspace) (path : String) : Option FileStatus :=
  (ws.files.get? path).map FileIndex.status

/-! ### Answers -/

def answered (ws : Workspace) (ticket : Nat) : Bool := ws.answers.contains ticket

/-- Answers a lookup; the first answer stays. -/
def settle (ws : Workspace) (ticket : Nat) (a : Answer) : Workspace :=
  if ws.answered ticket then ws else { ws with answers := ws.answers.insert ticket a }

def cancel (ws : Workspace) (ticket : Nat) : Bool × Workspace :=
  if ticket < ws.issued && !ws.answered ticket then (true, ws.settle ticket .cancelled)
  else (false, ws)

def reject (ws : Workspace) (path : String) (pending : Option Pending) (reason : Option String) :
    Workspace :=
  match pending with
  | none => ws
  | some p =>
    if ws.answered p.ticket then ws
    else
      let fault := match reason with
        | none => Fault.superseded path p.offset
        | some r => Fault.discarded path p.offset r
      (ws.settle p.ticket (.rejected fault)).log
        (.debug "stale_request_rejected"
          [("path", .text path), ("offset", .int p.offset), ("reason", .ofText? reason)])

/-! ### Lookups -/

def siblings (ws : Workspace) (f : FileIndex) : List FileIndex :=
  (ws.files.entries.filter fun (path, other) =>
    path ≠ f.path && other.directory = f.directory).map Prod.snd

/-- The scope of a tree at an offset; past the end of the file it is the scope of the file. -/
def scopeAt (tree : ScopeTree) (offset : Int) : Scope :=
  (tree.root.innermost? offset).getD tree.root

def visibleTokens (scope : Scope) (tokens : List HintToken) : List HintToken :=
  tokens.filterMap fun t =>
    (scope.depthOf? t.value).map fun d => { t with level := some (d : Int) }

/-- The identifiers offered in a scope: visible names, then globals, then keywords. -/
def candidates (settings : HintSettings) (f : FileIndex) (scope : Scope) : List HintToken :=
  distinctTokens
    (visibleTokens scope f.identifiers
      ++ f.globals.map (fun name => { value := name, kind := .global })
      ++ (if settings.includeKeywords then keywordTokens else []))

def lookupIn (settings : HintSettings) (ws : Workspace) (f : FileIndex) (tree : ScopeTree)
    (offset : Int) : ScopeInfo :=
  let scope := scopeAt tree offset
  let siblings := ws.siblings f
  { scope := some scope
    identifiers := candidates settings f scope
    properties := mergeProperties f.properties (siblings.map (·.properties))
    associations := mergeAssociations f.associations (siblings.map (·.associations))
    recovered := f.recovered }

def compute (settings : HintSettings) (ws : Workspace) (f : FileIndex) (tree : ScopeTree)
    (offset : Int) : ScopeInfo × Workspace :=
  let info := lookupIn settings ws f tree offset
  let ws := ws.put f.path
    { f with innerScope := info.scope, innerInfo := some info, innerDirty := false }
  (info, ws.log (.debug "inner_scope_recomputed"
    [("path", .text f.path), ("offset", .int offset), ("scope", .int (scopeAt tree offset).index),
      ("identifiers", .int info.identifiers.length), ("siblings", .int (ws.siblings f).length)]))

def computeChecked (settings : HintSettings) (ws : Workspace) (f : FileIndex) (offset : Int) :
    Except Fault (ScopeInfo × Workspace) := do
  let tree ← f.scopes
  return compute settings ws f tree offset

def degradedInfo (settings : HintSettings) : ScopeInfo :=
  { scope := none
    identifiers := if settings.includeKeywords then keywordTokens else []
    properties := []
    associations := {} }

/-- Answers the lookup that waits for a file, unless a first parse is still awaited. -/
def servicePending (settings : HintSettings) (ws : Workspace) (path : String) : Workspace :=
  let f := ws.file path
  match f.pending with
  | none => ws
  | some p =>
    match f.outer with
    | some tree =>
      let (info, ws) := compute settings (ws.put path { f with pending := none })
        { f with pending := none } tree p.offset
      ws.settle p.ticket (.info info)
    | none =>
      if f.inFlight then ws
      else (ws.put path { f with pending := none }).settle p.ticket (.info (degradedInfo settings))

/-! ### Parses -/

/-- Hands the text of a file to the parser. A first parse and a forced one may blank lines. -/
def dispatch (host : Host) (ws : Workspace) (path : String) (force : Bool) : Workspace :=
  let f := ws.file path
  let force := force || f.forcePending || f.outer.isNone
  let f := { f with inFlight := true, outerDirty := false, forcePending := false }
  match host.source.read path with
  | .error reason =>
    let ws := (ws.log (.warning "read_failed" [("path", .text path), ("error", .text reason)])).put
      path { f with inFlight := false }
    servicePending host.settings.hints ws path
  | .ok text =>
    let ws := (ws.put path f).log (.debug "outer_scope_dispatched"
      [("path", .text path), ("force", .bool force), ("length", .int text.length)])
    let retries := if force then host.settings.parser.maxRetries else 0
    { ws with queue := ws.queue ++ [{ path, text, retries }] }

/-- Has a file parsed if its text changed or was never parsed, or if the parse is forced; says
whether it was handed to the parser. While an answer is awaited a forced request is kept. -/
def refresh (host : Host) (ws : Workspace) (path : String) (force : Bool) : Bool × Workspace :=
  let f := ws.file path
  if f.inFlight then
    (false, if force then ws.put path { f with outerDirty := true, forcePending := true } else ws)
  else if !force && !f.outerDirty && f.outer.isSome then (false, ws)
  else (true, dispatch host ws path force)

def markDirty (ws : Workspace) (path : String) : Workspace :=
  ws.put path { ws.file path with outerDirty := true }

def textChanged (host : Host) (ws : Workspace) (path : String) (change : Option TextChange) :
    Bool × Workspace :=
  let ws := ws.markDirty path
  if change.all TextChange.isSignificant then refresh host ws path false
  else (false, ws.log (.debug "text_change_deferred" [("path", .text path)]))

def refreshAll (host : Host) : Workspace → List String → List String × Workspace
  | ws, [] => ([], ws)
  | ws, p :: ps =>
    let (dispatched, ws) := refresh host ws p false
    let (rest, ws) := refreshAll host ws ps
    (if dispatched then p :: rest else rest, ws)

def hasExtension (settings : ParserSettings) (path : String) : Bool :=
  settings.extensions.any fun e => path.endsWith e

def refreshDirectory (host : Host) (ws : Workspace) (path : String) : List String × Workspace :=
  let directory := directoryOf path
  let (listed, ws) := match host.source.list directory with
    | .ok listed => (listed, ws)
    | .error reason =>
      ([], ws.log (.warning "directory_refresh_failed"
        [("directory", .text directory), ("error", .text reason)]))
  let paths := listed.filter (hasExtension host.settings.parser)
  refreshAll host ws (if paths.contains path then paths else paths ++ [path])

/-- Moves the index of a file to another path, where it replaces what is there. An answer that
is awaited under the old path will not be taken. -/
def rename (host : Host) (ws : Workspace) (old new : String) : Workspace :=
  match ws.files.get? old with
  | none => ws
  | some f =>
    let ws := { ws with files := ws.files.erase old }
    let ws := match ws.files.get? new with
      | none => ws
      | some replaced => ws.reject new replaced.pending (some "replaced by rename")
    let ws := { ws with files := ws.files.erase new }
    let f := f.renamed new
    let ws := (ws.put new f).log
      (.info "file_renamed" [("old_path", .text old), ("new_path", .text new)])
    if f.inFlight then
      let ws := ws.put new { f with inFlight := false, outerDirty := true }
      if f.pending.isSome then (refresh host ws new false).2 else ws
    else ws

/-- Forgets every file. Answers that are still awaited will not be taken. -/
def reset (ws : Workspace) : Workspace :=
  let rejected := ws.files.entries.foldl
    (fun ws (path, f) => ws.reject path f.pending (some "reset")) ws
  { rejected with files := {} }.log (.info "scope_index_reset" [("files", .int ws.files.size)])

/-! ### Answers of the parser -/

def receive (host : Host) (ws : Workspace) (path : String) (outcome : Except Fault ParsedFile) :
    Workspace :=
  match ws.files.get? path with
  | none => ws.log (.info "expired_scope_response" [("path", .text path)])
  | some f =>
    if f.inFlight then
      let f := { f with inFlight := false }
      let ws := match outcome with
        | .ok parsed =>
          (ws.put path (f.install parsed)).log (.debug "outer_scope_applied"
            [("path", .text path), ("scopes", .int parsed.tree.size),
              ("attempts", .int parsed.attempts)])
        | .error fault =>
          (ws.put path f).log (.info "parse_failed"
            [("path", .text path), ("error", .text fault.name), ("line", .ofInt? fault.line?),
              ("kept_previous", .bool f.outer.isSome)])
      let ws := if f.outerDirty then dispatch host ws path false else ws
      servicePending host.settings.hints ws path
    else ws.log (.info "expired_scope_response" [("path", .text path)])

/-- Starts the workers of the index itself; without at least one of them they cannot start. -/
def start (host : Host) (ws : Workspace) : Option Workspace :=
  match ws.workers with
  | .lent | .own true => some ws
  | .own false =>
    if 0 < host.settings.worker.maxWorkers then
      some ({ ws with workers := .own true }.log
        (.info "scope_coordinator_started" [("max_workers", .int host.settings.worker.maxWorkers)]))
    else none

def workerFault (path : String) : Fault := .unexpected "parser crashed" [("path", .text path)]

def runJob (host : Host) (ws : Workspace) (job : Job) : Workspace :=
  let broken (ws : Workspace) : Workspace :=
    receive host (ws.log (.error "parse_worker_failed" [("path", .text job.path)])) job.path
      (.error (workerFault job.path))
  match start host ws with
  | none => broken ws
  | some ws =>
    let report := parseReport host.parser job.text job.retries
    let ws := { ws with events := ws.events ++ report.events }
    match report.outcome with
    | .ok parsed => receive host ws job.path (.ok parsed)
    | .error (.fault f) => receive host ws job.path (.error f)
    | .error _ => broken ws

def deliver (host : Host) (ws : Workspace) (i : Nat) : Option Job × Workspace :=
  match ws.queue[i]? with
  | none => (none, ws)
  | some job => (some job, runJob host { ws with queue := ws.queue.eraseIdx i } job)

def dirtyCount (ws : Workspace) : Nat := ws.files.values.countP (·.outerDirty)

/-- Runs jobs, the oldest first, at most the given number of them; returns how many were run. -/
def drain (host : Host) : Nat → Workspace → Nat × Workspace
  | 0, ws => (0, ws)
  | fuel + 1, ws =>
    match ws.queue with
    | [] => (0, ws)
    | job :: rest =>
      let (count, ws) := drain host fuel (runJob host { ws with queue := rest } job)
      (count + 1, ws)

/-- Runs jobs until none is left. Every job but those now in the queue is due to a file that is
now dirty, so that there are no more than both together. -/
def idle (host : Host) (ws : Workspace) : Nat × Workspace :=
  drain host (ws.queue.length + ws.dirtyCount) ws

/-- Forgets every file, runs the jobs that are left and lets the workers go. -/
def stop (host : Host) (ws : Workspace) : Nat × Workspace :=
  let (count, ws) := idle host ws.reset
  let workers := match ws.workers with
    | .lent => .lent
    | .own _ => .own false
  (count, { ws with workers }.log (.info "scope_coordinator_stopped" []))

/-! ### Lookups by path -/

inductive Lookup where
  | info (i : ScopeInfo)
  | pending (ticket : Nat)
  deriving Inhabited

/-- The scope and the candidates at an offset. A file that was never parsed answers later; a
newer lookup takes the place of one that waits. A file whose text changed is handed to the
parser first, and its present scopes answer. -/
def lookup (host : Host) (ws : Workspace) (path : String) (offset : Int) : Lookup × Workspace :=
  let ws := ws.track path
  let f := ws.file path
  let ws := if f.outerDirty && f.outer.isSome then (refresh host ws path false).2 else ws
  let f := ws.file path
  match f.kept? offset with
  | some info => (.info info, ws)
  | none =>
    match f.outer with
    | some tree =>
      let (info, ws) := compute host.settings.hints ws f tree offset
      (.info info, ws)
    | none =>
      let ws := ws.reject path f.pending none
      let ticket := ws.issued
      let ws := ({ ws with issued := ticket + 1 }.put path
        { f with pending := some { offset, ticket } }).log
          (.debug "inner_scope_pending" [("path", .text path), ("offset", .int offset)])
      let ws := (refresh host ws path false).2
      (.pending ticket, servicePending host.settings.hints ws path)

end Workspace

end ScopeHints
