import ScopeHints.Proofs.Workspace.Changes
import ScopeHints.Proofs.Workspace.ParseLog

/-! The log of every run, and the lines that its jobs may blank: those that a first parse, a forced
one or a forced request that is owed grants, and no others. -/
namespace ScopeHints

/-- A request to parse a file, and the text being asked for if that is due. -/
def Host.requestEvents (host : Host) (p : String) (force : Bool) (s : Standing) : List ParseEvent :=
  .request p force s.inFlight ::
    if s.due force then [.handOver p force s.content.outer.isSome (host.jobs p force s)] else []

namespace Workspace
variable {ws ws' : Workspace} {p : String} {maxRetries : Int}

theorem Effect.apart {new : List Job} (h : Effect p ws ws' new) : Apart p ws ws' :=
  fun _ hr => h.standing_of_ne hr

theorem Turn.quiet {s : Standing} (h : Turn p ws ws' [] s) (hl : (ws.standing p).Lasts s) :
    Quiet ws ws' := by
  refine ⟨?_, by rw [h.queue, List.append_nil]⟩
  intro q
  by_cases hq : q = p
  · subst hq
    rw [h.standing]
    exact hl
  · rw [h.standing_of_ne hq]
    exact Standing.Lasts.refl _

theorem quiet_of_files (hf : ws'.files = ws.files) (hq : ws'.queue.Sublist ws.queue) :
    Quiet ws ws' := by
  refine ⟨?_, hq⟩
  intro q
  rw [standing_congr hf]
  exact Standing.Lasts.refl _

theorem servicePending_quiet (settings : HintSettings) (hk : (ws.file p).path = p) :
    Quiet ws (servicePending settings ws p) :=
  (servicePending_turn settings hk).quiet (Standing.Lasts.refl _)

/-! ### Requests -/

theorem dispatch_happens (host : Host) (force : Bool) (hk : (ws.file p).path = p) :
    Happens host.settings.parser.maxRetries ws (dispatch host ws p force)
      (.handOver p force (ws.standing p).content.outer.isSome
        (host.jobs p force (ws.standing p))) := by
  have ht := dispatch_turn host force hk
  exact .handOver rfl ht.apart ht.standing ht.queue

theorem refresh_course (host : Host) (force : Bool) (hk : (ws.file p).path = p) :
    Course host.settings.parser.maxRetries ws (host.requestEvents p force (ws.standing p))
      (refresh host ws p force).2 := by
  unfold Host.requestEvents
  cases hd : (ws.standing p).due force with
  | true =>
    rw [refresh_of_due host hd]
    exact .event (.request (fun _ _ => rfl) (Standing.requested_of_due hd).symm rfl)
      (dispatch_happens host force hk).course
  | false =>
    have ht := refresh_turn host force hk
    rw [Host.requestJobs, hd, Standing.refreshed_of_not_due hd] at ht
    exact (Happens.request ht.apart ht.standing
      (by rw [ht.queue]; exact List.append_nil _)).course

def refreshedParses (host : Host) : Workspace → List String → List ParseEvent
  | _, [] => []
  | ws, p :: paths =>
    host.requestEvents p false (ws.standing p) ++
      refreshedParses host (refresh host ws p false).2 paths

theorem refreshAll_course (host : Host) (paths : List String) {ws : Workspace} (h : Orderly ws) :
    Course host.settings.parser.maxRetries ws (refreshedParses host ws paths)
      (refreshAll host ws paths).2 := by
  induction paths generalizing ws with
  | nil => exact .refl ws
  | cons p paths ih =>
    exact (refresh_course host false (h.keyed p)).trans (ih (refresh_request host h p false).orderly)

theorem refreshDirectory_course (host : Host) (h : Orderly ws) (p : String) :
    Course host.settings.parser.maxRetries ws
      (refreshedParses host (ws.listing host p) (neighbours host p))
      (refreshDirectory host ws p).2 := by
  have hlisted : Quiet ws (ws.listing host p) :=
    quiet_of_files (listing_files host ws p) (by rw [listing_queue])
  rw [refreshDirectory_eq]
  exact .quiet hlisted (refreshAll_course host _ (listing_request host h p).orderly)

theorem markDirty_quiet (hk : (ws.file p).path = p) : Quiet ws (ws.markDirty p) :=
  (markDirty_turn hk).quiet ⟨rfl, fun _ => rfl⟩

/-! ### Lookups -/

/-- The events of a lookup: a file whose text changed is handed over before its scopes answer, and
a file without scopes before the lookup waits. -/
def lookedParses (host : Host) (ws : Workspace) (p : String) (offset : Int) : List ParseEvent :=
  match (lookup host ws p offset).1 with
  | .pending _ => host.requestEvents p false (ws.standing p)
  | .info _ =>
    if (ws.standing p).outerDirty && (ws.standing p).content.outer.isSome then
      host.requestEvents p false (ws.standing p)
    else []

theorem track_quiet (hk : (ws.file p).path = p) : Quiet ws (ws.track p) :=
  (track_turn hk).quiet (Standing.Lasts.refl _)

theorem track_standing (ws : Workspace) (p : String) :
    (ws.track p).standing p = ws.standing p :=
  congrArg FileIndex.standing (file_put_self ws p _)

theorem opened_course (host : Host) (hk : (ws.file p).path = p) :
    Course host.settings.parser.maxRetries ws
      (if (ws.standing p).outerDirty && (ws.standing p).content.outer.isSome then
        host.requestEvents p false (ws.standing p) else []) (opened host ws p) ∧
    ((opened host ws p).file p).path = p ∧
    ((opened host ws p).file p).outer = (ws.file p).outer := by
  have htrack := track_turn hk
  have hst := track_standing ws p
  have hrefresh := refresh_turn host false htrack.path
  have hif : (((ws.track p).file p).outerDirty && ((ws.track p).file p).outer.isSome) =
      ((ws.standing p).outerDirty && (ws.standing p).content.outer.isSome) := by
    rw [← hst]
    rfl
  unfold opened
  rw [hif]
  split
  · have hcourse := refresh_course host false htrack.path
    rw [hst] at hcourse hrefresh
    refine ⟨.quiet (track_quiet hk) hcourse, hrefresh.path, ?_⟩
    have hcontent := congrArg Standing.content hrefresh.standing
    rw [Standing.refreshed_content] at hcontent
    exact congrArg Content.outer hcontent
  · exact ⟨(track_quiet hk).course, htrack.path,
      congrArg (fun s => s.content.outer) hst⟩

theorem asked_turn (offset : Int) (hk : (ws.file p).path = p) :
    Turn p ws (ws.asked p offset) [] (ws.standing p) := by
  have hrejected := reject_rejected ws p (ws.file p).pending none
  have hfile : (ws.asked p offset).file p =
      { ws.file p with
        pending := some ⟨offset, (ws.reject p (ws.file p).pending none).issued⟩ } :=
    file_put_self _ p _
  refine ⟨(Effect.of_ask hrejected rfl rfl).log _, ?_, ?_⟩
  · rw [standing, hfile]
    rfl
  · rw [hfile]
    exact hk

theorem lookup_course (host : Host) (offset : Int) (hk : (ws.file p).path = p) :
    Course host.settings.parser.maxRetries ws (lookedParses host ws p offset)
      (lookup host ws p offset).2 := by
  obtain ⟨hopened, hpath, houter⟩ := opened_course host hk
  unfold lookedParses
  obtain ⟨info, -, hl⟩ | ⟨tree, -, hl⟩ | ⟨ho, ticket, hl⟩ := lookup_answer host ws p offset
  · rw [hl]
    exact hopened
  · rw [hl]
    have hcompute := compute_turn host.settings.hints hpath tree offset
    simpa using hopened.trans (hcompute.quiet (Standing.Lasts.refl _)).course
  · rw [hl]
    -- Without scopes the file was not handed over when it was opened.
    have hnone : (ws.standing p).content.outer = none := houter.symm.trans ho
    have hplain : opened host ws p = ws.track p := by
      unfold opened
      rw [if_neg]
      intro hif
      rw [Bool.and_eq_true] at hif
      have hsome : (ws.standing p).content.outer.isSome = true := by
        rw [← track_standing]
        exact hif.2
      rw [hnone] at hsome
      cases hsome
    rw [hplain] at hpath ⊢
    have hask := asked_turn offset hpath
    have hrefresh := refresh_course host false hask.path
    rw [hask.standing, track_standing] at hrefresh
    have hserve := servicePending_quiet host.settings.hints
      (refresh_turn host false hask.path).path
    have hcourse := hrefresh.trans hserve.course
    rw [List.append_nil] at hcourse
    exact .quiet (track_quiet hk) (.quiet (hask.quiet (Standing.Lasts.refl _)) hcourse)

/-! ### Answers of the parser -/

def deliveredParses (host : Host) (ws : Workspace) (i : Nat) : List ParseEvent :=
  match ws.queue[i]? with
  | none => []
  | some job =>
    let s := (ws.standing job.path).answered
      ((parse host ws job.text job.retries).toOption.map (·.contentAt job.path))
    if (ws.standing job.path).inFlight && s.outerDirty then
      [.handOver job.path false s.content.outer.isSome (host.jobs job.path false s)]
    else []

theorem Popped.quiet {host : Host} {i : Nat} (h : Popped host i ws ws') : Quiet ws ws' :=
  quiet_of_files h.files (by rw [h.queue]; exact List.eraseIdx_sublist _ _)

theorem receive_course (host : Host) (outcome : Except Fault ParsedFile)
    (hi : (ws.standing p).inFlight = true) (hk : (ws.file p).path = p) :
    let s := (ws.standing p).answered (takenAt p outcome)
    Course host.settings.parser.maxRetries ws
      (if s.outerDirty then
        [.handOver p false s.content.outer.isSome (host.jobs p false s)] else [])
      (receive host ws p outcome) := by
  intro s
  obtain ⟨ws₁, h₁, hr⟩ := receive_cases host outcome hi hk
  have hanswered : Quiet ws ws₁ := h₁.quiet ⟨rfl, id⟩
  rw [hr]
  refine .quiet hanswered ?_
  rw [show s.outerDirty = (ws.standing p).outerDirty from rfl]
  split
  · have hdispatch := dispatch_happens host false h₁.path
    rw [h₁.standing] at hdispatch
    exact .event hdispatch
      (servicePending_quiet _ (dispatch_turn host false h₁.path).path).course
  · exact (servicePending_quiet _ h₁.path).course

theorem deliver_course (host : Host) (h : Orderly ws) (i : Nat) :
    Course host.settings.parser.maxRetries ws (deliveredParses host ws i)
      (deliver host ws i).2 := by
  unfold deliveredParses
  cases hj : ws.queue[i]? with
  | none =>
    rw [deliver_none host hj]
    exact .refl ws
  | some job =>
    dsimp only
    cases hi : (ws.standing job.path).inFlight with
    | false => exact (deliver_expired host hj hi).quiet.course
    | true =>
      obtain ⟨ws₀, outcome, hpop, hd, ho⟩ := deliver_eq_receive host hj
      have hst : ws₀.standing job.path = ws.standing job.path :=
        congrFun (standing_congr hpop.files) job.path
      have hreceive := receive_course host outcome (by rw [hst, hi])
        (by rw [hpop.file, h.keyed])
      dsimp only at hreceive
      rw [hst, takenAt, ho] at hreceive
      rw [hd, Bool.true_and]
      exact .quiet hpop.quiet hreceive

def drainedParses (host : Host) : Nat → Workspace → List ParseEvent
  | 0, _ => []
  | fuel + 1, ws =>
    if ws.queue = [] then []
    else deliveredParses host ws 0 ++ drainedParses host fuel (deliver host ws 0).2

theorem drain_course (host : Host) (fuel : Nat) {ws : Workspace} (h : Orderly ws) :
    Course host.settings.parser.maxRetries ws (drainedParses host fuel ws)
      (drain host fuel ws).2 := by
  induction fuel generalizing ws with
  | zero => exact .refl ws
  | succ fuel ih =>
    rw [drain_succ, drainedParses]
    split
    · exact .refl ws
    · exact (deliver_course host h 0).trans (ih (deliver_advance host h 0).1.orderly)

/-! ### Moves -/

/-- The events of a move: the file is asked for anew at its new path if an answer was awaited for
it and a lookup waits. -/
def movedParses (host : Host) (ws : Workspace) (old new : String) : List ParseEvent :=
  match ws.files.get? old with
  | none => []
  | some f => .move old new ::
    if f.inFlight && f.pending.isSome then
      host.requestEvents new false (f.movedTo new).standing
    else []

theorem movedTo_lasts (f : FileIndex) (path : String) :
    f.standing.Lasts (f.movedTo path).standing := by
  unfold FileIndex.movedTo
  split
  · exact ⟨rfl, fun _ => rfl⟩
  · exact ⟨rfl, id⟩

theorem Moved.happens {old new : String} {f : FileIndex}
    (h : Moved old new (f.movedTo new) ws ws') (hf : ws.files.get? old = some f) :
    Happens maxRetries ws ws' (.move old new) := by
  refine .move ?_ ?_ ?_ h.queue
  · rw [standing, standing, file_eq hf, file_eq h.self]
    exact movedTo_lasts f new
  · intro hne
    rw [standing, h.file_left hne]
    rfl
  · intro r ho hn
    rw [standing, standing, h.file_of_ne ho hn]

theorem rename_course (host : Host) (h : Orderly ws) (old new : String) :
    Course host.settings.parser.maxRetries ws (movedParses host ws old new)
      (rename host ws old new) := by
  unfold movedParses
  cases hf : ws.files.get? old with
  | none =>
    rw [rename_untracked host hf]
    exact .refl ws
  | some f =>
    obtain ⟨ws₁, hm, hr⟩ := rename_cases host new hf
    have hst : (f.movedTo new).standing = ws₁.standing new := by rw [standing, file_eq hm.self]
    refine .event (hm.happens hf) ?_
    rw [hr, hst]
    split
    · exact refresh_course host false ((hm.orderlyApart hf h).keyed new)
    · exact .refl ws₁

theorem Forgotten.happens (h : Forgotten ws ws') : Happens maxRetries ws ws' .forget := by
  refine .forget ?_ h.queue
  intro q
  rw [standing, file, h.files]
  rfl

/-! ### Steps -/

def parses (host : Host) (ws : Workspace) : Step → List ParseEvent
  | .refresh path force => host.requestEvents path force (ws.standing path)
  | .change path change =>
    if change.all TextChange.isSignificant then
      host.requestEvents path false ((ws.markDirty path).standing path)
    else []
  | .refreshDirectory path => refreshedParses host (ws.listing host path) (neighbours host path)
  | .rename old new => movedParses host ws old new
  | .lookup path offset => lookedParses host ws path offset
  | .hints path query _ fed => if fed then lookedParses host ws path query.offset else []
  | .deliver place => deliveredParses host ws place
  | .idle => drainedParses host (ws.queue.length + ws.dirtyCount) ws
  | .reset | .stop => [.forget]
  | _ => []

theorem after_course (host : Host) (h : Orderly ws) (s : Step) :
    Course host.settings.parser.maxRetries ws (ws.parses host s) (ws.after host s) := by
  cases s with
  | refresh path force => exact refresh_course host force (h.keyed path)
  | markDirty path => exact (markDirty_quiet (h.keyed path)).course
  | change path change =>
    have hmark := markDirty_quiet (h.keyed path)
    simp only [parses, after, textChanged]
    split
    · exact .quiet hmark (refresh_course host false ((markDirty_request h path).orderly.keyed path))
    · exact .quiet hmark (Quiet.course (quiet_of_files rfl (.refl _)))
  | refreshDirectory path => exact refreshDirectory_course host h path
  | rename old new => exact rename_course host h old new
  | reset => exact (reset_forgotten ws).happens.course
  | lookup path offset => exact lookup_course host offset (h.keyed path)
  | hints path query maxResults fed =>
    cases fed with
    | false => exact .refl _
    | true => exact lookup_course host query.offset (h.keyed path)
  | cancel t =>
    simp only [parses, after, cancel]
    split
    · exact (quiet_of_files (settle_files _ _ _) (by rw [settle_queue])).course
    · exact .refl _
  | deliver place => exact deliver_course host h place
  | idle => exact drain_course host _ h
  | start =>
    rw [after]
    cases hs : start host ws with
    | some ws' =>
      obtain ⟨-, events, workers, rfl⟩ := start_eq_some hs
      exact Quiet.course (quiet_of_files rfl (.refl _))
    | none => exact .refl _
  | stop =>
    -- No file is left when the queue is drained, and every answer is dropped.
    have hforgotten := reset_forgotten ws
    obtain ⟨hfiles, hqueue, -⟩ := drain_forgotten host
      (ws.reset.queue.length + ws.reset.dirtyCount) hforgotten.files
    refine .event hforgotten.happens (quiet_of_files ?_ ?_).course
    · exact hfiles.trans hforgotten.files.symm
    · exact hqueue ▸ List.drop_sublist _ _
  | status | paths | setText | delete | renameText => exact .refl _

end Workspace

namespace World
open Workspace

def parseEvents (w : World) : Step → List ParseEvent
  | .refresh path force => w.host.requestEvents path force (w.workspace.standing path)
  | .change path change =>
    if change.all TextChange.isSignificant then
      w.host.requestEvents path false ((w.workspace.markDirty path).standing path)
    else []
  | .refreshDirectory path =>
    refreshedParses w.host (w.workspace.listing w.host path) (neighbours w.host path)
  | .rename old new => movedParses w.host w.workspace old new
  | .lookup path offset => lookedParses w.host w.workspace path offset
  | .hints path query _ fed => if fed then lookedParses w.host w.workspace path query.offset else []
  | .deliver place => deliveredParses w.host w.workspace place
  | .idle => drainedParses w.host (w.workspace.queue.length + w.workspace.dirtyCount) w.workspace
  | .reset | .stop => [.forget]
  | _ => []

def parseLog (w : World) : List Step → List ParseEvent
  | [] => []
  | s :: rest => w.parseEvents s ++ (w.step s).2.parseLog rest

theorem parseEvents_eq (w : World) (s : Step) : w.parseEvents s = w.workspace.parses w.host s := by
  cases s <;> rfl

theorem step_course {w : World} (h : Orderly w.workspace) (s : Step) :
    Course w.settings.parser.maxRetries w.workspace (w.parseEvents s) (w.step s).2.workspace := by
  rw [parseEvents_eq, step_workspace]
  exact after_course w.host h s

theorem run_course (steps : List Step) {w : World} (h : Orderly w.workspace) :
    Course w.settings.parser.maxRetries w.workspace (w.parseLog steps)
      (w.run steps).2.workspace := by
  induction steps generalizing w with
  | nil => exact .refl _
  | cons s steps ih =>
    have hrest := ih (step_advance h s).orderly
    rw [(step_fixed w s).1] at hrest
    exact (step_course h s).trans hrest

theorem run_accounted (w : World) (workers : Workers) (steps : List Step) :
    Accounted w.settings.parser.maxRetries ((w.fresh workers).parseLog steps)
      ((w.fresh workers).run steps).2.workspace :=
  (run_course steps (w := w.fresh workers) (orderly_new workers)).accounted (accounted_new _ workers)

/-- Whatever the host does and in whatever order the jobs end, each job was queued by an event of
the log, and it may blank lines exactly if its file had no scopes, if the request that handed it
over was forced, or if a forced request was owed to the file. -/
theorem run_retries_granted (w : World) (workers : Workers) (steps : List Step) :
    let log := (w.fresh workers).parseLog steps
    let now := ((w.fresh workers).run steps).2.workspace
    let maxRetries := w.settings.parser.maxRetries
    Course maxRetries { workers } log now ∧
      now.queue.Sublist (log.flatMap ParseEvent.jobs) ∧
      ∀ before q force parsed jobs after,
        log = before ++ .handOver q force parsed jobs :: after → ∀ job ∈ jobs,
          job.path = q ∧
            (parsed = false ∨ force = true ∨ Owed q before → job.retries = maxRetries) ∧
            (¬(parsed = false ∨ force = true ∨ Owed q before) → job.retries = 0) := by
  intro log now maxRetries
  have haccounted : Accounted maxRetries log now := run_accounted w workers steps
  exact ⟨run_course steps (w := w.fresh workers) (orderly_new workers), haccounted.queued,
    haccounted.granted⟩

theorem run_retries_granted_moved :
    let w := emptyOnly.fresh .lent
    let steps : List Step := [.refresh "a.js" false, .deliver 0, .change "a.js" none,
      .refresh "a.js" true, .renameText "a.js" "b.js", .rename "a.js" "b.js",
      .refresh "b.js" false]
    ∃ routine granted, (w.run steps).2.workspace.queue = [routine, granted] ∧
      granted.path = "b.js" ∧ granted.retries = emptyOnly.settings.parser.maxRetries := by
  intro w steps
  have hlog : w.parseLog steps =
      ([.request "a.js" false false, .handOver "a.js" false false [⟨"a.js", "", 10⟩],
        .request "a.js" false false, .handOver "a.js" false true [⟨"a.js", "", 0⟩]] ++
        .request "a.js" true true :: [.move "a.js" "b.js", .request "b.js" false false]) ++
      .handOver "b.js" false true [⟨"b.js", "", 10⟩] :: [] := by decide +kernel
  obtain ⟨-, -, hgranted⟩ := run_retries_granted emptyOnly .lent steps
  have hjob := hgranted _ "b.js" false true _ [] hlog ⟨"b.js", "", 10⟩ (List.mem_singleton_self _)
  refine ⟨⟨"a.js", "", 0⟩, ⟨"b.js", "", 10⟩, by decide +kernel, hjob.1, hjob.2.1 (.inr (.inr ?_))⟩
  exact ⟨_, "a.js", _, rfl, rfl⟩

end World

end ScopeHints
