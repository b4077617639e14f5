import ScopeHints.Proofs.Workspace.Budget

/-! How a file loses the mark that its text changed: only by its text being asked for, and then also
when the source refuses the text. The change is in no job then, and nothing asks for it again. -/
namespace ScopeHints

namespace ParseEvent

/-- The path at which the file that stands at `q` stands after an event, unless the file is gone. -/
def place (q : String) : ParseEvent → Option String
  | .request .. | .handOver .. => some q
  | .move old new => if q = old then some new else if q = new then none else some q
  | .forget => none

def AskedOf (host : Host) : ParseEvent → Prop
  | .request .. => True
  | .handOver q force _ jobs => ∃ s, jobs = host.jobs q force s
  | .move .. | .forget => False

theorem AskedOf.place {host : Host} {e : ParseEvent} (h : e.AskedOf host) (q : String) :
    e.place q = some q := by
  cases e with
  | request | handOver => rfl
  | move | forget => cases h

theorem place_of_askedOf {host : Host} {log : List ParseEvent} (h : ∀ e ∈ log, e.AskedOf host)
    (q : String) : log.foldlM (fun q e => e.place q) q = some q := by
  induction log with
  | nil => rfl
  | cons e log ih =>
    obtain ⟨he, hlog⟩ := List.forall_mem_cons.1 h
    rw [List.foldlM_cons, he.place]
    exact ih hlog

end ParseEvent

theorem Host.requestEvents_askedOf (host : Host) (p : String) (force : Bool) (s : Standing) :
    ∀ e ∈ host.requestEvents p force s, e.AskedOf host := by
  unfold Host.requestEvents
  split
  · simp only [List.forall_mem_cons]
    exact ⟨trivial, ⟨s, rfl⟩, by simp⟩
  · simp only [List.forall_mem_cons]
    exact ⟨trivial, by simp⟩

theorem Host.requestEvents_jobs (host : Host) (p : String) (force : Bool) (s : Standing) :
    (host.requestEvents p force s).flatMap ParseEvent.jobs = host.requestJobs p force s := by
  unfold Host.requestEvents Host.requestJobs
  split <;> simp [ParseEvent.jobs]

theorem Host.jobs_cases (host : Host) (p : String) (force : Bool) (s : Standing) :
    (∃ job, host.jobs p force s = [job] ∧ job.path = p ∧ host.source.read p = .ok job.text) ∨
    ∃ reason, host.source.read p = .error reason ∧ host.jobs p force s = [] := by
  unfold Host.jobs
  cases hr : host.source.read p with
  | ok text => exact .inl ⟨_, rfl, rfl, rfl⟩
  | error reason => exact .inr ⟨reason, rfl, rfl⟩

namespace Workspace
variable {ws ws' : Workspace} {p q : String} {maxRetries : Int} {log : List ParseEvent}

theorem standing_of_status {b : Bool} (h : (ws.status? p).map (·.outerDirty) = some b) :
    (ws.standing p).outerDirty = b := by
  rw [status?, Option.map_map] at h
  obtain ⟨f, hf, rfl⟩ := Option.map_eq_some_iff.1 h
  rw [standing, file_eq hf]
  rfl

theorem Happens.marked {e : ParseEvent} (h : Happens maxRetries ws ws' e)
    (hplace : e.place q = some p) (hd : (ws.standing q).outerDirty = true) :
    (ws'.standing p).outerDirty = true ∨
      ∃ force parsed jobs, e = .handOver q force parsed jobs ∧ p = q := by
  cases h with
  | @request r force others standing _ =>
    obtain rfl := Option.some.inj hplace
    refine .inl ?_
    by_cases hr : q = r
    · subst hr
      rw [standing, Standing.requested]
      split
      · rfl
      · exact hd
    · rw [others q hr]
      exact hd
  | @handOver host r force _ others _ _ =>
    obtain rfl := Option.some.inj hplace
    by_cases hr : q = r
    · subst hr
      exact .inr ⟨force, _, _, rfl, rfl⟩
    · rw [others q hr]
      exact .inl hd
  | @move old new arrived _ others _ =>
    refine .inl ?_
    simp only [ParseEvent.place] at hplace
    split at hplace
    · rename_i ho
      obtain rfl := Option.some.inj hplace
      rw [ho] at hd
      exact arrived.marked hd
    · rename_i ho
      split at hplace
      · cases hplace
      · rename_i hn
        obtain rfl := Option.some.inj hplace
        rw [others q ho hn]
        exact hd
  | forget => cases hplace

/-- In a course of events a file loses its mark only as its text is asked for, at the path where it
stands by then. -/
theorem Course.marked (h : Course maxRetries ws log ws')
    (hplace : log.foldlM (fun q e => e.place q) q = some p)
    (hd : (ws.standing q).outerDirty = true) :
    (ws'.standing p).outerDirty = true ∨
      ∃ before r force parsed jobs after, log = before ++ .handOver r force parsed jobs :: after ∧
        after.foldlM (fun q e => e.place q) r = some p := by
  induction h generalizing q with
  | refl =>
    obtain rfl := Option.some.inj hplace
    exact .inl hd
  | quiet h _ ih => exact ih hplace ((h.lasts q).marked hd)
  | @event ws ws' ws'' e log h _ ih =>
    rw [List.foldlM_cons] at hplace
    obtain ⟨r, hr, hrest⟩ := Option.bind_eq_some_iff.1 hplace
    obtain hd' | ⟨force, parsed, jobs, rfl, rfl⟩ := h.marked hr hd
    · obtain hend | ⟨before, q', force, parsed, jobs, after, rfl, hafter⟩ := ih hrest hd'
      · exact .inl hend
      · exact .inr ⟨e :: before, q', force, parsed, jobs, after, rfl, hafter⟩
    · exact .inr ⟨[], _, force, parsed, jobs, log, rfl, hrest⟩

/-! ### The events of single operations -/

theorem refreshedParses_askedOf (host : Host) (paths : List String) (ws : Workspace) :
    ∀ e ∈ refreshedParses host ws paths, e.AskedOf host := by
  induction paths generalizing ws with
  | nil => simp [refreshedParses]
  | cons p paths ih =>
    rw [refreshedParses]
    exact List.forall_mem_append.2 ⟨host.requestEvents_askedOf _ _ _, ih _⟩

theorem lookedParses_askedOf (host : Host) (ws : Workspace) (p : String) (offset : Int) :
    ∀ e ∈ lookedParses host ws p offset, e.AskedOf host := by
  unfold lookedParses
  split
  · exact host.requestEvents_askedOf _ _ _
  · split
    · exact host.requestEvents_askedOf _ _ _
    · simp

theorem deliveredParses_askedOf (host : Host) (ws : Workspace) (i : Nat) :
    ∀ e ∈ deliveredParses host ws i, e.AskedOf host := by
  unfold deliveredParses
  split
  · simp
  · dsimp only
    split
    · simp only [List.forall_mem_singleton]
      exact ⟨_, rfl⟩
    · simp

theorem drainedParses_askedOf (host : Host) (fuel : Nat) (ws : Workspace) :
    ∀ e ∈ drainedParses host fuel ws, e.AskedOf host := by
  induction fuel generalizing ws with
  | zero => simp [drainedParses]
  | succ fuel ih =>
    rw [drainedParses]
    split
    · simp
    · exact List.forall_mem_append.2 ⟨deliveredParses_askedOf host ws 0, ih _⟩

theorem parses_split (host : Host) (ws : Workspace) (s : Step) :
    ∃ moves asked, ws.parses host s = moves ++ asked ∧ (∀ e ∈ moves, ∀ q force parsed jobs,
      e ≠ .handOver q force parsed jobs) ∧ ∀ e ∈ asked, e.AskedOf host := by
  have hasked {log : List ParseEvent} (h : ∀ e ∈ log, e.AskedOf host) :
      ∃ moves asked, log = moves ++ asked ∧ (∀ e ∈ moves, ∀ q force parsed jobs,
        e ≠ .handOver q force parsed jobs) ∧ ∀ e ∈ asked, e.AskedOf host :=
    ⟨[], log, rfl, by simp, h⟩
  cases s with
  | refresh path force => exact hasked (host.requestEvents_askedOf _ _ _)
  | change path change =>
    rw [parses]
    split
    · exact hasked (host.requestEvents_askedOf _ _ _)
    · exact hasked (by simp)
  | refreshDirectory path => exact hasked (refreshedParses_askedOf host _ _)
  | rename old new =>
    rw [parses, movedParses]
    split
    · exact hasked (by simp)
    · rename_i f hf
      refine ⟨[.move old new], if f.inFlight && f.pending.isSome then
        host.requestEvents new false (f.movedTo new).standing else [], rfl, by simp, ?_⟩
      split
      · exact host.requestEvents_askedOf _ _ _
      · simp
  | lookup path offset => exact hasked (lookedParses_askedOf host ws path offset)
  | hints path query maxResults fed =>
    rw [parses]
    split
    · exact hasked (lookedParses_askedOf host ws path query.offset)
    · exact hasked (by simp)
  | deliver i => exact hasked (deliveredParses_askedOf host ws i)
  | idle => exact hasked (drainedParses_askedOf host _ ws)
  | reset | stop => exact ⟨[.forget], [], rfl, by simp, by simp⟩
  | markDirty | status | paths | cancel | start | setText | delete | renameText =>
    exact hasked (by simp [parses])

/-- From the first text that a step asks for on, it only asks for texts. -/
theorem asked_from_handOver (host : Host) (ws : Workspace) (s : Step) {force parsed : Bool}
    {jobs : List Job} {before after : List ParseEvent}
    (hlog : ws.parses host s = before ++ .handOver p force parsed jobs :: after) :
    ∀ e ∈ .handOver p force parsed jobs :: after, e.AskedOf host := by
  obtain ⟨moves, asked, hsplit, hmoves, hasked⟩ := parses_split host ws s
  obtain ⟨front, -, hlater⟩ | ⟨front, hmoved, hlater⟩ :=
    List.append_eq_append_iff.1 (hsplit.symm.trans hlog)
  · rw [hlater] at hasked
    exact (List.forall_mem_append.1 hasked).2
  · cases front with
    | nil =>
      rw [hlater]
      exact hasked
    | cons e front =>
      obtain ⟨rfl, -⟩ := List.cons.inj hlater
      rw [hmoved] at hmoves
      exact absurd rfl (hmoves _ (List.mem_append_right _ List.mem_cons_self) p force parsed jobs)

/-! ### Steps that take the mark -/

/-- The file at `p` is tracked with the mark that its text changed, and a step leaves it at `q`
without the mark. -/
structure Unmarks (host : Host) (ws : Workspace) (s : Step) (p q : String) : Prop where
  marked : (ws.status? p).map (·.outerDirty) = some true
  stays : (ws.parses host s).foldlM (fun q e => e.place q) p = some q
  clean : ((ws.after host s).status? q).map (·.outerDirty) = some false

def Captures (host : Host) (ws : Workspace) (s : Step) (p : String) : Prop :=
  ∃ job ∈ (ws.parses host s).flatMap ParseEvent.jobs, job.path = p ∧
    host.source.read p = .ok job.text

theorem Unmarks.captures_or_refused {host : Host} {s : Step} (h : Orderly ws)
    (hu : Unmarks host ws s p q) :
    Captures host ws s q ∨ ∃ reason, host.source.read q = .error reason := by
  obtain ⟨hmarked, hplace, hclean⟩ := hu
  have hd := standing_of_status hmarked
  have hc := standing_of_status hclean
  obtain hend | ⟨before, r, force, parsed, jobs, after, hlog, hafter⟩ :=
    (after_course host h s).marked hplace hd
  · rw [hc] at hend
    cases hend
  -- The file has moved by the time its text is asked for.
  have hrest := asked_from_handOver host ws s hlog
  obtain ⟨⟨standing, rfl⟩, hlater⟩ := List.forall_mem_cons.1 hrest
  rw [ParseEvent.place_of_askedOf hlater] at hafter
  obtain rfl := Option.some.inj hafter
  obtain ⟨job, hjob, hpath, hread⟩ | ⟨reason, hread, -⟩ := host.jobs_cases r force standing
  · refine .inl ⟨job, ?_, hpath, hread⟩
    rw [hlog, List.flatMap_append, List.flatMap_cons]
    refine List.mem_append_right _ (List.mem_append_left _ ?_)
    rw [ParseEvent.jobs, hjob]
    exact List.mem_singleton_self job
  · exact .inr ⟨reason, hread⟩

/-- A request for a file whose text the source refuses takes the mark and a forced request that is
owed, as if the text had been handed over. -/
theorem refresh_refused (host : Host) (h : Orderly ws) {reason : String} {force : Bool}
    (hread : host.source.read p = .error reason) (hdue : (ws.standing p).due force = true) :
    (ws.after host (.refresh p force)).standing p =
      ⟨(ws.standing p).content, false, false, false⟩ ∧
    (ws.after host (.refresh p force)).queue = ws.queue := by
  have hturn := refresh_turn host force (h.keyed p)
  have hreadable : host.readable p = false := by
    rw [Host.readable, hread]
    rfl
  have hjobs : host.requestJobs p force (ws.standing p) = [] := by
    rw [Host.requestJobs, if_pos hdue, Host.jobs, hread]
  refine ⟨?_, ?_⟩
  · refine hturn.standing.trans ?_
    rw [Standing.refreshed, if_pos hdue, hreadable]
    rfl
  · refine hturn.queue.trans ?_
    rw [hjobs, List.append_nil]

theorem unmarked_unasked (host : Host) (houter : (ws.standing p).content.outer.isSome = true)
    (hclean : (ws.standing p).outerDirty = false) (offset : Int) :
    (ws.parses host (.refresh p false)).flatMap ParseEvent.jobs = [] ∧
    (ws.parses host (.lookup p offset)).flatMap ParseEvent.jobs = [] := by
  have hdue : (ws.standing p).due false = false := by
    simp [Standing.due, hclean, Option.isNone_eq_false_iff.2 houter]
  have hrequest : (host.requestEvents p false (ws.standing p)).flatMap ParseEvent.jobs = [] := by
    rw [Host.requestEvents_jobs, Host.requestJobs, if_neg (by simp [hdue])]
  refine ⟨hrequest, ?_⟩
  rw [parses, lookedParses]
  split
  · exact hrequest
  · split
    · exact hrequest
    · rfl

/-! ### Reachable indexes -/

/-- The states of an index with a parser and settings. Each step has a source of its own, as texts
come, change and go at any time. -/
inductive Reached (parser : Parser) (settings : Settings) : Workspace → Prop
  | new (workers : Workers) : Reached parser settings { workers }
  | step {ws : Workspace} (h : Reached parser settings ws) (source : TextSource) (s : Step) :
      Reached parser settings (ws.after ⟨source, parser, settings⟩ s)

theorem Reached.orderly {parser : Parser} {settings : Settings} (h : Reached parser settings ws) :
    Orderly ws := by
  induction h with
  | new workers => exact orderly_new workers
  | step _ source s ih => exact (after_advance ⟨source, parser, settings⟩ ih s).orderly

/-- A step is the course of its events, and takes the mark that the text of a file changed only by
asking for this text. If the source has it, the step queues a job with it. If the source refuses it,
a request leaves the file as if its text had been handed over: without the mark and without what a
forced request was owed. A file with scopes is then not asked for again by a later request or
lookup, whatever the source has by then. -/
theorem Reached.unmarks {parser : Parser} {settings : Settings} (h : Reached parser settings ws)
    (source : TextSource) :
    let host : Host := ⟨source, parser, settings⟩
    (∀ s, Course settings.parser.maxRetries ws (ws.parses host s) (ws.after host s)) ∧
    (∀ s p q, Unmarks host ws s p q →
      Captures host ws s q ∨ ∃ reason, source.read q = .error reason) ∧
    ∀ p force reason, source.read p = .error reason → (ws.standing p).due force = true →
      let next := ws.after host (.refresh p force)
      next.standing p = ⟨(ws.standing p).content, false, false, false⟩ ∧ next.queue = ws.queue ∧
      ((ws.standing p).content.outer.isSome = true → ∀ (later : Host) (offset : Int),
        (next.parses later (.refresh p false)).flatMap ParseEvent.jobs = [] ∧
        (next.parses later (.lookup p offset)).flatMap ParseEvent.jobs = []) := by
  intro host
  refine ⟨after_course host h.orderly, fun s p q hu => hu.captures_or_refused h.orderly, ?_⟩
  intro p force reason hread hdue next
  obtain ⟨hstanding, hqueue⟩ := refresh_refused host h.orderly hread hdue
  refine ⟨hstanding, hqueue, ?_⟩
  intro houter later offset
  have hnext : next.standing p = ⟨(ws.standing p).content, false, false, false⟩ := hstanding
  exact unmarked_unasked later (by rw [hnext]; exact houter) (by rw [hnext]) offset

/-- An index whose only file was parsed as an empty text and is marked as changed. -/
def emptyMarked : Workspace :=
  let host := World.emptyOnly.host
  ((({} : Workspace).after host (.refresh "a.js" false)).after host (.deliver 0)).after host
    (.markDirty "a.js")

theorem emptyMarked_reached : Reached World.emptyOnly.parser {} emptyMarked :=
  let source := World.emptyOnly.host.source
  .step (.step (.step (.new .lent) source (.refresh "a.js" false)) source (.deliver 0)) source
    (.markDirty "a.js")

theorem Reached.unmarks_emptyMarked :
    Reached World.emptyOnly.parser {} emptyMarked ∧
    Captures World.emptyOnly.host emptyMarked (.refresh "a.js" false) "a.js" := by
  refine ⟨emptyMarked_reached, ?_⟩
  have hu : Unmarks World.emptyOnly.host emptyMarked (.refresh "a.js" false) "a.js" "a.js" := by
    constructor <;> decide +kernel
  have hread : World.emptyOnly.host.source.read "a.js" = .ok "" := by decide +kernel
  refine ((emptyMarked_reached.unmarks World.emptyOnly.host.source).2.1 _ _ _ hu).resolve_right ?_
  rintro ⟨reason, hrefused⟩
  rw [hread] at hrefused
  cases hrefused

def refusing : TextSource := { read := fun path => .error path, list := fun _ => .ok ["a.js"] }

/-- The text of a file changes and is refused when it is asked for. The mark is gone then, and no
job holds the change. -/
theorem mark_lost_refused : ¬ ∀ (parser : Parser) (settings : Settings) (ws : Workspace),
    Reached parser settings ws → ∀ (source : TextSource) (s : Step) (p q : String),
      Unmarks ⟨source, parser, settings⟩ ws s p q →
        Captures ⟨source, parser, settings⟩ ws s q := by
  intro hcaptured
  have hu : Unmarks ⟨refusing, World.emptyOnly.parser, {}⟩ emptyMarked (.refresh "a.js" false)
      "a.js" "a.js" := by
    constructor <;> decide +kernel
  obtain ⟨job, hjob, -⟩ := hcaptured _ _ _ emptyMarked_reached refusing _ _ _ hu
  have hnone : (emptyMarked.parses ⟨refusing, World.emptyOnly.parser, {}⟩
      (.refresh "a.js" false)).flatMap ParseEvent.jobs = [] := by decide +kernel
  rw [hnone] at hjob
  cases hjob

end Workspace

end ScopeHints
