import ScopeHints.Proofs.Workspace.Move

/-! The log of what decides how many lines a parse may blank: requests to parse a file, the times
when its text is asked for, its moves and its end. A forced request that comes while an answer is
awaited is owed to the file, wherever it moves, until its text is next asked for. -/
namespace ScopeHints

inductive ParseEvent where
  /-- The file at a path is to be parsed; `awaited` says that an answer is awaited for it. -/
  | request (q : String) (force awaited : Bool)
  /-- The text of the file at a path is asked for, because of a forced request if `force` says so,
  and the jobs with it are queued; `parsed` says that the file has scopes. -/
  | handOver (q : String) (force parsed : Bool) (jobs : List Job)
  | move (old new : String)
  | forget
  deriving DecidableEq, Repr

namespace ParseEvent

def jobs : ParseEvent → List Job
  | .handOver _ _ _ jobs => jobs
  | _ => []

/-- The path at which the file that stands at `q` stands after an event, unless the file is gone
or its text was asked for. -/
def follow (q : String) : ParseEvent → Option String
  | .request .. => some q
  | .handOver r .. => if r = q then none else some q
  | .move old new => if q = old then some new else if q = new then none else some q
  | .forget => none

end ParseEvent

/-- The file at `p` had a forced request while an answer was awaited for it, maybe at another path,
and its text has not been asked for since. -/
def Owed (p : String) (log : List ParseEvent) : Prop :=
  ∃ earlier q since, log = earlier ++ .request q true true :: since ∧
    since.foldlM (fun q e => e.follow q) q = some p

section Owed
variable {p : String} {log : List ParseEvent}

theorem not_owed_nil (p : String) : ¬ Owed p [] := by
  rintro ⟨earlier, q, since, h, -⟩
  simp at h

/-- Only a forced request makes a file owed, and only the events that follow keep it so. -/
theorem owed_concat (p : String) (log : List ParseEvent) (e : ParseEvent) :
    Owed p (log ++ [e]) ↔
      e = .request p true true ∨ ∃ q, Owed q log ∧ e.follow q = some p := by
  constructor
  · rintro ⟨earlier, r, since, h, hf⟩
    obtain rfl | ⟨since, d, rfl⟩ := List.eq_nil_or_concat since
    · obtain ⟨-, rfl⟩ := List.append_singleton_inj.1 h
      obtain rfl : r = p := Option.some.inj hf
      exact .inl rfl
    · rw [List.concat_eq_append] at h hf
      rw [← List.cons_append, ← List.append_assoc] at h
      obtain ⟨rfl, rfl⟩ := List.append_singleton_inj.1 h
      rw [List.foldlM_append] at hf
      obtain ⟨q, hq, hqp⟩ := Option.bind_eq_some_iff.1 hf
      exact .inr ⟨q, ⟨earlier, r, since, rfl, hq⟩, by simpa using hqp⟩
  · rintro (rfl | ⟨q, ⟨earlier, r, since, rfl, hf⟩, he⟩)
    · exact ⟨log, p, [], rfl, rfl⟩
    · refine ⟨earlier, r, since ++ [e], by simp, ?_⟩
      rw [List.foldlM_append, hf]
      simpa using he

theorem owed_request (q : String) (force awaited : Bool) :
    Owed p (log ++ [.request q force awaited]) ↔
      q = p ∧ force = true ∧ awaited = true ∨ Owed p log := by
  simp [owed_concat, ParseEvent.follow]

theorem owed_handOver (q : String) (force parsed : Bool) (jobs : List Job) :
    Owed p (log ++ [.handOver q force parsed jobs]) ↔ q ≠ p ∧ Owed p log := by
  rw [owed_concat]
  constructor
  · rintro (h | ⟨r, hr, hf⟩)
    · cases h
    · simp only [ParseEvent.follow] at hf
      split at hf
      · cases hf
      · obtain rfl := Option.some.inj hf
        exact ⟨‹_›, hr⟩
  · rintro ⟨hne, h⟩
    exact .inr ⟨p, h, by simp [ParseEvent.follow, hne]⟩

theorem owed_move (old new : String) :
    Owed p (log ++ [.move old new]) ↔
      if p = new then Owed old log else p ≠ old ∧ Owed p log := by
  rw [owed_concat]
  constructor
  · rintro (h | ⟨r, hr, hf⟩)
    · cases h
    · simp only [ParseEvent.follow] at hf
      split at hf
      · rename_i ho
        obtain rfl := Option.some.inj hf
        rw [if_pos rfl, ← ho]
        exact hr
      · rename_i ho
        split at hf
        · cases hf
        · rename_i hn
          obtain rfl := Option.some.inj hf
          rw [if_neg hn]
          exact ⟨ho, hr⟩
  · intro h
    split at h
    · rename_i hp
      exact .inr ⟨old, h, by simp [ParseEvent.follow, hp]⟩
    · rename_i hp
      exact .inr ⟨p, h.2, by simp [ParseEvent.follow, h.1, hp]⟩

theorem not_owed_forget : ¬ Owed p (log ++ [.forget]) := by
  simp [owed_concat, ParseEvent.follow]

end Owed

namespace Standing

def requested (s : Standing) (force : Bool) : Standing :=
  if s.inFlight && force then { s with outerDirty := true, forcePending := true } else s

/-- What an operation that asks for no text leaves of the flags: the forced request that is kept in
mind, and the mark that the text changed. -/
structure Lasts (s s' : Standing) : Prop where
  forced : s'.forcePending = s.forcePending
  marked : s.outerDirty = true → s'.outerDirty = true

theorem Lasts.refl (s : Standing) : s.Lasts s := ⟨rfl, id⟩

theorem inFlight_of_due {s : Standing} {force : Bool} (h : s.due force = true) :
    s.inFlight = false := by
  unfold due at h
  cases hi : s.inFlight <;> simp [hi] at h ⊢

theorem requested_of_due {s : Standing} {force : Bool} (h : s.due force = true) :
    s.requested force = s := by
  rw [requested, inFlight_of_due h]
  rfl

theorem refreshed_of_not_due {s : Standing} {force readable : Bool} (h : s.due force = false) :
    s.refreshed force readable = s.requested force := by
  rw [refreshed, if_neg (by simp [h])]
  rfl

theorem requested_forced (s : Standing) (force : Bool) :
    (s.requested force).forcePending = true ↔
      force = true ∧ s.inFlight = true ∨ s.forcePending = true := by
  unfold requested
  cases s.inFlight <;> cases force <;> simp

end Standing

namespace Workspace
variable {ws ws' ws'' : Workspace} {p q : String} {maxRetries : Int} {log : List ParseEvent}

def Apart (q : String) (ws ws' : Workspace) : Prop := ∀ r, r ≠ q → ws'.standing r = ws.standing r

/-- No request, no text asked for, no move: the flags of all files last, and jobs may only leave
the queue. -/
structure Quiet (ws ws' : Workspace) : Prop where
  lasts : ∀ q, (ws.standing q).Lasts (ws'.standing q)
  queue : ws'.queue.Sublist ws.queue

inductive Happens (maxRetries : Int) (ws ws' : Workspace) : ParseEvent → Prop
  | request {q : String} {force : Bool} (others : Apart q ws ws')
      (standing : ws'.standing q = (ws.standing q).requested force) (queue : ws'.queue = ws.queue) :
      Happens maxRetries ws ws' (.request q force (ws.standing q).inFlight)
  | handOver {host : Host} {q : String} {force : Bool}
      (retries : host.settings.parser.maxRetries = maxRetries) (others : Apart q ws ws')
      (standing : ws'.standing q = (ws.standing q).handed (host.readable q))
      (queue : ws'.queue = ws.queue ++ host.jobs q force (ws.standing q)) :
      Happens maxRetries ws ws' (.handOver q force (ws.standing q).content.outer.isSome
        (host.jobs q force (ws.standing q)))
  | move {old new : String} (arrived : (ws.standing old).Lasts (ws'.standing new))
      (left : old ≠ new → (ws'.standing old).forcePending = false)
      (others : ∀ r, r ≠ old → r ≠ new → ws'.standing r = ws.standing r)
      (queue : ws'.queue = ws.queue) : Happens maxRetries ws ws' (.move old new)
  | forget (forced : ∀ q, (ws'.standing q).forcePending = false) (queue : ws'.queue = ws.queue) :
      Happens maxRetries ws ws' .forget

/-- Events one after the other, with operations between them that make no event. -/
inductive Course (maxRetries : Int) : Workspace → List ParseEvent → Workspace → Prop
  | refl (ws : Workspace) : Course maxRetries ws [] ws
  | quiet {ws ws' ws'' : Workspace} {log : List ParseEvent} (h : Quiet ws ws')
      (rest : Course maxRetries ws' log ws'') : Course maxRetries ws log ws''
  | event {ws ws' ws'' : Workspace} {e : ParseEvent} {log : List ParseEvent}
      (h : Happens maxRetries ws ws' e) (rest : Course maxRetries ws' log ws'') :
      Course maxRetries ws (e :: log) ws''

theorem Quiet.course (h : Quiet ws ws') : Course maxRetries ws [] ws' := .quiet h (.refl ws')

theorem Happens.course {e : ParseEvent} (h : Happens maxRetries ws ws' e) :
    Course maxRetries ws [e] ws' :=
  .event h (.refl ws')

theorem Course.trans {later : List ParseEvent} (h : Course maxRetries ws log ws')
    (h' : Course maxRetries ws' later ws'') : Course maxRetries ws (log ++ later) ws'' := by
  induction h with
  | refl => exact h'
  | quiet h _ ih => exact .quiet h (ih h')
  | event h _ ih => exact .event h (ih h')

/-! ### What a log says -/

/-- The text of a file is handed over with the lines to blank that its state and the log before
grant it. -/
def Granted (maxRetries : Int) (before : List ParseEvent) (q : String) (force parsed : Bool)
    (job : Job) : Prop :=
  job.path = q ∧
    (parsed = false ∨ force = true ∨ Owed q before → job.retries = maxRetries) ∧
    (¬(parsed = false ∨ force = true ∨ Owed q before) → job.retries = 0)

structure Accounted (maxRetries : Int) (log : List ParseEvent) (ws : Workspace) : Prop where
  queued : ws.queue.Sublist (log.flatMap ParseEvent.jobs)
  /-- A forced request is kept in mind exactly as long as it is owed. -/
  owed : ∀ p, (ws.standing p).forcePending = true ↔ Owed p log
  marked : ∀ p, (ws.standing p).forcePending = true → (ws.standing p).outerDirty = true
  granted : ∀ before q force parsed jobs after,
    log = before ++ .handOver q force parsed jobs :: after →
      ∀ job ∈ jobs, Granted maxRetries before q force parsed job

theorem Accounted.quiet (ha : Accounted maxRetries log ws) (h : Quiet ws ws') :
    Accounted maxRetries log ws' := by
  refine ⟨h.queue.trans ha.queued, ?_, ?_, ha.granted⟩
  · intro p
    rw [(h.lasts p).forced]
    exact ha.owed p
  · intro p hp
    rw [(h.lasts p).forced] at hp
    exact (h.lasts p).marked (ha.marked p hp)

theorem Accounted.owed_event (ha : Accounted maxRetries log ws) {e : ParseEvent}
    (h : Happens maxRetries ws ws' e) (p : String) :
    (ws'.standing p).forcePending = true ↔ Owed p (log ++ [e]) := by
  cases h with
  | @request q force others standing _ =>
    rw [owed_request]
    by_cases hp : p = q
    · subst hp
      rw [standing, Standing.requested_forced, ha.owed]
      simp
    · rw [others p hp, ha.owed]
      simp [Ne.symm hp]
  | @handOver host q force _ others standing _ =>
    rw [owed_handOver]
    by_cases hp : p = q
    · subst hp
      rw [standing]
      simp [Standing.handed]
    · rw [others p hp, ha.owed]
      simp [Ne.symm hp]
  | @move old new arrived left others _ =>
    rw [owed_move]
    by_cases hn : p = new
    · subst hn
      rw [if_pos rfl, arrived.forced, ha.owed]
    · rw [if_neg hn]
      by_cases ho : p = old
      · subst ho
        rw [left hn]
        simp
      · rw [others p ho hn, ha.owed]
        simp [ho]
  | forget forced _ =>
    rw [forced]
    simp [not_owed_forget]

theorem Accounted.marked_event (ha : Accounted maxRetries log ws) {e : ParseEvent}
    (h : Happens maxRetries ws ws' e) (p : String) (hp : (ws'.standing p).forcePending = true) :
    (ws'.standing p).outerDirty = true := by
  cases h with
  | @request q force others standing _ =>
    by_cases hq : p = q
    · subst hq
      rw [standing] at hp ⊢
      unfold Standing.requested at hp ⊢
      split
      · rfl
      · rename_i hn
        rw [if_neg hn] at hp
        exact ha.marked p hp
    · rw [others p hq] at hp ⊢
      exact ha.marked p hp
  | @handOver host q force _ others standing _ =>
    by_cases hq : p = q
    · subst hq
      rw [standing] at hp
      cases hp
    · rw [others p hq] at hp ⊢
      exact ha.marked p hp
  | @move old new arrived left others _ =>
    by_cases hn : p = new
    · subst hn
      rw [arrived.forced] at hp
      exact arrived.marked (ha.marked old hp)
    · by_cases ho : p = old
      · subst ho
        rw [left hn] at hp
        cases hp
      · rw [others p ho hn] at hp ⊢
        exact ha.marked p hp
  | forget forced _ =>
    rw [forced] at hp
    cases hp

theorem Happens.queue {e : ParseEvent} (h : Happens maxRetries ws ws' e) :
    ws'.queue = ws.queue ++ e.jobs := by
  cases h with
  | handOver _ _ _ queue => exact queue
  | request _ _ queue => rw [queue]; exact (List.append_nil _).symm
  | move _ _ _ queue => rw [queue]; exact (List.append_nil _).symm
  | forget _ queue => rw [queue]; exact (List.append_nil _).symm

theorem Accounted.granted_event (ha : Accounted maxRetries log ws) {force parsed : Bool}
    {jobs : List Job} (h : Happens maxRetries ws ws' (.handOver q force parsed jobs)) :
    ∀ job ∈ jobs, Granted maxRetries log q force parsed job := by
  cases h with
  | @handOver host _ _ retries _ _ _ =>
    intro job hj
    have hretries : job.retries = (ws.standing q).budget force maxRetries := by
      unfold Host.jobs at hj
      split at hj
      · rw [List.mem_singleton.1 hj, ← retries]
      · cases hj
    have hcond : (force || (ws.standing q).forcePending || (ws.standing q).content.outer.isNone) =
        true ↔ (ws.standing q).content.outer.isSome = false ∨ force = true ∨ Owed q log := by
      rw [← ha.owed]
      simp only [Bool.or_eq_true, Option.isSome_eq_false_iff]
      tauto
    rw [Standing.budget] at hretries
    refine ⟨Host.path_of_mem_jobs hj, ?_, ?_⟩
    · intro hc
      rw [hretries, if_pos (hcond.2 hc)]
    · intro hc
      rw [hretries, if_neg (mt hcond.1 hc)]

theorem Accounted.event (ha : Accounted maxRetries log ws) {e : ParseEvent}
    (h : Happens maxRetries ws ws' e) : Accounted maxRetries (log ++ [e]) ws' := by
  refine ⟨?_, ha.owed_event h, ha.marked_event h, ?_⟩
  · rw [h.queue, List.flatMap_append, List.flatMap_singleton]
    exact ha.queued.append_right _
  · intro before q force parsed jobs after hlog
    obtain rfl | ⟨after, d, rfl⟩ := List.eq_nil_or_concat after
    · obtain ⟨rfl, rfl⟩ := List.append_singleton_inj.1 hlog
      exact ha.granted_event h
    · rw [List.concat_eq_append, ← List.cons_append, ← List.append_assoc] at hlog
      obtain ⟨hlog, -⟩ := List.append_singleton_inj.1 hlog
      exact ha.granted before q force parsed jobs after hlog

/-- What a log says stays true as the log goes on. -/
theorem Course.accounted {later : List ParseEvent} (h : Course maxRetries ws later ws')
    (ha : Accounted maxRetries log ws) : Accounted maxRetries (log ++ later) ws' := by
  induction h generalizing log with
  | refl =>
    rw [List.append_nil]
    exact ha
  | quiet h _ ih => exact ih (ha.quiet h)
  | event h _ ih =>
    rw [List.append_cons]
    exact ih (ha.event h)

theorem accounted_new (maxRetries : Int) (workers : Workers) :
    Accounted maxRetries [] { workers } := by
  refine ⟨List.nil_sublist _, ?_, ?_, ?_⟩
  · intro p
    simp [standing, file, Table.get?, Table.lookupIn, FileIndex.standing, not_owed_nil]
  · intro p hp
    cases hp
  · intro before q force parsed jobs after hlog
    simp at hlog

end Workspace

end ScopeHints
