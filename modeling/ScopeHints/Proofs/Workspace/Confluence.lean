import Mathlib.Logic.Function.Iterate
import ScopeHints.Proofs.Workspace.Frame
import ScopeHints.Proofs.Workspace.Lane

/-! Jobs may end in any order. As long as no file is moved or forgotten, each file has at most one
job; what the jobs of a file make of it, one after the other, is then the same whatever the jobs of
other files do in between. -/
namespace ScopeHints

namespace Workspace
variable {ws ws' : Workspace} {p q : String} {t : Nat}

/-- The job of a file is awaited and is the only one of this file. -/
theorem Paired.sole {i : Nat} {job : Job} (h : ws.Paired job.path) (hj : ws.queue[i]? = some job) :
    ws.jobsOf job.path = [job] ∧ (ws.standing job.path).inFlight = true ∧
      (ws.queue.eraseIdx i).filter (·.path = job.path) = [] := by
  have hm : job ∈ ws.jobsOf job.path := List.mem_filter.2 ⟨List.mem_of_getElem? hj, by simp⟩
  have hpos := List.length_pos_of_mem hm
  unfold Paired at h
  cases hi : (ws.standing job.path).inFlight with
  | false =>
    rw [hi, Bool.toNat_false] at h
    omega
  | true =>
    rw [hi, Bool.toNat_true] at h
    obtain ⟨other, hone⟩ := List.length_eq_one_iff.1 h
    obtain ⟨rfl, hnone⟩ := filter_eraseIdx_of_pos hj (by simp) hone
    exact ⟨hone, rfl, hnone⟩

theorem followJobs_length (host : Host) (p : String) {s : Standing} (h : s.inFlight = false) :
    (host.followJobs p s).length = (s.followed (host.readable p)).inFlight.toNat := by
  unfold Host.followJobs Standing.followed
  split
  · exact jobs_length host p false s
  · rw [h]
    rfl

theorem deliver_paired (host : Host) (ho : Orderly ws) (hp : ∀ q, ws.Paired q) (i : Nat) (q : String) :
    (deliver host ws i).2.Paired q := by
  cases hj : ws.queue[i]? with
  | none =>
    rw [deliver_none host hj]
    exact hp q
  | some job =>
    obtain ⟨-, hi, hnone⟩ := (hp job.path).sole hj
    obtain ⟨ws₀, s, hpop, hs, ht, -⟩ := deliver_taken host hj hi (ho.keyed job.path)
    have hjobs := jobsOf_append (p := q) ht.queue ht.mine
    unfold Paired
    rw [hjobs, jobsOf, hpop.queue]
    by_cases hq : q = job.path
    · subst hq
      rw [hnone, if_pos rfl, List.nil_append, ht.standing]
      exact followJobs_length host job.path (by rw [hs]; rfl)
    · rw [if_neg (Ne.symm hq), List.append_nil, filter_eraseIdx_of_neg hj (by simp [Ne.symm hq]),
        ht.standing_of_ne hq, standing_congr hpop.files]
      exact hp q

/-! ### One job -/

/-- A job does to the lane of its file what the lane alone decides. -/
theorem lane_deliver (host : Host) (ho : Orderly ws) {i : Nat} {job : Job}
    (hp : ws.Paired job.path) (hj : ws.queue[i]? = some job) (t : Nat) :
    (deliver host ws i).2.lane job.path t =
      (ws.lane job.path t).next host (parse host ws) job.path t := by
  obtain ⟨hjobs, hi, hnone⟩ := hp.sole hj
  obtain ⟨ws₀, outcome, hpop, hd, houtcome⟩ := deliver_eq_receive host hj
  have hlane : ws₀.lane job.path t = { ws.lane job.path t with jobs := [] } := by
    rw [lane, hpop.files, hpop.answers, standing_congr hpop.files, waiting_congr hpop.files,
      hpop.file, jobsOf, hpop.queue, hnone]
    rfl
  have hone : (ws.lane job.path t).jobs = [job] := hjobs
  rw [hd, lane_receive host outcome (by rw [standing_congr hpop.files]; exact hi)
    (by rw [hpop.file]; exact ho.keyed job.path), hlane, Lane.next]
  simp only [hone]
  rw [takenAt, houtcome]

theorem lane_deliver_of_ne (host : Host) (ho : Orderly ws) {i : Nat} {job : Job}
    (hp : ws.Paired job.path) (hj : ws.queue[i]? = some job) (hne : p ≠ job.path)
    (ht : ∀ pd, ws.waiting job.path = some pd → pd.ticket ≠ t) :
    (deliver host ws i).2.lane p t = ws.lane p t := by
  have hfiles := (deliver_confined host ho hj).files p hne
  -- Answers are no part of one file: read in the lane of the job, none was given.
  have hreply : ((deliver host ws i).2.lane job.path t).reply = (ws.lane job.path t).reply := by
    rw [lane_deliver host ho hp hj]
    exact (Lane.next_closes host _ _ _).reply ht
  have hjobs : (deliver host ws i).2.jobsOf p = ws.jobsOf p := by
    obtain ⟨ws₀, s, hpop, -, hturn, -⟩ := deliver_taken host hj (hp.sole hj).2.1 (ho.keyed job.path)
    rw [jobsOf_append hturn.queue hturn.mine, if_neg (Ne.symm hne), List.append_nil, jobsOf, hpop.queue]
    exact filter_eraseIdx_of_neg hj (by simp [Ne.symm hne])
  have hanswers : ((deliver host ws i).2.answers.get? t).map Answer.own =
      (ws.answers.get? t).map Answer.own := hreply
  rw [lane, hanswers, hjobs, Table.contains, hfiles, standing, waiting, file_congr hfiles]
  rfl

theorem waiting_deliver (host : Host) (ho : Orderly ws) (hp : ∀ q, ws.Paired q) {i : Nat}
    {pd : Pending} (h : (deliver host ws i).2.waiting q = some pd) : ws.waiting q = some pd := by
  cases hj : ws.queue[i]? with
  | none =>
    rw [deliver_none host hj] at h
    exact h
  | some job =>
    by_cases hq : q = job.path
    · subst hq
      have hlane := congrArg Lane.pending (lane_deliver host ho (hp job.path) hj 0)
      exact (Lane.next_closes host _ _ _).pending pd (hlane.symm.trans h)
    · rw [waiting, file_congr ((deliver_confined host ho hj).files q hq)] at h
      exact h

theorem parse_deliver (host : Host) (ho : Orderly ws) (hp : ∀ q, ws.Paired q) (i : Nat) :
    parse host (deliver host ws i).2 = parse host ws := by
  cases hj : ws.queue[i]? with
  | none => rw [deliver_none host hj]
  | some job =>
    obtain ⟨ws₀, s, hpop, -, ht, -⟩ :=
      deliver_taken host hj ((hp job.path).sole hj).2.1 (ho.keyed job.path)
    exact (parse_congr (sameWorkers_of_eq host ht.workers)).trans (parse_congr hpop.workers)

/-! ### Requests -/

theorem markDirty_paired (ho : Orderly ws) (q : String) (h : ws.Paired p) :
    (ws.markDirty q).Paired p :=
  (markDirty_turn (ho.keyed q)).paired h fun _ => rfl

theorem drain_paired (host : Host) (fuel : Nat) {ws : Workspace} (ho : Orderly ws)
    (hp : ∀ q, ws.Paired q) (q : String) : (drain host fuel ws).2.Paired q := by
  induction fuel generalizing ws with
  | zero => exact hp q
  | succ fuel ih =>
    rw [drain_succ]
    split
    · exact hp q
    · exact ih (deliver_advance host ho 0).1.orderly (deliver_paired host ho hp 0)

theorem stop_paired (host : Host) (ws : Workspace) (q : String) : (stop host ws).2.Paired q := by
  have hf : ws.reset.files = {} := (reset_forgotten ws).files
  -- No file awaits an answer after a reset, and the queue is drained.
  obtain ⟨hfiles, hrest, -⟩ := drain_forgotten host (ws.reset.queue.length + ws.reset.dirtyCount) hf
  have hqueue := hrest.trans (List.drop_eq_nil_of_le (Nat.le_add_right _ _))
  change (stop host ws).2.files = {} at hfiles
  change (stop host ws).2.queue = [] at hqueue
  unfold Paired jobsOf standing file
  rw [hfiles, hqueue]
  rfl

end Workspace

/-- The step takes a file away from the job that is awaited for it. -/
def Step.orphans : Step → Bool
  | .rename _ _ | .reset => true
  | _ => false

namespace World
open Workspace

theorem step_paired {w : World} (h : Orderly w.workspace) (hp : ∀ q, w.workspace.Paired q)
    {s : Step} (hs : s.orphans = false) (q : String) : (w.step s).2.workspace.Paired q := by
  cases s with
  | refresh path force =>
    obtain ⟨new, ha⟩ := refresh_asked w.host h q path force
    exact ha.paired (hp q)
  | markDirty path => exact markDirty_paired h path (hp q)
  | change path change =>
    obtain ⟨new, ha⟩ := textChanged_asked w.host h q path change
    exact ha.paired (markDirty_paired h path (hp q))
  | refreshDirectory path =>
    obtain ⟨new, ha⟩ := refreshDirectory_asked w.host h q path
    exact ha.paired (hp q)
  | lookup path offset =>
    obtain ⟨new, ha⟩ := lookup_asked w.host h q path offset
    exact ha.paired (hp q)
  | hints path query maxResults fed =>
    obtain ⟨new, ha⟩ := lookup_asked w.host h q path query.offset
    rw [step_hints]
    split
    · exact ha.paired (hp q)
    · exact hp q
  | cancel t =>
    simp only [step, answer, cancel]
    split
    · exact (hp q).congr (settle_files _ _ _) (settle_queue _ _ _)
    · exact hp q
  | deliver place => exact deliver_paired w.host h hp place q
  | idle => exact drain_paired w.host _ h hp q
  | start =>
    simp only [step]
    split
    · rename_i ws hstart
      obtain ⟨-, events, workers, rfl⟩ := start_eq_some hstart
      exact (hp q).congr rfl rfl
    · exact hp q
  | stop => exact stop_paired w.host w.workspace q
  | status | paths | setText | delete | renameText => exact hp q
  | rename | reset => cases hs

theorem run_paired (steps : List Step) {w : World} (h : Orderly w.workspace)
    (hp : ∀ q, w.workspace.Paired q) (hs : ∀ s ∈ steps, s.orphans = false) :
    ∀ q, (w.run steps).2.workspace.Paired q := by
  induction steps generalizing w with
  | nil => exact hp
  | cons s steps ih =>
    have hstep := step_paired h hp (hs s List.mem_cons_self)
    exact ih (step_advance h s).orderly hstep fun r hr => hs r (List.mem_cons_of_mem s hr)

/-! ### Many jobs -/

/-- In whatever order jobs end, the lane of a file only sees how many of its own did. -/
theorem run_lane (order : List Nat) {w : World} (h : Orderly w.workspace)
    (hp : ∀ q, w.workspace.Paired q) {p : String} {t : Nat}
    (ht : ∀ q pd, q ≠ p → w.workspace.waiting q = some pd → pd.ticket ≠ t) :
    ∃ n, (w.run (order.map .deliver)).2.workspace.lane p t =
      (Lane.next w.host (parse w.host w.workspace) p t)^[n] (w.workspace.lane p t) := by
  induction order generalizing w with
  | nil => exact ⟨0, rfl⟩
  | cons i order ih =>
    have hrun : (w.run ((i :: order).map .deliver)).2 =
        (World.run { w with workspace := (deliver w.host w.workspace i).2 } (order.map .deliver)).2 :=
      rfl
    -- The rest of the order starts from the index after its first job.
    obtain ⟨n, hn⟩ := ih (w := { w with workspace := (deliver w.host w.workspace i).2 })
      (deliver_advance w.host h i).1.orderly (deliver_paired w.host h hp i)
      fun q pd hq hpd => ht q pd hq (waiting_deliver w.host h hp hpd)
    have hparse := parse_deliver w.host h hp i
    change _ = (Lane.next w.host (parse w.host (deliver w.host w.workspace i).2) p t)^[n]
      ((deliver w.host w.workspace i).2.lane p t) at hn
    rw [hparse] at hn
    rw [hrun, hn]
    cases hj : w.workspace.queue[i]? with
    | none => exact ⟨n, by rw [deliver_none w.host hj]⟩
    | some job =>
      by_cases hjob : p = job.path
      · subst hjob
        refine ⟨n + 1, ?_⟩
        rw [lane_deliver w.host h (hp job.path) hj, Function.iterate_succ_apply]
      · refine ⟨n, ?_⟩
        rw [lane_deliver_of_ne w.host h (hp job.path) hj hjob fun pd => ht job.path pd (Ne.symm hjob)]

theorem run_lane_unique {first second : List Nat} {w : World} (h : Orderly w.workspace)
    (hp : ∀ q, w.workspace.Paired q) {p : String} {t : Nat}
    (ht : ∀ q pd, q ≠ p → w.workspace.waiting q = some pd → pd.ticket ≠ t)
    (hfirst : (w.run (first.map .deliver)).2.workspace.queue = [])
    (hsecond : (w.run (second.map .deliver)).2.workspace.queue = []) :
    (w.run (first.map .deliver)).2.workspace.lane p t =
      (w.run (second.map .deliver)).2.workspace.lane p t := by
  have hdone : ∀ ws : Workspace, ws.queue = [] → (ws.lane p t).jobs = [] := by
    intro ws hq
    change ws.jobsOf p = []
    rw [jobsOf, hq]
    rfl
  obtain ⟨m, hm⟩ := run_lane first h hp ht
  obtain ⟨n, hn⟩ := run_lane second h hp ht
  have hm' := hdone _ hfirst
  have hn' := hdone _ hsecond
  rw [hm] at hm' ⊢
  rw [hn] at hn' ⊢
  exact Lane.iterate_next_unique hm' hn'

/-- Two indexes know the same of every file and have answered the same lookups, with the same
answers as far as these come from the file that was looked up. -/
structure Agree (ws ws' : Workspace) : Prop where
  tracked : ∀ p, ws'.files.contains p = ws.files.contains p
  standing : ∀ p, ws'.standing p = ws.standing p
  innerDirty : ∀ p, (ws'.file p).innerDirty = (ws.file p).innerDirty
  waiting : ∀ p, ws'.waiting p = ws.waiting p
  answers : ∀ t, (ws'.answers.get? t).map Answer.own = (ws.answers.get? t).map Answer.own

/-- As long as no file was moved or forgotten, it does not matter in which order the jobs end, with
those that follow from their answers. -/
theorem run_jobs_agree (w : World) (workers : Workers) (steps : List Step)
    (hsteps : ∀ s ∈ steps, s.orphans = false) (first second : List Nat)
    (hfirst : ((w.fresh workers).run (steps ++ first.map .deliver)).2.workspace.queue = [])
    (hsecond : ((w.fresh workers).run (steps ++ second.map .deliver)).2.workspace.queue = []) :
    Agree ((w.fresh workers).run (steps ++ first.map .deliver)).2.workspace
      ((w.fresh workers).run (steps ++ second.map .deliver)).2.workspace := by
  have hnew : Orderly (w.fresh workers).workspace := orderly_new workers
  have h := (run_advance steps hnew).orderly
  have hp := run_paired steps hnew (fun _ => rfl) hsteps
  rw [run_append] at hfirst hsecond ⊢
  rw [run_append]
  generalize ((w.fresh workers).run steps).2 = v at h hp hfirst hsecond ⊢
  have hlane : ∀ p, (v.run (second.map .deliver)).2.workspace.lane p v.workspace.issued =
      (v.run (first.map .deliver)).2.workspace.lane p v.workspace.issued := by
    intro p
    refine run_lane_unique h hp ?_ hsecond hfirst
    intro q pd _ hpd
    exact Nat.ne_of_lt (h.tickets.numbered q pd hpd)
  refine ⟨fun p => congrArg Lane.tracked (hlane p), fun p => congrArg Lane.standing (hlane p),
    fun p => congrArg Lane.innerDirty (hlane p), fun p => congrArg Lane.pending (hlane p), ?_⟩
  intro t
  -- The lane that tells the answer is that of the file for which the lookup waits.
  obtain ⟨p, ht⟩ : ∃ p, ∀ q pd, q ≠ p → v.workspace.waiting q = some pd → pd.ticket ≠ t := by
    by_cases hw : ∃ p pd, v.workspace.waiting p = some pd ∧ pd.ticket = t
    · obtain ⟨p, pd, hpd, rfl⟩ := hw
      exact ⟨p, fun q pd' hq hpd' he => hq (h.tickets.single q p pd' pd hpd' hpd he)⟩
    · exact ⟨"", fun q pd _ hpd he => hw ⟨q, pd, hpd, he⟩⟩
  exact congrArg Lane.reply (run_lane_unique h hp ht hsecond hfirst)

def twoEmpty : World := { emptyOnly with texts := ⟨[("a.js", ""), ("b.js", "")]⟩ }

def lookedTwice : List Step :=
  [.lookup "a.js" 0, .lookup "b.js" 0, .refresh "a.js" true]

theorem run_jobs_agree_lookedTwice :
    (∀ s ∈ lookedTwice, s.orphans = false) ∧
      Agree ((twoEmpty.fresh .lent).run (lookedTwice ++ [.deliver 0, .deliver 0, .deliver 0])).2.workspace
        ((twoEmpty.fresh .lent).run (lookedTwice ++ [.deliver 1, .deliver 0, .deliver 0])).2.workspace := by
  have hsteps : ∀ s ∈ lookedTwice, s.orphans = false := by decide
  have hfirst : ((twoEmpty.fresh .lent).run
      (lookedTwice ++ [0, 0, 0].map .deliver)).2.workspace.queue = [] := by decide +kernel
  have hsecond : ((twoEmpty.fresh .lent).run
      (lookedTwice ++ [1, 0, 0].map .deliver)).2.workspace.queue = [] := by decide +kernel
  exact ⟨hsteps, run_jobs_agree twoEmpty .lent lookedTwice hsteps [0, 0, 0] [1, 0, 0] hfirst hsecond⟩

end World

end ScopeHints
