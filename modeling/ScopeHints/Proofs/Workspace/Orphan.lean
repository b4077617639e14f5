import ScopeHints.Proofs.Workspace.Run

/-! Answers to jobs that were handed over before their path was given up by a reset or a move.
Such an answer is dropped as long as no file awaits one at the path. It is taken in place of the
answer to a younger job as soon as the path was handed over again. -/
namespace ScopeHints

namespace Workspace
variable {ws ws' : Workspace} {P : String → Prop} {start : List Job} {m i : Nat}

/-- The queue begins with `m` jobs of `start`, and for the paths in `P` only the answers of jobs
behind them are awaited. -/
def Aged (P : String → Prop) (start : List Job) (m : Nat) (ws : Workspace) : Prop :=
  ∃ old young, ws.queue = old ++ young ∧ old.length = m ∧ old.Sublist start ∧
    ∀ q, P q → (ws.standing q).inFlight = true → ∃ job ∈ young, job.path = q

theorem Handing.aged {new : List Job} (h : Handing ws ws' new) (ha : Aged P start m ws) :
    Aged P start m ws' := by
  obtain ⟨old, young, hq, hm, hs, hy⟩ := ha
  refine ⟨old, young ++ new, by rw [h.queue, hq, List.append_assoc], hm, hs, ?_⟩
  intro q hP hi
  obtain hi | ⟨job, hj, hp⟩ := h.awaited q hi
  · obtain ⟨job, hj, hp⟩ := hy q hP hi
    exact ⟨job, List.mem_append_left _ hj, hp⟩
  · exact ⟨job, List.mem_append_right _ hj, hp⟩

def olderWithout (m i : Nat) : Nat := if i < m then m - 1 else m

theorem Delivery.aged {new : List Job} (h : Delivery i ws ws' new) (ha : Aged P start m ws) :
    Aged P start (olderWithout m i) ws' := by
  obtain ⟨old, young, hq, rfl, hs, hy⟩ := ha
  unfold olderWithout
  split
  · rename_i hlt
    refine ⟨old.eraseIdx i, young ++ new, ?_, ?_, (List.eraseIdx_sublist old i).trans hs, ?_⟩
    · rw [h.queue, hq, List.eraseIdx_append_of_lt_length hlt, List.append_assoc]
    · rw [List.length_eraseIdx_of_lt hlt]
    · intro q hP hi
      obtain ⟨hi, -⟩ | ⟨job, hj, hp⟩ := h.awaited q hi
      · obtain ⟨job, hj, hp⟩ := hy q hP hi
        exact ⟨job, List.mem_append_left _ hj, hp⟩
      · exact ⟨job, List.mem_append_right _ hj, hp⟩
  · rename_i hle
    have hle : old.length ≤ i := Nat.le_of_not_lt hle
    refine ⟨old, young.eraseIdx (i - old.length) ++ new, ?_, rfl, hs, ?_⟩
    · rw [h.queue, hq, List.eraseIdx_append_of_length_le hle, List.append_assoc]
    · intro q hP hi
      obtain ⟨hi, hne⟩ | ⟨job, hj, hp⟩ := h.awaited q hi
      · -- The job that is awaited at `q` is not the one that is gone.
        obtain ⟨job, hj, hp⟩ := hy q hP hi
        refine ⟨job, List.mem_append_left _ ?_, hp⟩
        rw [hq, List.getElem?_append_right hle] at hne
        cases hgone : young[i - old.length]? with
        | none =>
          rw [List.eraseIdx_of_length_le (List.getElem?_eq_none_iff.1 hgone)]
          exact hj
        | some gone =>
          apply mem_eraseIdx hgone hj
          rintro rfl
          exact hne job hgone hp
      · exact ⟨job, List.mem_append_right _ hj, hp⟩

theorem drain_aged (host : Host) (fuel : Nat) {ws : Workspace} {m : Nat} (h : Orderly ws)
    (ha : Aged P start m ws) : Aged P start (m - (drain host fuel ws).1) (drain host fuel ws).2 := by
  induction fuel generalizing ws m with
  | zero => exact ha
  | succ fuel ih =>
    rw [drain_succ]
    split
    · exact ha
    · obtain ⟨hadv, new, hd⟩ := deliver_advance host h 0
      have ha' := ih hadv.orderly (hd.aged ha)
      have hm : olderWithout m 0 - (drain host fuel (deliver host ws 0).2).1 =
          m - ((drain host fuel (deliver host ws 0).2).1 + 1) := by
        unfold olderWithout
        split <;> omega
      rw [hm] at ha'
      exact ha'

theorem stop_aged (host : Host) (h : Orderly ws) (ha : Aged P start m ws) :
    Aged P start (m - (stop host ws).1) (stop host ws).2 := by
  have hr := reset_request h
  obtain ⟨new, hn⟩ := hr.handing
  exact drain_aged host _ hr.orderly (hn.aged ha)

end Workspace

namespace World
open Workspace
variable {P : String → Prop} {start : List Job}

def olderAfter (w : World) (m : Nat) : Step → Nat
  | .deliver place => olderWithout m place
  | .idle => m - (w.workspace.idle w.host).1
  | .stop => m - (w.workspace.stop w.host).1
  | _ => m

def older (w : World) (m : Nat) : List Step → Nat
  | [] => m
  | s :: steps => (w.step s).2.older (w.olderAfter m s) steps

theorem step_aged {w : World} {m : Nat} (h : Orderly w.workspace) (ha : Aged P start m w.workspace)
    (s : Step) : Aged P start (w.olderAfter m s) (w.step s).2.workspace := by
  cases hs : s.runsJobs with
  | false =>
    obtain ⟨new, hn⟩ := (step_request h hs).handing
    have hm : w.olderAfter m s = m := by cases s <;> first | rfl | cases hs
    rw [hm]
    exact hn.aged ha
  | true =>
    cases s with
    | deliver place =>
      obtain ⟨-, new, hd⟩ := deliver_advance w.host h place
      exact hd.aged ha
    | idle => exact drain_aged w.host _ h ha
    | stop => exact stop_aged w.host h ha
    | _ => cases hs

theorem run_aged (steps : List Step) {w : World} {m : Nat} (h : Orderly w.workspace)
    (ha : Aged P start m w.workspace) : Aged P start (w.older m steps) (w.run steps).2.workspace := by
  induction steps generalizing w m with
  | nil => exact ha
  | cons s steps ih => exact ih (step_advance h s).orderly (step_aged h ha s)

def Disowns (w : World) (path : String) : Step → Prop
  | .reset => True
  | .rename old new => (w.workspace.files.get? old).isSome = true ∧ (path = old ∨ path = new)
  | _ => False

theorem disowned_aged {w : World} (h : Orderly w.workspace) {p : String} {s : Step}
    (hs : w.Disowns p s) :
    Aged (w.Disowns · s) w.workspace.queue w.workspace.queue.length (w.step s).2.workspace := by
  cases s with
  | reset =>
    have hf := reset_forgotten w.workspace
    refine ⟨w.workspace.queue, [], ?_, rfl, .refl _, ?_⟩
    · rw [List.append_nil]
      exact hf.queue
    · intro q _ hi
      have hnone : (w.workspace.reset.standing q).inFlight = false := by
        rw [standing, file, hf.files]
        rfl
      rw [step, hnone] at hi
      cases hi
  | rename old new =>
    obtain ⟨f, hf⟩ := Option.isSome_iff_exists.1 hs.1
    obtain ⟨ws₁, jobs, hm, hj⟩ := rename_handing w.host h new hf
    refine hj.aged ⟨w.workspace.queue, [], ?_, rfl, .refl _, ?_⟩
    · rw [List.append_nil, hm.queue]
    · rintro q ⟨-, hq⟩ hi
      rw [hm.idle hq] at hi
      cases hi
  | _ => exact hs.elim

/-- After the steps `before`, `s` and `after` the job at place `i` of the queue is one that was
handed over by `before`, and `s` gave up its path. -/
structure Orphaned (w : World) (before : List Step) (s : Step) (after : List Step) (i : Nat)
    (job : Job) : Prop where
  disowned : (w.run before).2.Disowns job.path s
  queued : (w.run (before ++ s :: after)).2.workspace.queue[i]? = some job
  old : i < ((w.run before).2.step s).2.older (w.run before).2.workspace.queue.length after

section Orphaned
variable {w : World} {before after : List Step} {s : Step} {i : Nat} {job : Job}

theorem Orphaned.aged (h : Orphaned w before s after i job) (ho : Orderly w.workspace) :
    Aged ((w.run before).2.Disowns · s) (w.run before).2.workspace.queue
      (((w.run before).2.step s).2.older (w.run before).2.workspace.queue.length after)
      (w.run (before ++ s :: after)).2.workspace := by
  have h₀ := (run_advance before ho).orderly
  rw [run_append]
  exact run_aged after (step_advance h₀ s).orderly (disowned_aged h₀ h.disowned)

theorem Orphaned.handed_before (h : Orphaned w before s after i job) (ho : Orderly w.workspace) :
    job ∈ (w.run before).2.workspace.queue := by
  obtain ⟨old, young, hq, hm, hs, -⟩ := h.aged ho
  have hi := h.old
  have hj := h.queued
  rw [hq, List.getElem?_append_left (by omega)] at hj
  exact hs.subset (List.mem_of_getElem? hj)

theorem Orphaned.younger (h : Orphaned w before s after i job) (ho : Orderly w.workspace)
    (hf : ((w.run (before ++ s :: after)).2.workspace.standing job.path).inFlight = true) :
    ∃ k other, i < k ∧ (w.run (before ++ s :: after)).2.workspace.queue[k]? = some other ∧
      other.path = job.path := by
  obtain ⟨old, young, hq, hm, -, hy⟩ := h.aged ho
  obtain ⟨other, hother, hp⟩ := hy job.path h.disowned hf
  obtain ⟨k, hk⟩ := List.mem_iff_getElem?.1 hother
  have hi := h.old
  refine ⟨old.length + k, other, by omega, ?_, hp⟩
  rw [hq, List.getElem?_append_right (by omega), Nat.add_sub_cancel_left, hk]

end Orphaned

end World

namespace Workspace
variable {ws : Workspace} {i : Nat} {job : Job}

theorem deliver_files_ne (host : Host) (h : ws.queue[i]? = some job)
    (hf : (ws.standing job.path).inFlight = true) (hk : (ws.file job.path).path = job.path) :
    (deliver host ws i).2.files ≠ ws.files := by
  intro he
  obtain ⟨ws₀, s, -, hs, ht, -⟩ := deliver_taken host h hf hk
  have hst := ht.standing
  rw [standing_congr he] at hst
  unfold Standing.followed at hst
  have hdirty : s.outerDirty = (ws.standing job.path).outerDirty := by rw [hs]; rfl
  split at hst
  · rename_i hd
    rw [hdirty, hst] at hd
    cases hd
  · rw [hst, hs] at hf
    cases hf

/-- The file of a job whose answer is awaited takes over the parse of its text, and the lookup
that waits for the file is answered. -/
theorem deliver_installs (host : Host) (h : ws.queue[i]? = some job)
    (hf : (ws.standing job.path).inFlight = true) (hk : (ws.file job.path).path = job.path)
    {parsed : ParsedFile} (hp : parse host ws job.text job.retries = .ok parsed) :
    ((deliver host ws i).2.standing job.path).content = parsed.contentAt job.path ∧
      ∀ pd, ws.waiting job.path = some pd → (deliver host ws i).2.answered pd.ticket = true := by
  obtain ⟨ws₀, s, hpop, hs, ht, hserved⟩ := deliver_taken host h hf hk
  have hc : ((deliver host ws i).2.standing job.path).content = parsed.contentAt job.path := by
    rw [ht.standing, Standing.followed_content, hs, hp]
    rfl
  refine ⟨hc, ?_⟩
  intro pd hpd
  rw [← waiting_congr hpop.files] at hpd
  refine (ht.closed pd hpd).resolve_right fun hw => ?_
  have hnone := (hserved pd hw).1
  rw [hc] at hnone
  cases hnone

end Workspace

namespace World
open Workspace

/-- The answer to an orphaned job is dropped exactly if no answer is awaited at its path. If one
is, it is that to a younger job, and the orphan is taken in its place. -/
theorem orphan_dropped_iff (w : World) (workers : Workers) {before after : List Step} {s : Step}
    {i : Nat} {job : Job} (h : Orphaned (w.fresh workers) before s after i job) :
    let w' := ((w.fresh workers).run (before ++ s :: after)).2
    let ws' := (w'.workspace.deliver w'.host i).2
    job ∈ ((w.fresh workers).run before).2.workspace.queue ∧
    (ws'.files = w'.workspace.files ∧ ws'.answers = w'.workspace.answers ↔
      (w'.workspace.standing job.path).inFlight = false) ∧
    ((w'.workspace.standing job.path).inFlight = true →
      (∃ k other, i < k ∧ w'.workspace.queue[k]? = some other ∧ other.path = job.path) ∧
      ∀ parsed, w'.workspace.parse w'.host job.text job.retries = .ok parsed →
        (ws'.standing job.path).content = parsed.contentAt job.path ∧
        ∀ pd, w'.workspace.waiting job.path = some pd → ws'.answered pd.ticket = true) := by
  intro w' ws'
  have h₀ : Orderly (w.fresh workers).workspace := orderly_new workers
  have hk := (run_advance (before ++ s :: after) h₀).orderly.keyed job.path
  refine ⟨h.handed_before h₀, ⟨?_, ?_⟩, ?_⟩
  · rintro ⟨hfiles, -⟩
    cases hf : (w'.workspace.standing job.path).inFlight with
    | false => rfl
    | true => exact absurd hfiles (deliver_files_ne w'.host h.queued hf hk)
  · intro hf
    have hpop := deliver_expired w'.host h.queued hf
    exact ⟨hpop.files, hpop.answers⟩
  · intro hf
    exact ⟨h.younger h₀ hf, fun parsed hp => deliver_installs w'.host h.queued hf hk hp⟩

theorem emptyOnly_orphaned :
    Orphaned (emptyOnly.fresh .lent) [.refresh "a.js" false] .reset
      [.setText "a.js" "?", .refresh "a.js" false] 0 { path := "a.js", text := "", retries := 10 } :=
  ⟨trivial, by decide, by decide⟩

theorem orphan_dropped_iff_emptyOnly :
    ∃ k, 0 < k ∧ (((emptyOnly.fresh .lent).run [.refresh "a.js" false, .reset, .setText "a.js" "?",
      .refresh "a.js" false]).2.workspace.queue[k]?).map (·.path) = some "a.js" := by
  obtain ⟨-, -, htaken⟩ := orphan_dropped_iff emptyOnly .lent emptyOnly_orphaned
  obtain ⟨⟨k, other, hk, hq, hp⟩, -⟩ := htaken (by decide)
  exact ⟨k, hk, (congrArg (Option.map (·.path)) hq).trans (congrArg some hp)⟩

/-- Not every answer to an orphaned job is dropped: here the file takes over scopes of a text that
it no longer has, and its own text cannot be parsed. -/
theorem orphan_taken :
    ¬ ∀ (w : World) (workers : Workers) (before after : List Step) (s : Step) (i : Nat) (job : Job),
      Orphaned (w.fresh workers) before s after i job →
      let w' := ((w.fresh workers).run (before ++ s :: after)).2
      (w'.workspace.deliver w'.host i).2.files = w'.workspace.files ∧
        (w'.workspace.deliver w'.host i).2.answers = w'.workspace.answers := by
  intro h
  obtain ⟨hfiles, -⟩ := h _ _ _ _ _ _ _ emptyOnly_orphaned
  have hscopes := congrArg (fun files => (files.get? "a.js").any (·.outer.isSome)) hfiles
  revert hscopes
  decide +kernel

end World

end ScopeHints
