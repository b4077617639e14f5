import ScopeHints.Proofs.Workspace.Run
import ScopeHints.Proofs.Workspace.Shelf

/-! Running jobs comes to an end. A job may be followed by another one of its file, but only if the
text of the file changed, and the file is not marked as changed any more when that job is queued. -/
namespace ScopeHints

def Reply.ranJob : Reply → Bool
  | .job j => j.isSome
  | _ => false

namespace Workspace
variable {ws : Workspace} {p : String}

/-- The jobs that are queued, and one for each file that is still to be handed over. -/
def outstanding (ws : Workspace) : Nat := ws.queue.length + ws.dirtyCount

theorem followJobs_length_le (host : Host) (p : String) (s : Standing) :
    (host.followJobs p s).length ≤ s.outerDirty.toNat := by
  unfold Host.followJobs Host.jobs
  cases s.outerDirty with
  | false => simp
  | true =>
    cases host.source.read p <;> simp

theorem followed_outerDirty (s : Standing) (readable : Bool) :
    (s.followed readable).outerDirty = false := by
  unfold Standing.followed
  split
  · rfl
  · rename_i h
    exact (Bool.not_eq_true _).mp h

/-- A job that is run leaves less to do, whether its answer is taken or dropped, and whether or not
its file is handed over once more. -/
theorem deliver_outstanding_lt (host : Host) (ho : Orderly ws) {i : Nat} {job : Job}
    (hj : ws.queue[i]? = some job) : (deliver host ws i).2.outstanding < ws.outstanding := by
  obtain ⟨hi, -⟩ := List.getElem?_eq_some_iff.1 hj
  have hpopped : (ws.queue.eraseIdx i).length + 1 = ws.queue.length := by
    rw [List.length_eraseIdx_of_lt hi]
    omega
  unfold outstanding
  cases hf : (ws.standing job.path).inFlight with
  | false =>
    have hpop := deliver_expired host hj hf
    rw [hpop.queue, dirtyCount, dirtyCount, hpop.files]
    omega
  | true =>
    obtain ⟨ws₀, s, hpop, hs, ht, -⟩ := deliver_taken host hj hf (ho.keyed job.path)
    have hdirty : s.outerDirty = (ws.standing job.path).outerDirty := by
      rw [hs]
      rfl
    have hcount := (deliver_rewritten host hj (ho.keyed job.path)).dirtyCount (get?_of_inFlight hf)
    have hfollow := followJobs_length_le host job.path s
    rw [ht.standing, followed_outerDirty, Bool.toNat_false] at hcount
    rw [hdirty] at hfollow
    rw [ht.queue, hpop.queue, List.length_append]
    omega

theorem drain_exhausts (host : Host) (fuel : Nat) {ws : Workspace} (ho : Orderly ws)
    (hfuel : ws.outstanding ≤ fuel) :
    (drain host fuel ws).2.queue = [] ∧ (drain host fuel ws).1 ≤ ws.outstanding := by
  induction fuel generalizing ws with
  | zero =>
    have hnone : ws.queue.length = 0 := by
      unfold outstanding at hfuel
      omega
    exact ⟨List.length_eq_zero_iff.1 hnone, Nat.zero_le _⟩
  | succ fuel ih =>
    rw [drain_succ]
    split
    · rename_i hq
      exact ⟨hq, Nat.zero_le _⟩
    · rename_i hq
      obtain ⟨job, rest, hq⟩ := List.exists_cons_of_ne_nil hq
      have hj : ws.queue[0]? = some job := by rw [hq]; rfl
      have hlt := deliver_outstanding_lt host ho hj
      obtain ⟨hempty, hcount⟩ := ih (deliver_advance host ho 0).1.orderly (by omega)
      exact ⟨hempty, by dsimp only; omega⟩

end Workspace

namespace World
open Workspace

theorem ranJob_deliver (w : World) (place : Nat) :
    (w.step (.deliver place)).1.ranJob = true ↔ place < w.workspace.queue.length := by
  have hreply : (w.step (.deliver place)).1.ranJob = w.workspace.queue[place]?.isSome := by
    simp only [step, answer, deliver]
    cases w.workspace.queue[place]? <;> rfl
  rw [hreply, Option.isSome_iff_exists]
  constructor
  · rintro ⟨job, hj⟩
    exact (List.getElem?_eq_some_iff.1 hj).1
  · intro hlt
    exact ⟨_, List.getElem?_eq_getElem hlt⟩

theorem run_outstanding_le (order : List Nat) {w : World} (ho : Orderly w.workspace)
    (hran : (w.run (order.map .deliver)).1.all Reply.ranJob = true) :
    order.length + (w.run (order.map .deliver)).2.workspace.outstanding ≤
      w.workspace.outstanding := by
  induction order generalizing w with
  | nil => simp [run]
  | cons i order ih =>
    have hran : ((w.step (.deliver i)).1 ::
        ((w.step (.deliver i)).2.run (order.map .deliver)).1).all Reply.ranJob = true := hran
    rw [List.all_cons, Bool.and_eq_true, ranJob_deliver] at hran
    obtain ⟨hi, hrest⟩ := hran
    have hlt := deliver_outstanding_lt w.host ho (List.getElem?_eq_getElem hi)
    have hle := ih (step_advance ho (.deliver i)).orderly hrest
    have hrun : (w.run ((i :: order).map .deliver)).2 =
        ((w.step (.deliver i)).2.run (order.map .deliver)).2 := rfl
    have hfirst : (w.step (.deliver i)).2.workspace = (w.workspace.deliver w.host i).2 := rfl
    rw [hfirst] at hle
    rw [hrun, List.length_cons]
    omega

/-- Whatever happened before, jobs that are run one after the other, with those that follow from
their answers, come to an end. There are never more of them than jobs were queued and files marked
as changed; as long as a job is left it can be run, so that the queue is empty in the end. -/
theorem run_jobs_end (w : World) (workers : Workers) (steps : List Step) (order : List Nat)
    (hran : (((w.fresh workers).run steps).2.run (order.map .deliver)).1.all Reply.ranJob = true) :
    let now := ((w.fresh workers).run steps).2
    let bound := now.workspace.queue.length + now.workspace.dirtyCount
    let after := (now.run (order.map .deliver)).2
    order.length ≤ bound ∧ (order.length = bound → after.workspace.queue = []) ∧
      (∀ place, (after.step (.deliver place)).1.ranJob = true ↔
        place < after.workspace.queue.length) ∧
      (now.workspace.idle now.host).1 ≤ bound ∧ (now.workspace.idle now.host).2.queue = [] := by
  intro now bound after
  have ho : Orderly now.workspace := (run_advance steps (orderly_new workers)).orderly
  have hle : order.length + after.workspace.outstanding ≤ bound := run_outstanding_le order ho hran
  obtain ⟨hempty, hcount⟩ := drain_exhausts now.host now.workspace.outstanding ho (Nat.le_refl _)
  refine ⟨by omega, ?_, ranJob_deliver after, hcount, hempty⟩
  intro hall
  have hnone : after.workspace.queue.length = 0 := by
    unfold outstanding at hle
    omega
  exact List.length_eq_zero_iff.1 hnone

theorem run_jobs_end_forced :
    let now := ((emptyOnly.fresh .lent).run [.refresh "a.js" false, .refresh "a.js" true]).2
    now.workspace.queue.length + now.workspace.dirtyCount = 2 ∧
      (now.run [.deliver 0, .deliver 0]).2.workspace.queue = [] := by
  intro now
  have hran : (now.run ([0, 0].map .deliver)).1.all Reply.ranJob = true := by decide +kernel
  have hbound : now.workspace.queue.length + now.workspace.dirtyCount = 2 := by decide +kernel
  obtain ⟨-, hall, -⟩ :=
    run_jobs_end emptyOnly .lent [.refresh "a.js" false, .refresh "a.js" true] [0, 0] hran
  exact ⟨hbound, hall hbound.symm⟩

end World

end ScopeHints
