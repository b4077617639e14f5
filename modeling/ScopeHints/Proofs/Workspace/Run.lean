import Mathlib.Logic.ExistsUnique
import ScopeHints.Proofs.Workspace.Move
import ScopeHints.Workspace.Run

/-! Runs keep the order of the index. A lookup that had to wait is therefore answered at most
once, waits for exactly one file until it is, and has its answer when no job is left. -/
namespace ScopeHints

def Step.runsJobs : Step → Bool
  | .deliver _ | .idle | .stop => true
  | _ => false

namespace Workspace
variable {ws : Workspace}

theorem orderly_new (workers : Workers) : Orderly { workers } := by
  refine ⟨fun _ => rfl, ?_, ?_, ⟨?_, ?_, ?_⟩⟩
  · intro q hi
    cases hi
  · intro q pd hpd
    cases hpd
  · intro q pd hpd
    cases hpd
  · intro q r pd pd' hpd
    cases hpd
  · intro t ht
    cases ht

/-- The index after a step, whatever its host has for texts. A step that only changes texts leaves
it alone. -/
def after (host : Host) (ws : Workspace) : Step → Workspace
  | .refresh path force => (refresh host ws path force).2
  | .markDirty path => ws.markDirty path
  | .change path change => (textChanged host ws path change).2
  | .refreshDirectory path => (refreshDirectory host ws path).2
  | .rename old new => rename host ws old new
  | .reset => ws.reset
  | .lookup path offset => (lookup host ws path offset).2
  | .hints path query _ fed => if fed then (lookup host ws path query.offset).2 else ws
  | .cancel ticket => (ws.cancel ticket).2
  | .deliver place => (deliver host ws place).2
  | .idle => (idle host ws).2
  | .start => (start host ws).getD ws
  | .stop => (stop host ws).2
  | .status _ | .paths | .setText .. | .delete _ | .renameText .. => ws

theorem after_request (host : Host) (h : Orderly ws) {s : Step} (hs : s.runsJobs = false) :
    Request ws (ws.after host s) := by
  cases s with
  | refresh path force => exact refresh_request host h path force
  | markDirty path => exact markDirty_request h path
  | change path change => exact textChanged_request host h path change
  | refreshDirectory path => exact refreshDirectory_request host h path
  | rename old new => exact rename_request host h old new
  | reset => exact reset_request h
  | lookup path offset => exact lookup_request host h path offset
  | hints path query maxResults fed =>
    rw [after]
    split
    · exact lookup_request host h path query.offset
    · exact Request.refl h
  | cancel t => exact cancel_request h t
  | start =>
    rw [after]
    cases hs : start host ws with
    | some ws' => exact start_request host h hs
    | none => exact Request.refl h
  | status | paths | setText | delete | renameText => exact Request.refl h
  | deliver | idle | stop => cases hs

theorem after_advance (host : Host) (h : Orderly ws) (s : Step) : Advance ws (ws.after host s) := by
  cases hs : s.runsJobs with
  | false => exact (after_request host h hs).toAdvance
  | true =>
    cases s with
    | deliver place => exact (deliver_advance host h place).1
    | idle => exact drain_advance host _ h
    | stop => exact stop_advance host h
    | _ => cases hs

end Workspace

def Reply.ticket? : Reply → Option Nat
  | .pending t => some t
  | _ => none

namespace World
open Workspace

def fresh (w : World) (workers : Workers) : World := { w with workspace := { workers } }

theorem step_hints (w : World) (path : String) (query : HintQuery) (maxResults : Int) (fed : Bool) :
    (w.step (.hints path query maxResults fed)).2.workspace =
      if fed then (w.workspace.lookup w.host path query.offset).2 else w.workspace := by
  cases fed with
  | false => rfl
  | true =>
    simp only [step, if_true]
    split
    · rename_i hl
      rw [hl]
    · rename_i hl
      rw [hl]
      rfl

theorem step_workspace (w : World) (s : Step) :
    (w.step s).2.workspace = w.workspace.after w.host s := by
  cases s with
  | hints path query maxResults fed => exact step_hints w path query maxResults fed
  | start =>
    simp only [step, after]
    cases Workspace.start w.host w.workspace <;> rfl
  | _ => rfl

theorem step_request {w : World} (h : Orderly w.workspace) {s : Step} (hs : s.runsJobs = false) :
    Request w.workspace (w.step s).2.workspace := by
  rw [step_workspace]
  exact after_request w.host h hs

theorem step_advance {w : World} (h : Orderly w.workspace) (s : Step) :
    Advance w.workspace (w.step s).2.workspace := by
  rw [step_workspace]
  exact after_advance w.host h s

theorem run_advance (steps : List Step) {w : World} (h : Orderly w.workspace) :
    Advance w.workspace (w.run steps).2.workspace := by
  induction steps generalizing w with
  | nil => exact Advance.refl h
  | cons s steps ih =>
    have hs := step_advance h s
    exact hs.trans (ih hs.orderly)

theorem run_append (w : World) (steps later : List Step) :
    (w.run (steps ++ later)).2 = ((w.run steps).2.run later).2 := by
  induction steps generalizing w with
  | nil => rfl
  | cons s steps ih => exact ih (w.step s).2

theorem step_fixed (w : World) (s : Step) :
    (w.step s).2.settings = w.settings ∧ (w.step s).2.parser = w.parser := by
  cases s with
  | hints path query maxResults fed =>
    cases fed with
    | false => exact ⟨rfl, rfl⟩
    | true =>
      simp only [step, if_true]
      split <;> exact ⟨rfl, rfl⟩
  | start =>
    simp only [step]
    split <;> exact ⟨rfl, rfl⟩
  | _ => exact ⟨rfl, rfl⟩

theorem run_fixed (steps : List Step) (w : World) :
    (w.run steps).2.settings = w.settings ∧ (w.run steps).2.parser = w.parser := by
  induction steps generalizing w with
  | nil => exact ⟨rfl, rfl⟩
  | cons s steps ih =>
    obtain ⟨hs, hp⟩ := step_fixed w s
    obtain ⟨hs', hp'⟩ := ih (w.step s).2
    exact ⟨hs'.trans hs, hp'.trans hp⟩

/-- An index over one empty text, with a parser that takes no other one. -/
def emptyOnly : World where
  texts := ⟨[("a.js", "")]⟩
  parser text :=
    if text = "" then
      some { kind := "program", named := true, missing := false, hasError := false, firstByte := 0,
             endByte := 0, row := 0, field := none, children := [] }
    else none

end World

end ScopeHints
