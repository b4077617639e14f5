import ScopeHints.Proofs.Workspace.Confluence
import ScopeHints.Proofs.Workspace.Current
import ScopeHints.Proofs.Workspace.Shelf
import ScopeHints.Proofs.Workspace.Truthful

/-! The files of a directory after their first parses. A refresh of the directory tracks them in
the order in which they are listed and hands each to the parser once; whatever the order in which
their jobs end, each then holds the parse of its text, or nothing if the text has none. -/
namespace ScopeHints

def Standing.new : Standing := ({ path := "" } : FileIndex).standing

namespace Workspace
variable {ws ws' : Workspace} {host : Host} {paths : List String} {q : String}

theorem refresh_untracked (host : Host) (hq : ws.files.get? q = none) :
    ∃ events, (refresh host ws q false).2 =
      { ws with
        files := ws.files.insert q (({ path := q } : FileIndex).handed (host.readable q))
        queue := ws.queue ++ host.jobs q false Standing.new
        events } := by
  have hfile : ws.file q = { path := q } := by rw [file, hq]; rfl
  have hst : ws.standing q = Standing.new := by rw [standing, hfile]; rfl
  rw [refresh_of_due host (by rw [hst]; rfl)]
  unfold dispatch Host.readable Host.jobs
  dsimp only
  rw [hfile]
  cases host.source.read q with
  | ok text => exact ⟨_, rfl⟩
  | error reason =>
    rw [List.append_nil]
    exact ⟨_, servicePending_of_unasked _ (congrArg FileIndex.pending (file_put_self _ q _))⟩

/-- The files at `paths` were handed to the parser one after the other, and nothing else was done. -/
structure Seeded (host : Host) (workers : Workers) (paths : List String) (ws : Workspace) : Prop where
  keys : ws.files.keys = paths
  file : ∀ q ∈ paths, ws.file q = ({ path := q } : FileIndex).handed (host.readable q)
  queue : ws.queue = paths.flatMap fun q => host.jobs q false Standing.new
  answers : ws.answers = {}
  workers : ws.workers = workers

theorem Seeded.refresh {workers : Workers} (h : Seeded host workers paths ws) (hq : q ∉ paths) :
    Seeded host workers (paths ++ [q]) (Workspace.refresh host ws q false).2 := by
  have hkey : q ∉ ws.files.keys := by rw [h.keys]; exact hq
  have hnone : ws.files.get? q = none :=
    Option.not_isSome_iff_eq_none.1 (mt Table.mem_keys_iff.2 hkey)
  obtain ⟨events, he⟩ := refresh_untracked host hnone
  rw [he]
  refine ⟨?_, ?_, ?_, h.answers, h.workers⟩
  · rw [Table.keys_insert, if_neg hkey, h.keys]
  · intro r hr
    rw [file_of_insert rfl]
    split
    · rename_i hqr
      rw [hqr]
    · rename_i hqr
      exact h.file r ((List.mem_append.1 hr).resolve_right (by simpa [eq_comm] using hqr))
  · rw [h.queue, List.flatMap_append, List.flatMap_singleton]

theorem Seeded.refreshAll {workers : Workers} (rest : List String) {ws : Workspace}
    {paths : List String} (h : Seeded host workers paths ws) (hn : (paths ++ rest).Nodup) :
    Seeded host workers (paths ++ rest) (Workspace.refreshAll host ws rest).2 := by
  induction rest generalizing ws paths with
  | nil =>
    rw [List.append_nil]
    exact h
  | cons q rest ih =>
    have hq : q ∉ paths := by
      obtain ⟨-, -, hne⟩ := List.nodup_append.1 hn
      exact fun hm => hne q hm q List.mem_cons_self rfl
    rw [List.append_cons] at hn ⊢
    exact ih (h.refresh hq) hn

theorem Seeded.waiting {workers : Workers} (h : Seeded host workers paths ws) (q : String) :
    ws.waiting q = none := by
  unfold Workspace.waiting
  by_cases hq : q ∈ paths
  · rw [h.file q hq]
    rfl
  · have hkey : q ∉ ws.files.keys := by rw [h.keys]; exact hq
    rw [Workspace.file, Option.not_isSome_iff_eq_none.1 (mt Table.mem_keys_iff.2 hkey)]
    rfl

theorem filter_jobs (host : Host) (hn : paths.Nodup) (q : String) :
    (paths.flatMap fun r => host.jobs r false Standing.new).filter (·.path = q) =
      if q ∈ paths then host.jobs q false Standing.new else [] := by
  have hpath : ∀ r, ∀ job ∈ host.jobs r false Standing.new, job.path = r :=
    fun r _ => Host.path_of_mem_jobs
  induction paths with
  | nil => rfl
  | cons r paths ih =>
    obtain ⟨hr, hn⟩ := List.nodup_cons.1 hn
    rw [List.flatMap_cons, List.filter_append, ih hn]
    by_cases hq : r = q
    · subst hq
      rw [List.filter_eq_self.2 fun job hj => by simpa using hpath r job hj]
      simp [hr]
    · rw [List.filter_eq_nil_iff.2 fun job hj => by simpa [hpath r job hj] using hq]
      simp [Ne.symm hq]

theorem Seeded.lane {workers : Workers} (h : Seeded host workers paths ws) (hn : paths.Nodup)
    (hq : q ∈ paths) (t : Nat) :
    ws.lane q t =
      { tracked := true, standing := Standing.new.handed (host.readable q), innerDirty := true,
        pending := none, jobs := host.jobs q false Standing.new, reply := none } := by
  have htracked : ws.files.contains q = true := Table.mem_keys_iff.1 (by rw [h.keys]; exact hq)
  have hjobs : ws.jobsOf q = host.jobs q false Standing.new := by
    rw [jobsOf, h.queue, filter_jobs host hn, if_pos hq]
  rw [Workspace.lane, htracked, standing, Workspace.waiting, h.file q hq, hjobs, h.answers]
  rfl

def firstContent (host : Host) (parse : Parsing) (q : String) : Option Content :=
  (host.text? q).bind fun text =>
    (parse text host.settings.parser.maxRetries).toOption.map (·.contentAt q)

theorem first_lane (host : Host) (parse : Parsing) (q : String) (t n : Nat) {l : Lane}
    (hl : l = { tracked := true, standing := Standing.new.handed (host.readable q), innerDirty := true,
                pending := none, jobs := host.jobs q false Standing.new, reply := none })
    (hdone : ((Lane.next host parse q t)^[n] l).jobs = []) :
    ((Lane.next host parse q t)^[n] l).standing.content =
        (firstContent host parse q).getD Standing.new.content ∧
      ((Lane.next host parse q t)^[n] l).innerDirty = true := by
  have hbudget : Standing.new.budget false host.settings.parser.maxRetries =
      host.settings.parser.maxRetries := rfl
  rw [host.jobs_eq, hbudget] at hl
  cases htext : host.text? q with
  | none =>
    rw [htext] at hl
    have hidle : ((Lane.next host parse q t)^[0] l).jobs = [] := by rw [hl]; rfl
    rw [Lane.iterate_next_unique hdone hidle, hl, firstContent, htext]
    exact ⟨rfl, rfl⟩
  | some text =>
    rw [htext] at hl
    have hone : (Lane.next host parse q t)^[1] l =
        { tracked := true
          standing := (Standing.new.handed (host.readable q)).answered (firstContent host parse q)
          innerDirty := true, pending := none, jobs := [], reply := none } := by
      rw [Function.iterate_one, hl, firstContent, htext]
      rfl
    rw [Lane.iterate_next_unique hdone (by rw [hone]), hone]
    exact ⟨rfl, rfl⟩

/-! ### The order of the files -/

theorem deliver_keys (host : Host) (ho : Orderly ws) (i : Nat) :
    (deliver host ws i).2.files.keys = ws.files.keys := by
  cases hj : ws.queue[i]? with
  | none => rw [deliver_none host hj]
  | some job =>
    cases hi : (ws.standing job.path).inFlight with
    | false => rw [(deliver_expired host hj hi).files]
    | true =>
      have htracked : ws.files.contains job.path = true := by
        rw [Table.contains, get?_of_inFlight hi]
        rfl
      exact (deliver_rewritten host hj (ho.keyed job.path)).keys htracked

theorem entries_eq (hn : ws.files.keys.Nodup) :
    ws.files.entries = ws.files.keys.map fun q => (q, ws.file q) :=
  Table.entries_eq_map hn fun _ _ => file_eq

/-- The siblings of a file among files of one directory are all others, in the order in which they
were tracked. -/
theorem siblings_eq (ho : Orderly ws) (hn : ws.files.keys.Nodup) {p : String}
    (hdir : ∀ q ∈ ws.files.keys, directoryOf q = directoryOf p) :
    ws.siblings (ws.file p) = (ws.files.keys.filter (· ≠ p)).map ws.file := by
  have hpath : ∀ q, (ws.file q).directory = directoryOf q := by
    intro q
    rw [FileIndex.directory, ho.keyed]
  rw [siblings, entries_eq hn, List.filter_map, List.map_map]
  refine congrArg (List.map ws.file) (List.filter_congr ?_)
  intro q hq
  simp [ho.keyed p, hpath, hdir q hq]

end Workspace

namespace World
open Workspace

theorem run_deliver_keys (order : List Nat) {w : World} (h : Orderly w.workspace) :
    (w.run (order.map .deliver)).2.workspace.files.keys = w.workspace.files.keys := by
  induction order generalizing w with
  | nil => rfl
  | cons i order ih =>
    have hstep := ih (step_advance h (.deliver i)).orderly
    exact hstep.trans (deliver_keys w.host h i)

theorem refreshDirectory_seeded (w : World) (workers : Workers) {p : String}
    (hn : (neighbours w.host p).Nodup) :
    Seeded w.host workers (neighbours w.host p)
      ((w.fresh workers).step (.refreshDirectory p)).2.workspace := by
  have hstart : Seeded w.host workers [] ((w.fresh workers).workspace.listing w.host p) := by
    unfold listing
    split <;> exact ⟨rfl, by simp, rfl, rfl, rfl⟩
  have hrun : ((w.fresh workers).step (.refreshDirectory p)).2.workspace =
      ((w.fresh workers).workspace.refreshDirectory w.host p).2 := rfl
  rw [hrun, refreshDirectory_eq]
  exact hstart.refreshAll (neighbours w.host p) hn

/-- Once all jobs are done, in whatever order, each file of the directory holds the parse of its
text, if it has one, and no lookup. -/
theorem run_first_parses (w : World) (workers : Workers) {p : String}
    (hn : (neighbours w.host p).Nodup) (order : List Nat)
    (hdone : ((w.fresh workers).run (.refreshDirectory p :: order.map .deliver)).2.workspace.queue = []) :
    let now := ((w.fresh workers).run (.refreshDirectory p :: order.map .deliver)).2.workspace
    now.files.keys = neighbours w.host p ∧ ∀ q ∈ neighbours w.host p,
      (now.file q).content =
        (firstContent w.host (parse w.host { workers }) q).getD Standing.new.content ∧
      (now.file q).innerDirty = true := by
  intro now
  have hnew : Orderly (w.fresh workers).workspace := orderly_new workers
  have hseeded := refreshDirectory_seeded w workers hn
  have horder := (step_advance hnew (.refreshDirectory p)).orderly
  have hpaired := step_paired hnew (fun _ => rfl) (s := .refreshDirectory p) rfl
  have hhost : ((w.fresh workers).step (.refreshDirectory p)).2.host = w.host := rfl
  have hrun : now = (((w.fresh workers).step (.refreshDirectory p)).2.run
      (order.map .deliver)).2.workspace := rfl
  generalize ((w.fresh workers).step (.refreshDirectory p)).2 = v at *
  have hparse : parse v.host v.workspace = parse w.host { workers } := by
    rw [hhost]
    exact parse_congr (sameWorkers_of_eq w.host hseeded.workers)
  refine ⟨?_, ?_⟩
  · rw [hrun, run_deliver_keys order horder, hseeded.keys]
  · intro q hq
    have hnone : ∀ r pd, r ≠ q → v.workspace.waiting r = some pd → pd.ticket ≠ 0 := by
      intro r pd _ hpd
      rw [hseeded.waiting] at hpd
      cases hpd
    obtain ⟨n, hlane⟩ := run_lane order horder hpaired hnone
    rw [hparse, hhost] at hlane
    have hjobs : (now.lane q 0).jobs = [] := by
      change now.jobsOf q = []
      rw [jobsOf, hdone]
      rfl
    rw [hrun, hlane] at hjobs
    obtain ⟨hcontent, hdirty⟩ := first_lane w.host _ q 0 n (hseeded.lane hn hq 0) hjobs
    rw [← hlane] at hcontent hdirty
    rw [hrun]
    exact ⟨hcontent, hdirty⟩

end World

end ScopeHints
