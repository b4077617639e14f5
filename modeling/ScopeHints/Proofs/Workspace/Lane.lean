import Mathlib.Logic.Function.Iterate
import ScopeHints.Proofs.Workspace.LevelKept
import ScopeHints.Proofs.Workspace.Memo

/-! The lane of a file: how the file stands with the parser, the jobs that wait for it and the
lookup that waits in it. What a job of the file does to its lane depends on this lane only. -/
namespace ScopeHints

/-- An answer without what the other files of the directory add to it. -/
def Answer.own : Answer → Answer
  | .info i => .info { i with properties := [], associations := {} }
  | a => a

def Content.file (c : Content) : FileIndex where
  path := ""
  outer := c.outer
  identifiers := c.identifiers
  globals := c.globals
  properties := c.properties
  associations := c.associations
  recovered := c.recovered

def Content.found (settings : HintSettings) (c : Content) (tree : ScopeTree) (offset : Int) : Answer :=
  (Answer.info (Workspace.infoFrom settings [] c.file tree offset)).own

structure Lane where
  tracked : Bool
  standing : Standing
  innerDirty : Bool
  pending : Option Pending
  jobs : List Job
  /-- The answer to one lookup, as far as it comes from the file itself. -/
  reply : Option Answer

namespace Lane

def settle (t : Nat) (l : Lane) (ticket : Nat) (a : Answer) : Lane :=
  if ticket = t then { l with reply := some (l.reply.getD a) } else l

def serve (settings : HintSettings) (t : Nat) (l : Lane) : Lane :=
  match l.pending with
  | none => l
  | some pd =>
    match l.standing.content.outer with
    | some tree =>
      { l with tracked := true, innerDirty := false, pending := none }.settle t pd.ticket
        (l.standing.content.found settings tree pd.offset)
    | none =>
      if l.standing.inFlight then l
      else { l with tracked := true, pending := none }.settle t pd.ticket
        (Answer.info (Workspace.degradedInfo settings)).own

def hand (host : Host) (p : String) (t : Nat) (l : Lane) : Lane :=
  let l' := { l with
    tracked := true
    standing := l.standing.handed (host.readable p)
    jobs := l.jobs ++ host.jobs p false l.standing }
  if host.readable p then l' else l'.serve host.settings.hints t

def take (taken : Option Content) (l : Lane) : Lane :=
  { l with
    tracked := true
    standing := l.standing.answered taken
    innerDirty := l.innerDirty || taken.isSome }

def answered (host : Host) (p : String) (t : Nat) (taken : Option Content) (l : Lane) : Lane :=
  (if l.standing.outerDirty then (l.take taken).hand host p t else l.take taken).serve
    host.settings.hints t

def next (host : Host) (parse : Parsing) (p : String) (t : Nat) (l : Lane) : Lane :=
  match l.jobs with
  | [] => l
  | job :: rest =>
    { l with jobs := rest }.answered host p t
      ((parse job.text job.retries).toOption.map fun parsed : ParsedFile => parsed.contentAt p)

/-- No lookup begins to wait in the lane, and only the one that waited is answered. -/
structure Closes (t : Nat) (l l' : Lane) : Prop where
  pending : ∀ pd, l'.pending = some pd → l.pending = some pd
  reply : (∀ pd, l.pending = some pd → pd.ticket ≠ t) → l'.reply = l.reply

section Closes
variable {t : Nat} {l l' l'' : Lane}

theorem Closes.of_eq (hp : l'.pending = l.pending) (hr : l'.reply = l.reply) : Closes t l l' :=
  ⟨fun _ hpd => hp ▸ hpd, fun _ => hr⟩

theorem Closes.trans (h : Closes t l l') (h' : Closes t l' l'') : Closes t l l'' := by
  refine ⟨fun pd hpd => h.pending pd (h'.pending pd hpd), ?_⟩
  intro hw
  rw [h'.reply fun pd hpd => hw pd (h.pending pd hpd), h.reply hw]

theorem serve_closes (settings : HintSettings) (l : Lane) : Closes t l (l.serve settings t) := by
  unfold serve settle
  constructor
  · grind
  · grind

theorem hand_closes (host : Host) (p : String) (l : Lane) : Closes t l (l.hand host p t) := by
  unfold hand
  dsimp only
  split
  · exact .of_eq rfl rfl
  · refine Closes.trans ?_ (serve_closes _ _)
    exact .of_eq rfl rfl

theorem answered_closes (host : Host) (p : String) (taken : Option Content) (l : Lane) :
    Closes t l (l.answered host p t taken) := by
  have htake : Closes t l (l.take taken) := .of_eq rfl rfl
  unfold answered
  split
  · exact (htake.trans (hand_closes host p _)).trans (serve_closes _ _)
  · exact htake.trans (serve_closes _ _)

theorem next_closes (host : Host) (parse : Parsing) (p : String) (l : Lane) :
    Closes t l (l.next host parse p t) := by
  unfold next
  split
  · exact .of_eq rfl rfl
  · refine Closes.trans ?_ (answered_closes host p _ _)
    exact .of_eq rfl rfl

theorem next_of_idle {host : Host} {parse : Parsing} {p : String} (h : l.jobs = []) :
    l.next host parse p t = l := by
  unfold next
  rw [h]

/-- Without jobs nothing happens any more, so that a lane runs out of jobs in one way only. -/
theorem iterate_next_unique {host : Host} {parse : Parsing} {p : String} {m n : Nat}
    (hm : ((next host parse p t)^[m] l).jobs = []) (hn : ((next host parse p t)^[n] l).jobs = []) :
    (next host parse p t)^[m] l = (next host parse p t)^[n] l := by
  have hlater : ∀ m k, ((next host parse p t)^[m] l).jobs = [] →
      (next host parse p t)^[k + m] l = (next host parse p t)^[m] l := by
    intro m k h
    rw [Function.iterate_add_apply]
    exact Function.iterate_fixed (next_of_idle h) k
  obtain hle | hle := Nat.le_total m n
  · obtain ⟨k, rfl⟩ := Nat.exists_eq_add_of_le' hle
    exact (hlater m k hm).symm
  · obtain ⟨k, rfl⟩ := Nat.exists_eq_add_of_le' hle
    exact hlater n k hn

end Closes

end Lane

namespace Workspace
variable {ws ws' : Workspace} {p q : String} {t : Nat}

def lane (ws : Workspace) (p : String) (t : Nat) : Lane where
  tracked := ws.files.contains p
  standing := ws.standing p
  innerDirty := (ws.file p).innerDirty
  pending := ws.waiting p
  jobs := ws.jobsOf p
  reply := (ws.answers.get? t).map Answer.own

theorem lane_stored {f : FileIndex} (h : Stored p f ws ws') : ws'.lane p t = { ws.lane p t with
    tracked := true, standing := f.standing, innerDirty := f.innerDirty, pending := f.pending } := by
  have htracked : ws'.files.contains p = true := by
    rw [Table.contains, h.self]
    rfl
  rw [lane, htracked, standing, waiting, file_eq h.self, jobsOf, h.queue, h.answers]
  rfl

theorem lane_settle (ws : Workspace) (ticket : Nat) (a : Answer) :
    (ws.settle ticket a).lane p t = (ws.lane p t).settle t ticket a.own := by
  unfold settle Lane.settle answered Table.contains
  by_cases ht : ticket = t
  · subst ht
    cases h : ws.answers.get? ticket with
    | some b => simp [lane, h]
    | none => simp [lane, h, jobsOf, waiting, standing, file]
  · rw [if_neg ht]
    split
    · rfl
    · simp [lane, Table.get?_insert_of_ne _ ht, jobsOf, waiting, standing, file]

theorem own_compute (settings : HintSettings) (ws : Workspace) (f : FileIndex) (tree : ScopeTree)
    (offset : Int) : (Answer.info (compute settings ws f tree offset).1).own =
      f.content.found settings tree offset := rfl

theorem lane_compute (settings : HintSettings) (ws : Workspace) {f : FileIndex} (hk : f.path = p)
    (tree : ScopeTree) (offset : Int) : (compute settings ws f tree offset).2.lane p t =
      { ws.lane p t with
        tracked := true, standing := f.standing, innerDirty := false, pending := f.pending } := by
  subst hk
  exact lane_stored ((stored_put ws f.path _).log _)

/-! ### What operations do to the lane of their file -/

theorem lane_servicePending (settings : HintSettings) (hk : (ws.file p).path = p) :
    (servicePending settings ws p).lane p t = (ws.lane p t).serve settings t := by
  have hput := lane_stored (t := t) (stored_put ws p (ws.file p).relieved)
  have hrelieved : (ws.file p).relieved.path = p := hk
  cases hpd : (ws.file p).pending with
  | none =>
    have hlane : (ws.lane p t).pending = none := hpd
    simp [servicePending, Lane.serve, hpd, hlane]
  | some pd =>
    have hlane : (ws.lane p t).pending = some pd := hpd
    cases ho : (ws.file p).outer with
    | some tree =>
      have houter : (ws.lane p t).standing.content.outer = some tree := ho
      rw [servicePending_of_outer settings hpd ho, lane_settle, lane_compute settings _ hrelieved,
        own_compute, hput, Lane.serve]
      simp only [hlane, houter]
      rfl
    | none =>
      have houter : (ws.lane p t).standing.content.outer = none := ho
      have hin : (ws.lane p t).standing.inFlight = (ws.file p).inFlight := rfl
      rw [servicePending_of_none settings hpd ho, Lane.serve]
      simp only [hlane, houter, hin]
      split
      · rfl
      · rw [lane_settle, hput]
        rfl

theorem lane_enqueue (ws : Workspace) {new : List Job} (h : ∀ job ∈ new, job.path = p) :
    ({ ws with queue := ws.queue ++ new } : Workspace).lane p t =
      { ws.lane p t with jobs := (ws.lane p t).jobs ++ new } := by
  have hjobs : ({ ws with queue := ws.queue ++ new } : Workspace).jobsOf p = ws.jobsOf p ++ new := by
    rw [jobsOf_append rfl h, if_pos rfl]
  rw [lane, hjobs]
  rfl

theorem lane_dispatch (host : Host) (hk : (ws.file p).path = p) :
    (dispatch host ws p false).lane p t = (ws.lane p t).hand host p t := by
  obtain ⟨ws', hs, ⟨hr, h⟩ | ⟨hr, hj, h⟩⟩ := dispatch_cases host ws p false
  · have hjobs : ∀ job ∈ host.jobs p false (ws.standing p), job.path = p :=
      fun _ => Host.path_of_mem_jobs
    rw [h, ← hs.queue, lane_enqueue ws' hjobs, lane_stored hs, Lane.hand, hr]
    rfl
  · have hk' : (ws'.file p).path = p := by
      rw [file_eq hs.self]
      exact hk
    have hnone : host.jobs p false (ws.lane p t).standing = [] := hj
    rw [h, lane_servicePending _ hk', lane_stored hs, Lane.hand, hr, hnone, List.append_nil]
    rfl

/-- An answer that is awaited does to the lane of its file what the lane alone decides. -/
theorem lane_receive (host : Host) (outcome : Except Fault ParsedFile)
    (hi : (ws.standing p).inFlight = true) (hk : (ws.file p).path = p) :
    (receive host ws p outcome).lane p t =
      (ws.lane p t).answered host p t (takenAt p outcome) := by
  obtain ⟨e, hr⟩ := receive_eq host outcome hi
  have hstored := (stored_put ws p ((ws.file p).taking outcome)).log e
  generalize (ws.put p ((ws.file p).taking outcome)).log e = ws₁ at hr hstored
  have hpath : (ws₁.file p).path = p := by
    rw [file_eq hstored.self, FileIndex.taking_path, hk]
  have hlane : ws₁.lane p t = (ws.lane p t).take (takenAt p outcome) := by
    rw [lane_stored hstored, FileIndex.standing_taking _ outcome hk, FileIndex.taking_pending,
      FileIndex.taking_innerDirty _ outcome p]
    rfl
  have hdirty : (ws.lane p t).standing.outerDirty = (ws.file p).outerDirty := rfl
  rw [hr, Lane.answered, hdirty, ← hlane]
  split
  · rw [lane_servicePending _ (dispatch_turn host false hpath).path, lane_dispatch host hpath]
  · rw [lane_servicePending _ hpath]

end Workspace

end ScopeHints
