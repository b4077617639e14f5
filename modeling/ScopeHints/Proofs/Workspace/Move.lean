import ScopeHints.Proofs.Workspace.Advance

/-! Files that move to another path or are forgotten. The lookup that waits for a file moves with
it; the one of a file that is replaced or forgotten is rejected. -/
namespace ScopeHints

namespace FileIndex

/-- The file at another path, where it awaits no answer: one that was awaited is asked for anew. -/
def movedTo (f : FileIndex) (path : String) : FileIndex :=
  if f.inFlight then { f.renamed path with inFlight := false, outerDirty := true }
  else f.renamed path

theorem movedTo_path (f : FileIndex) (path : String) : (f.movedTo path).path = path := by
  unfold movedTo
  split <;> rfl

theorem movedTo_pending (f : FileIndex) (path : String) : (f.movedTo path).pending = f.pending := by
  unfold movedTo
  split <;> rfl

theorem movedTo_outer (f : FileIndex) (path : String) : (f.movedTo path).outer = f.outer := by
  unfold movedTo
  split <;> rfl

theorem movedTo_inFlight (f : FileIndex) (path : String) : (f.movedTo path).inFlight = false := by
  unfold movedTo
  split
  · rfl
  · rename_i h
    simpa [renamed] using h

end FileIndex

namespace Workspace
variable {ws ws' : Workspace} {old new : String}

/-- The index of `old` stands at `new` as `g`, and what stood there is gone. -/
structure Moved (old new : String) (g : FileIndex) (ws ws' : Workspace) : Prop where
  self : ws'.files.get? new = some g
  left : old ≠ new → ws'.files.get? old = none
  others : ∀ q, q ≠ old → q ≠ new → ws'.files.get? q = ws.files.get? q
  queue : ws'.queue = ws.queue
  issued : ws'.issued = ws.issued
  workers : ws'.workers = ws.workers
  answers : AnswersKept ws ws'
  replaced : old ≠ new → ∀ pd, ws.waiting new = some pd → ws'.answered pd.ticket = true

theorem rename_untracked (host : Host) (h : ws.files.get? old = none) :
    rename host ws old new = ws := by
  rw [rename, h]

theorem moved_of_dismissed (g : FileIndex)
    (hr : Dismissed (({ ws with files := ws.files.erase old } : Workspace).waiting new)
      { ws with files := ws.files.erase old } ws')
    (events : List LogEvent) :
    Moved old new g ws { ws' with files := (ws'.files.erase new).insert new g, events } := by
  have hget : ∀ q, ((ws'.files.erase new).insert new g).get? q =
      if new = q then some g else if old = q then none else ws.files.get? q := by
    intro q
    rw [Table.get?_insert, Table.get?_erase, hr.files, Table.get?_erase]
    split <;> rfl
  refine ⟨?_, ?_, ?_, hr.queue, hr.issued, hr.workers, hr.answers, ?_⟩
  · simp [hget]
  · intro hne
    simp [hget, Ne.symm hne]
  · intro q ho hn
    simp [hget, Ne.symm ho, Ne.symm hn]
  · intro hne pd hpd
    apply hr.answered
    rw [← hpd]
    exact congrArg FileIndex.pending (file_congr (by simp [Table.get?_erase, hne]))

def settleAt (host : Host) (ws : Workspace) (old new : String) (f : FileIndex) : Workspace :=
  let ws := { ws with files := ws.files.erase new }
  let ws := (ws.put new (f.renamed new)).log
    (.info "file_renamed" [("old_path", .text old), ("new_path", .text new)])
  if f.inFlight then
    let ws := ws.put new { f.renamed new with inFlight := false, outerDirty := true }
    if f.pending.isSome then (refresh host ws new false).2 else ws
  else ws

theorem settleAt_cases (host : Host) (f : FileIndex)
    (hr : Dismissed (({ ws with files := ws.files.erase old } : Workspace).waiting new)
      { ws with files := ws.files.erase old } ws') :
    ∃ ws₁, Moved old new (f.movedTo new) ws ws₁ ∧ settleAt host ws' old new f =
      if f.inFlight && f.pending.isSome then (refresh host ws₁ new false).2 else ws₁ := by
  have hm := moved_of_dismissed (f.movedTo new) hr
  unfold settleAt
  dsimp only
  cases hf : f.inFlight with
  | false =>
    have hg : f.movedTo new = f.renamed new := by rw [FileIndex.movedTo, hf]; rfl
    rw [hg] at hm ⊢
    exact ⟨_, hm _, rfl⟩
  | true =>
    have hg : f.movedTo new = { f.renamed new with inFlight := false, outerDirty := true } := by
      rw [FileIndex.movedTo, hf]
      rfl
    rw [if_pos rfl, Bool.true_and, ← hg]
    refine ⟨_, ?_, rfl⟩
    unfold put log
    dsimp only
    rw [Table.insert_insert]
    exact hm _

/-- A file that moves while an answer is awaited for it is handed over at once if a lookup waits
for it, and is left as changed if none does. -/
theorem rename_cases (host : Host) (new : String) {f : FileIndex} (h : ws.files.get? old = some f) :
    ∃ ws₁, Moved old new (f.movedTo new) ws ws₁ ∧
      rename host ws old new =
        if f.inFlight && f.pending.isSome then (refresh host ws₁ new false).2 else ws₁ := by
  unfold rename
  rw [h]
  dsimp only
  cases hn : (ws.files.erase old).get? new with
  | none =>
    refine settleAt_cases host f (Dismissed.refl ?_)
    simp [waiting, file, hn]
  | some replaced =>
    refine settleAt_cases host f ?_
    rw [waiting, file_eq hn]
    exact (reject_rejected _ new _ _).toDismissed

structure Forgotten (ws ws' : Workspace) : Prop where
  files : ws'.files = {}
  queue : ws'.queue = ws.queue
  issued : ws'.issued = ws.issued
  workers : ws'.workers = ws.workers
  answers : AnswersKept ws ws'
  answered : ∀ p pd, ws.waiting p = some pd → ws'.answered pd.ticket = true

theorem foldl_reject (entries : List (String × FileIndex)) (ws : Workspace) (pending : Option Pending)
    (h : ∀ pd, pending = some pd →
      ws.answered pd.ticket = true ∨ ∃ e ∈ entries, e.2.pending = some pd) :
    Dismissed pending ws
      (entries.foldl (fun ws (path, f) => ws.reject path f.pending (some "reset")) ws) := by
  induction entries generalizing ws with
  | nil =>
    refine Dismissed.refl fun pd hpd => ?_
    simpa using h pd hpd
  | cons e entries ih =>
    have hr := reject_rejected ws e.1 e.2.pending (some "reset")
    have hrest := ih (ws.reject e.1 e.2.pending (some "reset")) ?_
    · exact ⟨hrest.files.trans hr.files, hrest.queue.trans hr.queue, hrest.issued.trans hr.issued,
        hrest.workers.trans hr.workers, fun t a ha => hrest.answers t a (hr.answers t a ha),
        hrest.answered⟩
    · intro pd hpd
      obtain ha | ⟨e', he, hpd'⟩ := h pd hpd
      · exact .inl (hr.answers.answered ha)
      · obtain rfl | he := List.mem_cons.1 he
        · exact .inl (hr.answered pd hpd')
        · exact .inr ⟨e', he, hpd'⟩

theorem reset_forgotten (ws : Workspace) : Forgotten ws ws.reset := by
  have hr (pending : Option Pending) := foldl_reject ws.files.entries ws pending
  refine ⟨rfl, (hr none (by simp)).queue, (hr none (by simp)).issued, (hr none (by simp)).workers,
    (hr none (by simp)).answers, ?_⟩
  intro p pd hpd
  cases hf : ws.files.get? p with
  | none => simp [waiting, file, hf] at hpd
  | some f =>
    rw [waiting, file_eq hf] at hpd
    exact (hr (some pd) fun pd' he =>
      .inr ⟨(p, f), Table.mem_entries hf, hpd.trans he⟩).answered pd rfl

/-! ### The order is kept -/

section Moved
variable {f : FileIndex}

theorem Moved.file_left (h : Moved old new (f.movedTo new) ws ws') (hne : old ≠ new) :
    ws'.file old = { path := old } := by
  rw [file, h.left hne]
  rfl

theorem Moved.file_of_ne (h : Moved old new (f.movedTo new) ws ws') {q : String} (ho : q ≠ old)
    (hn : q ≠ new) : ws'.file q = ws.file q :=
  file_congr (h.others q ho hn)

theorem Moved.waiting_back (h : Moved old new (f.movedTo new) ws ws')
    (hf : ws.files.get? old = some f) {q : String} {pd : Pending} (hpd : ws'.waiting q = some pd) :
    ∃ r, ws.waiting r = some pd ∧ q = if r = old then new else r := by
  by_cases hn : q = new
  · refine ⟨old, ?_, by simp [hn]⟩
    rw [hn, waiting, file_eq h.self, FileIndex.movedTo_pending] at hpd
    rw [waiting, file_eq hf, hpd]
  · by_cases ho : q = old
    · subst ho
      rw [waiting, h.file_left hn] at hpd
      cases hpd
    · refine ⟨q, ?_, by simp [ho]⟩
      rw [waiting, h.file_of_ne ho hn] at hpd
      exact hpd

theorem Moved.tickets (h : Moved old new (f.movedTo new) ws ws')
    (hf : ws.files.get? old = some f) (ht : Tickets ws) : Tickets ws' := by
  refine ⟨?_, ?_, ?_⟩
  · intro q pd hpd
    obtain ⟨r, hr, -⟩ := h.waiting_back hf hpd
    rw [h.issued]
    exact ht.numbered r pd hr
  · intro q q' pd pd' hpd hpd' he
    obtain ⟨r, hr, rfl⟩ := h.waiting_back hf hpd
    obtain ⟨r', hr', rfl⟩ := h.waiting_back hf hpd'
    rw [ht.single r r' pd pd' hr hr' he]
  · intro t hlt
    rw [h.issued] at hlt
    obtain ha | ⟨r, pd, hr, rfl⟩ := ht.settled t hlt
    · exact .inl (h.answers.answered ha)
    · by_cases ho : r = old
      · refine .inr ⟨new, pd, ?_, rfl⟩
        rw [ho, waiting, file_eq hf] at hr
        rw [waiting, file_eq h.self, FileIndex.movedTo_pending, hr]
      · by_cases hn : r = new
        · subst hn
          exact .inl (h.replaced (Ne.symm ho) pd hr)
        · refine .inr ⟨r, pd, ?_, rfl⟩
          rw [waiting, h.file_of_ne ho hn]
          exact hr

theorem Moved.orderlyApart (h : Moved old new (f.movedTo new) ws ws')
    (hf : ws.files.get? old = some f) (ho : Orderly ws) : OrderlyApart new ws' := by
  have hfile : ∀ q, q ≠ new → ws'.file q = { path := q } ∨ ws'.file q = ws.file q := by
    intro q hn
    by_cases hq : q = old
    · subst hq
      exact .inl (h.file_left hn)
    · exact .inr (h.file_of_ne hq hn)
  refine ⟨?_, ?_, ?_, h.tickets hf ho.tickets⟩
  · intro q
    by_cases hn : q = new
    · subst hn
      rw [file_eq h.self, FileIndex.movedTo_path]
    · obtain he | he := hfile q hn
      · rw [he]
      · rw [he]
        exact ho.keyed q
  · intro q hn hi
    rw [standing] at hi
    obtain he | he := hfile q hn
    · rw [he] at hi
      cases hi
    · rw [he] at hi
      rw [h.queue]
      exact ho.awaited q hi
  · intro q hn pd hpd
    rw [waiting] at hpd
    rw [standing]
    obtain he | he := hfile q hn
    · rw [he] at hpd
      cases hpd
    · rw [he] at hpd ⊢
      exact ho.served q pd hpd

theorem Moved.idle (h : Moved old new (f.movedTo new) ws ws') {q : String}
    (hq : q = old ∨ q = new) : (ws'.standing q).inFlight = false := by
  have hnew : (ws'.standing new).inFlight = false := by
    rw [standing, file_eq h.self]
    exact FileIndex.movedTo_inFlight f new
  obtain rfl | rfl := hq
  · by_cases hne : q = new
    · rw [hne]
      exact hnew
    · rw [standing, h.file_left hne]
      rfl
  · exact hnew

theorem Moved.handing (h : Moved old new (f.movedTo new) ws ws') : Handing ws ws' [] := by
  refine ⟨by rw [h.queue, List.append_nil], ?_⟩
  intro q hi
  by_cases hq : q = old ∨ q = new
  · rw [h.idle hq] at hi
    cases hi
  · rw [not_or] at hq
    rw [standing, h.file_of_ne hq.1 hq.2] at hi
    exact .inl hi

theorem rename_handing (host : Host) (h : Orderly ws) (new : String)
    (hf : ws.files.get? old = some f) :
    ∃ ws₁ jobs, Moved old new (f.movedTo new) ws ws₁ ∧ Handing ws₁ (rename host ws old new) jobs := by
  obtain ⟨ws₁, hm, hr⟩ := rename_cases host new hf
  have ht := refresh_turn host false ((hm.orderlyApart hf h).keyed new)
  rw [hr]
  split
  · exact ⟨ws₁, _, hm, ht.handing (Host.request_awaited host)⟩
  · exact ⟨ws₁, [], hm, Handing.of_eq rfl rfl⟩

end Moved

theorem rename_request (host : Host) (h : Orderly ws) (old new : String) :
    Request ws (rename host ws old new) := by
  cases hf : ws.files.get? old with
  | none =>
    rw [rename_untracked host hf]
    exact Request.refl h
  | some f =>
    have hhanding : ∃ jobs, Handing ws (rename host ws old new) jobs := by
      obtain ⟨ws₁, jobs, hm, hj⟩ := rename_handing host h new hf
      exact ⟨_, hm.handing.trans hj⟩
    obtain ⟨ws₁, hm, hr⟩ := rename_cases host new hf
    refine ⟨?_, hhanding⟩
    have hapart := hm.orderlyApart hf h
    have hgrows : Grows ws ws₁ := ⟨Nat.le_of_eq hm.issued.symm, hm.answers⟩
    have hi := hm.idle (.inr rfl)
    -- What waits for the file at its new path waited for it at the old one.
    have hserved : ∀ pd, ws₁.waiting new = some pd → f.outer = none ∧ f.inFlight = true := by
      intro pd hpd
      rw [waiting, file_eq hm.self, FileIndex.movedTo_pending] at hpd
      have hs := h.served old pd
      rw [waiting, standing, file_eq hf] at hs
      exact hs hpd
    rw [hr]
    split
    · have hk := hapart.keyed new
      have ht := refresh_turn host false hk
      refine ⟨hgrows.trans ht.grows, ht.orderly hapart ?_ ?_⟩
      · apply refresh_served host false hk
        intro pd hpd
        rw [standing, file_eq hm.self]
        exact (FileIndex.movedTo_outer f new).trans (hserved pd hpd).1
      · intro hi'
        rw [ht.queue]
        obtain hi' | ⟨job, hj, hp⟩ := Host.request_awaited host hi'
        · rw [hi] at hi'
          cases hi'
        · exact ⟨job, List.mem_append_right _ hj, hp⟩
    · rename_i hn
      refine ⟨hgrows, hapart.complete ?_ ?_⟩
      · intro hi'
        rw [hi] at hi'
        cases hi'
      · intro pd hpd
        have hpend : f.pending = some pd := by
          rw [waiting, file_eq hm.self, FileIndex.movedTo_pending] at hpd
          exact hpd
        simp [hpend, (hserved pd hpd).2] at hn

theorem Forgotten.request (h : Forgotten ws ws') (ho : Orderly ws) : Request ws ws' := by
  have hfile : ∀ q, ws'.file q = { path := q } := by
    intro q
    rw [file, h.files]
    rfl
  have hidle : ∀ q, (ws'.standing q).inFlight = false := by
    intro q
    rw [standing, hfile]
    rfl
  have hnone : ∀ q, ws'.waiting q = none := by
    intro q
    rw [waiting, hfile]
  refine ⟨⟨⟨Nat.le_of_eq h.issued.symm, h.answers⟩, ?_, ?_, ?_, ?_, ?_, ?_⟩, [], ?_, ?_⟩
  · intro q
    rw [hfile]
  · simp [hidle]
  · simp [Served, hnone]
  · simp [hnone]
  · simp [hnone]
  · intro t ht
    rw [h.issued] at ht
    obtain ha | ⟨p, pd, hpd, rfl⟩ := ho.tickets.settled t ht
    · exact .inl (h.answers.answered ha)
    · exact .inl (h.answered p pd hpd)
  · rw [h.queue, List.append_nil]
  · simp [hidle]

theorem reset_request (h : Orderly ws) : Request ws ws.reset := (reset_forgotten ws).request h

theorem stop_advance (host : Host) (h : Orderly ws) : Advance ws (stop host ws).2 := by
  have hr := (reset_request h).toAdvance
  have hi : Advance ws (idle host ws.reset).2 := hr.trans (drain_advance host _ hr.orderly)
  have hl : Advance (idle host ws.reset).2 (stop host ws).2 :=
    ⟨Grows.of_eq rfl rfl, hi.orderly.congr rfl rfl rfl (Grows.of_eq rfl rfl)⟩
  exact hi.trans hl

end Workspace

end ScopeHints
