import ScopeHints.Proofs.Workspace.Answer
import ScopeHints.Proofs.Workspace.Lookup
import ScopeHints.Proofs.Workspace.Orderly

/-! Requests of the host and answers of the parser keep the order of an index. -/
namespace ScopeHints.Workspace
variable {ws ws' ws'' : Workspace} {p : String}

/-- Lookups are numbered on, answers stay, and the order is kept. -/
structure Advance (ws ws' : Workspace) : Prop extends Grows ws ws' where
  orderly : Orderly ws'

theorem Advance.trans (h : Advance ws ws') (h' : Advance ws' ws'') : Advance ws ws'' :=
  ⟨h.toGrows.trans h'.toGrows, h'.orderly⟩

theorem Advance.refl (h : Orderly ws) : Advance ws ws := ⟨Grows.refl ws, h⟩

/-- The queue grows by new jobs at its end, and an answer is awaited only if it was before or if
it is that of a new job. -/
structure Handing (ws ws' : Workspace) (new : List Job) : Prop where
  queue : ws'.queue = ws.queue ++ new
  awaited : ∀ q, (ws'.standing q).inFlight = true →
    (ws.standing q).inFlight = true ∨ ∃ job ∈ new, job.path = q

theorem Handing.trans {jobs jobs' : List Job} (h : Handing ws ws' jobs)
    (h' : Handing ws' ws'' jobs') : Handing ws ws'' (jobs ++ jobs') := by
  refine ⟨by rw [h'.queue, h.queue, List.append_assoc], ?_⟩
  intro q hi
  obtain hi | ⟨job, hj, hp⟩ := h'.awaited q hi
  · obtain hi | ⟨job, hj, hp⟩ := h.awaited q hi
    · exact .inl hi
    · exact .inr ⟨job, List.mem_append_left _ hj, hp⟩
  · exact .inr ⟨job, List.mem_append_right _ hj, hp⟩

theorem Handing.of_eq (hf : ws'.files = ws.files) (hq : ws'.queue = ws.queue) :
    Handing ws ws' [] :=
  ⟨by simp [hq], fun q hi => .inl (by rwa [standing_congr hf] at hi)⟩

theorem Turn.handing {jobs : List Job} {s : Standing} (h : Turn p ws ws' jobs s)
    (ha : s.inFlight = true → (ws.standing p).inFlight = true ∨ ∃ job ∈ jobs, job.path = p) :
    Handing ws ws' jobs := by
  refine ⟨h.queue, ?_⟩
  intro q hi
  by_cases hq : q = p
  · subst hq
    rw [h.standing] at hi
    exact ha hi
  · rw [h.standing_of_ne hq] at hi
    exact .inl hi

/-- What the host may ask of an index: the order is kept, and jobs are only handed over. -/
structure Request (ws ws' : Workspace) : Prop extends Advance ws ws' where
  handing : ∃ jobs, Handing ws ws' jobs

theorem Request.trans (h : Request ws ws') (h' : Request ws' ws'') : Request ws ws'' := by
  obtain ⟨jobs, hj⟩ := h.handing
  obtain ⟨jobs', hj'⟩ := h'.handing
  exact ⟨h.toAdvance.trans h'.toAdvance, _, hj.trans hj'⟩

theorem Request.refl (h : Orderly ws) : Request ws ws :=
  ⟨Advance.refl h, [], Handing.of_eq rfl rfl⟩

theorem Orderly.log (h : Orderly ws) (e : LogEvent) : Request ws (ws.log e) :=
  ⟨⟨Grows.of_eq rfl rfl, h.congr rfl rfl rfl (Grows.of_eq rfl rfl)⟩, [], Handing.of_eq rfl rfl⟩

theorem Turn.request {jobs : List Job} {s : Standing} (h : Turn p ws ws' jobs s) (ho : Orderly ws)
    (hs : ws'.Served p)
    (ha : s.inFlight = true → (ws.standing p).inFlight = true ∨ ∃ job ∈ jobs, job.path = p) :
    Request ws ws' := by
  refine ⟨⟨h.grows, h.orderly (ho.apart p) hs ?_⟩, jobs, h.handing ha⟩
  intro hi
  rw [h.queue]
  obtain hi | ⟨job, hj, hp⟩ := ha hi
  · obtain ⟨job, hj, hp⟩ := ho.awaited p hi
    exact ⟨job, List.mem_append_left _ hj, hp⟩
  · exact ⟨job, List.mem_append_right _ hj, hp⟩

theorem refresh_request (host : Host) (h : Orderly ws) (p : String) (force : Bool) :
    Request ws (refresh host ws p force).2 := by
  have ht := refresh_turn host force (h.keyed p)
  have hs := refresh_served host force (h.keyed p) fun pd hpd => (h.served p pd hpd).1
  exact ht.request h hs (Host.request_awaited host)

theorem markDirty_request (h : Orderly ws) (p : String) : Request ws (ws.markDirty p) :=
  (markDirty_turn (h.keyed p)).request h (markDirty_served (h.served p)) .inl

theorem lookup_request (host : Host) (h : Orderly ws) (p : String) (offset : Int) :
    Request ws (lookup host ws p offset).2 := by
  have hs := lookup_served host offset (h.keyed p) (h.served p)
  obtain ht | ht := lookup_turn host offset (h.keyed p)
  · exact ht.request h hs (Host.request_awaited host)
  · exact ht.request h hs .inl

theorem textChanged_request (host : Host) (h : Orderly ws) (p : String)
    (change : Option TextChange) : Request ws (textChanged host ws p change).2 := by
  have hd := markDirty_request h p
  unfold textChanged
  dsimp only
  split
  · exact hd.trans (refresh_request host hd.orderly p false)
  · exact hd.trans (hd.orderly.log _)

theorem refreshAll_request (host : Host) (paths : List String) {ws : Workspace} (h : Orderly ws) :
    Request ws (refreshAll host ws paths).2 := by
  induction paths generalizing ws with
  | nil => exact Request.refl h
  | cons p paths ih =>
    have hp := refresh_request host h p false
    exact hp.trans (ih hp.orderly)

theorem listing_request (host : Host) (h : Orderly ws) (p : String) :
    Request ws (ws.listing host p) := by
  unfold listing
  split
  · exact Request.refl h
  · exact h.log _

theorem refreshDirectory_request (host : Host) (h : Orderly ws) (p : String) :
    Request ws (refreshDirectory host ws p).2 := by
  have hlisting := listing_request host h p
  rw [refreshDirectory_eq]
  exact hlisting.trans (refreshAll_request host _ hlisting.orderly)

theorem mem_eraseIdx {l : List Job} {i : Nat} {job other : Job} (h : l[i]? = some job)
    (hm : other ∈ l) (hne : other ≠ job) : other ∈ l.eraseIdx i := by
  obtain ⟨k, hk⟩ := List.mem_iff_getElem?.1 hm
  apply List.mem_eraseIdx_iff_getElem?.2
  refine ⟨k, ?_, hk⟩
  rintro rfl
  exact hne (Option.some.inj (hk.symm.trans h))

theorem Popped.grows {host : Host} {i : Nat} (h : Popped host i ws ws') : Grows ws ws' :=
  Grows.of_eq h.issued h.answers

theorem Popped.orderlyApart {host : Host} {i : Nat} {job : Job} (h : Popped host i ws ws')
    (hj : ws.queue[i]? = some job) (ho : Orderly ws) : OrderlyApart job.path ws' := by
  refine ⟨?_, ?_, ?_, ho.tickets.congr h.files h.issued h.grows⟩
  · intro q
    rw [h.file]
    exact ho.keyed q
  · intro q hq hf
    rw [standing_congr h.files] at hf
    obtain ⟨other, hm, hp⟩ := ho.awaited q hf
    refine ⟨other, ?_, hp⟩
    rw [h.queue]
    apply mem_eraseIdx hj hm
    rintro rfl
    exact hq hp.symm
  · intro q _ pd hpd
    rw [waiting_congr h.files] at hpd
    rw [standing_congr h.files]
    exact ho.served q pd hpd

/-- The job at a place of the queue is gone and new jobs stand at the end; an answer is awaited
only if it was before, by another file than that of the job, or if it is that of a new job. -/
structure Delivery (i : Nat) (ws ws' : Workspace) (new : List Job) : Prop where
  queue : ws'.queue = ws.queue.eraseIdx i ++ new
  awaited : ∀ q, (ws'.standing q).inFlight = true →
    ((ws.standing q).inFlight = true ∧ ∀ job, ws.queue[i]? = some job → job.path ≠ q) ∨
      ∃ job ∈ new, job.path = q

theorem Popped.delivery {host : Host} {i : Nat} {job : Job} (h : Popped host i ws ws')
    (hj : ws.queue[i]? = some job) (hf : (ws.standing job.path).inFlight = false) :
    Delivery i ws ws' [] := by
  refine ⟨by rw [h.queue, List.append_nil], ?_⟩
  intro q hi
  rw [standing_congr h.files] at hi
  refine .inl ⟨hi, ?_⟩
  rintro job' hj' rfl
  obtain rfl := Option.some.inj (hj.symm.trans hj')
  rw [hf] at hi
  cases hi

theorem followed_awaited (host : Host) {s : Standing} (hs : s.inFlight = false)
    (hi : (s.followed (host.readable p)).inFlight = true) :
    ∃ job ∈ host.followJobs p s, job.path = p := by
  unfold Standing.followed at hi
  unfold Host.followJobs
  split at hi
  · rename_i hd
    rw [if_pos hd]
    exact Host.exists_job false s hi
  · rw [hs] at hi
    cases hi

theorem deliver_advance (host : Host) (h : Orderly ws) (i : Nat) :
    Advance ws (deliver host ws i).2 ∧ ∃ new, Delivery i ws (deliver host ws i).2 new := by
  cases hj : ws.queue[i]? with
  | none =>
    rw [deliver_none host hj]
    refine ⟨Advance.refl h, [], ?_, ?_⟩
    · rw [List.eraseIdx_of_length_le (List.getElem?_eq_none_iff.1 hj), List.append_nil]
    · intro q hi
      exact .inl ⟨hi, by simp [hj]⟩
  | some job =>
    cases hf : (ws.standing job.path).inFlight with
    | false =>
      have hpop := deliver_expired host hj hf
      have hst := congrFun (standing_congr hpop.files) job.path
      have hw := congrFun (waiting_congr hpop.files) job.path
      refine ⟨⟨hpop.grows, (hpop.orderlyApart hj h).complete ?_ ?_⟩, [], hpop.delivery hj hf⟩
      · intro hf'
        rw [hst, hf] at hf'
        cases hf'
      · intro pd hpd
        rw [hw] at hpd
        rw [hst]
        exact h.served job.path pd hpd
    | true =>
      obtain ⟨ws₀, s, hpop, hs, ht, hserved⟩ := deliver_taken host hj hf (h.keyed job.path)
      have hfollow := followed_awaited host (p := job.path) (s := s) (by rw [hs]; rfl)
      refine ⟨⟨hpop.grows.trans ht.grows, ht.orderly (hpop.orderlyApart hj h) hserved ?_⟩,
        host.followJobs job.path s, ?_, ?_⟩
      · intro hi
        obtain ⟨other, hm, hp⟩ := hfollow hi
        exact ⟨other, by rw [ht.queue]; exact List.mem_append_right _ hm, hp⟩
      · rw [ht.queue, hpop.queue]
      · intro q hi
        by_cases hq : q = job.path
        · subst hq
          rw [ht.standing] at hi
          exact .inr (hfollow hi)
        · rw [ht.standing_of_ne hq, standing_congr hpop.files] at hi
          refine .inl ⟨hi, ?_⟩
          rintro job' hj' rfl
          obtain rfl := Option.some.inj (hj.symm.trans hj')
          exact hq rfl

theorem cancel_request (h : Orderly ws) (t : Nat) : Request ws (ws.cancel t).2 := by
  unfold cancel
  split
  · have hg : Grows ws (ws.settle t .cancelled) :=
      ⟨Nat.le_of_eq (settle_issued _ _ _).symm, fun _ _ => settle_keeps ws t _⟩
    exact ⟨⟨hg, h.congr (settle_files _ _ _) (settle_queue _ _ _) (settle_issued _ _ _) hg⟩, [],
      Handing.of_eq (settle_files _ _ _) (settle_queue _ _ _)⟩
  · exact Request.refl h

theorem start_request (host : Host) (h : Orderly ws) (hs : start host ws = some ws') :
    Request ws ws' := by
  obtain ⟨-, events, workers, rfl⟩ := start_eq_some hs
  exact ⟨⟨Grows.of_eq rfl rfl, h.congr rfl rfl rfl (Grows.of_eq rfl rfl)⟩, [],
    Handing.of_eq rfl rfl⟩

theorem drain_succ (host : Host) (fuel : Nat) (ws : Workspace) :
    drain host (fuel + 1) ws =
      if ws.queue = [] then (0, ws)
      else ((drain host fuel (deliver host ws 0).2).1 + 1, (drain host fuel (deliver host ws 0).2).2) := by
  cases hq : ws.queue with
  | nil => simp [drain, hq]
  | cons job rest => simp [drain, deliver, hq]

theorem drain_advance (host : Host) (fuel : Nat) {ws : Workspace} (h : Orderly ws) :
    Advance ws (drain host fuel ws).2 := by
  induction fuel generalizing ws with
  | zero => exact Advance.refl h
  | succ fuel ih =>
    rw [drain_succ]
    split
    · exact Advance.refl h
    · have ha := (deliver_advance host h 0).1
      exact ha.trans (ih ha.orderly)

end ScopeHints.Workspace
