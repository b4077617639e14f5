import ScopeHints.Proofs.Workspace.Advance
import ScopeHints.Proofs.Workspace.Level

/-! Requests, edits and answers of the parser leave every file of an index level with its text. -/
namespace ScopeHints

theorem filter_eraseIdx_of_neg {α : Type} {P : α → Bool} {l : List α} {i : Nat} {a : α}
    (h : l[i]? = some a) (hP : P a = false) : (l.eraseIdx i).filter P = l.filter P := by
  induction l generalizing i with
  | nil => simp at h
  | cons b l ih =>
    cases i with
    | zero =>
      obtain rfl : b = a := by simpa using h
      simp [hP]
    | succ i =>
      rw [List.eraseIdx_cons_succ, List.filter_cons, List.filter_cons, ih (by simpa using h)]

theorem filter_eraseIdx_of_pos {α : Type} {P : α → Bool} {l : List α} {i : Nat} {a b : α}
    (h : l[i]? = some a) (hP : P a = true) (hl : l.filter P = [b]) :
    a = b ∧ (l.eraseIdx i).filter P = [] := by
  induction l generalizing i with
  | nil => simp at h
  | cons x l ih =>
    cases i with
    | zero =>
      obtain rfl : x = a := by simpa using h
      rw [List.filter_cons, if_pos hP] at hl
      simpa using hl
    | succ i =>
      have ha : l[i]? = some a := by simpa using h
      rw [List.eraseIdx_cons_succ, List.filter_cons]
      rw [List.filter_cons] at hl
      split
      · rename_i hx
        rw [if_pos hx, List.cons.injEq] at hl
        have hm : a ∈ l.filter P := List.mem_filter.2 ⟨List.mem_of_getElem? ha, hP⟩
        rw [hl.2] at hm
        cases hm
      · rename_i hx
        rw [if_neg hx] at hl
        exact ih ha hl

namespace Workspace
variable {ws ws' ws'' : Workspace} {host : Host} {P : Parsing} {p q : String}

def jobsOf (ws : Workspace) (p : String) : List Job := ws.queue.filter (·.path = p)

theorem jobsOf_append {new : List Job} (h : ws'.queue = ws.queue ++ new)
    (hn : ∀ job ∈ new, job.path = q) : ws'.jobsOf p = ws.jobsOf p ++ if q = p then new else [] := by
  unfold jobsOf
  rw [h, List.filter_append]
  congr 1
  split
  · rename_i hq
    subst hq
    exact List.filter_eq_self.2 fun job hj => by simp [hn job hj]
  · rename_i hq
    exact List.filter_eq_nil_iff.2 fun job hj => by simp [hn job hj, hq]

/-- A file has one job while an answer for it is awaited, and none otherwise. -/
def Paired (ws : Workspace) (p : String) : Prop :=
  (ws.jobsOf p).length = (ws.standing p).inFlight.toNat

theorem Paired.congr (h : ws.Paired p) (hf : ws'.files = ws.files) (hq : ws'.queue = ws.queue) :
    ws'.Paired p := by
  unfold Paired jobsOf at *
  rw [hq, standing_congr hf, h]

/-- A turn that hands over a job exactly when it starts to await an answer keeps jobs paired. -/
theorem Turn.paired {new : List Job} {s : Standing} (h : Turn q ws ws' new s) (hp : ws.Paired p)
    (hn : p = q → (ws.standing q).inFlight.toNat + new.length = s.inFlight.toNat) :
    ws'.Paired p := by
  unfold Paired at *
  rw [jobsOf_append h.queue h.mine, List.length_append, hp]
  by_cases hq : p = q
  · subst hq
    rw [if_pos rfl, h.standing, hn rfl]
  · rw [if_neg (Ne.symm hq), h.standing_of_ne hq, List.length_nil, Nat.add_zero]

theorem jobs_length (host : Host) (p : String) (force : Bool) (s : Standing) :
    (host.jobs p force s).length = (host.readable p).toNat := by
  unfold Host.jobs Host.readable
  cases host.source.read p <;> rfl

theorem requestJobs_length (host : Host) (p : String) (force : Bool) (s : Standing) :
    s.inFlight.toNat + (host.requestJobs p force s).length =
      (s.refreshed force (host.readable p)).inFlight.toNat := by
  cases hd : s.due force with
  | true =>
    have hi : s.inFlight = false := by
      cases hi : s.inFlight with
      | true => simp [Standing.due, hi] at hd
      | false => rfl
    rw [Host.requestJobs, if_pos hd, jobs_length, Standing.refreshed, if_pos hd, hi]
    exact Nat.zero_add _
  | false =>
    rw [Host.requestJobs, if_neg (by simp [hd]), Standing.refreshed_inFlight hd]
    rfl

theorem parse_of_no_retry (host : Host) (ws : Workspace) (t : String) (parsed : ParsedFile) (n : Int)
    (h : parse host ws t 0 = .ok parsed) : parse host ws t n = .ok parsed := by
  unfold parse at h ⊢
  split
  · rename_i hs
    rw [hs] at h
    cases h
  · rename_i hs
    rw [hs] at h
    exact parseText_of_no_retry h n

/-- The workers parse as `P`, and the file at `p`, which had the content `c` when it was last
handed over, is level. -/
structure LevelAt (host : Host) (P : Parsing) (p : String) (c : Content) (ws : Workspace) : Prop where
  parse : parse host ws = P
  level : Level P p host.settings.parser.maxRetries (ws.standing p) (ws.jobsOf p) (host.text? p) c

structure Asked (host : Host) (p : String) (ws ws' : Workspace) (new : List Job) : Prop where
  queue : ws'.queue = ws.queue ++ new
  content : (ws'.standing p).content = (ws.standing p).content
  paired : ws.Paired p → ws'.Paired p
  level : ∀ P c, LevelAt host P p c ws →
    LevelAt host P p (notedAt p c (ws'.standing p).content new) ws'

theorem Asked.trans {new new' : List Job} (h : Asked host p ws ws' new)
    (h' : Asked host p ws' ws'' new') : Asked host p ws ws'' (new ++ new') := by
  refine ⟨by rw [h'.queue, h.queue, List.append_assoc], h'.content.trans h.content,
    fun hp => h'.paired (h.paired hp), ?_⟩
  intro P c hl
  rw [← notedAt_append]
  have hl' := h.level P c hl
  rw [← h'.content] at hl'
  exact h'.level P _ hl'

theorem Turn.asked {new : List Job} {s : Standing} (h : Turn q ws ws' new s)
    (hself : p = q → s.content = (ws.standing q).content ∧
      (ws.standing q).inFlight.toNat + new.length = s.inFlight.toNat ∧
      ∀ P c, Level P q host.settings.parser.maxRetries (ws.standing q) (ws.jobsOf q)
          (host.text? q) c →
        Level P q host.settings.parser.maxRetries s (ws.jobsOf q ++ new) (host.text? q)
          (notedAt q c s.content new)) : Asked host p ws ws' new := by
  have hparse := parse_congr (sameWorkers_of_eq host h.workers)
  have hjobs := jobsOf_append (p := p) h.queue h.mine
  by_cases hq : p = q
  · subst hq
    rw [if_pos rfl] at hjobs
    obtain ⟨hc, hn, hl⟩ := hself rfl
    refine ⟨h.queue, by rw [h.standing, hc], fun hp => h.paired hp fun _ => hn, ?_⟩
    intro P c hlevel
    refine ⟨hparse.trans hlevel.parse, ?_⟩
    rw [hjobs, h.standing]
    exact hl P c hlevel.level
  · have hst := h.standing_of_ne hq
    rw [if_neg (Ne.symm hq), List.append_nil] at hjobs
    refine ⟨h.queue, by rw [hst], fun hp => h.paired hp fun he => absurd he hq, ?_⟩
    intro P c hlevel
    refine ⟨hparse.trans hlevel.parse, ?_⟩
    rw [hjobs, hst, notedAt_of_ne hq c _ h.mine]
    exact hlevel.level

theorem Turn.asked_request {force : Bool}
    (h : Turn q ws ws' (host.requestJobs q force (ws.standing q))
      ((ws.standing q).refreshed force (host.readable q))) :
    Asked host p ws ws' (host.requestJobs q force (ws.standing q)) := by
  refine h.asked fun _ => ⟨Standing.refreshed_content _ _ _, requestJobs_length host q force _, ?_⟩
  intro P c hl
  rw [Standing.refreshed_content]
  exact hl.request force

theorem Turn.asked_nothing (h : Turn q ws ws' [] (ws.standing q)) : Asked host p ws ws' [] := by
  refine h.asked fun _ => ⟨rfl, rfl, ?_⟩
  intro P c hl
  rw [List.append_nil]
  exact hl

theorem refresh_asked (host : Host) (h : Orderly ws) (p q : String) (force : Bool) :
    ∃ new, Asked host p ws (refresh host ws q force).2 new :=
  ⟨_, (refresh_turn host force (h.keyed q)).asked_request⟩

theorem lookup_asked (host : Host) (h : Orderly ws) (p q : String) (offset : Int) :
    ∃ new, Asked host p ws (lookup host ws q offset).2 new := by
  obtain ht | ht := lookup_turn host offset (h.keyed q)
  · exact ⟨_, ht.asked_request⟩
  · exact ⟨_, ht.asked_nothing⟩

theorem refreshAll_asked (host : Host) (p : String) (paths : List String) {ws : Workspace}
    (h : Orderly ws) : ∃ new, Asked host p ws (refreshAll host ws paths).2 new := by
  induction paths generalizing ws with
  | nil => exact ⟨[], Turn.asked_nothing (Turn.refl (h.keyed p))⟩
  | cons q paths ih =>
    obtain ⟨new, hq⟩ := refresh_asked host h p q false
    obtain ⟨new', hrest⟩ := ih (refresh_request host h q false).orderly
    exact ⟨_, hq.trans hrest⟩

theorem log_asked (host : Host) (h : Orderly ws) (p : String) (e : LogEvent) :
    Asked host p ws (ws.log e) [] :=
  ((Turn.refl (h.keyed p)).log e).asked_nothing

theorem refreshDirectory_asked (host : Host) (h : Orderly ws) (p q : String) :
    ∃ new, Asked host p ws (refreshDirectory host ws q).2 new := by
  have hlisting : Asked host p ws (ws.listing host q) [] := by
    unfold listing
    split
    · exact (Turn.refl (h.keyed p)).asked_nothing
    · exact log_asked host h p _
  obtain ⟨new, hrest⟩ := refreshAll_asked host p (neighbours host q) (listing_request host h q).orderly
  rw [refreshDirectory_eq]
  exact ⟨_, hlisting.trans hrest⟩

theorem textChanged_asked (host : Host) (h : Orderly ws) (p q : String)
    (change : Option TextChange) :
    ∃ new, Asked host p (ws.markDirty q) (textChanged host ws q change).2 new := by
  have ho := (markDirty_request h q).orderly
  unfold textChanged
  dsimp only
  split
  · exact refresh_asked host ho p q false
  · exact ⟨_, log_asked host ho p _⟩

theorem markDirty_level (host host' : Host) {c : Content} (h : Orderly ws)
    (hparse : parse host' ws = parse host ws) (hsettings : host'.settings = host.settings)
    (htext : p ≠ q → host'.text? p = host.text? p) (hl : LevelAt host P p c ws) :
    LevelAt host' P p c (ws.markDirty q) := by
  have ht := markDirty_turn (h.keyed q)
  have hparse' := (parse_congr (sameWorkers_of_eq host' ht.workers)).trans hparse
  have hjobs : (ws.markDirty q).jobsOf p = ws.jobsOf p := rfl
  refine ⟨hparse'.trans hl.parse, ?_⟩
  rw [hsettings, hjobs]
  by_cases hq : p = q
  · subst hq
    rw [ht.standing]
    exact hl.level.marked _
  · rw [ht.standing_of_ne hq, htext hq]
    exact hl.level

theorem deliver_level (host : Host) {c : Content} (h : Orderly ws) (i : Nat)
    (hl : LevelAt host P p c ws) :
    ∃ new, (deliver host ws i).2.queue = ws.queue.eraseIdx i ++ new ∧
      LevelAt host P p (notedAt p c ((deliver host ws i).2.standing p).content new)
        (deliver host ws i).2 := by
  cases hj : ws.queue[i]? with
  | none =>
    rw [deliver_none host hj]
    refine ⟨[], ?_, hl⟩
    rw [List.eraseIdx_of_length_le (List.getElem?_eq_none_iff.1 hj), List.append_nil]
  | some job =>
    have hjobs : ∀ ws₀, Popped host i ws ws₀ → p ≠ job.path → ws₀.jobsOf p = ws.jobsOf p := by
      intro ws₀ hpop hp
      rw [jobsOf, hpop.queue]
      exact filter_eraseIdx_of_neg hj (by simp [Ne.symm hp])
    cases hf : (ws.standing job.path).inFlight with
    | false =>
      have hpop := deliver_expired host hj hf
      refine ⟨[], by rw [hpop.queue, List.append_nil], ?_⟩
      -- A level file has no job unless it awaits the answer.
      have hp : p ≠ job.path := by
        rintro rfl
        have hm : job ∈ ws.jobsOf job.path :=
          List.mem_filter.2 ⟨List.mem_of_getElem? hj, by simp⟩
        rw [(hl.level.idle hf).1] at hm
        cases hm
      refine ⟨(parse_congr hpop.workers).trans hl.parse, ?_⟩
      rw [standing_congr hpop.files, hjobs _ hpop hp]
      exact hl.level
    | true =>
      obtain ⟨ws₀, s, hpop, hs, ht, -⟩ := deliver_taken host hj hf (h.keyed job.path)
      have hparse : parse host (deliver host ws i).2 = parse host ws :=
        (parse_congr (sameWorkers_of_eq host ht.workers)).trans (parse_congr hpop.workers)
      have hnew := jobsOf_append (p := p) ht.queue ht.mine
      refine ⟨_, by rw [ht.queue, hpop.queue], hparse.trans hl.parse, ?_⟩
      rw [hnew]
      by_cases hp : p = job.path
      · subst hp
        obtain ⟨job', hjobs', -⟩ := hl.level.awaited hf
        obtain ⟨rfl, hrest⟩ := filter_eraseIdx_of_pos hj (by simp) hjobs'
        have hnone : ws₀.jobsOf job.path = [] := by rw [jobsOf, hpop.queue]; exact hrest
        rw [hnone, if_pos rfl, List.nil_append, ht.standing, Standing.followed_content]
        have hlevel := hl.level
        rw [hjobs', ← hl.parse] at hlevel
        rw [← hl.parse]
        exact hlevel.answer (parse_of_no_retry host ws) hf hs
      · rw [hjobs ws₀ hpop hp, if_neg (Ne.symm hp), List.append_nil, ht.standing_of_ne hp,
          standing_congr hpop.files, notedAt_of_ne hp c _ ht.mine]
        exact hl.level

theorem level_new (host : Host) (workers : Workers) (p : String) (c : Content) :
    LevelAt host (parse host { workers }) p c { workers } :=
  ⟨rfl, fun hi => (nomatch hi), fun _ => ⟨rfl, fun hd => nomatch hd⟩⟩

end Workspace

end ScopeHints
