import ScopeHints.Proofs.Parse.Settled
import ScopeHints.Proofs.Workspace.Answer

/-! What ties the flags of a file, its job and its text together. While an answer is awaited the
file has one job, and the job has the present text of the file unless the file is marked as
changed. While none is awaited the file has no job, and unless it is marked as changed it holds
what the parser makes of its present text. -/
namespace ScopeHints

abbrev Parsing := String → Int → Except ParseError ParsedFile

section Agrees
variable (parse : Parsing) (p : String) (maxRetries : Int)

/-- The content of the file at `p` is due to its text: it is the parse of the text, if the text
parses at once; otherwise it is the parse with retries, or the content `c` from before. -/
def Agrees (text : Option String) (c content : Content) : Prop :=
  text = none ∨ ∃ t, text = some t ∧
    (∀ parsed, parse t 0 = .ok parsed → content = parsed.contentAt p) ∧
    (∀ e, parse t 0 = .error e →
      (∃ parsed, parse t maxRetries = .ok parsed ∧ content = parsed.contentAt p) ∨ content = c)

/-- A file that stands at `s`, has the given jobs and text and had the content `c` when it was last
handed over is level with its text. -/
structure Level (s : Standing) (jobs : List Job) (text : Option String) (c : Content) : Prop where
  awaited : s.inFlight = true → ∃ job, jobs = [job] ∧ s.content = c ∧
    (job.retries = 0 ∨ job.retries = maxRetries) ∧ (s.outerDirty = false → text = some job.text)
  idle : s.inFlight = false → jobs = [] ∧
    (s.outerDirty = false → Agrees parse p maxRetries text c s.content)

end Agrees

namespace Level
variable {parse : Parsing} {p : String} {maxRetries : Int} {s : Standing} {jobs : List Job}
  {text : Option String} {c : Content}

theorem marked (h : Level parse p maxRetries s jobs text c) (text' : Option String) :
    Level parse p maxRetries { s with outerDirty := true } jobs text' c := by
  refine ⟨?_, ?_⟩
  · intro hi
    obtain ⟨job, hj, hc, hr, -⟩ := h.awaited hi
    exact ⟨job, hj, hc, hr, by simp⟩
  · intro hi
    exact ⟨(h.idle hi).1, by simp⟩

theorem handed_none (hj : jobs = []) (s : Standing) :
    Level parse p maxRetries (s.handed false) jobs none c :=
  ⟨by simp, fun _ => ⟨hj, fun _ => .inl rfl⟩⟩

theorem handed_some {job : Job} (hj : jobs = [job])
    (hr : job.retries = 0 ∨ job.retries = maxRetries) (s : Standing) :
    Level parse p maxRetries (s.handed true) jobs (some job.text) s.content :=
  ⟨fun _ => ⟨job, hj, rfl, hr, fun _ => rfl⟩, by simp⟩

theorem kept (h : Level parse p maxRetries s jobs text c) (hi : s.inFlight = true) :
    Level parse p maxRetries { s with outerDirty := true, forcePending := true } jobs text c := by
  obtain ⟨job, hj, hc, hr, -⟩ := h.awaited hi
  refine ⟨fun _ => ⟨job, hj, hc, hr, by simp⟩, ?_⟩
  intro hi'
  rw [show s.inFlight = false from hi'] at hi
  cases hi

theorem agrees_answered {job : Job}
    (hmono : ∀ t parsed n, parse t 0 = .ok parsed → parse t n = .ok parsed) (hc : s.content = c)
    (hr : job.retries = 0 ∨ job.retries = maxRetries) :
    Agrees parse p maxRetries (some job.text) c
      (s.answered ((parse job.text job.retries).toOption.map (·.contentAt p))).content := by
  refine .inr ⟨job.text, rfl, ?_, ?_⟩
  · intro parsed h
    rw [hmono _ parsed job.retries h]
    rfl
  · intro e h
    cases ho : parse job.text job.retries with
    | error e' => exact .inr hc
    | ok parsed =>
      obtain hr | hr := hr
      · rw [hr, h] at ho
        cases ho
      · rw [hr] at ho
        exact .inl ⟨parsed, ho, rfl⟩

end Level

def Host.text? (host : Host) (p : String) : Option String := (host.source.read p).toOption

theorem Host.readable_eq (host : Host) (p : String) : host.readable p = (host.text? p).isSome := by
  unfold Host.readable Host.text?
  cases host.source.read p <;> rfl

theorem Host.jobs_eq (host : Host) (p : String) (force : Bool) (s : Standing) :
    host.jobs p force s = (host.text? p).toList.map fun text =>
      { path := p, text, retries := s.budget force host.settings.parser.maxRetries } := by
  unfold Host.jobs Host.text?
  cases host.source.read p <;> rfl

theorem Standing.budget_cases (s : Standing) (force : Bool) (maxRetries : Int) :
    s.budget force maxRetries = 0 ∨ s.budget force maxRetries = maxRetries := by
  unfold Standing.budget
  split
  · exact .inr rfl
  · exact .inl rfl

/-- The content at the last time that a path was handed over, when new jobs were queued in a state
in which it has the given content. -/
def notedAt (p : String) (c content : Content) (new : List Job) : Content :=
  if new.any (·.path = p) then content else c

theorem notedAt_append (p : String) (c content : Content) (new new' : List Job) :
    notedAt p (notedAt p c content new) content new' = notedAt p c content (new ++ new') := by
  unfold notedAt
  rw [List.any_append]
  cases new.any (·.path = p) <;> cases new'.any (·.path = p) <;> rfl

theorem notedAt_of_ne {p q : String} (h : p ≠ q) (c content : Content) {new : List Job}
    (hn : ∀ job ∈ new, job.path = q) : notedAt p c content new = c := by
  rw [notedAt, if_neg]
  intro ha
  obtain ⟨job, hj, hp⟩ := List.any_eq_true.1 ha
  exact h ((of_decide_eq_true hp).symm.trans (hn job hj))

namespace Level
variable {parse : Parsing} {p : String} {s : Standing} {c : Content}

theorem handed (host : Host) (force : Bool) (s : Standing) (c : Content) :
    Level parse p host.settings.parser.maxRetries (s.handed (host.readable p))
      (host.jobs p force s) (host.text? p) (notedAt p c s.content (host.jobs p force s)) := by
  rw [host.readable_eq, host.jobs_eq]
  cases host.text? p with
  | none => exact handed_none rfl s
  | some text =>
    rw [notedAt, if_pos (by simp)]
    exact handed_some rfl (s.budget_cases force _) s

theorem request {host : Host} {jobs : List Job} (force : Bool)
    (h : Level parse p host.settings.parser.maxRetries s jobs (host.text? p) c) :
    Level parse p host.settings.parser.maxRetries (s.refreshed force (host.readable p))
      (jobs ++ host.requestJobs p force s) (host.text? p)
      (notedAt p c s.content (host.requestJobs p force s)) := by
  unfold Standing.refreshed Host.requestJobs
  cases hd : s.due force with
  | true =>
    have hi : s.inFlight = false := by
      simp only [Standing.due, Bool.and_eq_true, Bool.not_eq_true'] at hd
      exact hd.1
    rw [if_pos rfl, if_pos rfl, (h.idle hi).1]
    exact handed host force s c
  | false =>
    simp only [Bool.false_eq_true, if_false, List.append_nil]
    split
    · rename_i hi
      rw [Bool.and_eq_true] at hi
      exact h.kept hi.1
    · exact h

theorem answer {host : Host} {job : Job}
    (hmono : ∀ t parsed n, parse t 0 = .ok parsed → parse t n = .ok parsed)
    (h : Level parse p host.settings.parser.maxRetries s [job] (host.text? p) c)
    (hi : s.inFlight = true) {s' : Standing}
    (hs : s' = s.answered ((parse job.text job.retries).toOption.map (·.contentAt p))) :
    Level parse p host.settings.parser.maxRetries (s'.followed (host.readable p))
      (host.followJobs p s') (host.text? p) (notedAt p c s'.content (host.followJobs p s')) := by
  obtain ⟨job', hj, hc, hr, ht⟩ := h.awaited hi
  obtain rfl : job = job' := by simpa using hj
  unfold Standing.followed Host.followJobs
  cases hd : s'.outerDirty with
  | true => exact handed host false s' c
  | false =>
    have hd' : s.outerDirty = false := by rw [← hd, hs]; rfl
    refine ⟨?_, ?_⟩
    · intro hi'
      rw [hs] at hi'
      cases hi'
    · intro _
      refine ⟨rfl, fun _ => ?_⟩
      rw [ht hd', hs]
      exact agrees_answered hmono hc hr

end Level

end ScopeHints
