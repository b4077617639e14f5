import ScopeHints.Proofs.Workspace.Request

/-! Answers of the parser. An answer counts only while its file awaits one; then it is a turn of
this file, and otherwise nothing happens. -/
namespace ScopeHints

def takenAt (p : String) (outcome : Except Fault ParsedFile) : Option Content :=
  outcome.toOption.map (·.contentAt p)

/-- After an answer a file whose text has changed is handed over once more. -/
def Standing.followed (s : Standing) (readable : Bool) : Standing :=
  if s.outerDirty then s.handed readable else s

@[simp] theorem Standing.followed_content (s : Standing) (readable : Bool) :
    (s.followed readable).content = s.content := by
  unfold Standing.followed
  split <;> rfl

def Host.followJobs (host : Host) (p : String) (s : Standing) : List Job :=
  if s.outerDirty then host.jobs p false s else []

namespace FileIndex

def settled (f : FileIndex) : FileIndex := { f with inFlight := false }

def taking (f : FileIndex) : Except Fault ParsedFile → FileIndex
  | .ok parsed => f.settled.install parsed
  | .error _ => f.settled

theorem taking_path (f : FileIndex) (outcome : Except Fault ParsedFile) :
    (f.taking outcome).path = f.path := by
  cases outcome <;> rfl

theorem taking_pending (f : FileIndex) (outcome : Except Fault ParsedFile) :
    (f.taking outcome).pending = f.pending := by
  cases outcome <;> rfl

theorem taking_innerDirty (f : FileIndex) (outcome : Except Fault ParsedFile) (p : String) :
    (f.taking outcome).innerDirty = (f.innerDirty || (takenAt p outcome).isSome) := by
  cases outcome with
  | ok parsed => exact (Bool.or_true _).symm
  | error fault => exact (Bool.or_false _).symm

theorem standing_taking (f : FileIndex) (outcome : Except Fault ParsedFile) {p : String}
    (h : f.path = p) : (f.taking outcome).standing = f.standing.answered (takenAt p outcome) := by
  subst h
  cases outcome with
  | ok parsed => rfl
  | error fault => rfl

end FileIndex

namespace Workspace
variable {ws ws' : Workspace} {p : String}

theorem receive_expired (host : Host) (outcome : Except Fault ParsedFile)
    (h : (ws.standing p).inFlight = false) : ∃ e, receive host ws p outcome = ws.log e := by
  unfold receive
  split
  · exact ⟨_, rfl⟩
  · rename_i f hf
    have hi : f.inFlight = false := by
      rw [← file_eq hf]
      exact h
    exact ⟨_, by rw [if_neg (by simp [hi])]⟩

theorem get?_of_inFlight (h : (ws.standing p).inFlight = true) :
    ws.files.get? p = some (ws.file p) := by
  cases hf : ws.files.get? p with
  | some f => rw [file_eq hf]
  | none =>
    rw [standing, file, hf] at h
    cases h

/-- An answer that is awaited is stored; the file is then handed over again if its text has
changed, and the lookup that waits is answered. -/
theorem receive_eq (host : Host) (outcome : Except Fault ParsedFile)
    (h : (ws.standing p).inFlight = true) :
    ∃ e, receive host ws p outcome = servicePending host.settings.hints
      (if (ws.file p).outerDirty then
        dispatch host ((ws.put p ((ws.file p).taking outcome)).log e) p false
      else (ws.put p ((ws.file p).taking outcome)).log e) p := by
  unfold receive
  rw [get?_of_inFlight h]
  dsimp only
  rw [if_pos (show (ws.file p).inFlight = true from h)]
  cases outcome with
  | ok parsed => exact ⟨_, rfl⟩
  | error fault => exact ⟨_, rfl⟩

theorem receive_cases (host : Host) (outcome : Except Fault ParsedFile)
    (h : (ws.standing p).inFlight = true) (hk : (ws.file p).path = p) :
    ∃ ws₁, Turn p ws ws₁ [] ((ws.standing p).answered (takenAt p outcome)) ∧
      receive host ws p outcome = servicePending host.settings.hints
        (if (ws.standing p).outerDirty then dispatch host ws₁ p false else ws₁) p := by
  obtain ⟨e, hr⟩ := receive_eq host outcome h
  refine ⟨(ws.put p ((ws.file p).taking outcome)).log e, ?_, hr⟩
  have ht := Turn.of_stored (stored_put ws p ((ws.file p).taking outcome))
    (FileIndex.taking_pending _ outcome) ((FileIndex.taking_path _ outcome).trans hk)
  exact (ht.log e).as (FileIndex.standing_taking _ outcome hk)

theorem receive_turn (host : Host) (outcome : Except Fault ParsedFile)
    (h : (ws.standing p).inFlight = true) (hk : (ws.file p).path = p) :
    Turn p ws (receive host ws p outcome)
      (host.followJobs p ((ws.standing p).answered (takenAt p outcome)))
      (((ws.standing p).answered (takenAt p outcome)).followed (host.readable p)) := by
  obtain ⟨ws₁, h₁, hr⟩ := receive_cases host outcome h hk
  rw [hr, Host.followJobs, Standing.followed,
    show ((ws.standing p).answered (takenAt p outcome)).outerDirty = (ws.standing p).outerDirty from rfl]
  split
  · have h₂ := dispatch_turn host false h₁.path
    rw [h₁.standing] at h₂
    have h₃ := servicePending_turn host.settings.hints h₂.path
    rw [h₂.standing] at h₃
    simpa using (h₁.trans h₂).trans h₃
  · have h₃ := servicePending_turn host.settings.hints h₁.path
    rw [h₁.standing] at h₃
    exact h₁.trans h₃

theorem receive_served (host : Host) (outcome : Except Fault ParsedFile)
    (h : (ws.standing p).inFlight = true) (hk : (ws.file p).path = p) :
    (receive host ws p outcome).Served p := by
  obtain ⟨ws₁, h₁, hr⟩ := receive_cases host outcome h hk
  rw [hr]
  apply servicePending_served
  split
  · exact (dispatch_turn host false h₁.path).path
  · exact h₁.path

/-- What the workers of the index make of a text: the parse of it, unless no worker can start. -/
def parse (host : Host) (ws : Workspace) (text : String) (retries : Int) :
    Except ParseError ParsedFile :=
  match start host ws with
  | none => .error .crashed
  | some _ => parseText host.parser text retries

def SameWorkers (host : Host) (ws ws' : Workspace) : Prop :=
  (start host ws').isSome = (start host ws).isSome

theorem SameWorkers.trans {host : Host} {ws'' : Workspace} (h : SameWorkers host ws ws')
    (h' : SameWorkers host ws' ws'') : SameWorkers host ws ws'' :=
  Eq.trans h' h

theorem parse_congr {host : Host} (h : SameWorkers host ws ws') : parse host ws' = parse host ws := by
  funext text retries
  unfold SameWorkers at h
  unfold parse
  cases hs : start host ws <;> cases hs' : start host ws' <;> simp [hs, hs'] at h ⊢

theorem sameWorkers_of_eq (host : Host) (h : ws'.workers = ws.workers) : SameWorkers host ws ws' := by
  unfold SameWorkers start
  rw [h]
  cases ws.workers with
  | lent => rfl
  | own running =>
    cases running with
    | true => rfl
    | false =>
      dsimp only
      split <;> rfl

theorem start_eq_some {host : Host} (h : start host ws = some ws') :
    SameWorkers host ws ws' ∧ ∃ events workers, ws' = { ws with events, workers } := by
  cases hw : ws.workers with
  | lent =>
    simp only [start, hw, Option.some.injEq] at h
    subst h
    exact ⟨rfl, ws.events, ws.workers, rfl⟩
  | own running =>
    cases running with
    | true =>
      simp only [start, hw, Option.some.injEq] at h
      subst h
      exact ⟨rfl, ws.events, ws.workers, rfl⟩
    | false =>
      simp only [start, hw] at h
      split at h
      · rename_i hpos
        obtain rfl := Option.some.inj h
        exact ⟨by simp [SameWorkers, start, hw, hpos, log], _, _, rfl⟩
      · cases h

/-- A job is an answer to its path, with what the workers make of its text. -/
theorem runJob_eq_receive (host : Host) (ws : Workspace) (job : Job) :
    ∃ events workers outcome,
      runJob host ws job = receive host { ws with events, workers } job.path outcome ∧
      SameWorkers host ws { ws with events, workers } ∧
      outcome.toOption = (parse host ws job.text job.retries).toOption := by
  unfold runJob parse parseText
  dsimp only
  cases hs : start host ws with
  | none => exact ⟨_, ws.workers, _, rfl, sameWorkers_of_eq host rfl, rfl⟩
  | some ws' =>
    obtain ⟨hsame, events, workers, rfl⟩ := start_eq_some hs
    have hsame' (events' : List LogEvent) :
        SameWorkers host ws { ws with events := events', workers } :=
      hsame.trans (sameWorkers_of_eq host rfl)
    dsimp only
    cases (parseReport host.parser job.text job.retries).outcome with
    | ok parsed => exact ⟨_, workers, .ok parsed, rfl, hsame' _, rfl⟩
    | error err =>
      cases err with
      | fault f => exact ⟨_, workers, .error f, rfl, hsame' _, rfl⟩
      | unencodable => exact ⟨_, workers, _, rfl, hsame' _, rfl⟩
      | crashed => exact ⟨_, workers, _, rfl, hsame' _, rfl⟩
      | outsideText => exact ⟨_, workers, _, rfl, hsame' _, rfl⟩

/-- The index without the job at a place of its queue, more log lines and started workers apart. -/
structure Popped (host : Host) (i : Nat) (ws ws' : Workspace) : Prop where
  files : ws'.files = ws.files
  queue : ws'.queue = ws.queue.eraseIdx i
  issued : ws'.issued = ws.issued
  answers : ws'.answers = ws.answers
  workers : SameWorkers host ws ws'

theorem Popped.file {host : Host} {i : Nat} (h : Popped host i ws ws') (p : String) :
    ws'.file p = ws.file p :=
  file_congr (by rw [h.files])

theorem deliver_eq_receive (host : Host) {i : Nat} {job : Job} (h : ws.queue[i]? = some job) :
    ∃ ws₀ outcome, Popped host i ws ws₀ ∧
      (deliver host ws i).2 = receive host ws₀ job.path outcome ∧
      outcome.toOption = (parse host ws job.text job.retries).toOption := by
  obtain ⟨events, workers, outcome, hr, hw, ho⟩ :=
    runJob_eq_receive host { ws with queue := ws.queue.eraseIdx i } job
  have hsame : SameWorkers host ws { ws with queue := ws.queue.eraseIdx i } :=
    sameWorkers_of_eq host rfl
  refine ⟨{ ws with queue := ws.queue.eraseIdx i, events, workers }, outcome,
    ⟨rfl, rfl, rfl, rfl, hsame.trans hw⟩, ?_, ?_⟩
  · rw [deliver, h]
    exact hr
  · rw [ho, parse_congr hsame]

theorem deliver_expired (host : Host) {i : Nat} {job : Job} (h : ws.queue[i]? = some job)
    (hf : (ws.standing job.path).inFlight = false) : Popped host i ws (deliver host ws i).2 := by
  obtain ⟨ws₀, outcome, hpop, hd, -⟩ := deliver_eq_receive host h
  have hf₀ : (ws₀.standing job.path).inFlight = false := by
    rw [standing, hpop.file]
    exact hf
  obtain ⟨e, he⟩ := receive_expired host outcome hf₀
  rw [hd, he]
  exact ⟨hpop.files, hpop.queue, hpop.issued, hpop.answers,
    hpop.workers.trans (sameWorkers_of_eq host rfl)⟩

theorem deliver_taken (host : Host) {i : Nat} {job : Job} (h : ws.queue[i]? = some job)
    (hf : (ws.standing job.path).inFlight = true) (hk : (ws.file job.path).path = job.path) :
    ∃ ws₀ s, Popped host i ws ws₀ ∧
      s = (ws.standing job.path).answered
        ((parse host ws job.text job.retries).toOption.map (·.contentAt job.path)) ∧
      Turn job.path ws₀ (deliver host ws i).2 (host.followJobs job.path s)
        (s.followed (host.readable job.path)) ∧
      (deliver host ws i).2.Served job.path := by
  obtain ⟨ws₀, outcome, hpop, hd, ho⟩ := deliver_eq_receive host h
  have hs₀ : ws₀.standing job.path = ws.standing job.path := by rw [standing, hpop.file]; rfl
  have hk₀ : (ws₀.file job.path).path = job.path := by rw [hpop.file, hk]
  rw [← hs₀] at hf
  have ht := receive_turn host outcome hf hk₀
  rw [hs₀, takenAt, ho] at ht
  rw [hd]
  exact ⟨ws₀, _, hpop, rfl, ht, receive_served host outcome hf hk₀⟩

theorem deliver_none (host : Host) {i : Nat} (h : ws.queue[i]? = none) :
    (deliver host ws i).2 = ws := by
  rw [deliver, h]

end Workspace

end ScopeHints
