import ScopeHints.Proofs.Workspace.Changes

/-! What happens to one file stays with it. A request for a file and an answer of the parser for it
change no other file and answer no lookup in another file, and an answer that is a fault or that
nobody awaits leaves what the file knows. -/
namespace ScopeHints

namespace Workspace
variable {ws ws' : Workspace} {p : String}

/-- Only the file at `p` has changed, and no lookup was answered but the one that waited for it and
new ones. -/
structure Confined (p : String) (ws ws' : Workspace) : Prop where
  files : ∀ q, q ≠ p → ws'.files.get? q = ws.files.get? q
  answers : ∀ t, t < ws.issued → (∀ pd, ws.waiting p = some pd → pd.ticket ≠ t) →
    ws'.answers.get? t = ws.answers.get? t
  elsewhere : ∀ q pd, q ≠ p → ws.waiting q = some pd →
    ws'.answers.get? pd.ticket = ws.answers.get? pd.ticket

/-- The file at `p` knows what it knew: the content that it took over from the parser, and the
lookup that it keeps. -/
structure Remembers (p : String) (ws ws' : Workspace) : Prop where
  content : (ws'.file p).content = (ws.file p).content
  memo : (ws'.file p).memo = (ws.file p).memo

theorem Effect.confined {new : List Job} (h : Effect p ws ws' new) (ht : Tickets ws) :
    Confined p ws ws' := by
  refine ⟨h.others, h.settled, ?_⟩
  intro q pd hq hpd
  refine h.settled pd.ticket (ht.numbered q pd hpd) ?_
  intro pd' hpd' he
  exact hq (ht.single q p pd pd' hpd hpd' he.symm)

theorem Confined.congr {ws₀ : Workspace} (h : Confined p ws₀ ws') (hf : ws₀.files = ws.files)
    (hi : ws₀.issued = ws.issued) (ha : ws₀.answers = ws.answers) : Confined p ws ws' := by
  obtain ⟨hfiles, hanswers, helsewhere⟩ := h
  rw [hf] at hfiles
  rw [hi, ha, waiting_congr hf] at hanswers
  rw [ha, waiting_congr hf] at helsewhere
  exact ⟨hfiles, hanswers, helsewhere⟩

theorem Touch.remembers {settings : HintSettings} (h : Touch settings p ws ws') :
    Remembers p ws ws' :=
  ⟨h.content, h.memo⟩

theorem remembers_of_files (h : ws'.files = ws.files) : Remembers p ws ws' := by
  have hfile : ws'.file p = ws.file p := file_congr (by rw [h])
  exact ⟨by rw [hfile], by rw [hfile]⟩

/-! ### Requests -/

theorem textChanged_effect (host : Host) (hk : (ws.file p).path = p) (change : Option TextChange) :
    ∃ new, Effect p ws (textChanged host ws p change).2 new := by
  have hmark := markDirty_turn hk
  unfold textChanged
  dsimp only
  split
  · exact ⟨_, hmark.toEffect.trans (refresh_turn host false hmark.path).toEffect⟩
  · exact ⟨_, hmark.toEffect.log _⟩

theorem lookup_effect (host : Host) (hk : (ws.file p).path = p) (offset : Int) :
    ∃ new, Effect p ws (lookup host ws p offset).2 new := by
  obtain h | h := lookup_turn host offset hk
  · exact ⟨_, h.toEffect⟩
  · exact ⟨_, h.toEffect⟩

/-! ### Answers of the parser -/

theorem receive_effect (host : Host) (hk : (ws.file p).path = p)
    (outcome : Except Fault ParsedFile) : ∃ new, Effect p ws (receive host ws p outcome) new := by
  cases hi : (ws.standing p).inFlight with
  | false =>
    obtain ⟨e, he⟩ := receive_expired host outcome hi
    rw [he]
    exact ⟨[], (Effect.refl p ws).log e⟩
  | true => exact ⟨_, (receive_turn host outcome hi hk).toEffect⟩

/-- A fault leaves what the file knows, also when its text is handed over once more or the lookup
that waits is answered: such a lookup waits for a first parse, so that there is nothing to look
up. -/
theorem receive_remembers (host : Host) (hk : (ws.file p).path = p) (hs : ws.Served p)
    {outcome : Except Fault ParsedFile}
    (h : (ws.standing p).inFlight = false ∨ outcome.isOk = false) :
    Remembers p ws (receive host ws p outcome) := by
  cases hi : (ws.standing p).inFlight with
  | false =>
    obtain ⟨e, he⟩ := receive_expired host outcome hi
    rw [he]
    exact remembers_of_files rfl
  | true =>
    cases outcome with
    | ok parsed => simp [hi, Except.isOk, Except.toBool] at h
    | error fault => exact (receive_error host fault hi hk (answerable_of_served hs)).remembers

theorem deliver_confined (host : Host) (ho : Orderly ws) {i : Nat} {job : Job}
    (hj : ws.queue[i]? = some job) : Confined job.path ws (deliver host ws i).2 := by
  obtain ⟨ws₀, outcome, hpop, hd, -⟩ := deliver_eq_receive host hj
  have hk : (ws₀.file job.path).path = job.path := by rw [hpop.file, ho.keyed]
  have ht : Tickets ws₀ := ho.tickets.congr hpop.files hpop.issued hpop.grows
  obtain ⟨new, he⟩ := receive_effect host hk outcome
  rw [hd]
  exact (he.confined ht).congr hpop.files hpop.issued hpop.answers

theorem deliver_remembers (host : Host) (ho : Orderly ws) {i : Nat} {job : Job}
    (hj : ws.queue[i]? = some job) (h : (ws.standing job.path).inFlight = false ∨
      (parse host ws job.text job.retries).isOk = false) :
    Remembers job.path ws (deliver host ws i).2 := by
  obtain ⟨ws₀, outcome, hpop, hd, hparse⟩ := deliver_eq_receive host hj
  have hfile := hpop.file job.path
  have hk : (ws₀.file job.path).path = job.path := by rw [hfile, ho.keyed]
  have hs : ws₀.Served job.path := by
    intro pd hpd
    rw [waiting_congr hpop.files] at hpd
    rw [standing_congr hpop.files]
    exact ho.served job.path pd hpd
  have hfail : (ws₀.standing job.path).inFlight = false ∨ outcome.isOk = false := by
    rw [standing_congr hpop.files]
    refine h.imp_right fun he => ?_
    cases outcome with
    | error fault => rfl
    | ok parsed =>
      cases hp : parse host ws job.text job.retries with
      | ok taken => simp [hp, Except.isOk, Except.toBool] at he
      | error e => simp [hp, Except.toOption] at hparse
  obtain ⟨hcontent, hmemo⟩ := receive_remembers host hk hs hfail
  rw [hfile] at hcontent hmemo
  rw [hd]
  exact ⟨hcontent, hmemo⟩

end Workspace

def Step.path? : Step → Option String
  | .refresh path _ | .markDirty path | .change path _ | .lookup path _ | .hints path _ _ _ =>
    some path
  | _ => none

namespace World
open Workspace

structure Contained (w : World) : Prop where
  asked : ∀ (s : Step) (p : String), s.path? = some p →
    Confined p w.workspace (w.step s).2.workspace
  /-- Jobs of one file, whatever the workers make of them. -/
  worked : ∀ (i : Nat) (job : Job), w.workspace.queue[i]? = some job →
    Confined job.path w.workspace (w.step (.deliver i)).2.workspace
  /-- Jobs that fail or that nobody awaits. -/
  failed : ∀ (i : Nat) (job : Job), w.workspace.queue[i]? = some job →
    ((w.workspace.standing job.path).inFlight = false ∨
      (parse w.host w.workspace job.text job.retries).isOk = false) →
    Remembers job.path w.workspace (w.step (.deliver i)).2.workspace
  received : ∀ (p : String) (outcome : Except Fault ParsedFile),
    Confined p w.workspace (receive w.host w.workspace p outcome)
  refused : ∀ (p : String) (outcome : Except Fault ParsedFile),
    ((w.workspace.standing p).inFlight = false ∨ outcome.isOk = false) →
    Remembers p w.workspace (receive w.host w.workspace p outcome)

theorem step_confined {w : World} (h : Orderly w.workspace) {s : Step} {p : String}
    (hs : s.path? = some p) : Confined p w.workspace (w.step s).2.workspace := by
  cases s with
  | refresh path force =>
    obtain rfl := Option.some.inj hs
    exact (refresh_turn w.host force (h.keyed path)).toEffect.confined h.tickets
  | markDirty path =>
    obtain rfl := Option.some.inj hs
    exact (markDirty_turn (h.keyed path)).toEffect.confined h.tickets
  | change path change =>
    obtain rfl := Option.some.inj hs
    obtain ⟨new, he⟩ := textChanged_effect w.host (h.keyed path) change
    exact he.confined h.tickets
  | lookup path offset =>
    obtain rfl := Option.some.inj hs
    obtain ⟨new, he⟩ := lookup_effect w.host (h.keyed path) offset
    exact he.confined h.tickets
  | hints path query maxResults fed =>
    obtain rfl := Option.some.inj hs
    obtain ⟨new, he⟩ := lookup_effect w.host (h.keyed path) query.offset
    rw [step_hints]
    split
    · exact he.confined h.tickets
    · exact (Effect.refl path w.workspace).confined h.tickets
  | refreshDirectory | rename | reset | status | paths | cancel | deliver | idle | start | stop
  | setText | delete | renameText => cases hs

theorem contained_of_orderly {w : World} (h : Orderly w.workspace) : Contained w := by
  refine ⟨fun s p hs => step_confined h hs, fun i job hj => deliver_confined w.host h hj,
    fun i job hj hfail => deliver_remembers w.host h hj hfail, ?_, ?_⟩
  · intro p outcome
    obtain ⟨new, he⟩ := receive_effect w.host (h.keyed p) outcome
    exact he.confined h.tickets
  · intro p outcome hfail
    exact receive_remembers w.host (h.keyed p) (h.served p) hfail

/-- Whatever an index has been through, requests for one file and answers for it concern this file
only, and faults destroy nothing. -/
theorem run_contained (w : World) (workers : Workers) (steps : List Step) :
    Contained ((w.fresh workers).run steps).2 :=
  contained_of_orderly (run_advance steps (orderly_new workers)).orderly

def spoiled : World :=
  ((emptyOnly.fresh .lent).run
    [.refresh "a.js" false, .deliver 0, .setText "a.js" "x", .refresh "a.js" true]).2

theorem run_contained_spoiled :
    (spoiled.workspace.file "a.js").outer.isSome = true ∧
      spoiled.workspace.queue[0]? = some ⟨"a.js", "x", 10⟩ ∧
      Remembers "a.js" spoiled.workspace (spoiled.step (.deliver 0)).2.workspace := by
  have hparsed : (spoiled.workspace.file "a.js").outer.isSome = true := by decide +kernel
  have hjob : spoiled.workspace.queue[0]? = some ⟨"a.js", "x", 10⟩ := by decide +kernel
  have hfail : (parse spoiled.host spoiled.workspace "x" 10).isOk = false := by decide +kernel
  exact ⟨hparsed, hjob, (run_contained emptyOnly .lent _).failed 0 _ hjob (.inr hfail)⟩

end World

end ScopeHints
