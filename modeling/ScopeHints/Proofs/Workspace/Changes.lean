import ScopeHints.Proofs.Workspace.Run
import ScopeHints.Proofs.Workspace.Touch

/-! The history of an index: the lookups that files keep, the parses that they take over, their
moves and their end. What happens between these events leaves the content and the lookups of all
files. -/
namespace ScopeHints

inductive FileEvent where
  | look (q : String)
  | install (q : String)
  /-- A file moves and replaces the one at the new path. -/
  | move (old new : String)
  | forget
  deriving DecidableEq, Repr

/-- Another file of the directory of `p` takes over a parse, moves or is replaced. -/
def FileEvent.Harms (p : String) : FileEvent → Prop
  | .install q => q ≠ p ∧ directoryOf q = directoryOf p
  | .move old new =>
    old ≠ p ∧ new ≠ p ∧ (directoryOf old = directoryOf p ∨ directoryOf new = directoryOf p)
  | .look _ | .forget => False

namespace Workspace
variable {ws ws' ws'' : Workspace} {p q : String} {host : Host} {parser : Parser}
  {settings : HintSettings} {events : List FileEvent}

inductive Change (parser : Parser) (settings : HintSettings) (ws ws' : Workspace) : FileEvent → Prop
  | look {q : String} {tree : ScopeTree} {offset : Int} (h : Looks settings q tree offset ws ws') :
      Change parser settings ws ws' (.look q)
  | install {q text : String} {retries : Int} {parsed : ParsedFile}
      (parse : parseText parser text retries = .ok parsed) (path : (ws.file q).path = q)
      (files : ws'.files = ws.files.insert q ((ws.file q).settled.install parsed))
      (answers : Informs (fun _ => False) ws ws') : Change parser settings ws ws' (.install q)
  | move {old new : String} {f : FileIndex} (tracked : ws.files.get? old = some f)
      (files : ws'.files = ((ws.files.erase old).erase new).insert new (f.movedTo new))
      (answers : Informs (fun _ => False) ws ws') : Change parser settings ws ws' (.move old new)
  | forget (files : ws'.files = {}) (answers : Informs (fun _ => False) ws ws') :
      Change parser settings ws ws' .forget

/-- Events one after the other, with operations between them that make no event. -/
inductive Changes (parser : Parser) (settings : HintSettings) :
    Workspace → List FileEvent → Workspace → Prop
  | refl (ws : Workspace) : Changes parser settings ws [] ws
  | touch {ws ws' ws'' : Workspace} {q : String} {events : List FileEvent}
      (h : Touch settings q ws ws') (rest : Changes parser settings ws' events ws'') :
      Changes parser settings ws events ws''
  | event {ws ws' ws'' : Workspace} {e : FileEvent} {events : List FileEvent}
      (h : Change parser settings ws ws' e) (rest : Changes parser settings ws' events ws'') :
      Changes parser settings ws (e :: events) ws''

theorem Touch.changes (h : Touch settings q ws ws') : Changes parser settings ws [] ws' :=
  .touch h (.refl ws')

theorem Change.changes {e : FileEvent} (h : Change parser settings ws ws' e) :
    Changes parser settings ws [e] ws' :=
  .event h (.refl ws')

theorem Changes.trans {later : List FileEvent} (h : Changes parser settings ws events ws')
    (h' : Changes parser settings ws' later ws'') :
    Changes parser settings ws (events ++ later) ws'' := by
  induction h with
  | refl => exact h'
  | touch h _ ih => exact .touch h (ih h')
  | event h _ ih => exact .event h (ih h')

theorem Changes.part {before since : List FileEvent} {e : FileEvent}
    (h : Changes parser settings ws (before ++ e :: since) ws'') :
    ∃ ws₁ ws₂, Changes parser settings ws before ws₁ ∧ Change parser settings ws₁ ws₂ e ∧
      Changes parser settings ws₂ since ws'' := by
  generalize hevents : before ++ e :: since = events at h
  induction h generalizing before with
  | refl => simp at hevents
  | touch h _ ih =>
    obtain ⟨ws₁, ws₂, h₁, he, h₂⟩ := ih hevents
    exact ⟨ws₁, ws₂, .touch h h₁, he, h₂⟩
  | event h rest ih =>
    cases before with
    | nil =>
      obtain ⟨rfl, rfl⟩ := List.cons.inj hevents
      exact ⟨_, _, .refl _, h, rest⟩
    | cons d before =>
      obtain ⟨rfl, hrest⟩ := List.cons.inj hevents
      obtain ⟨ws₁, ws₂, h₁, he, h₂⟩ := ih hrest
      exact ⟨ws₁, ws₂, .event h h₁, he, h₂⟩

/-- What every operation and every event keeps is kept by all of them one after the other. -/
theorem Changes.keeps {I : Workspace → Prop} (h : Changes parser settings ws events ws')
    (htouch : ∀ {ws ws' : Workspace} {q : String}, Touch settings q ws ws' → I ws → I ws')
    (hevent : ∀ {ws ws' : Workspace} {e : FileEvent}, e ∈ events →
      Change parser settings ws ws' e → I ws → I ws') (hI : I ws) : I ws' := by
  induction h with
  | refl => exact hI
  | touch h _ ih => exact ih hevent (htouch h hI)
  | event h _ ih =>
    exact ih (fun he => hevent (List.mem_cons_of_mem _ he)) (hevent List.mem_cons_self h hI)

/-! ### Answers of the parser -/

theorem answerable_of_served (h : ws.Served p) : (ws.file p).answerable = false := by
  unfold FileIndex.answerable
  cases hpd : (ws.file p).pending with
  | none => rfl
  | some pd =>
    have ho : (ws.file p).outer = none := (h pd hpd).1
    rw [ho]
    rfl

theorem followed_changes (dirty : Bool) {tree : ScopeTree} (hk : (ws.file p).path = p)
    (ho : (ws.file p).outer = some tree) :
    Changes parser host.settings.hints ws (if (ws.file p).pending.isSome then [.look p] else [])
      (servicePending host.settings.hints (if dirty then dispatch host ws p false else ws) p) := by
  cases hpd : (ws.file p).pending with
  | none =>
    have ha : (ws.file p).answerable = false := by simp [FileIndex.answerable, hpd]
    cases dirty with
    | false => exact (servicePending_touch _ hk ha).changes
    | true =>
      have hdispatch := dispatch_touch host false hk ha
      exact (hdispatch.trans
        (servicePending_touch _ hdispatch.path (hdispatch.answerable ha))).changes
  | some pd =>
    have hserve : ∀ ws₁ : Workspace, Touch host.settings.hints p ws ws₁ →
        (ws₁.file p).pending = some pd →
        Changes parser host.settings.hints ws [.look p] (servicePending host.settings.hints ws₁ p) ∧
          ((servicePending host.settings.hints ws₁ p).file p).path = p ∧
          ((servicePending host.settings.hints ws₁ p).file p).answerable = false := by
      intro ws₁ ht hpd₁
      have ho₁ : (ws₁.file p).outer = some tree := (congrArg Content.outer ht.content).trans ho
      obtain ⟨ws₂, ht₂, hnone, hl⟩ := servicePending_looks host.settings.hints ht.path hpd₁ ho₁
      refine ⟨.touch (ht.trans ht₂) (Change.look hl).changes, ?_, ?_⟩
      · rw [hl.file_self]
        exact ht₂.path
      · rw [hl.file_self]
        simp [FileIndex.answerable, keeping, hnone]
    cases dirty with
    | false => exact (hserve ws (Touch.refl hk) hpd).1
    | true =>
      simp only [if_true]
      unfold dispatch
      dsimp only
      cases host.source.read p with
      | ok text =>
        refine And.left (hserve _ ?_ ?_)
        · exact touch_put rfl (informs_of_eq rfl) hk rfl rfl id
        · exact (congrArg FileIndex.pending (file_put_self ws p _)).trans hpd
      | error reason =>
        -- The lookup is made when the text cannot be read, and none is left to make.
        obtain ⟨hchanges, hpath, hopen⟩ := hserve
          ((ws.log (.warning "read_failed" [("path", .text p), ("error", .text reason)])).put p
            ((ws.file p).handed false)) (touch_put rfl (informs_of_eq rfl) hk rfl rfl id)
          ((congrArg FileIndex.pending (file_put_self _ p _)).trans hpd)
        exact hchanges.trans (servicePending_touch _ hpath hopen).changes

theorem receive_ok (host : Host) {text : String} {retries : Int} {parsed : ParsedFile}
    (hparse : parseText host.parser text retries = .ok parsed) (hi : (ws.file p).inFlight = true)
    (hk : (ws.file p).path = p) :
    Changes host.parser host.settings.hints ws
      (.install p :: if (ws.file p).pending.isSome then [.look p] else [])
      (receive host ws p (.ok parsed)) := by
  obtain ⟨e, hreceive⟩ := receive_eq host (.ok parsed) hi
  have hfile : ((ws.put p ((ws.file p).settled.install parsed)).log e).file p =
      (ws.file p).settled.install parsed := file_put_self ws p _
  have hinstall : Change host.parser host.settings.hints ws
      ((ws.put p ((ws.file p).settled.install parsed)).log e) (.install p) :=
    .install hparse hk rfl (informs_of_eq rfl)
  have hrest : Changes host.parser host.settings.hints _ _ _ :=
    followed_changes (ws.file p).outerDirty (by rw [hfile]; exact hk) (congrArg FileIndex.outer hfile)
  rw [hfile] at hrest
  rw [hreceive]
  exact .event hinstall hrest

theorem receive_error (host : Host) (fault : Fault) (hi : (ws.file p).inFlight = true)
    (hk : (ws.file p).path = p) (ha : (ws.file p).answerable = false) :
    Touch host.settings.hints p ws (receive host ws p (.error fault)) := by
  obtain ⟨e, hreceive⟩ := receive_eq host (.error fault) hi
  have hput : Touch host.settings.hints p ws ((ws.put p ((ws.file p).taking (.error fault))).log e) :=
    touch_put rfl (informs_of_eq rfl) hk rfl rfl id
  rw [hreceive]
  split
  · have hdispatch := hput.trans (dispatch_touch host false hput.path (hput.answerable ha))
    exact hdispatch.trans (servicePending_touch _ hdispatch.path (hdispatch.answerable ha))
  · exact hput.trans (servicePending_touch _ hput.path (hput.answerable ha))

/-- The events of a delivery: the file takes over the parse if it awaits one and the text has one,
and then the lookup that waits for it is made. -/
def delivered (host : Host) (ws : Workspace) (i : Nat) : List FileEvent :=
  match ws.queue[i]? with
  | none => []
  | some job =>
    if (ws.file job.path).inFlight && (parse host ws job.text job.retries).isOk then
      .install job.path :: if (ws.file job.path).pending.isSome then [.look job.path] else []
    else []

theorem parseText_of_parse {text : String} {retries : Int} {parsed : ParsedFile}
    (h : parse host ws text retries = .ok parsed) :
    parseText host.parser text retries = .ok parsed := by
  unfold parse at h
  split at h
  · cases h
  · exact h

theorem deliver_changes (host : Host) (h : Orderly ws) (i : Nat) :
    Changes host.parser host.settings.hints ws (delivered host ws i) (deliver host ws i).2 := by
  cases hj : ws.queue[i]? with
  | none =>
    rw [delivered, hj, deliver_none host hj]
    exact .refl ws
  | some job =>
    obtain ⟨ws₀, outcome, hpop, hd, ho⟩ := deliver_eq_receive host hj
    have hfile := hpop.file job.path
    have hk : (ws₀.file job.path).path = job.path := by
      rw [hfile]
      exact h.keyed job.path
    have hpopped : Touch host.settings.hints job.path ws ws₀ :=
      touch_of_files (h.keyed job.path) hpop.files (informs_of_eq hpop.answers)
    rw [delivered, hj, hd]
    dsimp only
    rw [← hfile]
    refine .touch hpopped ?_
    cases hi : (ws₀.file job.path).inFlight with
    | false =>
      obtain ⟨e, he⟩ := receive_expired host outcome hi
      have hlog : Touch host.settings.hints job.path ws₀ (ws₀.log e) :=
        touch_of_files hk rfl (informs_of_eq rfl)
      rw [he]
      exact hlog.changes
    | true =>
      have hopen : (ws₀.file job.path).answerable = false := by
        rw [hfile]
        exact answerable_of_served (h.served job.path)
      cases hp : parse host ws job.text job.retries with
      | ok parsed =>
        rw [hp] at ho
        cases outcome with
        | error fault => cases ho
        | ok taken =>
          obtain rfl : taken = parsed := Option.some.inj ho
          exact receive_ok host (parseText_of_parse hp) hi hk
      | error e =>
        rw [hp] at ho
        cases outcome with
        | error fault => exact (receive_error host fault hi hk hopen).changes
        | ok taken => cases ho

def drained (host : Host) : Nat → Workspace → List FileEvent
  | 0, _ => []
  | fuel + 1, ws =>
    if ws.queue = [] then [] else delivered host ws 0 ++ drained host fuel (deliver host ws 0).2

theorem drain_changes (host : Host) (fuel : Nat) {ws : Workspace} (h : Orderly ws) :
    Changes host.parser host.settings.hints ws (drained host fuel ws) (drain host fuel ws).2 := by
  induction fuel generalizing ws with
  | zero => exact .refl ws
  | succ fuel ih =>
    rw [drain_succ, drained]
    split
    · exact .refl ws
    · exact (deliver_changes host h 0).trans (ih (deliver_advance host h 0).1.orderly)

theorem drain_forgotten (host : Host) (fuel : Nat) {ws : Workspace} (hf : ws.files = {}) :
    (drain host fuel ws).2.files = {} ∧ (drain host fuel ws).2.queue = ws.queue.drop fuel ∧
      (drain host fuel ws).2.answers = ws.answers := by
  induction fuel generalizing ws with
  | zero => exact ⟨hf, rfl, rfl⟩
  | succ fuel ih =>
    rw [drain_succ]
    cases hq : ws.queue with
    | nil => simp [hf, hq]
    | cons job rest =>
      have hj : ws.queue[0]? = some job := by rw [hq]; rfl
      have hidle : (ws.standing job.path).inFlight = false := by
        rw [standing, file, hf]
        rfl
      have hpop := deliver_expired host hj hidle
      have hrest : (deliver host ws 0).2.queue = rest := by rw [hpop.queue, hq]; rfl
      obtain ⟨hfiles, hqueue, hanswers⟩ := ih (hpop.files.trans hf)
      rw [if_neg (by simp)]
      exact ⟨hfiles, hqueue.trans (by rw [hrest]; rfl), hanswers.trans hpop.answers⟩

/-! ### Lookups -/

def looked (host : Host) (ws : Workspace) (path : String) (offset : Int) : List FileEvent :=
  match (lookup host ws path offset).1 with
  | .info info => if info.fresh then [.look path] else []
  | .pending _ => []

theorem kept?_fresh {f : FileIndex} {offset : Int} {info : ScopeInfo}
    (h : f.kept? offset = some info) : info.fresh = false := by
  unfold FileIndex.kept? at h
  split at h
  · split at h
    · rw [← Option.some.inj h]
    · cases h
  · cases h

theorem lookup_changes (host : Host) (offset : Int) (h : Orderly ws) (p : String) :
    Changes parser host.settings.hints ws (looked host ws p offset) (lookup host ws p offset).2 := by
  have hopened := opened_touch host (h.keyed p) (answerable_of_served (h.served p))
  unfold looked
  obtain ⟨info, hkept, hl⟩ | ⟨tree, ho, hl⟩ | ⟨ho, ticket, hl⟩ := lookup_answer host ws p offset
  · rw [hl]
    dsimp only
    rw [kept?_fresh hkept]
    exact hopened.changes
  · rw [hl]
    exact .touch hopened (Change.look (compute_looks _ offset hopened.path ho)).changes
  · rw [hl]
    exact (hopened.trans (waiting_touch host offset hopened.path ho)).changes

/-! ### Moves -/

/-- A move erases what stood at both paths and puts the file at the new one. -/
theorem rename_change (host : Host) (new : String) {old : String} {f : FileIndex}
    (h : ws.files.get? old = some f) :
    ∃ ws₁, ws₁.files = ((ws.files.erase old).erase new).insert new (f.movedTo new) ∧
      Informs (fun _ => False) ws ws₁ ∧ rename host ws old new =
        if f.inFlight && f.pending.isSome then (refresh host ws₁ new false).2 else ws₁ := by
  have hsettle : ∀ ws₀ : Workspace, ws₀.files = ws.files.erase old → Informs (fun _ => False) ws ws₀ →
      ∃ ws₁, ws₁.files = ((ws.files.erase old).erase new).insert new (f.movedTo new) ∧
        Informs (fun _ => False) ws ws₁ ∧ settleAt host ws₀ old new f =
          if f.inFlight && f.pending.isSome then (refresh host ws₁ new false).2 else ws₁ := by
    intro ws₀ hfiles hanswers
    unfold settleAt
    dsimp only
    cases hf : f.inFlight with
    | false =>
      have hg : f.movedTo new = f.renamed new := by rw [FileIndex.movedTo, hf]; rfl
      refine ⟨_, ?_, ?_, rfl⟩
      · rw [hg, ← hfiles]
        rfl
      · exact hanswers
    | true =>
      have hg : f.movedTo new = { f.renamed new with inFlight := false, outerDirty := true } := by
        rw [FileIndex.movedTo, hf]
        rfl
      rw [if_pos rfl, Bool.true_and, ← hg]
      refine ⟨_, ?_, ?_, rfl⟩
      · change Table.insert (Table.insert (Table.erase ws₀.files new) new _) new _ = _
        rw [Table.insert_insert, hfiles]
      · exact hanswers
  unfold rename
  rw [h]
  dsimp only
  cases hn : (ws.files.erase old).get? new with
  | none => exact hsettle { ws with files := ws.files.erase old } rfl (informs_of_eq rfl)
  | some replaced =>
    exact hsettle (reject { ws with files := ws.files.erase old } new replaced.pending _)
      (reject_files _ _ _ _) (reject_informs { ws with files := ws.files.erase old } _ _ _)

theorem rename_changes (host : Host) (h : Orderly ws) (new : String) {old : String} {f : FileIndex}
    (hf : ws.files.get? old = some f) :
    Changes parser host.settings.hints ws [.move old new] (rename host ws old new) := by
  obtain ⟨ws₁, hfiles, hanswers, hrename⟩ := rename_change host new hf
  have hfile : ws₁.file new = f.movedTo new :=
    file_eq (by rw [hfiles, Table.get?_insert_self])
  have hmove : Change parser host.settings.hints ws ws₁ (.move old new) := .move hf hfiles hanswers
  rw [hrename]
  split
  · have hopen : (ws₁.file new).answerable = false := by
      have hold := answerable_of_served (h.served old)
      rw [file_eq hf] at hold
      rw [hfile, FileIndex.answerable, FileIndex.movedTo_pending, FileIndex.movedTo_outer]
      exact hold
    have hpath : (ws₁.file new).path = new := by rw [hfile, FileIndex.movedTo_path]
    exact hmove.changes.trans (refresh_touch host false hpath hopen).changes
  · exact hmove.changes

theorem foldl_reject_informs (entries : List (String × FileIndex)) (ws : Workspace) :
    Informs (fun _ => False) ws
      (entries.foldl (fun ws (path, f) => ws.reject path f.pending (some "reset")) ws) := by
  induction entries generalizing ws with
  | nil => exact informs_of_eq rfl
  | cons e entries ih => exact (reject_informs ws _ _ _).trans (ih _)

theorem reset_changes (ws : Workspace) : Changes parser settings ws [.forget] ws.reset := by
  have hforget : Change parser settings ws ws.reset .forget :=
    .forget rfl (foldl_reject_informs ws.files.entries ws)
  exact hforget.changes

theorem refresh_changes (host : Host) (h : Orderly ws) (p : String) (force : Bool) :
    Changes parser host.settings.hints ws [] (refresh host ws p force).2 :=
  (refresh_touch host force (h.keyed p) (answerable_of_served (h.served p))).changes

theorem refreshAll_changes (host : Host) (paths : List String) {ws : Workspace} (h : Orderly ws) :
    Changes parser host.settings.hints ws [] (refreshAll host ws paths).2 := by
  induction paths generalizing ws with
  | nil => exact .refl ws
  | cons p paths ih =>
    exact (refresh_changes host h p false).trans (ih (refresh_request host h p false).orderly)

end Workspace

namespace World
open Workspace

def events (w : World) : Step → List FileEvent
  | .lookup path offset => looked w.host w.workspace path offset
  | .hints path query _ fed => if fed then looked w.host w.workspace path query.offset else []
  | .deliver place => delivered w.host w.workspace place
  | .idle => drained w.host (w.workspace.queue.length + w.workspace.dirtyCount) w.workspace
  | .rename old new => if w.workspace.files.contains old then [.move old new] else []
  | .reset | .stop => [.forget]
  | _ => []

def history (w : World) : List Step → List FileEvent
  | [] => []
  | s :: rest => w.events s ++ (w.step s).2.history rest

theorem step_changes {w : World} (h : Orderly w.workspace) (s : Step) :
    Changes w.parser w.settings.hints w.workspace (w.events s) (w.step s).2.workspace := by
  have hsame : ∀ {ws ws' : Workspace}, Orderly ws → ws'.files = ws.files →
      Informs (fun _ => False) ws ws' → Changes w.parser w.settings.hints ws [] ws' :=
    fun ho hf ha => (touch_of_files (ho.keyed "") hf ha).changes
  cases s with
  | refresh path force => exact refresh_changes w.host h path force
  | markDirty path => exact (markDirty_touch (h.keyed path)).changes
  | change path change =>
    have hmark : Changes w.parser w.settings.hints w.workspace [] (w.workspace.markDirty path) :=
      (markDirty_touch (h.keyed path)).changes
    have ho := (markDirty_request h path).orderly
    simp only [step, answer, textChanged]
    split
    · exact hmark.trans (refresh_changes w.host ho path false)
    · exact hmark.trans (hsame ho rfl (informs_of_eq rfl))
  | refreshDirectory path =>
    have hlisting := hsame h (listing_files w.host w.workspace path)
      (informs_of_eq (listing_answers w.host w.workspace path))
    have ho := (listing_request w.host h path).orderly
    simp only [step, answer, refreshDirectory_eq]
    exact hlisting.trans (refreshAll_changes w.host (neighbours w.host path) ho)
  | rename old new =>
    cases hf : w.workspace.files.get? old with
    | none =>
      simp only [step, events, rename_untracked w.host hf, Table.contains, hf]
      exact .refl _
    | some f =>
      simp only [step, events, Table.contains, hf]
      exact rename_changes w.host h new hf
  | reset => exact reset_changes w.workspace
  | lookup path offset => exact lookup_changes w.host offset h path
  | hints path query maxResults fed =>
    rw [step_hints]
    cases fed with
    | false => exact .refl _
    | true => exact lookup_changes w.host query.offset h path
  | cancel t =>
    simp only [step, answer, cancel]
    split
    · refine hsame h (settle_files _ _ _) ((settle_informs _ _ _).mono ?_)
      intro info hi
      cases hi
    · exact .refl _
  | deliver place => exact deliver_changes w.host h place
  | idle => exact drain_changes w.host _ h
  | start =>
    simp only [step]
    split
    · rename_i ws hs
      obtain ⟨-, events, workers, rfl⟩ := start_eq_some hs
      exact hsame h rfl (informs_of_eq rfl)
    · exact .refl _
  | stop =>
    -- No file is left when the queue is drained.
    obtain ⟨hfiles, -, hanswers⟩ := drain_forgotten w.host
      (w.workspace.reset.queue.length + w.workspace.reset.dirtyCount) (reset_forgotten w.workspace).files
    refine (reset_changes w.workspace).trans
      (hsame (reset_request h).orderly ?_ (informs_of_eq hanswers))
    exact hfiles.trans (reset_forgotten w.workspace).files.symm
  | status | paths | setText | delete | renameText => exact .refl _

/-- Every run is made up of its events. -/
theorem run_changes (steps : List Step) {w : World} (h : Orderly w.workspace) :
    Changes w.parser w.settings.hints w.workspace (w.history steps) (w.run steps).2.workspace := by
  induction steps generalizing w with
  | nil => exact .refl _
  | cons s steps ih =>
    have hrest := ih (step_advance h s).orderly
    rw [(step_fixed w s).1, (step_fixed w s).2] at hrest
    exact (step_changes h s).trans hrest

end World

end ScopeHints
