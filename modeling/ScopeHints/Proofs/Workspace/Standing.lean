import ScopeHints.Workspace.Basic

/-! How a file stands with the parser, apart from lookups: what it took over from the parser and
the flags that decide what is asked of it next. The operations of the index act on the standing of
one file as the functions given here. -/
namespace ScopeHints

structure Content where
  outer : Option ScopeTree
  identifiers : List HintToken
  globals : List String
  properties : List HintToken
  associations : AssociationCounts
  recovered : Bool

/-- How a file stands with the parser: what it took over from it, and its flags. -/
structure Standing where
  content : Content
  outerDirty : Bool
  inFlight : Bool
  forcePending : Bool

namespace FileIndex

def content (f : FileIndex) : Content :=
  ⟨f.outer, f.identifiers, f.globals, f.properties, f.associations, f.recovered⟩

def relieved (f : FileIndex) : FileIndex := { f with pending := none }

def handed (f : FileIndex) (readable : Bool) : FileIndex :=
  { f with inFlight := readable, outerDirty := false, forcePending := false }

def standing (f : FileIndex) : Standing := ⟨f.content, f.outerDirty, f.inFlight, f.forcePending⟩

end FileIndex

def ParsedFile.contentAt (p : ParsedFile) (path : String) : Content :=
  ⟨some p.tree, p.identifiers, p.globals, FileIndex.withPath path p.properties, p.associations,
    p.recovered⟩

namespace Standing

/-- After the text was asked for to be parsed: an answer is awaited if there is a text. -/
def handed (s : Standing) (readable : Bool) : Standing :=
  { s with outerDirty := false, inFlight := readable, forcePending := false }

def due (s : Standing) (force : Bool) : Bool :=
  !s.inFlight && (force || s.outerDirty || s.content.outer.isNone)

def refreshed (s : Standing) (force readable : Bool) : Standing :=
  if s.due force then s.handed readable
  else if s.inFlight && force then { s with outerDirty := true, forcePending := true }
  else s

/-- The lines that a parse may blank: those of a first parse or a forced one. -/
def budget (s : Standing) (force : Bool) (maxRetries : Int) : Int :=
  if force || s.forcePending || s.content.outer.isNone then maxRetries else 0

def answered (s : Standing) (taken : Option Content) : Standing :=
  { s with inFlight := false, content := taken.getD s.content }

@[simp] theorem handed_inFlight (s : Standing) (readable : Bool) :
    (s.handed readable).inFlight = readable := rfl

@[simp] theorem refreshed_content (s : Standing) (force readable : Bool) :
    (s.refreshed force readable).content = s.content := by
  unfold refreshed
  split
  · rfl
  · split <;> rfl

theorem refreshed_inFlight {s : Standing} {force readable : Bool} (h : s.due force = false) :
    (s.refreshed force readable).inFlight = s.inFlight := by
  rw [refreshed, if_neg (by simp [h])]
  split <;> rfl

theorem inFlight_of_refreshed {s : Standing} {force readable : Bool}
    (h : (s.refreshed force readable).inFlight = true) :
    s.inFlight = true ∨ (s.due force = true ∧ readable = true) := by
  cases hd : s.due force with
  | true =>
    rw [refreshed, if_pos hd] at h
    exact .inr ⟨rfl, h⟩
  | false =>
    rw [refreshed_inFlight hd] at h
    exact .inl h

end Standing

def Host.readable (host : Host) (p : String) : Bool := (host.source.read p).isOk

def Host.jobs (host : Host) (p : String) (force : Bool) (s : Standing) : List Job :=
  match host.source.read p with
  | .ok text => [{ path := p, text, retries := s.budget force host.settings.parser.maxRetries }]
  | .error _ => []

def Host.requestJobs (host : Host) (p : String) (force : Bool) (s : Standing) : List Job :=
  if s.due force then host.jobs p force s else []

theorem Host.path_of_mem_jobs {host : Host} {p : String} {force : Bool} {s : Standing} {job : Job}
    (h : job ∈ host.jobs p force s) : job.path = p := by
  unfold Host.jobs at h
  split at h
  · rw [List.mem_singleton.1 h]
  · cases h

theorem Host.exists_job {host : Host} {p : String} (force : Bool) (s : Standing)
    (h : host.readable p = true) : ∃ job ∈ host.jobs p force s, job.path = p := by
  unfold Host.readable at h
  unfold Host.jobs
  cases hr : host.source.read p with
  | ok text => exact ⟨_, List.mem_singleton_self _, rfl⟩
  | error reason =>
    rw [hr] at h
    cases h

theorem Host.request_awaited (host : Host) {p : String} {force : Bool} {s : Standing}
    (hi : (s.refreshed force (host.readable p)).inFlight = true) :
    s.inFlight = true ∨ ∃ job ∈ host.requestJobs p force s, job.path = p := by
  refine (Standing.inFlight_of_refreshed hi).imp_right fun ⟨hd, hr⟩ => ?_
  rw [Host.requestJobs, if_pos hd]
  exact Host.exists_job force s hr

end ScopeHints
