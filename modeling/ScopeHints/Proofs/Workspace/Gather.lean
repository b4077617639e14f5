import ScopeHints.Proofs.Association
import ScopeHints.Proofs.Workspace.Directory
import ScopeHints.Proofs.Workspace.Transparent

/-! A lookup in a directory. After the directory of a file was refreshed and all jobs are done, a
lookup in the file gathers its candidates from the file itself and, for properties and associations,
from all files of the directory whose texts parse. -/
namespace ScopeHints

theorem findSome?_filterMap {α β γ : Type} (f : α → Option β) (g : β → Option γ) (l : List α) :
    (l.filterMap f).findSome? g = l.findSome? fun a => (f a).bind g := by
  rw [← List.head?_filterMap, List.filterMap_filterMap, List.head?_filterMap]

theorem sum_map_filterMap {α β : Type} (f : α → Option β) (n : β → Nat) (l : List α) :
    ((l.filterMap f).map n).sum = (l.map fun a => ((f a).map n).getD 0).sum := by
  induction l with
  | nil => rfl
  | cons a l ih =>
    cases hf : f a with
    | none => simp [hf, ih]
    | some b => simp [hf, ih]

namespace ScopeTree
variable {tree : ScopeTree}

def propertyOccurrences (tree : ScopeTree) : List (String × Int) :=
  (tree.records.toList.flatMap (·.properties)).map fun o => (o.name, o.position)

def propertyToken? (tree : ScopeTree) (path name : String) : Option HintToken :=
  if name ∈ tree.propertyOccurrences.map Prod.fst then
    some { value := name, positions := (positionsIn tree.propertyOccurrences name).mergeSort,
           kind := .property, path := some path }
  else none

theorem propertyItems_perm (hw : tree.Wired) :
    ((tree.scopes.flatMap fun s => s.record.properties).map fun o => (o.name, o.position)).Perm
      tree.propertyOccurrences :=
  (flatMap_scopes_perm hw (·.properties)).map _

theorem find?_propertyTokens (hw : tree.Wired) (path name : String) :
    (FileIndex.withPath path tree.propertyTokens).find? (·.value = name) =
      tree.propertyToken? path name := by
  have hitems := propertyItems_perm hw
  have hpositions : (positionsIn ((tree.scopes.flatMap fun s => s.record.properties).map
      fun o => (o.name, o.position)) name).mergeSort =
        (positionsIn tree.propertyOccurrences name).mergeSort :=
    mergeSort_eq_of_perm ((hitems.filter _).map _)
  have hvalue : (fun t : HintToken => decide (t.value = name)) ∘
      (fun t : HintToken => { t with path := some path }) = fun t => decide (t.value = name) := rfl
  rw [FileIndex.withPath, List.find?_map, hvalue, propertyTokens, find?_collectTokens, hpositions,
    propertyToken?]
  by_cases hname : name ∈ tree.propertyOccurrences.map Prod.fst
  · rw [if_pos hname, if_pos (((hitems.map Prod.fst).mem_iff).2 hname)]
    rfl
  · rw [if_neg hname, if_neg (mt ((hitems.map Prod.fst).mem_iff).1 hname)]
    rfl

end ScopeTree

namespace Workspace
variable {ws : Workspace} {p : String}

theorem lookup_computed (host : Host) (ho : Orderly ws) {tree : ScopeTree}
    (houter : (ws.file p).outer = some tree) (hdirty : (ws.file p).innerDirty = true)
    (offset : Int) :
    (lookup host ws p offset).1 = .info (lookupIn host.settings.hints ws (ws.file p) tree offset) := by
  have hopened := opened_touch host (ho.keyed p) (answerable_of_served (ho.served p))
  have hscopes : ((opened host ws p).file p).outer = some tree :=
    (congrArg Content.outer hopened.content).trans houter
  obtain ⟨info, hkept, -⟩ | ⟨tree', houter', hl⟩ | ⟨hnone, -⟩ := lookup_answer host ws p offset
  · have hsame : ((opened host ws p).file p).innerDirty = (ws.file p).innerDirty :=
      congrArg Prod.fst hopened.memo
    cases (clean_of_kept? hkept).symm.trans (hsame.trans hdirty)
  · obtain rfl := Option.some.inj (houter'.symm.trans hscopes)
    rw [hl, compute_fst _ hopened.path, hopened.around_same (ho.keyed p),
      infoFrom_congr _ _ hopened.content, lookupIn_eq, ho.keyed]
  · cases hnone.symm.trans hscopes

end Workspace

namespace World
open Workspace
variable {w : World} {p q : String}

def listed (w : World) (p : String) : List String :=
  (if w.unlistable.contains (directoryOf p) then [] else Memory.list w.texts (directoryOf p)).filter
    (hasExtension w.settings.parser)

theorem mem_listed : q ∈ w.listed p ↔ w.unlistable.contains (directoryOf p) = false ∧
    q ∈ w.texts.keys ∧ directoryOf q = directoryOf p ∧ hasExtension w.settings.parser q = true := by
  unfold listed
  cases w.unlistable.contains (directoryOf p) with
  | true => simp
  | false => simp [Memory.list, sortedTexts, and_assoc]

theorem nodup_listed (h : w.texts.keys.Nodup) (p : String) : (w.listed p).Nodup := by
  unfold listed
  split
  · exact List.nodup_nil
  · exact ((List.mergeSort_perm _ _).nodup_iff.2 (h.filter _)).filter _

theorem neighbours_eq (w : World) (p : String) :
    neighbours w.host p = if p ∈ w.listed p then w.listed p else w.listed p ++ [p] := by
  have hlist : w.host.source.list (directoryOf p) =
      if w.unlistable.contains (directoryOf p) then .error (directoryOf p)
      else .ok (Memory.list w.texts (directoryOf p)) := rfl
  unfold neighbours listed
  rw [hlist]
  cases w.unlistable.contains (directoryOf p) with
  | true => rfl
  | false => simp [host]

theorem nodup_neighbours (h : w.texts.keys.Nodup) (p : String) : (neighbours w.host p).Nodup := by
  rw [neighbours_eq]
  split
  · exact nodup_listed h p
  · rename_i hp
    have happart : ∀ q ∈ w.listed p, q ≠ p := fun q hq => ne_of_mem_of_not_mem hq hp
    exact List.nodup_append.2 ⟨nodup_listed h p, by simp, by simpa using happart⟩

theorem directory_of_mem_neighbours (h : q ∈ neighbours w.host p) : directoryOf q = directoryOf p := by
  rw [neighbours_eq] at h
  split at h
  · exact (mem_listed.1 h).2.2.1
  · obtain h | h := List.mem_append.1 h
    · exact (mem_listed.1 h).2.2.1
    · rw [List.mem_singleton.1 h]

theorem mem_neighbours_self (w : World) (p : String) : p ∈ neighbours w.host p := by
  rw [neighbours_eq]
  split
  · assumption
  · simp

/-- The files from which a lookup in a path gathers: the path itself and then the others that are
listed. -/
def gatherOrder (w : World) (p : String) : List String := p :: (w.listed p).filter (· ≠ p)

theorem filter_neighbours (w : World) (p : String) :
    (neighbours w.host p).filter (· ≠ p) = (w.listed p).filter (· ≠ p) := by
  rw [neighbours_eq]
  split
  · rfl
  · simp

def parsedAt (w : World) (q : String) : Option ParsedFile :=
  (w.texts.get? q).bind fun text =>
    (parseText w.parser text w.settings.parser.maxRetries).toOption

/-- The files of a directory whose texts parse, the one at `p` first and then the others in the
order in which they are listed, each with its parse. -/
def sources (w : World) (p : String) : List (String × ParsedFile) :=
  (w.gatherOrder p).filterMap fun q => (w.parsedAt q).map fun parsed => (q, parsed)

structure Gathers (w : World) (p : String) (parsed : ParsedFile) (offset : Int)
    (info : ScopeInfo) : Prop where
  scope : info.scope = some (scopeAt parsed.tree offset)
  identifiers : info.identifiers =
    candidates w.settings.hints (({ path := p } : FileIndex).install parsed)
      (scopeAt parsed.tree offset)
  recovered : info.recovered = parsed.recovered
  associations : ∀ object property,
    let n : Nat := ((w.sources p).map fun s => s.2.tree.associations.count (object, property)).sum
    (info.associations.ofObject object).get? property = if n = 0 then none else some (n : Int)
  /-- A property stands in the answer once, as the first source that has it tells. -/
  properties : ∀ name, info.properties.filter (·.value = name) =
    ((w.sources p).findSome? fun s => s.2.tree.propertyToken? s.1 name).toList

def contentAt (w : World) (q : String) : Content :=
  ((w.parsedAt q).map (·.contentAt q)).getD Standing.new.content

def gathered (w : World) (p : String) (parsed : ParsedFile) (offset : Int) : ScopeInfo :=
  { scope := some (scopeAt parsed.tree offset)
    identifiers := candidates w.settings.hints (({ path := p } : FileIndex).install parsed)
      (scopeAt parsed.tree offset)
    properties := mergeProperties (w.contentAt p).properties
      (((w.listed p).filter (· ≠ p)).map fun q => (w.contentAt q).properties)
    associations := mergeAssociations (w.contentAt p).associations
      (((w.listed p).filter (· ≠ p)).map fun q => (w.contentAt q).associations)
    recovered := parsed.recovered }

theorem parsedAt_ok {parsed : ParsedFile} (h : w.parsedAt q = some parsed) :
    parsed.tree.Wired ∧ parsed.properties = parsed.tree.propertyTokens ∧
      parsed.associations = parsed.tree.associationCounts := by
  obtain ⟨text, -, hparse⟩ := Option.bind_eq_some_iff.1 h
  cases hp : parseText w.parser text w.settings.parser.maxRetries with
  | error e =>
    rw [hp] at hparse
    cases hparse
  | ok found =>
    rw [hp] at hparse
    obtain rfl := Option.some.inj hparse
    obtain ⟨root, -, hbuilt, hparsed⟩ := parseText_eq_ok hp
    exact ⟨(buildScopes_building hbuilt).1, congrArg ParsedFile.properties hparsed,
      congrArg ParsedFile.associations hparsed⟩

theorem find?_contentAt (w : World) (q name : String) :
    (w.contentAt q).properties.find? (·.value = name) =
      (w.parsedAt q).bind fun parsed => parsed.tree.propertyToken? q name := by
  unfold contentAt
  cases hp : w.parsedAt q with
  | none => rfl
  | some parsed =>
    obtain ⟨hw, hproperties, -⟩ := parsedAt_ok hp
    rw [Option.map_some, Option.getD_some, Option.bind_some, ParsedFile.contentAt, hproperties]
    exact ScopeTree.find?_propertyTokens hw q name

theorem tallies_contentAt (w : World) (q : String) :
    Tallies (w.contentAt q).associations (fun a =>
        ((w.parsedAt q).map fun parsed => parsed.tree.associations.count a).getD 0) ∧
      (w.contentAt q).associations.keys.Nodup := by
  unfold contentAt
  cases hp : w.parsedAt q with
  | none => exact ⟨fun _ => rfl, List.nodup_nil⟩
  | some parsed =>
    obtain ⟨hw, -, hassociations⟩ := parsedAt_ok hp
    rw [Option.map_some, Option.getD_some, ParsedFile.contentAt, hassociations]
    exact ⟨ScopeTree.tallies_associationCounts hw, ScopeTree.nodup_keys_associationCounts _⟩

theorem gathers_gathered (w : World) (p : String) (parsed : ParsedFile) (offset : Int) :
    Gathers w p parsed offset (w.gathered p parsed offset) := by
  refine ⟨rfl, rfl, rfl, ?_, ?_⟩
  · intro object property n
    have htallies := tallies_empty.sum (w.gatherOrder p) fun q _ => w.tallies_contentAt q
    have hsum : n = 0 + ((w.gatherOrder p).map fun q => ((w.parsedAt q).map fun parsed =>
        parsed.tree.associations.count (object, property)).getD 0).sum := by
      rw [Nat.zero_add]
      change ((w.sources p).map fun s => s.2.tree.associations.count (object, property)).sum = _
      rw [sources, sum_map_filterMap]
      refine congrArg (fun f => (List.map f (w.gatherOrder p)).sum) ?_
      funext q
      rw [Option.map_map]
      rfl
    rw [get?_ofObject, hsum]
    exact htallies (object, property)
  · intro name
    have hlists : (w.contentAt p).properties ::
        ((w.listed p).filter (· ≠ p)).map (fun q => (w.contentAt q).properties) =
          (w.gatherOrder p).map fun q => (w.contentAt q).properties := rfl
    rw [gathered, mergeProperties, filter_distinctTokens, hlists, List.find?_flatten,
      List.findSome?_map, sources, findSome?_filterMap]
    refine congrArg (fun f => (List.findSome? f (w.gatherOrder p)).toList) ?_
    funext q
    rw [Function.comp_apply, find?_contentAt]
    cases w.parsedAt q <;> rfl

theorem lookupIn_gathered {ws : Workspace} {parsed : ParsedFile} (ho : Orderly ws)
    (hn : w.texts.keys.Nodup) (hkeys : ws.files.keys = neighbours w.host p)
    (hcontent : ∀ q ∈ neighbours w.host p, (ws.file q).content = w.contentAt q)
    (hparsed : w.parsedAt p = some parsed) (offset : Int) :
    lookupIn w.settings.hints ws (ws.file p) parsed.tree offset = w.gathered p parsed offset := by
  have hself : (ws.file p).content = w.contentAt p := hcontent p (mem_neighbours_self w p)
  have hhere : w.contentAt p = parsed.contentAt p := by
    rw [contentAt, hparsed]
    rfl
  have hsiblings : ws.siblings (ws.file p) = ((w.listed p).filter (· ≠ p)).map ws.file := by
    rw [siblings_eq ho (by rw [hkeys]; exact nodup_neighbours hn p), hkeys, filter_neighbours]
    rw [hkeys]
    exact fun q hq => directory_of_mem_neighbours hq
  have hothers : ∀ q ∈ (w.listed p).filter (· ≠ p), (ws.file q).content = w.contentAt q := by
    intro q hq
    rw [← filter_neighbours] at hq
    exact hcontent q (List.mem_filter.1 hq).1
  have hshared : ∀ {β : Type} (share : Content → β),
      (ws.siblings (ws.file p)).map (fun f => share f.content) =
        ((w.listed p).filter (· ≠ p)).map fun q => share (w.contentAt q) := by
    intro β share
    rw [hsiblings, List.map_map]
    exact List.map_congr_left fun q hq => congrArg share (hothers q hq)
  have hproperties : (ws.siblings (ws.file p)).map (·.properties) =
      ((w.listed p).filter (· ≠ p)).map fun q => (w.contentAt q).properties :=
    hshared Content.properties
  have hassociations : (ws.siblings (ws.file p)).map (·.associations) =
      ((w.listed p).filter (· ≠ p)).map fun q => (w.contentAt q).associations :=
    hshared Content.associations
  have hfile : (ws.file p).content = (({ path := p } : FileIndex).install parsed).content :=
    hself.trans hhere
  have hcandidates : candidates w.settings.hints (ws.file p) (scopeAt parsed.tree offset) =
      candidates w.settings.hints (({ path := p } : FileIndex).install parsed)
        (scopeAt parsed.tree offset) :=
    congrArg ScopeInfo.identifiers
      (infoFrom_congr w.settings.hints [] hfile parsed.tree offset)
  have hmine : (ws.file p).properties = (w.contentAt p).properties :=
    congrArg Content.properties hself
  have hcounts : (ws.file p).associations = (w.contentAt p).associations :=
    congrArg Content.associations hself
  have hrecovered : (ws.file p).recovered = parsed.recovered :=
    congrArg Content.recovered (hself.trans hhere)
  rw [lookupIn, gathered, hcandidates, hproperties, hassociations, hmine, hcounts, hrecovered]

theorem firstContent_eq (w : World) (workers : Workers)
    (hworkers : workers ≠ .own false ∨ 0 < w.settings.worker.maxWorkers) (q : String) :
    (firstContent w.host (parse w.host { workers }) q).getD Standing.new.content =
      w.contentAt q := by
  rw [firstContent, parse_new w.host hworkers, host_text?, contentAt, parsedAt]
  cases w.texts.get? q <;> rfl

/-- After the directory of a file was refreshed in a fresh index and all jobs are done, in whatever
order, a lookup in the file answers at once, and always with the same. -/
theorem directory_lookup_gathers (w : World) (workers : Workers) {p text : String}
    {parsed : ParsedFile} (offset : Int) (hpaths : w.texts.keys.Nodup)
    (hworkers : workers ≠ .own false ∨ 0 < w.settings.worker.maxWorkers)
    (htext : w.texts.get? p = some text)
    (hparse : parseText w.parser text w.settings.parser.maxRetries = .ok parsed) :
    ∃ info, Gathers w p parsed offset info ∧ ∀ order : List Nat,
      let now := ((w.fresh workers).run (.refreshDirectory p :: order.map .deliver)).2
      now.workspace.queue = [] → (now.step (.lookup p offset)).1 = .info info := by
  refine ⟨w.gathered p parsed offset, gathers_gathered w p parsed offset, ?_⟩
  intro order now hdone
  have hparsed : w.parsedAt p = some parsed := by
    rw [parsedAt, htext, Option.bind_some, hparse]
    rfl
  have ho : Orderly now.workspace :=
    (run_advance (.refreshDirectory p :: order.map .deliver) (orderly_new workers)).orderly
  have hsettings : now.host.settings = w.settings :=
    (run_fixed (.refreshDirectory p :: order.map .deliver) (w.fresh workers)).1
  obtain ⟨hkeys, hfiles⟩ := run_first_parses w workers (nodup_neighbours hpaths p) order hdone
  have hcontent : ∀ q ∈ neighbours w.host p, (now.workspace.file q).content = w.contentAt q :=
    fun q hq => (hfiles q hq).1.trans (firstContent_eq w workers hworkers q)
  have hself := mem_neighbours_self w p
  have houter : (now.workspace.file p).outer = some parsed.tree := by
    have h := congrArg Content.outer (hcontent p hself)
    rw [contentAt, hparsed] at h
    exact h
  have hlookup := lookup_computed now.host ho houter (hfiles p hself).2 offset
  rw [hsettings, lookupIn_gathered ho hpaths hkeys hcontent hparsed] at hlookup
  rw [step, answer, hlookup]

def memberProgram : Node :=
  let node (kind : String) (firstByte endByte : Nat) (field : Option String)
      (children : List Node) : Node :=
    { kind, named := true, missing := false, hasError := false, firstByte, endByte, row := 0, field,
      children }
  node "program" 0 3 none [node "expression_statement" 0 3 none [node "member_expression" 0 3 none
    [node "identifier" 0 1 (some "object") [], node "property_identifier" 2 3 (some "property") []]]]

def twoMembers : World where
  texts := ⟨[("d/a.js", "?"), ("d/b.js", "x.f"), ("d/c.js", "x.f"), ("e/d.js", "x.f")]⟩
  parser text := if text = "x.f" then some memberProgram else none

theorem listed_twoMembers : twoMembers.listed "d/c.js" = ["d/a.js", "d/b.js", "d/c.js"] := by
  have hkeys : Memory.list twoMembers.texts (directoryOf "d/c.js") =
      sortedTexts ["d/a.js", "d/b.js", "d/c.js"] :=
    congrArg sortedTexts (by decide +kernel)
  have hsorted : sortedTexts ["d/a.js", "d/b.js", "d/c.js"] = ["d/a.js", "d/b.js", "d/c.js"] :=
    List.mergeSort_of_pairwise (by decide)
  rw [listed, hkeys, hsorted]
  decide +kernel

theorem directory_lookup_gathers_twoMembers :
    ∃ info, (info.associations.ofObject "x").get? "f" = some 2 ∧
      (info.properties.filter (·.value = "f")).map (·.path) = [some "d/c.js"] ∧
      ∀ order ∈ [[0, 0, 0], [2, 0, 0], [1, 1, 0]],
        (((twoMembers.fresh .lent).run (.refreshDirectory "d/c.js" :: order.map .deliver)).2.step
          (.lookup "d/c.js" 0)).1 = .info info := by
  obtain ⟨parsed, hparse⟩ : ∃ parsed, parseText twoMembers.parser "x.f"
      twoMembers.settings.parser.maxRetries = .ok parsed := exists_eq_ok (by decide +kernel)
  obtain ⟨info, hgathers, hlookup⟩ := directory_lookup_gathers twoMembers .lent 0 (by decide)
    (.inl (by simp)) (show twoMembers.texts.get? "d/c.js" = some "x.f" by decide) hparse
  have horder : twoMembers.gatherOrder "d/c.js" = ["d/c.js", "d/a.js", "d/b.js"] := by
    rw [gatherOrder, listed_twoMembers]
    decide
  have hsum : ((twoMembers.sources "d/c.js").map fun s =>
      s.2.tree.associations.count ("x", "f")).sum = 2 := by
    rw [sources, horder]
    decide +kernel
  have hfirst : ((twoMembers.sources "d/c.js").findSome? fun s =>
      s.2.tree.propertyToken? s.1 "f").map (·.path) = some (some "d/c.js") := by
    rw [sources, horder]
    decide +kernel
  have hstart : ((twoMembers.fresh .lent).step (.refreshDirectory "d/c.js")).2 =
      { twoMembers.fresh .lent with
        workspace := (refreshAll twoMembers.host {} ["d/a.js", "d/b.js", "d/c.js"]).2 } := by
    have hneighbours : neighbours twoMembers.host "d/c.js" = ["d/a.js", "d/b.js", "d/c.js"] := by
      rw [neighbours_eq, listed_twoMembers]
      decide
    rw [step, answer, refreshDirectory_eq]
    exact congrArg (fun paths => { twoMembers.fresh .lent with
      workspace := (refreshAll twoMembers.host {} paths).2 }) hneighbours
  have hdone : ∀ order ∈ [[0, 0, 0], [2, 0, 0], [1, 1, 0]],
      (({ twoMembers.fresh .lent with
          workspace := (refreshAll twoMembers.host {} ["d/a.js", "d/b.js", "d/c.js"]).2 } :
            World).run (order.map .deliver)).2.workspace.queue = [] := by
    decide +kernel
  refine ⟨info, ?_, ?_, ?_⟩
  · have hget := hgathers.associations "x" "f"
    rw [hsum] at hget
    exact hget
  · rw [hgathers.properties "f", ← Option.toList_map, hfirst]
    rfl
  · intro order hmem
    refine hlookup order ?_
    rw [← hdone order hmem, ← hstart]
    rfl

/-- Where no workers can start nothing is ever parsed, and the lookup has to wait. -/
theorem directory_lookup_unstarted :
    ¬ ∀ (w : World) (workers : Workers) (p text : String) (parsed : ParsedFile) (offset : Int),
      w.texts.keys.Nodup → w.texts.get? p = some text →
      parseText w.parser text w.settings.parser.maxRetries = .ok parsed →
      ∃ info, Gathers w p parsed offset info ∧ ∀ order : List Nat,
        let now := ((w.fresh workers).run (.refreshDirectory p :: order.map .deliver)).2
        now.workspace.queue = [] → (now.step (.lookup p offset)).1 = .info info := by
  intro h
  let w : World := { emptyOnly with settings := { worker := { maxWorkers := 0 } } }
  obtain ⟨parsed, hparse⟩ : ∃ parsed, parseText w.parser "" w.settings.parser.maxRetries =
      .ok parsed := exists_eq_ok (by decide +kernel)
  obtain ⟨info, -, hlookup⟩ := h w (.own false) "a.js" "" parsed 0 (by decide) (by decide) hparse
  have hreply := congrArg Reply.ticket? (hlookup [0] (by decide +kernel))
  have hpending : (((w.fresh (.own false)).run
      (.refreshDirectory "a.js" :: [0].map .deliver)).2.step (.lookup "a.js" 0)).1.ticket? =
        some 0 := by decide +kernel
  cases hpending.symm.trans hreply

end World

end ScopeHints
