import ScopeHints.Proofs.Directive
import ScopeHints.Proofs.Hint.Ranking
import ScopeHints.Proofs.Parse.Position
import ScopeHints.Proofs.Scope.Builder
import ScopeHints.Proofs.Scope.Query
import ScopeHints.Proofs.Workspace.Truthful

/-! The identifiers that a lookup offers: the names that its scope can see, each once and with all
its positions, then globals, then keywords. Hints drawn from them put names that the scope can see
first, the nearest ones before the others. -/
namespace ScopeHints

namespace Scope

/-- This scope or one around it declares a name. -/
def Sees (s : Scope) (name : String) : Prop :=
  ∃ i, Relation.ReflTransGen s.tree.Surrounds s.index i ∧
    ∃ o ∈ (Scope.mk s.tree i).record.declarations, o.name = name

theorem isSome_depthOf? {s : Scope} (hw : s.tree.Wired) (hi : s.index < s.tree.size) (name : String) :
    (s.depthOf? name).isSome = true ↔ s.Sees name := by
  unfold depthOf? Sees
  rw [List.findIdx?_isSome, lineage, List.any_map, List.any_eq_true]
  constructor
  · rintro ⟨i, hmem, hdeclares⟩
    obtain ⟨o, ho, hname⟩ := List.any_eq_true.1 hdeclares
    exact ⟨i, (ScopeTree.mem_lineageFrom hw _ hi).1 hmem, o, ho, of_decide_eq_true hname⟩
  · rintro ⟨i, hchain, o, ho, hname⟩
    refine ⟨i, (ScopeTree.mem_lineageFrom hw _ hi).2 hchain, ?_⟩
    exact List.any_eq_true.2 ⟨o, ho, decide_eq_true hname⟩

theorem record_mem {s : Scope} {o : Occurrence} (h : o ∈ s.record.declarations) :
    s.tree.records[s.index]? = some s.record := by
  unfold record at h ⊢
  cases hr : s.tree.records[s.index]? with
  | none =>
    rw [hr] at h
    cases h
  | some r => rfl

end Scope

namespace ScopeTree
variable {tree : ScopeTree}

theorem descend_lt (hw : Wired tree) (pos : Int) (fuel : Nat) {i : Nat} (hi : i < tree.size) :
    tree.descend pos fuel i < tree.size := by
  induction fuel generalizing i with
  | zero => exact hi
  | succ fuel ih =>
    unfold descend
    cases hc : tree.childHolding i pos with
    | none => exact hi
    | some c => exact ih (hw.lt_size (mem_of_firstHolding hc).1)

theorem scopeAt_lt (hw : Wired tree) (offset : Int) :
    (Workspace.scopeAt tree offset).tree = tree ∧
      (Workspace.scopeAt tree offset).index < tree.size := by
  unfold Workspace.scopeAt Scope.innermost?
  split
  · exact ⟨rfl, descend_lt hw offset _ hw.nonempty⟩
  · exact ⟨rfl, hw.nonempty⟩

def occurrences (tree : ScopeTree) : List (String × Int) :=
  (tree.records.toList.flatMap (·.identifiers)).map fun o => (o.name, o.position)

theorem identifierItems_perm (hw : Wired tree) :
    ((tree.scopes.flatMap fun s => s.record.identifiers).map fun o => (o.name, o.position)).Perm
      tree.occurrences :=
  (flatMap_scopes_perm hw (·.identifiers)).map _

theorem positions_of_identifierTokens (hw : Wired tree) {t : HintToken}
    (h : t ∈ tree.identifierTokens) :
    t.kind = .identifier ∧ t.positions.Pairwise (· ≤ ·) ∧
      t.positions.Perm (positionsIn tree.occurrences t.value) := by
  obtain ⟨-, ht⟩ := mem_collectTokens.1 h
  have hperm := ((identifierItems_perm hw).filter fun e => e.1 = t.value).map Prod.snd
  refine ⟨by rw [ht], sorted_positions h, ?_⟩
  rw [ht]
  exact (List.mergeSort_perm _ _).trans hperm

end ScopeTree

theorem mem_identifierTokens_of_sees {src : Source} {Q : Nat → Fact → Prop} {scope : Scope}
    (hw : scope.tree.Wired) (hfiled : scope.tree.Filed src Q) {name : String} (h : scope.Sees name) :
    name ∈ scope.tree.identifierTokens.map (·.value) := by
  obtain ⟨i, -, o, ho, rfl⟩ := h
  have hrecord := Scope.record_mem ho
  have hident := (hfiled i _ hrecord).noted o ho
  have hoccurs : (o.name, o.position) ∈ scope.tree.occurrences := by
    refine List.mem_map_of_mem (List.mem_flatMap.2 ⟨_, ?_, hident⟩)
    exact Array.mem_toList_iff.2 (Array.mem_of_getElem? hrecord)
  have hitem := (ScopeTree.identifierItems_perm hw).mem_iff.2 hoccurs
  rw [ScopeTree.identifierTokens, map_value_collectTokens, Collector.mem_keys_gather]
  exact List.mem_map.2 ⟨_, hitem, rfl⟩

/-! ### Globals and keywords -/

theorem nodup_globals (src : Source) (root : Node) : (src.globals root).Nodup :=
  (firstMet_globals src root).nodup

theorem nodup_keywords : keywords.Nodup := by decide

/-! ### What is offered -/

namespace Workspace

theorem map_value_visibleTokens (scope : Scope) (tokens : List HintToken) :
    (visibleTokens scope tokens).map (·.value) =
      (tokens.map (·.value)).filter fun v => (scope.depthOf? v).isSome := by
  induction tokens with
  | nil => rfl
  | cons t tokens ih =>
    unfold visibleTokens at ih ⊢
    cases hd : scope.depthOf? t.value with
    | none => simp [hd, ih]
    | some d => simp [hd, ih]

theorem mem_visibleTokens {scope : Scope} {tokens : List HintToken} {t : HintToken}
    (h : t ∈ visibleTokens scope tokens) :
    ∃ u ∈ tokens, ∃ d, scope.depthOf? u.value = some d ∧ t = { u with level := some (d : Int) } := by
  obtain ⟨u, hu, ht⟩ := List.mem_filterMap.1 h
  obtain ⟨d, hd, rfl⟩ := Option.map_eq_some_iff.1 ht
  exact ⟨u, hu, d, hd, rfl⟩

def plainTokens (kind : HintKind) (words : List String) : List HintToken :=
  words.map fun w => { value := w, kind }

theorem map_value_plainTokens (kind : HintKind) (words : List String) :
    (plainTokens kind words).map (·.value) = words := by
  simp [plainTokens, Function.comp_def]

theorem placeless_plainTokens {kind : HintKind} {words : List String} {t : HintToken}
    (h : t ∈ plainTokens kind words) : t.value ∈ words ∧ t.kind = kind ∧ t.level = none := by
  obtain ⟨w, hw, rfl⟩ := List.mem_map.1 h
  exact ⟨hw, rfl, rfl⟩

theorem filter_plainTokens (kind : HintKind) (words : List String) (p : String → Bool) :
    (plainTokens kind words).filter (fun t => p t.value) = plainTokens kind (words.filter p) := by
  rw [plainTokens, List.filter_map]
  rfl

theorem distinctTokens_three {named : List HintToken} (hnamed : (named.map (·.value)).Nodup)
    {globals words : List String} (hglobals : globals.Nodup) (hwords : words.Nodup) :
    distinctTokens (named ++ plainTokens .global globals ++ plainTokens .keyword words) =
      named ++ plainTokens .global (globals.filter fun g => g ∉ named.map (·.value))
        ++ plainTokens .keyword
          (words.filter fun k => k ∉ named.map (·.value) ∧ k ∉ globals) := by
  have hplain : ∀ kind (l : List String), l.Nodup →
      distinctTokens (plainTokens kind l) = plainTokens kind l := by
    intro kind l hl
    exact distinctTokens_of_nodup (by rw [map_value_plainTokens]; exact hl)
  rw [distinctTokens_append, distinctTokens_append, distinctTokens_of_nodup hnamed,
    hplain .global globals hglobals, hplain .keyword words hwords, List.map_append,
    map_value_plainTokens, filter_plainTokens .global globals fun v => v ∉ named.map (·.value),
    filter_plainTokens .keyword words fun v => v ∉ named.map (·.value) ++ globals]
  simp only [List.mem_append, not_or]

end Workspace

open Workspace

structure Offers (settings : HintSettings) (parsed : ParsedFile) (scope : Scope)
    (info : ScopeInfo) : Prop where
  nodup : (info.identifiers.map (·.value)).Nodup
  /-- Names come first, then globals, then keywords, none of which is a name. -/
  split : info.identifiers = info.identifiers.filter (·.kind = .identifier)
    ++ plainTokens .global (parsed.globals.filter fun g => scope.depthOf? g = none)
    ++ if settings.includeKeywords then
        plainTokens .keyword
          (keywords.filter fun k => scope.depthOf? k = none ∧ k ∉ parsed.globals)
      else []
  names : ∀ name, (∃ t ∈ info.identifiers, t.kind = .identifier ∧ t.value = name) ↔ scope.Sees name
  depths : ∀ name, (scope.depthOf? name).isSome = true ↔ scope.Sees name
  tokens : ∀ t ∈ info.identifiers, t.kind = .identifier →
    (∃ d : Nat, scope.depthOf? t.value = some d ∧ t.level = some (d : Int)) ∧
      t.positions.Pairwise (· ≤ ·) ∧
      t.positions.Perm (positionsIn parsed.tree.occurrences t.value)
  /-- In the hints of a session no global or keyword stands before a name, and the names stand in
  the order of their levels. -/
  hints : ∀ (session : HintSession) (query : HintQuery), query.isProperty = false →
    ((session.update info).hints query).Pairwise fun a b =>
      (b.kind = .identifier → a.kind = .identifier) ∧
        ∀ i j, a.level = some i → b.level = some j → i ≤ j

/-- A token of a name that the scope sees with its distance, or one of another kind that names
nothing the scope sees. -/
def Placed (scope : Scope) (t : HintToken) : Prop :=
  (t.kind = .identifier ∧ ∃ d : Nat, scope.depthOf? t.value = some d ∧ t.level = some (d : Int)) ∨
    (t.kind ≠ .identifier ∧ scope.depthOf? t.value = none ∧ t.level = none)

theorem Placed.of_level {scope : Scope} {t : HintToken} (h : Placed scope t) {i : Int}
    (hi : t.level = some i) : ∃ d : Nat, scope.depthOf? t.value = some d ∧ i = d := by
  obtain ⟨-, d, hd, hlevel⟩ | ⟨-, -, hlevel⟩ := h
  · exact ⟨d, hd, Option.some.inj (hi.symm.trans hlevel)⟩
  · rw [hi] at hlevel
    cases hlevel

theorem Placed.of_depth {scope : Scope} {t : HintToken} (h : Placed scope t) {d : Nat}
    (hd : scope.depthOf? t.value = some d) : t.kind = .identifier := by
  obtain ⟨hkind, -⟩ | ⟨-, hnone, -⟩ := h
  · exact hkind
  · rw [hd] at hnone
    cases hnone

theorem hints_of_placed {info : ScopeInfo} {scope : Scope} (hscope : info.scope = some scope)
    (hplaced : ∀ t ∈ info.identifiers, Placed scope t) (session : HintSession) {query : HintQuery}
    (hquery : query.isProperty = false) :
    ((session.update info).hints query).Pairwise fun a b =>
      (b.kind = .identifier → a.kind = .identifier) ∧
        ∀ i j, a.level = some i → b.level = some j → i ≤ j := by
  have hhints : (session.update info).hints query = rankHints info.identifiers
      (.identifiers (some scope)) query.offset query.typed session.maxResults := by
    rw [HintSession.hints, hquery, ← hscope]
    rfl
  rw [hhints]
  refine (rankHints_identifiers _ scope _ _ _).imp_of_mem ?_
  intro a b ha hb hab
  have hpa := hplaced a (mem_of_mem_rankHints ha)
  have hpb := hplaced b (mem_of_mem_rankHints hb)
  constructor
  · intro hkind
    obtain ⟨-, d, hd, -⟩ | ⟨hne, -⟩ := hpb
    · obtain ⟨c, hc, -⟩ := hab d hd
      exact hpa.of_depth hc
    · exact absurd hkind hne
  · intro i j hi hj
    obtain ⟨c, hc, rfl⟩ := hpa.of_level hi
    obtain ⟨d, hd, rfl⟩ := hpb.of_level hj
    obtain ⟨e, he, hle⟩ := hab d hd
    obtain rfl := Option.some.inj (he.symm.trans hc)
    omega

theorem candidates_eq {settings : HintSettings} {f : FileIndex} {scope : Scope}
    (hidentifiers : (f.identifiers.map (·.value)).Nodup) (hglobals : f.globals.Nodup)
    (hcomplete : ∀ name, (scope.depthOf? name).isSome = true → name ∈ f.identifiers.map (·.value)) :
    candidates settings f scope = visibleTokens scope f.identifiers
      ++ plainTokens .global (f.globals.filter fun g => scope.depthOf? g = none)
      ++ if settings.includeKeywords then
          plainTokens .keyword (keywords.filter fun k => scope.depthOf? k = none ∧ k ∉ f.globals)
        else [] := by
  have hvalues := map_value_visibleTokens scope f.identifiers
  have hnodup : ((visibleTokens scope f.identifiers).map (·.value)).Nodup := by
    rw [hvalues]
    exact hidentifiers.filter _
  have hnone : ∀ name, name ∉ (visibleTokens scope f.identifiers).map (·.value) ↔
      scope.depthOf? name = none := by
    intro name
    rw [hvalues, List.mem_filter, ← Option.not_isSome_iff_eq_none]
    exact ⟨fun h hs => h ⟨hcomplete name hs, hs⟩, fun h hm => h hm.2⟩
  have hcandidates : candidates settings f scope =
      distinctTokens (visibleTokens scope f.identifiers ++ plainTokens .global f.globals
        ++ plainTokens .keyword (if settings.includeKeywords then keywords else [])) := by
    unfold candidates
    cases settings.includeKeywords <;> rfl
  have hwords : (if settings.includeKeywords then keywords else []).Nodup := by
    split
    · exact nodup_keywords
    · exact List.nodup_nil
  rw [hcandidates, distinctTokens_three hnodup hglobals hwords]
  simp only [hnone]
  cases settings.includeKeywords <;> rfl

theorem offers_of_split {settings : HintSettings} {parsed : ParsedFile} {scope : Scope}
    {info : ScopeInfo} {named : List HintToken} (hat : info.scope = some scope)
    (hnodup : (info.identifiers.map (·.value)).Nodup)
    (hsplit : info.identifiers = named
      ++ plainTokens .global (parsed.globals.filter fun g => scope.depthOf? g = none)
      ++ if settings.includeKeywords then
          plainTokens .keyword
            (keywords.filter fun k => scope.depthOf? k = none ∧ k ∉ parsed.globals)
        else [])
    (hvalues : ∀ name, name ∈ named.map (·.value) ↔ (scope.depthOf? name).isSome = true)
    (hdepths : ∀ name, (scope.depthOf? name).isSome = true ↔ scope.Sees name)
    (hnamed : ∀ t ∈ named, t.kind = .identifier ∧
      (∃ d : Nat, scope.depthOf? t.value = some d ∧ t.level = some (d : Int)) ∧
      t.positions.Pairwise (· ≤ ·) ∧
      t.positions.Perm (positionsIn parsed.tree.occurrences t.value)) :
    Offers settings parsed scope info := by
  have hplain : ∀ t ∈ plainTokens .global (parsed.globals.filter fun g => scope.depthOf? g = none)
      ++ (if settings.includeKeywords then plainTokens .keyword
        (keywords.filter fun k => scope.depthOf? k = none ∧ k ∉ parsed.globals) else []),
      t.kind ≠ .identifier ∧ scope.depthOf? t.value = none ∧ t.level = none := by
    intro t ht
    obtain ht | ht := List.mem_append.1 ht
    · obtain ⟨hword, hkind, hlevel⟩ := placeless_plainTokens ht
      exact ⟨by simp [hkind], of_decide_eq_true (List.mem_filter.1 hword).2, hlevel⟩
    · split at ht
      · obtain ⟨hword, hkind, hlevel⟩ := placeless_plainTokens ht
        exact ⟨by simp [hkind], (of_decide_eq_true (List.mem_filter.1 hword).2).1, hlevel⟩
      · cases ht
  rw [List.append_assoc] at hsplit
  have hplaced : ∀ t ∈ info.identifiers, Placed scope t := by
    intro t ht
    rw [hsplit, List.mem_append] at ht
    obtain ht | ht := ht
    · exact .inl ⟨(hnamed t ht).1, (hnamed t ht).2.1⟩
    · exact .inr (hplain t ht)
  have hfilter : info.identifiers.filter (·.kind = .identifier) = named := by
    rw [hsplit, List.filter_append, List.filter_eq_self.2 fun t ht => decide_eq_true (hnamed t ht).1,
      List.filter_eq_nil_iff.2 fun t ht => by simpa using (hplain t ht).1, List.append_nil]
  have hmem : ∀ t, t ∈ info.identifiers ∧ t.kind = .identifier ↔ t ∈ named := by
    intro t
    rw [← hfilter, List.mem_filter, decide_eq_true_eq]
  refine ⟨hnodup, ?_, ?_, hdepths, ?_, fun session _ hq => hints_of_placed hat hplaced session hq⟩
  · rw [hfilter, List.append_assoc]
    exact hsplit
  · intro name
    rw [← hdepths, ← hvalues, List.mem_map]
    constructor
    · rintro ⟨t, ht, hkind, rfl⟩
      exact ⟨t, (hmem t).1 ⟨ht, hkind⟩, rfl⟩
    · rintro ⟨t, ht, rfl⟩
      obtain ⟨ht, hkind⟩ := (hmem t).2 ht
      exact ⟨t, ht, hkind, rfl⟩
  · intro t ht hkind
    exact (hnamed t ((hmem t).1 ⟨ht, hkind⟩)).2

theorem infoFrom_offers {parser : Parser} {text : String} {retries : Int} {parsed : ParsedFile}
    (settings : HintSettings) (hparse : parseText parser text retries = .ok parsed) {f : FileIndex}
    {p : String} (hcontent : f.content = parsed.contentAt p) (shares : Shares) (offset : Int) :
    Offers settings parsed (scopeAt parsed.tree offset)
      (infoFrom settings shares f parsed.tree offset) := by
  obtain ⟨root, -, hbuilt, hglobals, hidentifiers, -⟩ := parseText_ok hparse
  obtain ⟨hw, hfiled⟩ := buildScopes_building hbuilt
  obtain ⟨htree, hindex⟩ := ScopeTree.scopeAt_lt hw offset
  have hfi : f.identifiers = parsed.identifiers := congrArg Content.identifiers hcontent
  have hfg : f.globals = parsed.globals := congrArg Content.globals hcontent
  have hids : (infoFrom settings shares f parsed.tree offset).identifiers =
      candidates settings f (scopeAt parsed.tree offset) := rfl
  have hat : (infoFrom settings shares f parsed.tree offset).scope =
      some (scopeAt parsed.tree offset) := rfl
  generalize infoFrom settings shares f parsed.tree offset = info at hids hat ⊢
  generalize scopeAt parsed.tree offset = scope at htree hindex hids hat ⊢
  rw [← htree] at hw hfiled hindex
  have hdepths := Scope.isSome_depthOf? hw hindex
  have hcomplete : ∀ name, (scope.depthOf? name).isSome = true →
      name ∈ f.identifiers.map (·.value) := by
    intro name hname
    rw [hfi, hidentifiers, ← htree]
    exact mem_identifierTokens_of_sees hw hfiled ((hdepths name).1 hname)
  have hsplit : candidates settings f scope = _ :=
    candidates_eq (by rw [hfi, hidentifiers]; exact nodup_collectTokens)
      (by rw [hfg, hglobals]; exact nodup_globals _ _) hcomplete
  rw [← hids, hfg] at hsplit
  refine offers_of_split hat (by rw [hids]; exact (nodup_distinctTokens _).1) hsplit ?_ hdepths ?_
  · intro name
    rw [map_value_visibleTokens, List.mem_filter]
    exact ⟨fun h => h.2, fun h => ⟨hcomplete name h, h⟩⟩
  · intro t ht
    obtain ⟨u, hu, d, hd, rfl⟩ := mem_visibleTokens ht
    rw [hfi, hidentifiers, ← htree] at hu
    obtain ⟨hkind, hsorted, hperm⟩ := ScopeTree.positions_of_identifierTokens hw hu
    rw [htree] at hperm
    exact ⟨hkind, ⟨d, hd, rfl⟩, hsorted, hperm⟩

theorem Workspace.lookup_offers {host : Host} {ws ws' : Workspace} {path : String} {offset : Int}
    {info : ScopeInfo} (h : Orderly ws) (ht : Truthful host.parser host.settings.hints ws)
    (hlookup : lookup host ws path offset = (.info info, ws')) (hfresh : info.fresh = true) :
    ∃ text retries parsed, parseText host.parser text retries = .ok parsed ∧
      (ws'.file path).content = parsed.contentAt path ∧
      info.scope = some (scopeAt parsed.tree offset) ∧
      Offers host.settings.hints parsed (scopeAt parsed.tree offset) info := by
  have hopened := opened_touch host (h.keyed path) (answerable_of_served (h.served path))
  have hsourced := (hopened.truthful ht).sourced path
  obtain ⟨kept, hkept, hl⟩ | ⟨tree, ho, hl⟩ | ⟨-, ticket, hl⟩ := lookup_answer host ws path offset
  · obtain rfl := Lookup.info.inj (congrArg Prod.fst (hl.symm.trans hlookup))
    rw [kept?_fresh hkept] at hfresh
    cases hfresh
  · obtain rfl := Lookup.info.inj (congrArg Prod.fst (hl.symm.trans hlookup))
    obtain rfl := congrArg Prod.snd (hl.symm.trans hlookup)
    obtain ⟨text, retries, parsed, hparse, hcontent, rfl⟩ := Sourced.exists_tree hsourced ho
    refine ⟨text, retries, parsed, hparse, ?_, rfl, ?_⟩
    · rw [(compute_looks host.settings.hints offset hopened.path ho).file_self]
      exact hcontent
    · rw [compute_fst host.settings.hints hopened.path]
      exact infoFrom_offers _ hparse hcontent _ offset
  · cases congrArg Prod.fst (hl.symm.trans hlookup)

def Answer.info? : Answer → Option ScopeInfo
  | .info i => some i
  | .rejected _ | .cancelled => none

theorem Answer.eq_info {a : Answer} {i : ScopeInfo} (h : a.info? = some i) : a = .info i := by
  cases a with
  | info j => exact congrArg Answer.info (Option.some.inj h)
  | rejected | cancelled => cases h

def Workspace.Lookup.info? : Lookup → Option ScopeInfo
  | .info i => some i
  | .pending _ => none

theorem Workspace.Lookup.eq_info {l : Lookup} {i : ScopeInfo} (h : l.info? = some i) :
    l = .info i := by
  cases l with
  | info j => exact congrArg Lookup.info (Option.some.inj h)
  | pending => cases h

namespace World

/-- Whatever happened before, the identifiers of every lookup that is answered anew, at once or
after it waited, are those that its scope can see. -/
theorem lookups_offer_visible (w : World) (workers : Workers) (steps : List Step) :
    let now := ((w.fresh workers).run steps).2
    (∀ path offset info ws', now.workspace.lookup now.host path offset = (.info info, ws') →
      info.fresh = true →
      ∃ text retries parsed, parseText w.parser text retries = .ok parsed ∧
        (ws'.file path).content = parsed.contentAt path ∧
        info.scope = some (scopeAt parsed.tree offset) ∧
        Offers w.settings.hints parsed (scopeAt parsed.tree offset) info) ∧
    ∀ ticket info, now.workspace.answers.get? ticket = some (.info info) → info.scope.isSome = true →
      ∃ text retries parsed offset, parseText w.parser text retries = .ok parsed ∧
        info.scope = some (scopeAt parsed.tree offset) ∧
        Offers w.settings.hints parsed (scopeAt parsed.tree offset) info := by
  intro now
  have ht : Truthful w.parser w.settings.hints now.workspace := run_truthful w workers steps
  have hparser : now.host.parser = w.parser := (run_fixed steps (w.fresh workers)).2
  have hsettings : now.host.settings = w.settings := (run_fixed steps (w.fresh workers)).1
  constructor
  · intro path offset info ws' hlookup hfresh
    have ho := (run_advance steps (w := w.fresh workers) (orderly_new workers)).orderly
    rw [← hparser, ← hsettings] at ht ⊢
    exact lookup_offers ho ht hlookup hfresh
  · intro ticket info hanswer hscope
    obtain rfl | ⟨f, p, text, retries, parsed, shares, offset, hparse, hcontent, rfl⟩ :=
      ht.answers ticket info hanswer
    · cases hscope
    · exact ⟨text, retries, parsed, offset, hparse, rfl, infoFrom_offers _ hparse hcontent _ offset⟩

/-- An index over the text `é => 0`, with a parser that takes no other one. -/
def arrowOnly : World where
  texts := ⟨[("a.js", "é => 0")]⟩
  parser text := if text = "é => 0" then some arrowProgram else none

theorem lookups_offer_visible_arrowOnly :
    let now := ((arrowOnly.fresh .lent).run [.lookup "a.js" 5, .deliver 0]).2
    (∃ info text retries parsed offset, now.workspace.answers.get? 0 = some (.info info) ∧
      info.identifiers.head? = some { value := "é", level := some 0, positions := [0] } ∧
      parseText arrowOnly.parser text retries = .ok parsed ∧
      Offers arrowOnly.settings.hints parsed (scopeAt parsed.tree offset) info) ∧
    ∃ info ws' text retries parsed, now.workspace.lookup now.host "a.js" 9 = (.info info, ws') ∧
      info.identifiers.all (·.kind = .keyword) = true ∧
      parseText arrowOnly.parser text retries = .ok parsed ∧
      Offers arrowOnly.settings.hints parsed (scopeAt parsed.tree 9) info := by
  intro now
  obtain ⟨hlookups, hanswers⟩ :=
    lookups_offer_visible arrowOnly .lent [.lookup "a.js" 5, .deliver 0]
  constructor
  · have hfirst : ((now.workspace.answers.get? 0).bind Answer.info?).any (fun info =>
        info.scope.isSome &&
          info.identifiers.head? = some { value := "é", level := some 0, positions := [0] }) = true := by
      decide +kernel
    obtain ⟨info, hinfo, hfound⟩ := (Option.any_eq_true _ _).1 hfirst
    obtain ⟨a, ha, hinfo⟩ := Option.bind_eq_some_iff.1 hinfo
    obtain rfl := Answer.eq_info hinfo
    obtain ⟨hscope, hhead⟩ := Bool.and_eq_true_iff.1 hfound
    obtain ⟨text, retries, parsed, offset, hparse, -, hoffers⟩ := hanswers 0 info ha hscope
    exact ⟨info, text, retries, parsed, offset, ha, of_decide_eq_true hhead, hparse, hoffers⟩
  · have hsecond : (now.workspace.lookup now.host "a.js" 9).1.info?.any (fun info =>
        info.fresh && info.identifiers.all (·.kind = .keyword)) = true := by
      decide +kernel
    obtain ⟨info, hinfo, hfound⟩ := (Option.any_eq_true _ _).1 hsecond
    obtain ⟨hfresh, hall⟩ := Bool.and_eq_true_iff.1 hfound
    have hlookup : now.workspace.lookup now.host "a.js" 9 =
        (.info info, (now.workspace.lookup now.host "a.js" 9).2) :=
      Prod.ext (Lookup.eq_info hinfo) rfl
    obtain ⟨text, retries, parsed, hparse, -, -, hoffers⟩ :=
      hlookups "a.js" 9 info _ hlookup hfresh
    exact ⟨info, _, text, retries, parsed, hlookup, hall, hparse, hoffers⟩

end World

end ScopeHints
