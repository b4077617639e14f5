import ScopeHints.Proofs.Association
import ScopeHints.Proofs.Parse.Preorder
import ScopeHints.Proofs.Scope.Distinct
import ScopeHints.Proofs.Token

/-! What the scopes of a tree are sifted into. Each name gives one token with all its positions in
all scopes, each read of a property is counted, and on nodes with characters nothing is met twice. -/
namespace ScopeHints

/-- The tokens of the names of a kind: one for each name that the walk through the scopes meets, in
the order in which it is first met, with all positions that the records list for it. -/
structure Sifted (tree : ScopeTree) (naming : Naming) (kind : HintKind) (tokens : List HintToken) :
    Prop where
  names : FirstMet ((tree.scopes.flatMap fun s => naming.listed s.record).map (·.name))
    (tokens.map (·.value))
  walk : (tree.scopes.flatMap fun s => naming.listed s.record).Perm (tree.listed naming)
  positions : ∀ t ∈ tokens, t.positions.Perm
    (((tree.listed naming).filter fun o => o.name = t.value).map (·.position))
  ascending : ∀ t ∈ tokens, t.positions.Pairwise (· ≤ ·)
  plain : ∀ t ∈ tokens, t.kind = kind ∧ t.path = none ∧ t.level = none

section Sifted
variable {tree : ScopeTree} {naming : Naming} {kind : HintKind} {tokens : List HintToken}

theorem positionsIn_map (l : List Occurrence) (name : String) :
    positionsIn (l.map fun o => (o.name, o.position)) name =
      (l.filter fun o => o.name = name).map (·.position) := by
  rw [positionsIn, List.filter_map, List.map_map]
  rfl

theorem sifted_collectTokens (hw : tree.Wired) (naming : Naming) (kind : HintKind) :
    Sifted tree naming kind (collectTokens
      ((tree.scopes.flatMap fun s => naming.listed s.record).map fun o => (o.name, o.position))
      kind none) := by
  have hwalk : (tree.scopes.flatMap fun s => naming.listed s.record).Perm (tree.listed naming) :=
    ScopeTree.flatMap_scopes_perm hw naming.listed
  refine ⟨?_, hwalk, ?_, fun t ht => sorted_positions ht, ?_⟩
  · have hmet := Collector.firstMet_gather
      ((tree.scopes.flatMap fun s => naming.listed s.record).map fun o => (o.name, o.position))
    rw [List.map_map] at hmet
    rw [map_value_collectTokens]
    exact hmet
  · intro t ht
    obtain ⟨-, htoken⟩ := mem_collectTokens.1 ht
    rw [htoken, positionsIn_map]
    exact (List.mergeSort_perm _ _).trans ((hwalk.filter _).map _)
  · intro t ht
    obtain ⟨-, htoken⟩ := mem_collectTokens.1 ht
    rw [htoken]
    exact ⟨rfl, rfl, rfl⟩

theorem Sifted.strict (h : Sifted tree naming kind tokens) (hn : (tree.positions naming).Nodup) :
    ∀ t ∈ tokens, t.positions.Pairwise (· < ·) := by
  intro t ht
  have hnodup : t.positions.Nodup :=
    (h.positions t ht).nodup_iff.2 (hn.sublist (List.filter_sublist.map _))
  refine ((h.ascending t ht).and hnodup).imp ?_
  rintro a b ⟨hle, hne⟩
  omega

end Sifted

/-- A tree is sifted into one token for each name and one count for each association, and nothing is
lost. If the nodes of the parse tree lie in each other and have characters, nothing is counted twice:
no two names of a kind stand at the same position. -/
theorem buildScopes_sifted {text : String} {root : Node} {tree : ScopeTree}
    (h : buildScopes (Source.ofText text) root = .ok tree) :
    Sifted tree .identifier .identifier tree.identifierTokens ∧
      Sifted tree .property .property tree.propertyTokens ∧
      (tree.associationCounts.keys.Nodup ∧
        Tallies tree.associationCounts tree.associations.count) ∧
      (root.WellPlaced → root.endByte ≤ Text.byteLength text.toList →
        (∀ n, root.Within n → n.firstByte < n.endByte ∧ n.OnBoundaries text.toList) →
          (∀ naming, (tree.positions naming).Nodup) ∧
            ∀ t ∈ tree.identifierTokens ++ tree.propertyTokens, t.positions.Pairwise (· < ·)) := by
  obtain ⟨hw, -⟩ := buildScopes_building h
  have hidentifiers := sifted_collectTokens hw .identifier .identifier
  have hproperties := sifted_collectTokens hw .property .property
  refine ⟨hidentifiers, hproperties,
    ⟨tree.nodup_keys_associationCounts, ScopeTree.tallies_associationCounts hw⟩, ?_⟩
  intro hplaced hwithin hnodes
  have hdistinct : ∀ naming, (tree.positions naming).Nodup :=
    Builder.buildScopes_distinct ⟨Source.regular_ofText text, hplaced, hwithin,
      fun n hn => Source.charAt_lt (hnodes n hn).2 (hnodes n hn).1⟩ h
  exact ⟨hdistinct, List.forall_mem_append.2
    ⟨hidentifiers.strict (hdistinct .identifier), hproperties.strict (hdistinct .property)⟩⟩

/-- The tree of `é.b;é`, in which a name stands twice and takes two bytes. -/
def repeatedNameProgram : Node :=
  let leaf (kind : String) (named : Bool) (firstByte endByte : Nat) (field : Option String) : Node :=
    { kind, named, missing := false, hasError := false, firstByte, endByte, row := 0, field,
      children := [] }
  { leaf "program" true 0 7 none with
    children := [
      { leaf "expression_statement" true 0 5 none with
        children := [
          { leaf "member_expression" true 0 4 none with
            children := [leaf "identifier" true 0 2 (some "object"), leaf "." false 2 3 none,
              leaf "property_identifier" true 3 4 (some "property")] },
          leaf ";" false 4 5 none] },
      { leaf "expression_statement" true 5 7 none with
        children := [leaf "identifier" true 5 7 none] }] }

theorem repeatedNameProgram_wellPlaced : repeatedNameProgram.WellPlaced := by
  refine .intro (by decide) ?_ ?_ ?_ ?_ <;> simp [repeatedNameProgram, Node.Encloses]
  refine ⟨.intro (by decide) ?_ ?_ ?_ ?_, .intro (by decide) ?_ ?_ ?_ ?_⟩ <;> simp [Node.Encloses]
  · refine ⟨.intro (by decide) ?_ ?_ ?_ ?_, .of_leaf rfl (by decide)⟩ <;> simp [Node.Encloses]
    exact ⟨.of_leaf rfl (by decide), .of_leaf rfl (by decide), .of_leaf rfl (by decide)⟩
  · exact .of_leaf rfl (by decide)

theorem repeatedNameProgram_onBoundaries {n : Node} (h : repeatedNameProgram.Within n) :
    n.firstByte < n.endByte ∧ n.OnBoundaries "é.b;é".toList := by
  have hnodes : ∀ n ∈ repeatedNameProgram.preorder, n.firstByte < n.endByte ∧
      (∃ k, k ≤ 5 ∧ Text.byteLength ("é.b;é".toList.take k) = n.firstByte) ∧
      ∃ k, k ≤ 5 ∧ Text.byteLength ("é.b;é".toList.take k) = n.endByte := by
    decide +kernel
  exact hnodes n (Node.mem_preorder_iff.2 h)

theorem buildScopes_sifted_member :
    ∃ tree, buildScopes (Source.ofText "é.b;é") repeatedNameProgram = .ok tree ∧
      tree.identifierTokens = [{ value := "é", positions := [0, 4] }] ∧
      tree.propertyTokens = [{ value := "b", positions := [2], kind := .property }] ∧
      tree.associationCounts.get? ("é", "b") = some 1 ∧
      Sifted tree .identifier .identifier tree.identifierTokens ∧
      (tree.positions .identifier).Nodup := by
  have hbuilt : (buildScopes (Source.ofText "é.b;é") repeatedNameProgram).toOption.map
      (fun tree => (tree.scopes.flatMap fun s => s.record.identifiers,
        tree.scopes.flatMap fun s => s.record.properties,
        tree.associationCounts.get? ("é", "b"))) =
        some ([⟨"é", 0⟩, ⟨"é", 4⟩], [⟨"b", 2⟩], some 1) := by
    decide +kernel
  cases h : buildScopes (Source.ofText "é.b;é") repeatedNameProgram with
  | error e =>
    rw [h] at hbuilt
    cases hbuilt
  | ok tree =>
    rw [h] at hbuilt
    obtain ⟨hidentifiers, hrest⟩ := Prod.mk.inj (Option.some.inj hbuilt)
    obtain ⟨hproperties, hcount⟩ := Prod.mk.inj hrest
    obtain ⟨hsifted, -, -, hdistinct⟩ := buildScopes_sifted h
    obtain ⟨hnodup, -⟩ := hdistinct repeatedNameProgram_wellPlaced (by decide)
      fun _ => repeatedNameProgram_onBoundaries
    have hname : tree.identifierTokens = [{ value := "é", positions := [0, 4].mergeSort }] := by
      rw [ScopeTree.identifierTokens, hidentifiers]
      rfl
    have hproperty : tree.propertyTokens =
        [{ value := "b", positions := [2].mergeSort, kind := .property }] := by
      rw [ScopeTree.propertyTokens, hproperties]
      rfl
    rw [List.mergeSort_of_pairwise (by decide)] at hname
    rw [List.mergeSort_singleton] at hproperty
    exact ⟨tree, rfl, hname, hproperty, hcount, hsifted, hnodup .identifier⟩

end ScopeHints
