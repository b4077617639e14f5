import ScopeHints.Parse.File
import ScopeHints.Proofs.Scope.Recorded
import ScopeHints.Proofs.Text.Blanking
import ScopeHints.Proofs.Token

/-! The names that a parse records stand in its text at their positions, also where lines were
blanked before a parse succeeded. -/
namespace ScopeHints

def lastText (parser : Parser) (text : String) (maxRetries : Int) : String :=
  (attempts parser maxRetries.toNat text).text

theorem Attempts.conclude_eq_ok {a : Attempts} {parsed : ParsedFile}
    (h : a.conclude.outcome = .ok parsed) :
    ∃ src root, a.ending = .clean src root ∧ buildScopes src root = .ok parsed.tree ∧
      parsed =
        { tree := parsed.tree
          globals := src.globals root
          identifiers := parsed.tree.identifierTokens
          properties := parsed.tree.propertyTokens
          associations := parsed.tree.associationCounts
          textLength := src.length
          attempts := a.count } := by
  unfold conclude at h
  cases he : a.ending with
  | clean src root =>
    simp only [he] at h
    refine ⟨src, root, rfl, ?_⟩
    cases hb : buildScopes src root with
    | error e =>
      rw [hb] at h
      cases h
    | ok tree =>
      rw [hb] at h
      obtain rfl := Except.ok.inj h
      exact ⟨rfl, rfl⟩
  | _ =>
    simp only [he] at h
    cases h

theorem Attempts.conclude_of_error {a : Attempts} {line : Nat}
    (h : a.ending = .exhausted line ∨ a.ending = .stuck line) :
    a.conclude.outcome = .error (.fault (.syntaxError line a.count)) := by
  obtain h | h := h <;> simp only [conclude, h]

theorem parseText_eq_ok {parser : Parser} {text : String} {maxRetries : Int} {parsed : ParsedFile}
    (h : parseText parser text maxRetries = .ok parsed) :
    ∃ root, parser (lastText parser text maxRetries) = some root ∧
      buildScopes (Source.ofText (lastText parser text maxRetries)) root = .ok parsed.tree ∧
      parsed =
        { tree := parsed.tree
          globals := (Source.ofText (lastText parser text maxRetries)).globals root
          identifiers := parsed.tree.identifierTokens
          properties := parsed.tree.propertyTokens
          associations := parsed.tree.associationCounts
          textLength := (Source.ofText (lastText parser text maxRetries)).length
          attempts := (attempts parser maxRetries.toNat text).count } := by
  obtain ⟨src, root, he, hbuilt, hparsed⟩ := Attempts.conclude_eq_ok h
  have hends := attempts_ends parser maxRetries.toNat text
  rw [he] at hends
  cases hends with
  | clean hroot _ => exact ⟨root, hroot, hbuilt, hparsed⟩

theorem parseText_ok {parser : Parser} {text : String} {maxRetries : Int} {parsed : ParsedFile}
    (h : parseText parser text maxRetries = .ok parsed) :
    ∃ root, parser (lastText parser text maxRetries) = some root ∧
      buildScopes (Source.ofText (lastText parser text maxRetries)) root = .ok parsed.tree ∧
      parsed.globals = (Source.ofText (lastText parser text maxRetries)).globals root ∧
      parsed.identifiers = parsed.tree.identifierTokens ∧
      parsed.properties = parsed.tree.propertyTokens := by
  obtain ⟨root, hroot, hbuilt, hparsed⟩ := parseText_eq_ok h
  exact ⟨root, hroot, hbuilt, congrArg ParsedFile.globals hparsed,
    congrArg ParsedFile.identifiers hparsed, congrArg ParsedFile.properties hparsed⟩

namespace ScopeTree
variable {tree : ScopeTree}

theorem exists_record_of_mem {s : Scope} {o : Occurrence} (hs : s ∈ tree.scopes)
    (field : ScopeRecord → List Occurrence)
    (hempty : field { parent := none, range := ⟨0, 0⟩, kind := .program } = [])
    (ho : o ∈ field s.record) : ∃ r ∈ tree.records, o ∈ field r := by
  obtain ⟨i, -, rfl⟩ := List.mem_map.1 hs
  unfold Scope.record at ho
  change o ∈ field (tree.records[i]?.getD _) at ho
  cases hr : tree.records[i]? with
  | none =>
    rw [hr, Option.getD_none, hempty] at ho
    cases ho
  | some r =>
    rw [hr] at ho
    exact ⟨r, Array.mem_of_getElem? hr, ho⟩

theorem mem_record_of_identifierTokens {token : HintToken} {pos : Int}
    (h : token ∈ tree.identifierTokens) (hpos : pos ∈ token.positions) :
    ∃ r ∈ tree.records, ⟨token.value, pos⟩ ∈ r.identifiers := by
  obtain ⟨o, ho, hitem⟩ := List.mem_map.1 (mem_of_mem_positions h hpos)
  obtain ⟨s, hs, ho⟩ := List.mem_flatMap.1 ho
  obtain ⟨hname, hposition⟩ := Prod.mk.inj hitem
  rw [← hname, ← hposition]
  exact exists_record_of_mem hs (·.identifiers) rfl ho

theorem mem_record_of_propertyTokens {token : HintToken} {pos : Int}
    (h : token ∈ tree.propertyTokens) (hpos : pos ∈ token.positions) :
    ∃ r ∈ tree.records, ⟨token.value, pos⟩ ∈ r.properties := by
  obtain ⟨o, ho, hitem⟩ := List.mem_map.1 (mem_of_mem_positions h hpos)
  obtain ⟨s, hs, ho⟩ := List.mem_flatMap.1 ho
  obtain ⟨hname, hposition⟩ := Prod.mk.inj hitem
  rw [← hname, ← hposition]
  exact exists_record_of_mem hs (·.properties) rfl ho

end ScopeTree

/-- What a node on boundaries of the last text spells stands there in the first one. -/
theorem spelledAt_of_occurrence {parser : Parser} {text : String} {maxRetries : Int} {n : Node}
    {o : Occurrence} (hn : n.OnBoundaries (lastText parser text maxRetries).toList)
    (ho : Builder.occurrence (Source.ofText (lastText parser text maxRetries)) n = .ok o)
    (hspace : ' ' ∉ o.name.toList) : Text.SpelledAt text.toList o.name o.position := by
  obtain ⟨pos, hstart, hspelled⟩ := Source.spelledAt_of_onBoundaries hn
  rw [Builder.occurrence, hstart] at ho
  obtain rfl := Except.ok.inj ho
  exact hspelled.of_faded (attempts_faded parser _ text) hspace

/-- A name that a parse records, in a scope or as a token, is spelled by the text at each of its
positions, if the nodes of the parser's last answer lie on boundaries of the text it was given. A
name with a space in it may stand on a blanked line. -/
theorem parseText_spelled (parser : Parser) (text : String) (maxRetries : Int) {parsed : ParsedFile}
    (hnodes : ∀ root n, parser (lastText parser text maxRetries) = some root → root.Within n →
      n.OnBoundaries (lastText parser text maxRetries).toList)
    (h : parseText parser text maxRetries = .ok parsed) :
    (∀ r ∈ parsed.tree.records, ∀ o ∈ r.declarations ++ r.identifiers ++ r.properties,
      ' ' ∉ o.name.toList → Text.SpelledAt text.toList o.name o.position) ∧
    ∀ t ∈ parsed.identifiers ++ parsed.properties, ' ' ∉ t.value.toList →
      ∀ pos ∈ t.positions, Text.SpelledAt text.toList t.value pos := by
  obtain ⟨root, hroot, hbuilt, -, hidentifiers, hproperties⟩ := parseText_ok h
  obtain ⟨-, hfiled⟩ := buildScopes_building hbuilt
  have hrecords : ∀ r ∈ parsed.tree.records,
      ∀ o ∈ r.declarations ++ r.identifiers ++ r.properties,
        ' ' ∉ o.name.toList → Text.SpelledAt text.toList o.name o.position := by
    intro r hr o ho hspace
    obtain ⟨i, hi⟩ := Array.getElem?_of_mem hr
    obtain ⟨hnoted, -, hident, hprop⟩ := hfiled i r hi
    obtain ⟨n, hn, hocc⟩ : ∃ n, root.Within n ∧
        Builder.occurrence (Source.ofText (lastText parser text maxRetries)) n = .ok o := by
      obtain ho | ho := List.mem_append.1 ho
      · have ho : o ∈ r.identifiers := (List.mem_append.1 ho).elim (hnoted o) id
        obtain ⟨n, hn | hn, hocc⟩ := hident o ho
        · exact ⟨n, hn, hocc⟩
        · exact ⟨n, hn, hocc⟩
      · exact hprop o ho
    exact spelledAt_of_occurrence (hnodes root n hroot hn) hocc hspace
  refine ⟨hrecords, ?_⟩
  intro t ht hspace pos hpos
  rw [hidentifiers, hproperties] at ht
  obtain ht | ht := List.mem_append.1 ht
  · obtain ⟨r, hr, ho⟩ := ScopeTree.mem_record_of_identifierTokens ht hpos
    exact hrecords r hr _ (List.mem_append_left _ (List.mem_append_right _ ho)) hspace
  · obtain ⟨r, hr, ho⟩ := ScopeTree.mem_record_of_propertyTokens ht hpos
    exact hrecords r hr _ (List.mem_append_right _ ho) hspace

/-- Answers with an error on the first line of a text of two lines, and with the name on the second
line once the first one is blanked. -/
def secondLineParser : Parser := fun text =>
  let node (kind : String) (hasError : Bool) (firstByte endByte row : Nat) (children : List Node) :
      Node :=
    { kind, named := true, missing := false, hasError, firstByte, endByte, row, field := none,
      children }
  if text = "é(\nb" then some (node "program" true 0 5 0 [node "ERROR" true 0 3 0 []])
  else if text = "  \nb" then some (node "program" false 0 4 0 [node "identifier" false 3 4 1 []])
  else none

theorem parseText_spelled_secondLine :
    (∃ parsed, parseText secondLineParser "é(\nb" 1 = .ok parsed ∧ parsed.recovered = true ∧
      parsed.identifiers = [{ value := "b", positions := [3] }]) ∧
    Text.SpelledAt "é(\nb".toList "b" 3 := by
  have hparsed : (parseText secondLineParser "é(\nb" 1).toOption.map
      (fun p => (p.recovered, p.identifiers)) = some (true, [{ value := "b", positions := [3] }]) := by
    decide +kernel
  have hlast : lastText secondLineParser "é(\nb" 1 = "  \nb" := by decide +kernel
  cases hp : parseText secondLineParser "é(\nb" 1 with
  | error e =>
    rw [hp] at hparsed
    cases hparsed
  | ok parsed =>
    rw [hp] at hparsed
    obtain ⟨hrecovered, hidentifiers⟩ := Prod.mk.inj (Option.some.inj hparsed)
    refine ⟨⟨parsed, rfl, hrecovered, hidentifiers⟩, ?_⟩
    have hnodes : ∀ root n, secondLineParser (lastText secondLineParser "é(\nb" 1) = some root →
        root.Within n → n.OnBoundaries (lastText secondLineParser "é(\nb" 1).toList := by
      intro root n hroot hn
      rw [hlast] at hroot ⊢
      have hend : Text.IsBoundary "  \nb".toList 4 := ⟨4, by decide, by decide⟩
      obtain rfl := Option.some.inj hroot
      obtain rfl | ⟨c, hc, hn⟩ := hn.root_or_child
      · exact ⟨⟨0, by decide, by decide⟩, hend⟩
      · obtain rfl := List.mem_singleton.1 hc
        obtain rfl | ⟨d, hd, -⟩ := hn.root_or_child
        · exact ⟨⟨3, by decide, by decide⟩, hend⟩
        · cases hd
    obtain ⟨-, htokens⟩ := parseText_spelled secondLineParser "é(\nb" 1 hnodes hp
    exact htokens { value := "b", positions := [3] } (by simp [hidentifiers]) (by decide) 3 (by simp)

end ScopeHints
