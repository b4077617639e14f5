import ScopeHints.Parse.Recovery
import ScopeHints.Proofs.Parse.Preorder
import ScopeHints.Proofs.Text.Row

/-! The first error of a tree as it is reported: the first node in preorder that stands for an error,
its offset in characters, and the line that has to be blanked to take the character there. -/
namespace ScopeHints

/-- A place is that of the first fault of a tree, and blanking its line takes what stands there. -/
structure Locates (text : String) (root : Node) (place : ErrorPlace) : Prop where
  first : ∃ before f after, root.preorder = before ++ f :: after ∧
    (∀ n ∈ before, n.isFault = false) ∧ f.isFault = true ∧
    (Source.ofText text).startOf? f = some place.offset ∧
    place.kind = if f.missing then f.kind else "ERROR"
  line : place.line = 1 + (text.toList.take place.offset).count '\n'
  blanked : ∀ c, text.toList[place.offset]? = some c → c ≠ '\n' →
    ¬ Text.InFinalReturns text.toList place.offset →
    (blankLine text place.line).toList[place.offset]? = some ' '

section
variable {text : String} {root : Node}

/-- A fault of the tree is found, and its line is the one that the parser gives it. -/
theorem firstError_found (hmarked : root.Marked)
    (hstarts : ∀ n ∈ root.preorder, n.firstByte ≤ Text.byteLength text.toList)
    (hfault : ∃ n ∈ root.preorder, n.isFault = true) :
    ∃ f offset, root.preorder.find? Node.isFault = some f ∧
      (Source.ofText text).startOf? f = some offset ∧
      (Source.ofText text).firstError root =
        .found ⟨f.line, offset, if f.missing then f.kind else "ERROR"⟩ := by
  obtain ⟨f, hf⟩ := Option.isSome_iff_exists.1 (List.find?_isSome.2 hfault)
  obtain ⟨offset, hoffset, -⟩ :=
    Text.OffsetMap.toChar?_of_le (hstarts f (List.mem_of_find?_eq_some hf))
  have hstart : (Source.ofText text).startOf? f = some offset := hoffset
  refine ⟨f, offset, hf, hstart, ?_⟩
  rw [Source.firstError, if_pos (hmarked.root hfault),
    hmarked.firstFault?_eq_find? (Node.mem_preorder_iff.2 .root), hf]
  simp only [hstart]

theorem firstError_eq_clean_iff (hmarked : root.Marked)
    (hstarts : ∀ n ∈ root.preorder, n.firstByte ≤ Text.byteLength text.toList) :
    (Source.ofText text).firstError root = .clean ↔ ∀ n ∈ root.preorder, n.isFault = false := by
  constructor
  · intro hclean
    by_contra hsome
    have hfault : ∃ n ∈ root.preorder, n.isFault = true := by simpa using hsome
    obtain ⟨f, offset, -, -, hfound⟩ := firstError_found hmarked hstarts hfault
    rw [hclean] at hfound
    cases hfound
  · intro hnone
    have hfind : root.firstFault? = none := by
      rw [hmarked.firstFault?_eq_find? (Node.mem_preorder_iff.2 .root)]
      exact List.find?_eq_none.2 fun n hn => by simp [hnone n hn]
    rw [Source.firstError, hfind]
    split <;> rfl

/-- Where the parser counts the line feeds before the first fault, blanking its line takes it. -/
theorem locates_of_find? {f : Node} {offset : Nat}
    (hf : root.preorder.find? Node.isFault = some f)
    (hbyte : f.firstByte ≤ Text.byteLength text.toList)
    (hrow : f.row = Text.rowOf text.toList f.firstByte)
    (hstart : (Source.ofText text).startOf? f = some offset) :
    Locates text root ⟨f.line, offset, if f.missing then f.kind else "ERROR"⟩ := by
  obtain ⟨hisFault, before, after, hsplit, hbefore⟩ := List.find?_eq_some_iff_append.1 hf
  have hline : f.line = (text.toList.take offset).count '\n' + 1 :=
    congrArg (· + 1) (hrow.trans (Text.rowOf_eq_count hbyte hstart))
  refine ⟨⟨before, f, after, hsplit, by simpa using hbefore, hisFault, hstart, rfl⟩, ?_, ?_⟩
  · rw [hline, Nat.add_comm]
  · intro c hc hnewline hreturns
    rw [hline, blankLine, String.toList_ofList]
    exact Text.getElem?_blankLine hc hnewline hreturns

end

/-- In a tree whose marks tell where the faults are, an error is reported if and only if there is a
fault, and it is the first one in preorder, as a loop with a stack finds it. Its line is that of
the text because the rows of the nodes count the line feeds before them. -/
theorem firstError_first {text : String} {root : Node} (hmarked : root.Marked)
    (hstarts : ∀ n ∈ root.preorder, n.firstByte ≤ Text.byteLength text.toList)
    (hrows : ∀ n ∈ root.preorder, n.row = Text.rowOf text.toList n.firstByte) :
    Node.search (root.weight + 1) [root] = some root.firstFault? ∧
      ((Source.ofText text).firstError root = .clean ↔ ∀ n ∈ root.preorder, n.isFault = false) ∧
      ((∃ n ∈ root.preorder, n.isFault = true) →
        ∃ place, (Source.ofText text).firstError root = .found place ∧ Locates text root place) := by
  refine ⟨Node.search_root root, firstError_eq_clean_iff hmarked hstarts, ?_⟩
  intro hfault
  obtain ⟨f, offset, hf, hstart, hfound⟩ := firstError_found hmarked hstarts hfault
  have hmem := List.mem_of_find?_eq_some hf
  exact ⟨_, hfound, locates_of_find? hf (hstarts f hmem) (hrows f hmem) hstart⟩

/-- The tree of `é` and a second line `=;`, on which the parser misses a name before the sign. -/
def assignmentProgram : Node :=
  let node (kind : String) (missing hasError : Bool) (firstByte endByte row : Nat)
      (children : List Node) : Node :=
    { kind, named := true, missing, hasError, firstByte, endByte, row, field := none, children }
  node "program" false true 0 7 0 [
    node "identifier" false false 0 2 0 [],
    node "expression_statement" false true 3 5 1 [
      node "identifier" true false 3 3 1 [], node "ERROR" false true 3 4 1 []]]

theorem firstError_first_assignment :
    (Source.ofText "é\n=;\r\n").firstError assignmentProgram = .found ⟨2, 2, "identifier"⟩ ∧
      Locates "é\n=;\r\n" assignmentProgram ⟨2, 2, "identifier"⟩ ∧
      blankLine "é\n=;\r\n" 2 = "é\n  \r\n" := by
  have hmarked : assignmentProgram.Marked :=
    ⟨by decide +kernel, by decide +kernel, by decide +kernel⟩
  have hstarts : ∀ n ∈ assignmentProgram.preorder,
      n.firstByte ≤ Text.byteLength "é\n=;\r\n".toList := by
    decide +kernel
  have hrows : ∀ n ∈ assignmentProgram.preorder,
      n.row = Text.rowOf "é\n=;\r\n".toList n.firstByte := by
    decide +kernel
  obtain ⟨-, -, hfound⟩ := firstError_first hmarked hstarts hrows
  obtain ⟨place, hplace, hlocates⟩ := hfound (by decide +kernel)
  have hfirst : (Source.ofText "é\n=;\r\n").firstError assignmentProgram =
      .found ⟨2, 2, "identifier"⟩ := by
    decide +kernel
  obtain rfl := ErrorSearch.found.inj (hplace.symm.trans hfirst)
  exact ⟨hfirst, hlocates, by decide +kernel⟩

end ScopeHints
