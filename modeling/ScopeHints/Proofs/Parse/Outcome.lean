import ScopeHints.Proofs.Parse.Position
import ScopeHints.Proofs.Parse.Preorder
import ScopeHints.Proofs.Scope.Builder
import ScopeHints.Proofs.Scope.Traversal

/-! How a parse comes out. On well-placed nodes it fails with a syntax error or with a node of an
unknown kind and in no other way, and its last attempt tells which. -/
namespace ScopeHints

/-! ### The first error of a tree -/

theorem Source.firstError_ne_outsideText {text : String} {root : Node} (hroot : root.WellPlaced)
    (hwithin : root.endByte ≤ Text.byteLength text.toList) :
    (Source.ofText text).firstError root ≠ .outsideText := by
  intro h
  unfold firstError at h
  split at h
  · cases hf : root.firstFault? with
    | none =>
      rw [hf] at h
      cases h
    | some n =>
      obtain ⟨⟨-, hend⟩, hn⟩ := (Node.within_of_firstFault? hf).holds hroot
      have hordered := hn.ordered
      have hstart : (Source.ofText text).startOf? n = some ((Source.ofText text).charAt n.firstByte) :=
        (regular_ofText text).toChar? (by omega)
      simp only [hf, hstart] at h
      cases h
  · cases h

/-! ### Failures -/

/-- Every text is answered with a tree of well-placed nodes that lies within the text. -/
def Parser.WellPlaced (parser : Parser) : Prop :=
  ∀ text, ∃ root, parser text = some root ∧ root.WellPlaced ∧
    root.endByte ≤ Text.byteLength text.toList

section Outcome
variable {parser : Parser} {text : String} {maxRetries : Int} {root : Node}

theorem parseText_of_found {place : ErrorPlace}
    (hroot : parser (lastText parser text maxRetries) = some root)
    (he : (Source.ofText (lastText parser text maxRetries)).firstError root = .found place) :
    parseText parser text maxRetries =
      .error (.fault (.syntaxError place.line (attempts parser maxRetries.toNat text).count)) :=
  Attempts.conclude_of_error ((attempts_ends parser _ text).of_found hroot he)

theorem parseText_of_clean (hroot : parser (lastText parser text maxRetries) = some root)
    (he : (Source.ofText (lastText parser text maxRetries)).firstError root = .clean) :
    (∃ parsed, parseText parser text maxRetries = .ok parsed ∧
      buildScopes (Source.ofText (lastText parser text maxRetries)) root = .ok parsed.tree) ∨
    ∃ e, parseText parser text maxRetries = .error e.toParseError ∧
      buildScopes (Source.ofText (lastText parser text maxRetries)) root = .error e := by
  have hending := (attempts_ends parser maxRetries.toNat text).of_clean hroot he
  change (∃ parsed, (attempts parser maxRetries.toNat text).conclude.outcome = .ok parsed ∧ _) ∨
    ∃ e : BuildError,
      (attempts parser maxRetries.toNat text).conclude.outcome = .error e.toParseError ∧ _
  rw [Attempts.conclude, hending]
  dsimp only [lastText]
  cases buildScopes (Source.ofText (attempts parser maxRetries.toNat text).text) root with
  | ok tree => exact .inl ⟨_, rfl, rfl⟩
  | error e => exact .inr ⟨e, rfl, rfl⟩

end Outcome

/-- An outcome of a parse is explained by the text of its last attempt and by the answer to it. -/
structure Explained (src : Source) (root : Node) (outcome : Except ParseError ParsedFile) :
    Prop where
  ends : (∃ parsed, outcome = .ok parsed) ∨ ∃ f, outcome = .error (.fault f) ∧ f.kind = .parse
  /-- A line is reported when there is an error left, and it is the line of the first one. -/
  line : ∀ value, (∃ f, outcome = .error (.fault f) ∧ ("line", value) ∈ f.details) ↔
    ∃ place, src.firstError root = .found place ∧ value = .int place.line
  /-- A kind is reported when there is no error left and the builder meets a node of this kind,
  which it does not know. -/
  kind : ∀ kind offset, (∃ f, outcome = .error (.fault f) ∧
      ("kind", kind) ∈ f.details ∧ ("offset", offset) ∈ f.details) ↔
    src.firstError root = .clean ∧ ∃ u start,
      Builder.Meets src (Builder.blank src) (Builder.start root) u ∧ u.node.Unlisted ∧
      src.startOf? u.node = some start ∧ kind = .text u.node.kind ∧ offset = .int start

namespace Explained
variable {src : Source} {root : Node}

theorem of_found {place : ErrorPlace} (he : src.firstError root = .found place) (n : Int) :
    Explained src root (.error (.fault (.syntaxError place.line n))) where
  ends := .inr ⟨_, rfl, rfl⟩
  line value := by simp [he, Fault.details]
  kind kind offset := by simp [he, Fault.details]

theorem of_scopes {parsed : ParsedFile} (he : src.firstError root = .clean)
    (hbuilt : buildScopes src root = .ok parsed.tree) : Explained src root (.ok parsed) where
  ends := .inl ⟨_, rfl⟩
  line value := by simp [he]
  kind kind offset := by
    refine iff_of_false (by simp) ?_
    rintro ⟨-, u, start, hu, hunlisted, hstart, -⟩
    have herror := (buildScopes_eq_unknownKind_iff src root _ _).2 ⟨u, hu, hunlisted, rfl, hstart⟩
    rw [hbuilt] at herror
    cases herror

theorem of_unknownKind {k : String} {o : Nat} (he : src.firstError root = .clean)
    (hbuilt : buildScopes src root = .error (.unknownKind k o)) :
    Explained src root (.error (.fault (.scopesAborted k o))) where
  ends := .inr ⟨_, rfl, rfl⟩
  line value := by simp [he, Fault.details]
  kind kind offset := by
    constructor
    · rintro ⟨f, hf, hkind, hoffset⟩
      cases hf
      obtain ⟨u, hu, hunlisted, rfl, hstart⟩ := (buildScopes_eq_unknownKind_iff src root k o).1 hbuilt
      have hkind : kind = .text u.node.kind := by simpa [Fault.details] using hkind
      have hoffset : offset = .int o := by simpa [Fault.details] using hoffset
      exact ⟨he, u, o, hu, hunlisted, hstart, hkind, hoffset⟩
    · rintro ⟨-, u, start, hu, hunlisted, hstart, rfl, rfl⟩
      have herror := (buildScopes_eq_unknownKind_iff src root _ _).2 ⟨u, hu, hunlisted, rfl, hstart⟩
      obtain ⟨rfl, rfl⟩ := BuildError.unknownKind.inj (Except.error.inj (hbuilt.symm.trans herror))
      exact ⟨_, rfl, by simp [Fault.details], by simp [Fault.details]⟩

end Explained

theorem parseText_explained {parser : Parser} (h : parser.WellPlaced) (text : String)
    (maxRetries : Int) :
    ∃ root, parser (lastText parser text maxRetries) = some root ∧
      Explained (Source.ofText (lastText parser text maxRetries)) root
        (parseText parser text maxRetries) := by
  obtain ⟨root, hroot, hplaced, hwithin⟩ := h (lastText parser text maxRetries)
  refine ⟨root, hroot, ?_⟩
  cases he : (Source.ofText (lastText parser text maxRetries)).firstError root with
  | outsideText => exact absurd he (Source.firstError_ne_outsideText hplaced hwithin)
  | found place =>
    rw [parseText_of_found hroot he]
    exact .of_found he _
  | clean =>
    obtain ⟨parsed, hparsed, hbuilt⟩ | ⟨e, hfailed, hbuilt⟩ := parseText_of_clean hroot he
    · rw [hparsed]
      exact .of_scopes he hbuilt
    · obtain ⟨kind, offset, rfl⟩ := unknownKind_of_buildScopes hplaced hwithin hbuilt
      rw [hfailed]
      exact .of_unknownKind he hbuilt

/-- A parser that answers every text with well-placed nodes leaves a parse no other failures than a
syntax error and a node of an unknown kind, whatever the number of retries, save for a text with a
surrogate, for which the parser is never asked. -/
theorem parsePoints_explained {parser : Parser} (h : parser.WellPlaced) (points : List CodePoint)
    (maxRetries : Int) :
    ((∃ p ∈ points, p.isSurrogate = true) ∧
      parsePoints parser points maxRetries = .error .unencodable) ∨
    ∃ text : String, points = text.toList.map .char ∧
      ∃ root, parser (lastText parser text maxRetries) = some root ∧
        Explained (Source.ofText (lastText parser text maxRetries)) root
          (parsePoints parser points maxRetries) := by
  unfold parsePoints
  obtain hsurrogate | ⟨text, rfl⟩ := CodePoint.surrogate_or_chars points
  · rw [CodePoint.text?_of_surrogate hsurrogate]
    exact .inl ⟨hsurrogate, rfl⟩
  · rw [CodePoint.text?_chars]
    exact .inr ⟨text, rfl, parseText_explained h text maxRetries⟩

/-- Takes any text for one node of a kind that is in no table, and a text that starts with a bracket
for an error. -/
def riddleParser : Parser := fun text =>
  let node (kind : String) (hasError : Bool) (children : List Node) : Node :=
    { kind, named := true, missing := false, hasError, firstByte := 0
      endByte := Text.byteLength text.toList, row := 0, field := none, children }
  if text.toList.head? = some '(' then some (node "program" true [node "ERROR" true []])
  else some (node "program" false [node "riddle" false []])

theorem riddleParser_wellPlaced : riddleParser.WellPlaced := by
  intro text
  unfold riddleParser
  split
  · refine ⟨_, rfl, .intro (Nat.zero_le _) ?_ ?_ ?_ ?_, Nat.le_refl _⟩ <;> simp [Node.Encloses]
    exact .of_leaf rfl (Nat.zero_le _)
  · refine ⟨_, rfl, .intro (Nat.zero_le _) ?_ ?_ ?_ ?_, Nat.le_refl _⟩ <;> simp [Node.Encloses]
    exact .of_leaf rfl (Nat.zero_le _)

theorem parsePoints_explained_riddle :
    let points := "(\nx".toList.map CodePoint.char
    (∃ f, parsePoints riddleParser points 0 = .error (.fault f) ∧ ("line", .int 1) ∈ f.details) ∧
    ∃ f, parsePoints riddleParser points 1 = .error (.fault f) ∧ f.kind = .parse ∧
      ∀ value, ("line", value) ∉ f.details := by
  intro points
  have hexplained (retries : Int) : ∃ root,
      riddleParser (lastText riddleParser "(\nx" retries) = some root ∧
      Explained (Source.ofText (lastText riddleParser "(\nx" retries)) root
        (parsePoints riddleParser points retries) := by
    obtain ⟨hsurrogate, -⟩ | ⟨text, htext, h⟩ :=
      parsePoints_explained riddleParser_wellPlaced points retries
    · exact absurd hsurrogate (CodePoint.not_surrogate_chars _)
    · obtain rfl := CodePoint.chars_injective htext
      exact h
  have hfirst : lastText riddleParser "(\nx" 0 = "(\nx" := by decide +kernel
  have hsecond : lastText riddleParser "(\nx" 1 = " \nx" := by decide +kernel
  constructor
  · obtain ⟨root, hroot, hfirstParse⟩ := hexplained 0
    have hfound : (riddleParser "(\nx").map (Source.ofText "(\nx").firstError =
        some (.found ⟨1, 0, "ERROR"⟩) := by decide +kernel
    rw [hfirst] at hroot hfirstParse
    rw [hroot] at hfound
    exact (hfirstParse.line _).2 ⟨_, Option.some.inj hfound, rfl⟩
  · obtain ⟨root, hroot, hsecondParse⟩ := hexplained 1
    have hclean : (riddleParser " \nx").map (Source.ofText " \nx").firstError = some .clean := by
      decide +kernel
    have hfails : (parsePoints riddleParser points 1).isOk = false := by decide +kernel
    rw [hsecond] at hroot hsecondParse
    rw [hroot] at hclean
    obtain ⟨parsed, hparsed⟩ | ⟨f, hf, hkind⟩ := hsecondParse.ends
    · rw [hparsed] at hfails
      cases hfails
    · refine ⟨f, hf, hkind, ?_⟩
      intro value hvalue
      obtain ⟨place, hfound, -⟩ := (hsecondParse.line value).1 ⟨f, hf, hvalue⟩
      cases hfound.symm.trans (Option.some.inj hclean)

/-- A lone surrogate gives neither scopes nor a failed parse. -/
theorem parsePoints_surrogate_unexplained :
    riddleParser.WellPlaced ∧
    ¬ ((∃ parsed, parsePoints riddleParser [.surrogate 0] 0 = .ok parsed) ∨
      ∃ f, parsePoints riddleParser [.surrogate 0] 0 = .error (.fault f) ∧ f.kind = .parse) := by
  refine ⟨riddleParser_wellPlaced, ?_⟩
  rintro (⟨parsed, h⟩ | ⟨f, h, -⟩) <;> cases h

end ScopeHints
