import FileSieve.Glob.Options
import FileSieve.Pattern.Subject
import FileSieve.Proofs.Glob.Parts
import FileSieve.Proofs.Pattern.Search
import FileSieve.Proofs.Regex.Parsing

/-!
# What compiled globs match

The pattern of a glob reads as the parts of its pieces between anchors, and is no regular expression when the
pieces have no parts (`isWellFormed_compile`). A search with it never fails otherwise, and finds what the parts
cover, up to a last newline (`matchesText_compile`).
-/

namespace FileSieve

open Regex

namespace Glob

/-- The parts of a glob. -/
def partsOf (separators glob : Text) : Option (List Part) :=
  parts separators none (pieces glob)

/-- The mode of patterns of globs. -/
abbrev mode (caseFold : Bool) : Mode :=
  (flags caseFold).mode

theorem mode_eq (caseFold : Bool) : mode caseFold = { ignoreCase := caseFold, ascii := true } := by
  cases caseFold <;> rfl

/-- Whether parts between anchors match a text. -/
def Fits (caseFold : Bool) (row : List Part) (s : Text) : Prop :=
  ∃ u, Covers (mode caseFold) row u ∧ (s = u ∨ s = u ++ [('\n' : CodePoint)])

/-! ### One glob -/

/-- The symbols of pieces between anchors. -/
def anchoredSymbols (separators : Text) (ps : List Piece) : List Symbol :=
  .mark .caret :: (symbolsOf separators ps ++ [.mark .dollar])

variable (separators : Text)

theorem textOf_anchoredSymbols (glob : Text) :
    Symbol.textOf (anchoredSymbols separators (pieces glob)) = anchored (toRegex glob separators) := by
  rw [toRegex_eq]
  simp [anchoredSymbols, anchored]
  rfl

section

variable (r : Reading) (place fuel depth : Nat) (whole : Bool) {ps : List Piece}

/-- Symbols that are taken for pieces with parts, between anchors. -/
theorem items_anchored {symbols : List Symbol} (hX : ReadsAs separators symbols ps) (hd : depth < maxDepth)
    {row : List Part} (h : parts separators none ps = some row) {tail : List Symbol}
    (ht : tail = [] ∨ ∃ ys, tail = .mark .endParen :: ys) : ∃ q,
    Reading.items (fuel + 5 + symbols.length) false depth whole []
        (r.facing (.mark .caret :: (symbols ++ .mark .dollar :: tail)) place) =
      .ok (Node.ofList (anchoredNodes row), r.facing tail q) := by
  obtain ⟨extra, q, -, hparts⟩ := hX.row separators r (.mark .dollar :: tail) (place + 1) fuel depth whole
    [.anchor .lineStart] h hd (by rintro m (rfl | rfl) ys <;> simp)
  have hcaret := Reading.items_caret r (symbols ++ .mark .dollar :: tail) place
    (fuel + 4 + symbols.length) depth whole []
  have hdollar := Reading.items_dollar r tail q (extra + 3) depth whole
    ((row.flatMap Part.nodes).reverse ++ [.anchor .lineStart])
  have hnodes : (Node.anchor .lineEnd :: ((row.flatMap Part.nodes).reverse ++ [.anchor .lineStart])).reverse =
      anchoredNodes row := by
    simp [anchoredNodes]
  refine ⟨q + 1, ?_⟩
  rw [show fuel + 5 + symbols.length = fuel + 4 + symbols.length + 1 by omega]
  refine hcaret.trans (hparts.trans (hdollar.trans ?_))
  rw [← hnodes]
  rcases ht with rfl | ⟨ys, rfl⟩
  · exact Reading.items_nil r (q + 1) (extra + 2) depth whole _
  · exact Reading.items_stop r ys (q + 1) (extra + 2) depth whole _ (.inr rfl)

theorem items_anchored_fault {symbols : List Symbol} (hX : ReadsAs separators symbols ps) (hd : depth < maxDepth)
    (h : parts separators none ps = none) (tail : List Symbol)
    (ht : scan separators none ps = none ∨ .mark .endBracket ∉ tail) : ∃ cause q,
    Reading.items (fuel + 5 + symbols.length) false depth whole []
        (r.facing (.mark .caret :: (symbols ++ .mark .dollar :: tail)) place) =
      .error (.malformed cause q) := by
  obtain ⟨cause, q, hparts⟩ := hX.fault separators r (.mark .dollar :: tail) (place + 1) fuel depth whole
    [.anchor .lineStart] h (ht.imp_right (by simp)) hd (by rintro m (rfl | rfl) ys <;> simp)
  have hcaret := Reading.items_caret r (symbols ++ .mark .dollar :: tail) place
    (fuel + 4 + symbols.length) depth whole []
  refine ⟨cause, q, ?_⟩
  rw [show fuel + 5 + symbols.length = fuel + 4 + symbols.length + 1 by omega]
  exact hcaret.trans hparts

end

/-! ### Faults of the tree -/

theorem fault_anchoredNodes (row : List Part) : (Node.ofList (anchoredNodes row)).fault? false = none := by
  refine fault_ofList fun node hnode => ?_
  simp only [anchoredNodes, List.mem_cons, List.mem_append, List.mem_flatMap, List.not_mem_nil, or_false] at hnode
  rcases hnode with rfl | ⟨part, -, hnode⟩ | rfl
  · rfl
  · cases part with
    | single test guards =>
      simp only [Part.nodes, List.mem_cons, List.mem_map] at hnode
      rcases hnode with rfl | ⟨g, -, rfl⟩ <;> rfl
    | run test =>
      obtain rfl : node = .repeated .greedy 0 none (.char test) := by simpa [Part.nodes] using hnode
      rfl
  · rfl

/-! ### Reading the body of a pattern -/

section

variable {symbols : List Symbol} {body : Text}
  (hb : body = (Symbol.textOf symbols).replacePoint Pattern.delimiter ['\\', Pattern.delimiter]) {caseFold : Bool}

include hb

/-- A body is parsed when the reader takes all of it and finds no fault in the tree. -/
theorem parse_eq {node : Node} (widths : List (Option Width)) {q : Nat}
    (h : Reading.choice (3 * body.length + 3) false 0 true ((Reading.atStart body (mode caseFold)).facing symbols 0) =
      .ok (node, { Reading.atStart body (mode caseFold) with widths }.facing [] q))
    (hfault : node.fault? false = none) :
    Regex.parse body (mode caseFold) = .ok { node, groups := widths.length, mode := mode caseFold } := by
  have hv : (mode caseFold).verbose = false := by rw [mode_eq]
  exact Regex.parse_eq hb (by rw [mode_eq]; rfl) (by rw [mode_eq]) widths (by rw [hv]; exact h) hfault

theorem parse_error {fault : Fault}
    (h : Reading.choice (3 * body.length + 3) false 0 true ((Reading.atStart body (mode caseFold)).facing symbols 0) =
      .error fault) :
    Regex.parse body (mode caseFold) = .error fault := by
  have hv : (mode caseFold).verbose = false := by rw [mode_eq]
  exact Regex.parse_error hb (by rw [hv]; exact h)

end

theorem isUnicode_of_flags {p : Pattern} {caseFold : Bool} (hp : p.flags = flags caseFold) : p.isUnicode = false := by
  rw [Pattern.isUnicode, hp]
  cases caseFold <;> rfl

theorem engine_eq {p : Pattern} {caseFold : Bool} (hp : p.flags = flags caseFold) {parsed : Parsed}
    (h : Regex.parse p.body (mode caseFold) = .ok parsed) : p.engine = .ok parsed := by
  rw [Pattern.engine, isUnicode_of_flags hp, hp, h]
  rfl

theorem engine_error {p : Pattern} {caseFold : Bool} (hp : p.flags = flags caseFold) {cause : SyntaxFault} {q : Nat}
    (h : Regex.parse p.body (mode caseFold) = .error (.malformed cause q)) :
    p.engine = p.impossible (.refused (.malformed cause q)) := by
  rw [Pattern.engine, isUnicode_of_flags hp, hp, h]
  rfl

variable (separators : Text)

/-! ### The pattern of one glob -/

variable (glob : Text) (caseFold : Bool)

theorem body_compile : (compile glob separators caseFold).body =
    (Symbol.textOf (anchoredSymbols separators (pieces glob))).replacePoint Pattern.delimiter
      ['\\', Pattern.delimiter] := by
  rw [textOf_anchoredSymbols]
  rfl

theorem fuel_compile : ∃ fuel, 3 * (compile glob separators caseFold).body.length + 3 =
    fuel + 5 + (symbolsOf separators (pieces glob)).length + 1 := by
  have hlength := length_le_textOf (anchoredSymbols separators (pieces glob))
  rw [← body_compile separators glob caseFold] at hlength
  simp only [anchoredSymbols, List.length_cons, List.length_append, List.length_nil] at hlength
  exact ⟨3 * (compile glob separators caseFold).body.length + 3 - 6 - (symbolsOf separators (pieces glob)).length,
    by omega⟩

/-- The pattern of a glob reads as its parts between anchors. -/
theorem engine_compile {row : List Part} (h : partsOf separators glob = some row) :
    (compile glob separators caseFold).engine =
      .ok { node := Node.ofList (anchoredNodes row), groups := 0, mode := mode caseFold } := by
  obtain ⟨fuel, hfuel⟩ := fuel_compile separators glob caseFold
  obtain ⟨q, hitems⟩ := items_anchored separators
    (Reading.atStart (compile glob separators caseFold).body (mode caseFold)) 0 fuel 0 true
    (readsAs_symbolsOf separators (pieces glob)) (by decide) h (.inl rfl)
  refine engine_eq rfl (parse_eq (body_compile separators glob caseFold) [] (q := q) ?_ (fault_anchoredNodes row))
  rw [hfuel]
  exact Reading.choice_single _ 0 true hitems rfl

/-- The pattern of a glob without parts is refused. -/
theorem engine_compile_none (h : partsOf separators glob = none) : ∃ cause q,
    (compile glob separators caseFold).engine =
      (compile glob separators caseFold).impossible (.refused (.malformed cause q)) := by
  obtain ⟨fuel, hfuel⟩ := fuel_compile separators glob caseFold
  obtain ⟨cause, q, hitems⟩ := items_anchored_fault separators
    (Reading.atStart (compile glob separators caseFold).body (mode caseFold)) 0 fuel 0 true
    (readsAs_symbolsOf separators (pieces glob)) (by decide) h [] (.inr (by simp))
  refine ⟨cause, q, engine_error rfl (parse_error (body_compile separators glob caseFold) ?_)⟩
  rw [hfuel]
  exact Reading.choice_error _ 0 true hitems

/-- A pattern of parts between anchors finds the texts that fit them. -/
theorem search_anchoredNodes (row : List Part) (groups : Nat) (s : Text) :
    (Parsed.search? { node := Node.ofList (anchoredNodes row), groups, mode := mode caseFold } s 0).isSome = true ↔
      Fits caseFold row s := by
  have hm : (mode caseFold).multiline = false := by rw [mode_eq]
  refine isSome_search_of_start (P := Fits caseFold row) fun hs => ?_
  rw [run_ofList]
  exact accepts_anchored row hm (accepts_some _) hs

/-- A glob with parts matches the texts that fit them, and never fails to give an answer. -/
theorem matchesText_compile {row : List Part} (h : partsOf separators glob = some row) (s : Text) : ∃ found,
    (compile glob separators caseFold).matchesText s = .ok found ∧ (found = true ↔ Fits caseFold row s) :=
  ⟨_, Pattern.matchesText_eq (isUnicode_of_flags rfl) (engine_compile separators glob caseFold h) s,
    search_anchoredNodes caseFold row 0 s⟩

/-- The pattern of a glob is a regular expression exactly when the glob has parts. -/
theorem isWellFormed_compile :
    (compile glob separators caseFold).isWellFormed = .ok (partsOf separators glob).isSome := by
  cases h : partsOf separators glob with
  | none =>
    obtain ⟨cause, q, he⟩ := engine_compile_none separators glob caseFold h
    rw [Pattern.isWellFormed, Pattern.matchesText_error (isUnicode_of_flags rfl) he]
    rfl
  | some row =>
    rw [Pattern.isWellFormed, Pattern.matchesText_eq (isUnicode_of_flags rfl) (engine_compile separators glob caseFold h)]
    rfl

/-- A glob matches a text exactly when it has parts that the text fits. -/
theorem matchesText_compile_iff (s : Text) :
    (compile glob separators caseFold).matchesText s = .ok true ↔
      ∃ row, partsOf separators glob = some row ∧ Fits caseFold row s := by
  cases h : partsOf separators glob with
  | none =>
    obtain ⟨cause, q, he⟩ := engine_compile_none separators glob caseFold h
    rw [Pattern.matchesText_error (isUnicode_of_flags rfl) he]
    simp
  | some row =>
    obtain ⟨found, hf, hfits⟩ := matchesText_compile separators glob caseFold h s
    simp [hf, hfits]

/-! ### Globs given as values -/

theorem mapM_quote (t : Text) : (t.map fun c => Value.text [c]).mapM quote =
    .ok (t.map fun c => Text.quotedLiteral [c]) := by
  rw [List.mapM_map]
  exact List.mapM_pure

theorem separatorsOf_text (t : Text) : separatorsOf (.text t) = .ok (Separators.ofText t) := by
  simp only [separatorsOf, Value.items, bind, Except.bind, mapM_quote]
  rfl

variable {separators} {o : Options}

theorem regexOf_text (h : o.separators = .text separators) : o.regexOf (.text glob) = .ok (toRegex glob separators) := by
  simp only [Options.regexOf, h, separatorsOf_text, bind, Except.bind]
  rfl

end Glob

end FileSieve
