import FileSieve.Proofs.Regex.Language
import FileSieve.Proofs.Regex.Reading

/-!
# Parsing symbols

A body that is the text of a row of symbols is parsed as its symbols are read: the reader starts in front of all of
them, and the tree is refused only where a look-behind has no fixed length or the mode refuses repetitions. What is
left to each kind of pattern is how the reader takes its symbols.
-/

namespace FileSieve.Regex

theorem length_le_textOf (symbols : List Symbol) :
    symbols.length ≤ ((Symbol.textOf symbols).replacePoint Pattern.delimiter ['\\', Pattern.delimiter]).length := by
  induction symbols with
  | nil => exact Nat.le_refl _
  | cons x xs ih =>
    have hx : 1 ≤ (x.text.replacePoint Pattern.delimiter ['\\', Pattern.delimiter]).length := by
      cases x with
      | mark m => simp only [Symbol.text, Text.replacePoint, List.flatMap_cons]; split_ifs <;> simp
      | quoted c =>
        have hq : ∃ d t, quotePoint [] c = d :: t := by
          unfold quotePoint
          split_ifs
          · exact ⟨_, _, rfl⟩
          · exact ⟨_, _, rfl⟩
          · exact ⟨_, _, rfl⟩
        obtain ⟨d, t, hq⟩ := hq
        simp only [Symbol.text, hq, Text.replacePoint, List.flatMap_cons]
        split_ifs <;> simp
    simp only [Text.replacePoint, Symbol.textOf_cons, List.flatMap_append, List.length_append,
      List.length_cons] at ih hx ⊢
    omega

theorem fault_ofList {nodes : List Node} (h : ∀ node ∈ nodes, node.fault? false = none) :
    (Node.ofList nodes).fault? false = none := by
  fun_induction Node.ofList nodes with
  | case1 => rfl
  | case2 node => exact h node (by simp)
  | case3 node rest _ ih =>
    simp [Node.fault?, h node (by simp), ih fun n hn => h n (.tail _ hn)]

/-- The reading before the first symbol of a body. -/
def Reading.atStart (body : Text) (mode : Mode) : Reading :=
  { rest := [], place := 0, length := body.length, mode }

section

variable {symbols : List Symbol} {body : Text}
  (hb : body = (Symbol.textOf symbols).replacePoint Pattern.delimiter ['\\', Pattern.delimiter]) {mode : Mode}

include hb

/-- The reader starts in front of the symbols. -/
theorem start_eq (mode : Mode) : Reading.start body mode = .ok ((Reading.atStart body mode).facing symbols 0) := by
  have htokens : Token.ofText body = Symbol.tokensOf symbols := hb ▸ Symbol.ofText_escaped symbols
  have hd := Symbol.dangling_notMem symbols
  unfold Reading.start
  rw [htokens]
  split
  · next h => exact absurd (by rw [h]; simp) hd
  · rfl

/-- A body is parsed when the reader takes all of it and finds no fault in the tree. -/
theorem parse_eq (hclash : (mode.ascii && mode.unicode) = false) (htemplate : mode.template = false) {node : Node}
    (widths : List (Option Width)) {q : Nat}
    (h : Reading.choice (3 * body.length + 3) mode.verbose 0 true ((Reading.atStart body mode).facing symbols 0) =
      .ok (node, { Reading.atStart body mode with widths }.facing [] q))
    (hfault : node.fault? false = none) :
    parse body mode = .ok { node, groups := widths.length, mode } := by
  simp only [parse, start_eq hb, bind, Except.bind, h]
  simp [Reading.facing, Reading.atStart, hclash, htemplate, hfault]

theorem parse_error {fault : Fault}
    (h : Reading.choice (3 * body.length + 3) mode.verbose 0 true ((Reading.atStart body mode).facing symbols 0) =
      .error fault) :
    parse body mode = .error fault := by
  simp only [parse, start_eq hb, bind, Except.bind, h]

end

end FileSieve.Regex
