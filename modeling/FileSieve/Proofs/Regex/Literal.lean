import FileSieve.Proofs.Regex.Answer
import FileSieve.Proofs.Regex.Parsing
import Mathlib.Data.List.Infix

/-!
# Literal texts

A quoted text is read as one node for each of its code points, in verbose mode except for its white space, which is
not quoted (`Reading.items_quotedText`). Where case counts, a row of such nodes takes exactly the text that it spells
(`answers_literal`), so a search finds the place where that text stands for the first time (`search_literal`).
-/

namespace FileSieve

/-! ### The first place of a text -/

/-- The place where `v` stands in `s` for the first time. -/
def Text.placeOf? (v s : Text) : Option Nat :=
  s.tails.findIdx? v.isPrefixOf

theorem Text.placeOf?_eq_some_iff {v s : Text} {i : Nat} :
    v.placeOf? s = some i ↔ i ≤ s.length ∧ v <+: s.drop i ∧ ∀ j < i, ¬v <+: s.drop j := by
  rw [Text.placeOf?, List.findIdx?_eq_some_iff_getElem]
  simp only [List.length_tails, List.getElem_tails, List.isPrefixOf_iff_prefix, Nat.lt_succ_iff]
  constructor
  · rintro ⟨hi, hv, hbefore⟩
    exact ⟨hi, hv, fun j hj => hbefore j hj⟩
  · rintro ⟨hi, hv, hbefore⟩
    exact ⟨hi, hv, fun j hj => hbefore j hj⟩

theorem Text.placeOf?_eq_none_iff {v s : Text} : v.placeOf? s = none ↔ ¬v <:+: s := by
  rw [Text.placeOf?, List.findIdx?_eq_none_iff, List.infix_iff_prefix_suffix]
  simp only [List.mem_tails, Bool.eq_false_iff, Ne, List.isPrefixOf_iff_prefix]
  constructor
  · rintro h ⟨t, hv, ht⟩
    exact h t ht hv
  · intro h t ht hv
    exact h ⟨t, hv, ht⟩

/-- A text stands first at the start of itself. -/
theorem Text.placeOf?_self (v : Text) : v.placeOf? v = some 0 :=
  placeOf?_eq_some_iff.mpr ⟨Nat.zero_le _, by simp, by simp⟩

theorem Text.placeOf?_nil (v : Text) : v.placeOf? [] = if v = [] then some 0 else none := by
  cases v <;> simp [Text.placeOf?]

theorem Text.placeOf?_cons (v : Text) (c : CodePoint) (s : Text) :
    v.placeOf? (c :: s) = if v <+: c :: s then some 0 else (v.placeOf? s).map (· + 1) := by
  simp [Text.placeOf?, List.findIdx?_cons]

namespace Regex

/-! ### Reading -/

/-- The node of a code point that stands for itself. -/
def literalNode (c : CodePoint) : Node :=
  .char (.point false c)

/-- What is read of a quoted text: in verbose mode white space is skipped. -/
def kept (verbose : Bool) (v : Text) : Text :=
  v.filter fun c => !(verbose && c.isAsciiSpace)

theorem kept_eq_self_iff {v : Text} : kept true v = v ↔ ∀ c ∈ v, c.isAsciiSpace = false := by
  simp [kept, List.filter_eq_self]

/-- A quoted text is read as the nodes of its code points, as far as they are not skipped. -/
theorem Reading.items_quotedText (r : Reading) (p fuel depth : Nat) (whole verbose : Bool) (nodes : List Node)
    (v : Text) : ∃ q, items (fuel + 1 + v.length) verbose depth whole nodes (r.facing (v.map .quoted) p) =
      .ok (Node.ofList (nodes.reverse ++ (kept verbose v).map literalNode), r.facing [] q) := by
  induction v generalizing p nodes with
  | nil => exact ⟨p, by simpa [kept] using items_nil r p fuel depth whole nodes⟩
  | cons c v ih =>
    rw [List.map_cons, List.length_cons, ← Nat.add_assoc]
    by_cases hc : (verbose && c.isAsciiSpace) = true
    · obtain ⟨rfl, hspace⟩ := Bool.and_eq_true_iff.mp hc
      obtain ⟨q, hq⟩ := ih (p + 1) nodes
      refine ⟨q, ?_⟩
      rw [items_space _ _ _ _ _ _ _ hspace, hq]
      simp [kept, hspace]
    · rw [Bool.not_eq_true] at hc
      obtain ⟨q, hq⟩ := items_verbatim r (v.map .quoted) p (fuel + 1 + v.length) depth whole nodes hc
      obtain ⟨q', hq'⟩ := ih q (literalNode c :: nodes)
      refine ⟨q', ?_⟩
      rw [hq, ← literalNode, hq']
      have hkeep : kept verbose (c :: v) = c :: kept verbose v := List.filter_cons_of_pos (by rw [hc]; rfl)
      simp [hkeep]

theorem fault_literal (v : Text) : (Node.ofList (v.map literalNode)).fault? false = none := by
  refine fault_ofList fun node hnode => ?_
  obtain ⟨c, -, rfl⟩ := List.mem_map.mp hnode
  rfl

/-- The body of a quoted text is parsed as the nodes of its code points, as far as they are not skipped. -/
theorem parse_quotedLiteral (v : Text) {mode : Mode} (hclash : (mode.ascii && mode.unicode) = false)
    (htemplate : mode.template = false) :
    parse (v.quotedLiteral.replacePoint Pattern.delimiter ['\\', Pattern.delimiter]) mode =
      .ok { node := Node.ofList ((kept mode.verbose v).map literalNode), groups := 0, mode } := by
  have hsymbols :=
    congrArg (Text.replacePoint · Pattern.delimiter ['\\', Pattern.delimiter]) (Symbol.textOf_quoted v).symm
  have hlength := length_le_textOf (v.map Symbol.quoted)
  rw [← hsymbols, List.length_map] at hlength
  generalize Text.replacePoint v.quotedLiteral Pattern.delimiter ['\\', Pattern.delimiter] = body at hlength hsymbols ⊢
  obtain ⟨fuel, hfuel⟩ : ∃ fuel, 3 * body.length + 3 = fuel + 1 + v.length + 1 :=
    ⟨3 * body.length + 1 - v.length, by omega⟩
  obtain ⟨q, hitems⟩ := Reading.items_quotedText (Reading.atStart body mode) 0 fuel 0 true mode.verbose [] v
  refine parse_eq hsymbols hclash htemplate [] (q := q) ?_ (fault_literal _)
  rw [hfuel]
  exact Reading.choice_single _ 0 true hitems rfl

/-! ### Searching -/

section

variable {m : Mode} (hm : m.ignoreCase = false)

include hm

theorem holds_literal (c d : CodePoint) : (CharTest.point false c).holds m d = true ↔ d = c := by
  simp [CharTest.holds, Mode.same, Mode.fold, hm]

/-- Nodes that spell a text take exactly that text. -/
theorem answers_literal {text before left : Text} {groups : List Span} {k : Follow} {q : Place} (v : Text)
    (h : text = before ++ left) :
    Follow.Answers (runAll text.toArray m (v.map literalNode) k) groups before q ↔
      ∃ rest, left = v ++ rest ∧ k.Answers groups (before ++ v) q := by
  induction v generalizing before left with
  | nil => simp
  | cons c v ih =>
    rw [List.map_cons, runAll_cons, literalNode, answers_char _ h]
    constructor
    · rintro ⟨d, rest, rfl, hd, hq⟩
      obtain rfl := (holds_literal hm c d).mp hd
      obtain ⟨rest, rfl, hq⟩ := (ih (by rw [h, List.append_assoc]; rfl)).mp hq
      exact ⟨rest, rfl, by simpa using hq⟩
    · rintro ⟨rest, rfl, hq⟩
      refine ⟨c, v ++ rest, rfl, (holds_literal hm c c).mpr rfl, ?_⟩
      exact (ih (by rw [h, List.append_assoc]; rfl)).mpr ⟨rest, rfl, by simpa using hq⟩

variable (v : Text)

/-- Whether a literal text is found at a place depends on what begins there. -/
theorem matchAt_literal {text before left : Text} (h : text = before ++ left) :
    Parsed.matchAt? { node := Node.ofList (v.map literalNode), groups := 0, mode := m } text.toArray before.length =
      if v <+: left then some ⟨before.length, before.length + v.length, []⟩ else none := by
  have hanswer (q : Place) : runAll text.toArray m (v.map literalNode) some ⟨before.length, []⟩ = some q ↔
      ∃ rest, left = v ++ rest ∧ q = ⟨(before ++ v).length, []⟩ :=
    (answers_literal hm v h).trans (exists_congr fun _ => and_congr_right' answers_some)
  rw [Parsed.matchAt?, run_ofList]
  by_cases hv : v <+: left
  · obtain ⟨rest, rfl⟩ := hv
    have hq := (hanswer _).mpr ⟨rest, rfl, rfl⟩
    rw [if_pos (List.prefix_append v rest), List.replicate_zero, hq]
    simp
  · rw [if_neg hv, List.replicate_zero, Option.map_eq_none_iff, Option.eq_none_iff_forall_ne_some]
    intro q hq
    obtain ⟨rest, rfl, -⟩ := (hanswer q).mp hq
    exact hv (List.prefix_append v rest)

theorem matchFrom_literal {text before left : Text} (h : text = before ++ left) :
    Parsed.matchFrom? { node := Node.ofList (v.map literalNode), groups := 0, mode := m } text.toArray left.length
        before.length =
      (v.placeOf? left).map fun i => ⟨before.length + i, before.length + i + v.length, []⟩ := by
  induction left generalizing before with
  | nil =>
    rw [List.length_nil, Parsed.matchFrom?, matchAt_literal hm v h, Text.placeOf?_nil]
    simp only [List.prefix_nil]
    split_ifs <;> rfl
  | cons c left ih =>
    have htext : text = (before ++ [c]) ++ left := by rw [h, List.append_assoc]; rfl
    have hnext := ih htext
    rw [List.length_append, List.length_singleton] at hnext
    rw [List.length_cons, Parsed.matchFrom?, matchAt_literal hm v h, Text.placeOf?_cons]
    split_ifs
    · rfl
    · simp only [hnext, Option.map_map, Function.comp_def, Nat.add_assoc, Nat.add_comm 1]

/-- A literal text is found where it stands for the first time. -/
theorem search_literal (s : Text) :
    Parsed.search? { node := Node.ofList (v.map literalNode), groups := 0, mode := m } s 0 =
      (v.placeOf? s).map fun i => ⟨i, i + v.length, []⟩ := by
  simpa [Parsed.search?] using matchFrom_literal hm v (List.nil_append s).symm

end

end Regex

end FileSieve
