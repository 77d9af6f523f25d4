import FileSieve.Proofs.Regex.Literal
import FileSieve.Regex.Replace

/-!
# Alternatives of escaped texts

Escaped texts with bars between them are read as literal texts that are alternatives, whatever code points are in them
(`parse_escaped`). What is found at a place is the first of these texts that begins there (`matchAt_ofTexts`), whether
another one is longer or not.
-/

namespace FileSieve.Regex

/-! ### Tokens -/

/-- The token of a code point of an escaped text. -/
def escapedToken (c : CodePoint) : Token :=
  if reserved.contains c then .escaped c else .plain c

/-- The tokens of escaped texts with bars between them. -/
def alternativeTokens : List Text → List Token
  | [] => []
  | [t] => t.map escapedToken
  | t :: rest => t.map escapedToken ++ .plain '|' :: alternativeTokens rest

theorem ofText_escapedText (t rest : Text) :
    Token.ofText (escaped t ++ rest) = t.map escapedToken ++ Token.ofText rest := by
  have hslash : ('\\' : CodePoint) ∈ reserved := by decide
  induction t with
  | nil => rfl
  | cons c t ih =>
    have hcons : escaped (c :: t) ++ rest = escapePoint c ++ (escaped t ++ rest) := by simp [escaped]
    rw [hcons, List.map_cons, List.cons_append, ← ih]
    by_cases hc : c ∈ reserved
    · simp [escapePoint, escapedToken, hc, Token.ofText_escaped]
    · have hne : c ≠ '\\' := fun h => hc (h ▸ hslash)
      simp [escapePoint, escapedToken, hc, Token.ofText_plain hne]

theorem ofText_alternatives (texts : List Text) :
    Token.ofText (Text.join "|" (texts.map escaped)) = alternativeTokens texts := by
  fun_induction alternativeTokens texts with
  | case1 => rfl
  | case2 t => simpa [Text.join, Token.ofText] using ofText_escapedText t []
  | case3 t rest hne ih =>
    obtain ⟨next, rest, rfl⟩ := List.exists_cons_of_ne_nil hne
    have hbar : ('|' : CodePoint) ≠ '\\' := by decide
    have hjoin : Text.join "|" ((t :: next :: rest).map escaped) =
        escaped t ++ ('|' : CodePoint) :: Text.join "|" ((next :: rest).map escaped) := by
      simp [Text.join]
      rfl
    rw [hjoin, ofText_escapedText, Token.ofText_plain hbar, ih]

theorem dangling_notMem_escaped (t : Text) : Token.dangling ∉ t.map escapedToken := by
  simp only [List.mem_map, not_exists, not_and]
  intro c _
  unfold escapedToken
  split_ifs <;> simp

theorem dangling_notMem_alternatives (texts : List Text) : Token.dangling ∉ alternativeTokens texts := by
  fun_induction alternativeTokens texts with
  | case1 => simp
  | case2 t => exact dangling_notMem_escaped t
  | case3 t rest _ ih => simp [dangling_notMem_escaped t, ih]

theorem length_ofText_le (t : Text) : (Token.ofText t).length ≤ t.length := by
  fun_induction Token.ofText t with
  | case1 => exact Nat.le_refl _
  | case2 => exact Nat.le_refl _
  | case3 => exact Nat.le_refl _
  | case4 d rest ih => simp only [List.length_cons]; omega
  | case5 c d rest _ ih => simpa using ih

/-! ### Reading -/

/-- The alternatives of literal texts. -/
def Node.ofTexts : List Text → Node
  | [] => .empty
  | [t] => Node.ofList (t.map literalNode)
  | t :: rest => .either (Node.ofList (t.map literalNode)) (ofTexts rest)

theorem fault_ofTexts (texts : List Text) : (Node.ofTexts texts).fault? false = none := by
  fun_induction Node.ofTexts texts with
  | case1 => rfl
  | case2 t => exact fault_literal t
  | case3 t rest _ ih => simp [Node.fault?, fault_literal t, ih]

namespace Reading

/-- A code point that is no letter and no digit stands for itself behind a backslash. -/
theorem escape_point (r : Reading) {c : CodePoint} (hl : c.isAsciiLetter = false) (hd : c.isDigit = false) :
    r.escape c = .ok (.point c, r) := by
  obtain ⟨hanchor, hcategory, hcontrol, -, -, -, hcommon⟩ := escape_itself hl hd
  simp only [escape, hanchor, hcategory, hcontrol, hd, hcommon, bind, Except.bind]
  rfl

variable (r : Reading) (fuel depth : Nat) (whole : Bool) (nodes : List Node)

theorem items_escapedToken {c : CodePoint} {tokens : List Token} (hr : r.rest = escapedToken c :: tokens)
    (hd : Token.dangling ∉ tokens) : ∃ q, items (fuel + 1) false depth whole nodes r =
      items fuel false depth whole (literalNode c :: nodes) { r with rest := tokens, place := q } := by
  simp only [escapedToken, List.contains_iff_mem] at hr
  split_ifs at hr with hc
  · have hall : reserved.all (fun c => !c.isAsciiLetter && !c.isDigit) = true := by decide
    obtain ⟨hl, hdigit⟩ : c.isAsciiLetter = false ∧ c.isDigit = false := by
      simpa using List.all_eq_true.mp hall c hc
    refine ⟨r.place + 2, ?_⟩
    rw [items, hr]
    simp only [advance_cons hr hd, bind, Except.bind, escape_point _ hl hdigit]
    rfl
  · have hne : ∀ d ∈ reserved, c ≠ d := fun d hd h => hc (h ▸ hd)
    have hstop : c ≠ '|' ∧ c ≠ ')' := ⟨hne _ (by decide), hne _ (by decide)⟩
    have hopen : c ≠ '[' ∧ c ≠ '(' := ⟨hne _ (by decide), hne _ (by decide)⟩
    have hplace : c ≠ '.' ∧ c ≠ '^' ∧ c ≠ '$' := ⟨hne _ (by decide), hne _ (by decide), hne _ (by decide)⟩
    have hrepeat : c ≠ '*' ∧ c ≠ '+' ∧ c ≠ '?' ∧ c ≠ '\x7b' :=
      ⟨hne _ (by decide), hne _ (by decide), hne _ (by decide), hne _ (by decide)⟩
    refine ⟨r.place + 1, ?_⟩
    rw [items, hr]
    simp only [advance_cons hr hd, hstop, hopen, hplace, hrepeat, bind, Except.bind, if_false, Bool.false_eq_true,
      decide_false, Bool.false_and]
    rfl

/-- An escaped text is read as the nodes of its code points. -/
theorem items_escaped (t : Text) (tokens : List Token) (hr : r.rest = t.map escapedToken ++ tokens)
    (hd : Token.dangling ∉ tokens) : ∃ q, items (fuel + t.length) false depth whole nodes r =
      items fuel false depth whole ((t.map literalNode).reverse ++ nodes) { r with rest := tokens, place := q } := by
  induction t generalizing r nodes with
  | nil => exact ⟨r.place, by rw [← show r.rest = tokens from hr]; rfl⟩
  | cons c t ih =>
    have hdt : Token.dangling ∉ t.map escapedToken ++ tokens := by simp [dangling_notMem_escaped t, hd]
    rw [List.map_cons, List.cons_append] at hr
    obtain ⟨q, hq⟩ := items_escapedToken r (fuel + t.length) depth whole nodes hr hdt
    obtain ⟨q', hq'⟩ := ih { r with rest := t.map escapedToken ++ tokens, place := q } (literalNode c :: nodes) rfl
    refine ⟨q', ?_⟩
    rw [List.length_cons, ← Nat.add_assoc, hq, hq']
    simp

/-- Behind a bar the next alternative is read. -/
theorem choice_plainBar {r s : Reading} {first : Node} {tokens : List Token}
    (h : items fuel false depth whole [] r = .ok (first, s)) (hs : s.rest = .plain '|' :: tokens)
    (hd : Token.dangling ∉ tokens) (hv : s.mode.verbose = false) :
    choice (fuel + 1) false depth whole r =
      (choice fuel false depth false { s with rest := tokens, place := s.place + 1 } >>=
        fun (second, s) => .ok (.either first second, s)) := by
  have hbar : s.isNext '|' = true := by simp [isNext, hs]
  rw [choice, h]
  simp only [bind, Except.bind, hbar, if_true, advance_cons hs hd, hv, ite_self]
  rfl

/-- Escaped texts between bars are read as alternatives. -/
theorem choice_alternatives {texts : List Text} (hr : r.rest = alternativeTokens texts) (hv : r.mode.verbose = false) :
    ∃ q, choice (fuel + 2 + (alternativeTokens texts).length) false depth whole r =
      .ok (Node.ofTexts texts, { r with rest := [], place := q }) := by
  fun_induction alternativeTokens texts generalizing r fuel whole with
  | case1 =>
    refine ⟨r.place, choice_single _ _ _ ?_ rfl⟩
    rw [items, hr]
    simp only [← hr]
    rfl
  | case2 t =>
    obtain ⟨q, hq⟩ := items_escaped r (fuel + 1) depth whole [] t [] (by simpa using hr) (by simp)
    refine ⟨q, ?_⟩
    rw [List.length_map, show fuel + 2 + t.length = fuel + 1 + t.length + 1 by omega]
    refine choice_single _ _ _ ?_ rfl
    rw [hq, items]
    simp [Node.ofTexts]
  | case3 t rest hne ih =>
    have hd : Token.dangling ∉ alternativeTokens rest := dangling_notMem_alternatives rest
    obtain ⟨q, hq⟩ := items_escaped r (fuel + 2 + (alternativeTokens rest).length) depth whole [] t
      (.plain '|' :: alternativeTokens rest) hr (by simp [hd])
    obtain ⟨q', hrest⟩ := ih { r with rest := alternativeTokens rest, place := q + 1 } (fuel + t.length) false rfl hv
    have hfirst : items (fuel + t.length + 2 + (alternativeTokens rest).length) false depth whole [] r =
        .ok (Node.ofList (t.map literalNode), { r with rest := .plain '|' :: alternativeTokens rest, place := q }) := by
      rw [show fuel + t.length + 2 + (alternativeTokens rest).length =
        fuel + 2 + (alternativeTokens rest).length + t.length by omega, hq, Nat.add_right_comm, items]
      simp
    refine ⟨q', ?_⟩
    rw [show fuel + 2 + (t.map escapedToken ++ .plain '|' :: alternativeTokens rest).length =
        fuel + t.length + 2 + (alternativeTokens rest).length + 1 by simp; omega,
      choice_plainBar _ _ _ hfirst rfl hd hv, hrest, Node.ofTexts.eq_3 _ _ hne]
    rfl

end Reading

/-- The escaped texts with bars between them are parsed as alternatives. -/
theorem parse_escaped (texts : List Text) {mode : Mode} (hv : mode.verbose = false)
    (hclash : (mode.ascii && mode.unicode) = false) (htemplate : mode.template = false) :
    parse (Text.join "|" (texts.map escaped)) mode = .ok { node := Node.ofTexts texts, groups := 0, mode } := by
  have htokens := ofText_alternatives texts
  have hlength := length_ofText_le (Text.join "|" (texts.map escaped))
  rw [htokens] at hlength
  generalize Text.join "|" (texts.map escaped) = pattern at htokens hlength ⊢
  obtain ⟨fuel, hfuel⟩ : ∃ fuel, 3 * pattern.length + 3 = fuel + 2 + (alternativeTokens texts).length :=
    ⟨3 * pattern.length + 1 - (alternativeTokens texts).length, by omega⟩
  have hstart : Reading.start pattern mode =
      .ok { rest := alternativeTokens texts, place := 0, length := pattern.length, mode } := by
    have hd := dangling_notMem_alternatives texts
    unfold Reading.start
    rw [htokens]
    split
    · next h => exact absurd (by rw [h]; simp) hd
    · rfl
  obtain ⟨q, hchoice⟩ := Reading.choice_alternatives
    { rest := alternativeTokens texts, place := 0, length := pattern.length, mode } fuel 0 true rfl hv
  simp only [parse, hstart, bind, Except.bind, hv, hfuel, hchoice]
  simp [hclash, htemplate, fault_ofTexts]

/-! ### Matching -/

/-- The second alternative counts where the first one fails. -/
theorem matchAt_either (first second : Node) (groups : Nat) (mode : Mode) (s : Array CodePoint) (pos : Nat) :
    Parsed.matchAt? { node := .either first second, groups, mode } s pos =
      (Parsed.matchAt? { node := first, groups, mode } s pos).or
        (Parsed.matchAt? { node := second, groups, mode } s pos) := by
  simp only [Parsed.matchAt?, Node.run]
  split
  · next h => simp [h]
  · next h => simp [h]

/-- Of alternatives that begin at a place the first one is found there. -/
theorem matchAt_ofTexts (mode : Mode) (hm : mode.ignoreCase = false) {texts : List Text} (hne : texts ≠ [])
    {text before left : Text} (h : text = before ++ left) :
    Parsed.matchAt? { node := Node.ofTexts texts, groups := 0, mode } text.toArray before.length =
      (texts.find? (·.isPrefixOf left)).map fun t => ⟨before.length, before.length + t.length, []⟩ := by
  fun_induction Node.ofTexts texts with
  | case1 => contradiction
  | case2 t =>
    rw [matchAt_literal hm t h]
    by_cases ht : t <+: left <;> simp [ht]
  | case3 t rest hrest ih =>
    rw [matchAt_either, matchAt_literal hm t h, ih hrest]
    by_cases ht : t <+: left <;> simp [ht]

/-! ### Replacing -/

namespace Parsed

theorem le_start_of_matchFrom {pattern : Parsed} {s : Array CodePoint} {count pos : Nat} {found : Match}
    (h : pattern.matchFrom? s count pos = some found) : pos ≤ found.start := by
  have hstart : ∀ {pos found}, pattern.matchAt? s pos = some found → found.start = pos := by
    intro pos found h
    obtain ⟨p, -, rfl⟩ := Option.map_eq_some_iff.mp h
    rfl
  fun_induction matchFrom? pattern s count pos with
  | case1 pos => exact (hstart h).ge
  | case2 count pos found' hat => exact (hstart (hat.trans h)).ge
  | case3 count pos _ ih => exact Nat.le_of_succ_le (ih h)

section

variable {pattern : Parsed} {new : Text → Text} {text before rest : Text} {c : CodePoint} (fuel : Nat)

/-- Nothing is replaced at the end when nothing is matched there. -/
theorem replaceFrom_end (hat : pattern.matchAt? text.toArray text.length = none) :
    pattern.replaceFrom new text.toArray fuel text.length = [] := by
  cases fuel with
  | zero => simp [replaceFrom]
  | succ fuel => simp [replaceFrom, matchFrom?, hat]

/-- What is matched where the search begins is replaced. -/
theorem replaceFrom_found (key : Text) {groups : List (Option (Nat × Nat))} (h : text = before ++ (key ++ rest))
    (hat : pattern.matchAt? text.toArray before.length =
      some ⟨before.length, before.length + key.length, groups⟩) :
    pattern.replaceFrom new text.toArray (fuel + 1) before.length =
      new key ++ pattern.replaceFrom new text.toArray fuel (before ++ key).length := by
  have hfrom (count : Nat) : pattern.matchFrom? text.toArray count before.length =
      some ⟨before.length, before.length + key.length, groups⟩ := by
    cases count with
    | zero => exact hat
    | succ count => rw [matchFrom?, hat]
  rw [replaceFrom, hfrom]
  simp [h]

/-- A code point where nothing is matched is kept. -/
theorem replaceFrom_kept (h : text = before ++ c :: rest) (hat : pattern.matchAt? text.toArray before.length = none) :
    pattern.replaceFrom new text.toArray (fuel + 1) before.length =
      c :: pattern.replaceFrom new text.toArray (fuel + 1) (before ++ [c]).length := by
  have hcount : text.toArray.size - before.length = rest.length + 1 := by simp [h]
  have hnext : text.toArray.size - (before ++ [c]).length = rest.length := by simp [h]; omega
  rw [replaceFrom, replaceFrom, hcount, hnext, matchFrom?, hat]
  simp only [List.length_append, List.length_singleton]
  cases hfound : pattern.matchFrom? text.toArray rest.length (before.length + 1) with
  | none => simp [h]
  | some found =>
    obtain ⟨n, hn⟩ := Nat.exists_eq_add_of_le (le_start_of_matchFrom hfound)
    have hskipped : before.length + 1 + n - before.length = n + 1 := by omega
    simp [hn, h, hskipped]

end

end Parsed

end FileSieve.Regex
