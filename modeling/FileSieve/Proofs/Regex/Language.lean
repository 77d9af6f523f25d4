import FileSieve.Regex.Search
import Mathlib.Data.List.TakeWhile

/-!
# What parts of a pattern take

The pattern of a glob is a row of parts between anchors. A part takes one code point that passes a test, and
perhaps is none of some guards, or any run of such code points (`Part.Takes`); a row of parts covers a text that
is cut into pieces which the parts take (`Covers`).

The matcher tries the counts of a run from the largest on and hands each place to what follows. It finds an
answer exactly when the text can be cut as the parts demand: `accepts_parts` says so of a row of parts in front of
anything, `isSome_search_of_start` of a whole pattern between anchors.
-/

namespace FileSieve.Regex

/-! ### Parts -/

/-- A part of a pattern. -/
inductive Part where
  /-- One code point that passes a test and is none of the guards. -/
  | single (test : CharTest) (guards : Text)
  /-- Any number of code points that pass a test. -/
  | run (test : CharTest)
  deriving DecidableEq

/-- What looks back for a code point that must not be there. -/
def guardNode (c : CodePoint) : Node :=
  .lookbehind true (some 1) (.char (.point false c))

/-- The nodes of a part. -/
def Part.nodes : Part → List Node
  | .single test guards => .char test :: guards.map guardNode
  | .run test => [.repeated .greedy 0 none (.char test)]

/-- Whether a part takes a text. -/
def Part.Takes (m : Mode) : Part → Text → Prop
  | .single test guards, t => ∃ c, t = [c] ∧ test.holds m c = true ∧ ∀ g ∈ guards, m.same g c = false
  | .run test, t => ∀ c ∈ t, test.holds m c = true

/-- A text that is cut into pieces which parts take in their order. -/
inductive Covers (m : Mode) : List Part → Text → Prop where
  /-- No parts cover the empty text. -/
  | nil : Covers m [] []
  /-- The first part takes the first piece. -/
  | cons {part : Part} {parts : List Part} {t u : Text} :
      part.Takes m t → Covers m parts u → Covers m (part :: parts) (t ++ u)

theorem covers_nil_iff {m : Mode} {t : Text} : Covers m [] t ↔ t = [] := by
  constructor
  · intro h
    cases h
    rfl
  · rintro rfl
    exact .nil

theorem covers_cons_iff {m : Mode} {part : Part} {parts : List Part} {t : Text} :
    Covers m (part :: parts) t ↔ ∃ u v, t = u ++ v ∧ part.Takes m u ∧ Covers m parts v := by
  constructor
  · intro h
    cases h with
    | cons hu hv => exact ⟨_, _, rfl, hu, hv⟩
  · rintro ⟨u, v, rfl, hu, hv⟩
    exact .cons hu hv

theorem covers_append_iff {m : Mode} {row row' : List Part} {t : Text} :
    Covers m (row ++ row') t ↔ ∃ a b, t = a ++ b ∧ Covers m row a ∧ Covers m row' b := by
  induction row generalizing t with
  | nil =>
    simp only [List.nil_append, covers_nil_iff]
    constructor
    · exact fun h => ⟨[], t, rfl, rfl, h⟩
    · rintro ⟨_, b, rfl, rfl, hb⟩
      exact hb
  | cons part row ih =>
    simp only [List.cons_append, covers_cons_iff, ih]
    constructor
    · rintro ⟨u, v, rfl, hu, a, b, rfl, ha, hb⟩
      exact ⟨u ++ a, b, by simp, ⟨u, a, rfl, hu, ha⟩, hb⟩
    · rintro ⟨_, b, rfl, ⟨u, a, rfl, hu, ha⟩, hb⟩
      exact ⟨u, a ++ b, by simp, hu, a, b, rfl, ha, hb⟩

/-! ### Running nodes one after the other -/

/-- Nodes one after the other in front of what follows. -/
def runAll (s : Array CodePoint) (m : Mode) (nodes : List Node) (k : Follow) : Follow :=
  nodes.foldr (fun node k => node.run s m k) k

@[simp] theorem runAll_nil (s : Array CodePoint) (m : Mode) (k : Follow) : runAll s m [] k = k := rfl

@[simp] theorem runAll_cons (s : Array CodePoint) (m : Mode) (node : Node) (nodes : List Node) (k : Follow) :
    runAll s m (node :: nodes) k = node.run s m (runAll s m nodes k) := rfl

theorem runAll_append (s : Array CodePoint) (m : Mode) (xs ys : List Node) (k : Follow) :
    runAll s m (xs ++ ys) k = runAll s m xs (runAll s m ys k) := by
  simp [runAll]

theorem run_ofList (s : Array CodePoint) (m : Mode) (nodes : List Node) (k : Follow) :
    (Node.ofList nodes).run s m k = runAll s m nodes k := by
  fun_induction Node.ofList nodes with
  | case1 => rfl
  | case2 => rfl
  | case3 node rest _ ih =>
    funext p
    simp [Node.run, ih]

/-- What follows finds an answer behind the beginning `before` of the text. -/
def Follow.Accepts (k : Follow) (groups : List Span) (before : Text) : Prop :=
  (k ⟨before.length, groups⟩).isSome = true

theorem accepts_some (groups : List Span) (before : Text) : Follow.Accepts some groups before := rfl

section

variable {m : Mode} {text before left : Text} {groups : List Span} {k : Follow}

theorem accepts_char (test : CharTest) (h : text = before ++ left) :
    Follow.Accepts ((Node.char test).run text.toArray m k) groups before ↔
      ∃ c rest, left = c :: rest ∧ test.holds m c = true ∧ k.Accepts groups (before ++ [c]) := by
  subst h
  cases left with
  | nil => simp [Follow.Accepts, Node.run]
  | cons c rest =>
    by_cases ht : test.holds m c = true
    · simp [Follow.Accepts, Node.run, Place.forward, ht]
    · simp [Follow.Accepts, Node.run, ht]

theorem accepts_guardNode {c : CodePoint} (g : CodePoint) (h : text = before ++ c :: left) :
    Follow.Accepts ((guardNode g).run text.toArray m k) groups (before ++ [c]) ↔
      m.same g c = false ∧ k.Accepts groups (before ++ [c]) := by
  subst h
  by_cases hs : m.same g c = true
  · simp [Follow.Accepts, guardNode, Node.run, CharTest.holds, hs]
  · simp [Follow.Accepts, guardNode, Node.run, CharTest.holds, hs]

theorem accepts_guards {c : CodePoint} (guards : Text) (h : text = before ++ c :: left) :
    Follow.Accepts (runAll text.toArray m (guards.map guardNode) k) groups (before ++ [c]) ↔
      (∀ g ∈ guards, m.same g c = false) ∧ k.Accepts groups (before ++ [c]) := by
  induction guards with
  | nil => simp
  | cons g guards ih =>
    rw [List.map_cons, runAll_cons, accepts_guardNode g h, ih]
    simp [and_assoc]

/-! ### Runs -/

theorem runLength_eq (test : CharTest) (count pos sofar : Nat) :
    runLength text.toArray m test count pos sofar =
      sofar + (((text.drop pos).take count).takeWhile (test.holds m)).length := by
  induction count generalizing pos sofar with
  | zero => simp [runLength]
  | succ count ih =>
    rw [runLength, List.getElem?_toArray]
    cases hc : text[pos]? with
    | none => simp [List.drop_eq_nil_of_le (List.getElem?_eq_none_iff.mp hc)]
    | some c =>
      obtain ⟨hlt, rfl⟩ := List.getElem?_eq_some_iff.mp hc
      rw [List.drop_eq_getElem_cons hlt, List.take_succ_cons]
      by_cases ht : test.holds m text[pos] = true
      · simp [ht, ih]
        omega
      · simp [ht]

theorem isSome_tryDown (p : Place) (least extra : Nat) :
    (tryDown k p least extra).isSome = true ↔ ∃ i ≤ extra, (k (p.forward (least + i))).isSome = true := by
  induction extra with
  | zero => simp [tryDown]
  | succ extra ih =>
    rw [tryDown]
    cases hk : k (p.forward (least + (extra + 1))) with
    | some q => simpa using ⟨extra + 1, Nat.le_refl _, by simp [hk]⟩
    | none =>
      simp only [ih]
      constructor
      · rintro ⟨i, hi, h⟩
        exact ⟨i, by omega, h⟩
      · rintro ⟨i, hi, h⟩
        rcases Nat.lt_or_ge extra i with hlt | hle
        · obtain rfl : i = extra + 1 := by omega
          simp [hk] at h
        · exact ⟨i, hle, h⟩

/-- A run takes any beginning of what is left that passes its test. -/
theorem accepts_run (test : CharTest) (h : text = before ++ left) :
    Follow.Accepts ((Node.repeated .greedy 0 none (.char test)).run text.toArray m k) groups before ↔
      ∃ u v, left = u ++ v ∧ (∀ c ∈ u, test.holds m c = true) ∧ k.Accepts groups (before ++ u) := by
  subst h
  have hlength : runLength (before ++ left).toArray m test ((before ++ left).length - before.length) before.length 0 =
      (left.takeWhile (test.holds m)).length := by
    rw [runLength_eq]
    simp
  have hrun : (Node.repeated .greedy 0 none (.char test)).run (before ++ left).toArray m k ⟨before.length, groups⟩ =
      tryDown k ⟨before.length, groups⟩ 0 (left.takeWhile (test.holds m)).length := by
    rw [← hlength]
    rfl
  rw [Follow.Accepts, hrun, isSome_tryDown]
  constructor
  · rintro ⟨i, hi, hk⟩
    have hbeginning : left.take i <+: left.takeWhile (test.holds m) :=
      List.prefix_of_prefix_length_le (List.take_prefix i left) (List.takeWhile_prefix _) (by simp; omega)
    have hle : i ≤ left.length := Nat.le_trans hi (List.takeWhile_prefix _).length_le
    refine ⟨left.take i, left.drop i, (List.take_append_drop i left).symm, fun c hc => ?_, ?_⟩
    · exact List.mem_takeWhile_imp (hbeginning.subset hc)
    · simpa [Follow.Accepts, Place.forward, hle] using hk
  · rintro ⟨u, v, rfl, hu, hk⟩
    refine ⟨u.length, ?_, by simpa [Follow.Accepts, Place.forward] using hk⟩
    rw [List.takeWhile_append_of_pos hu]
    simp

/-! ### Rows of parts -/

theorem accepts_part (part : Part) (h : text = before ++ left) :
    Follow.Accepts (runAll text.toArray m part.nodes k) groups before ↔
      ∃ u v, left = u ++ v ∧ part.Takes m u ∧ k.Accepts groups (before ++ u) := by
  cases part with
  | single test guards =>
    rw [Part.nodes, runAll_cons, accepts_char test h]
    constructor
    · rintro ⟨c, rest, rfl, ht, hk⟩
      rw [accepts_guards guards h] at hk
      exact ⟨[c], rest, rfl, ⟨c, rfl, ht, hk.1⟩, hk.2⟩
    · rintro ⟨_, rest, rfl, ⟨c, rfl, ht, hg⟩, hk⟩
      exact ⟨c, rest, rfl, ht, (accepts_guards guards h).mpr ⟨hg, hk⟩⟩
  | run test => exact accepts_run test h

/-- A row of parts finds an answer exactly when it covers a beginning of what is left. -/
theorem accepts_parts (parts : List Part) (h : text = before ++ left) :
    Follow.Accepts (runAll text.toArray m (parts.flatMap Part.nodes) k) groups before ↔
      ∃ u v, left = u ++ v ∧ Covers m parts u ∧ k.Accepts groups (before ++ u) := by
  induction parts generalizing before left with
  | nil =>
    simp only [List.flatMap_nil, runAll_nil, covers_nil_iff]
    constructor
    · intro hk
      exact ⟨[], left, rfl, rfl, by simpa using hk⟩
    · rintro ⟨_, _, -, rfl, hk⟩
      simpa using hk
  | cons part parts ih =>
    rw [List.flatMap_cons, runAll_append, accepts_part part h]
    constructor
    · rintro ⟨u, v, rfl, hu, hk⟩
      obtain ⟨u', v', rfl, hu', hk'⟩ := (ih (h.trans (List.append_assoc before u v).symm)).mp hk
      exact ⟨u ++ u', v', by simp, .cons hu hu', by simpa using hk'⟩
    · rintro ⟨_, v', rfl, hc, hk⟩
      obtain ⟨u, u', rfl, hu, hu'⟩ := covers_cons_iff.mp hc
      exact ⟨u, u' ++ v', by simp, hu, (ih (by simp [h])).mpr ⟨u', v', rfl, hu', by simpa using hk⟩⟩

/-! ### Between anchors -/

/-- The nodes of parts between the start and the end of the text. -/
def anchoredNodes (parts : List Part) : List Node :=
  .anchor .lineStart :: (parts.flatMap Part.nodes ++ [.anchor .lineEnd])

/-- The end of the text is before its last newline, too. -/
theorem accepts_lineEnd (hm : m.multiline = false) (h : text = before ++ left) :
    Follow.Accepts ((Node.anchor .lineEnd).run text.toArray m k) groups before ↔
      (left = [] ∨ left = [('\n' : CodePoint)]) ∧ k.Accepts groups before := by
  subst h
  have hend : Anchor.holds (before ++ left).toArray m before.length .lineEnd = true ↔
      left = [] ∨ left = [('\n' : CodePoint)] := by
    rcases left with _ | ⟨c, _ | ⟨d, rest⟩⟩ <;> simp [Anchor.holds, hm]
  by_cases hl : Anchor.holds (before ++ left).toArray m before.length .lineEnd = true
  · simp [Follow.Accepts, Node.run, hl, hend.mp hl]
  · simp [Follow.Accepts, Node.run, hl, mt hend.mpr hl]

theorem accepts_lineStart (hm : m.multiline = false) :
    Follow.Accepts ((Node.anchor .lineStart).run text.toArray m k) groups before ↔
      before = [] ∧ k.Accepts groups before := by
  cases before with
  | nil => simp [Follow.Accepts, Node.run, Anchor.holds]
  | cons c before => simp [Follow.Accepts, Node.run, Anchor.holds, hm]

/-- Parts between anchors match a text from its start when they cover it, up to a last newline. -/
theorem accepts_anchored (parts : List Part) (hm : m.multiline = false) (hk : ∀ t, k.Accepts groups t)
    (h : text = before ++ left) :
    Follow.Accepts (runAll text.toArray m (anchoredNodes parts) k) groups before ↔
      before = [] ∧ ∃ u, Covers m parts u ∧ (left = u ∨ left = u ++ [('\n' : CodePoint)]) := by
  rw [anchoredNodes, runAll_cons, accepts_lineStart hm, runAll_append, accepts_parts parts h]
  refine and_congr_right fun _ => ⟨?_, ?_⟩
  · rintro ⟨u, v, rfl, hu, hend⟩
    rw [runAll_cons, runAll_nil, accepts_lineEnd hm (h.trans (List.append_assoc before u v).symm)] at hend
    rcases hend.1 with rfl | rfl
    · exact ⟨u, hu, .inl (by simp)⟩
    · exact ⟨u, hu, .inr rfl⟩
  · rintro ⟨u, hu, rfl | rfl⟩
    · refine ⟨left, [], by simp, hu, ?_⟩
      rw [runAll_cons, runAll_nil]
      exact (accepts_lineEnd hm (show text = (before ++ left) ++ [] by simp [h])).mpr ⟨.inl rfl, hk _⟩
    · refine ⟨u, _, rfl, hu, ?_⟩
      rw [runAll_cons, runAll_nil, accepts_lineEnd hm (h.trans (List.append_assoc _ _ _).symm)]
      exact ⟨.inr rfl, hk _⟩

/-! ### Alternatives -/

/-- Rows of parts as alternatives, each between anchors in a group of its own; the first group has the number
`index`. -/
def alternativesNode : (index : Nat) → List Part → List (List Part) → Node
  | index, parts, [] => .group index (Node.ofList (anchoredNodes parts))
  | index, parts, next :: rest =>
    .either (.group index (Node.ofList (anchoredNodes parts))) (alternativesNode (index + 1) next rest)

theorem accepts_either {a b : Node} {s : Array CodePoint} :
    Follow.Accepts ((Node.either a b).run s m k) groups before ↔
      Follow.Accepts (a.run s m k) groups before ∨ Follow.Accepts (b.run s m k) groups before := by
  simp only [Follow.Accepts, Node.run]
  cases a.run s m k ⟨before.length, groups⟩ <;> simp

theorem accepts_group (index : Nat) (parts : List Part) (hm : m.multiline = false)
    (hk : ∀ groups t, k.Accepts groups t) (h : text = before ++ left) :
    Follow.Accepts ((Node.group index (Node.ofList (anchoredNodes parts))).run text.toArray m k) groups before ↔
      before = [] ∧ ∃ u, Covers m parts u ∧ (left = u ∨ left = u ++ [('\n' : CodePoint)]) := by
  have hgroup : Follow.Accepts ((Node.group index (Node.ofList (anchoredNodes parts))).run text.toArray m k) groups
      before ↔ Follow.Accepts (runAll text.toArray m (anchoredNodes parts) fun q => k (q.leave index))
        (Place.enter ⟨before.length, groups⟩ index).groups before := by
    simp only [Follow.Accepts, Node.run, run_ofList]
    rfl
  rw [hgroup]
  exact accepts_anchored parts hm (fun t => hk _ t) h

/-- Alternatives match when one of them does. -/
theorem accepts_alternatives (index : Nat) (parts : List Part) (rest : List (List Part)) (hm : m.multiline = false)
    (hk : ∀ groups t, k.Accepts groups t) (h : text = before ++ left) :
    Follow.Accepts ((alternativesNode index parts rest).run text.toArray m k) groups before ↔
      before = [] ∧ ∃ row ∈ parts :: rest, ∃ u, Covers m row u ∧ (left = u ∨ left = u ++ [('\n' : CodePoint)]) := by
  induction rest generalizing index parts with
  | nil => simp [alternativesNode, accepts_group index parts hm hk h]
  | cons next rest ih =>
    rw [alternativesNode, accepts_either, accepts_group index parts hm hk h, ih]
    simp [and_or_left]

end

/-! ### Searching -/

theorem isSome_matchFrom (pattern : Parsed) (s : Array CodePoint) (count pos : Nat) :
    (pattern.matchFrom? s count pos).isSome = true ↔ ∃ i ≤ count, (pattern.matchAt? s (pos + i)).isSome = true := by
  induction count generalizing pos with
  | zero => simp [Parsed.matchFrom?]
  | succ count ih =>
    rw [Parsed.matchFrom?]
    cases hp : pattern.matchAt? s pos with
    | some found => simpa using ⟨0, by omega, by simp [hp]⟩
    | none =>
      simp only [ih]
      constructor
      · rintro ⟨i, hi, h⟩
        exact ⟨i + 1, by omega, by rwa [show pos + (i + 1) = pos + 1 + i by omega]⟩
      · rintro ⟨i, hi, h⟩
        cases i with
        | zero => simp [hp] at h
        | succ i => exact ⟨i, by omega, by rwa [show pos + 1 + i = pos + (i + 1) by omega]⟩

/-- A search succeeds when the tree matches from some place of the text. -/
theorem isSome_search (pattern : Parsed) (text : Text) :
    (pattern.search? text 0).isSome = true ↔ ∃ before left, text = before ++ left ∧
      Follow.Accepts (pattern.node.run text.toArray pattern.mode some) (List.replicate pattern.groups {}) before := by
  simp only [Parsed.search?, List.size_toArray, Nat.not_lt_zero, if_false, isSome_matchFrom, Parsed.matchAt?,
    Option.isSome_map, Follow.Accepts]
  constructor
  · rintro ⟨i, hi, h⟩
    refine ⟨text.take i, text.drop i, (List.take_append_drop i text).symm, ?_⟩
    simpa [Nat.min_eq_left (show i ≤ text.length by simpa using hi)] using h
  · rintro ⟨before, left, rfl, h⟩
    exact ⟨before.length, by simp, by simpa using h⟩

/-- A tree that matches from the start of the text or not at all is searched for by a match there. -/
theorem isSome_search_of_start {pattern : Parsed} {text : Text} {P : Text → Prop}
    (h : ∀ {before left}, text = before ++ left → (Follow.Accepts (pattern.node.run text.toArray pattern.mode some)
      (List.replicate pattern.groups {}) before ↔ before = [] ∧ P left)) :
    (pattern.search? text 0).isSome = true ↔ P text := by
  rw [isSome_search]
  constructor
  · rintro ⟨before, left, hs, haccepts⟩
    obtain ⟨rfl, hleft⟩ := (h hs).mp haccepts
    obtain rfl : text = left := hs
    exact hleft
  · intro htext
    exact ⟨[], text, rfl, (h rfl).mpr ⟨rfl, htext⟩⟩

end FileSieve.Regex
