import FileSieve.Proofs.Regex.Language

/-!
# Which match is found

A node finds the first answer in its own order, and with it the ends of the groups. Where what follows cannot go on at a
code point that a greedy run would take, the run takes all it can and never gives anything back (`answers_greedy`); a
lazy run stops at the first place from which what follows goes on (`answers_lazy`). A pattern that begins with the start
of the text is searched for there alone (`search_lineStart`).
-/

namespace FileSieve.Regex

/-- What follows gives the answer `q` behind the beginning `before` of the text. -/
def Follow.Answers (k : Follow) (groups : List Span) (before : Text) (q : Place) : Prop :=
  k ⟨before.length, groups⟩ = some q

/-- What follows gives no answer unless what is left of the text has a property. -/
def Follow.Needs (k : Follow) (text : Text) (P : Text → Prop) : Prop :=
  ∀ ⦃before left groups q⦄, text = before ++ left → k.Answers groups before q → P left

section

variable {m : Mode} {text before left : Text} {groups : List Span} {k : Follow} {q : Place}

theorem answers_some : Follow.Answers some groups before q ↔ q = ⟨before.length, groups⟩ := by
  rw [Follow.Answers, Option.some.injEq, eq_comm]

theorem answers_char (test : CharTest) (h : text = before ++ left) :
    Follow.Answers ((Node.char test).run text.toArray m k) groups before q ↔
      ∃ c rest, left = c :: rest ∧ test.holds m c = true ∧ k.Answers groups (before ++ [c]) q := by
  subst h
  cases left with
  | nil => simp [Follow.Answers, Node.run]
  | cons c rest =>
    by_cases ht : test.holds m c = true
    · simp [Follow.Answers, Node.run, Place.forward, ht]
    · simp [Follow.Answers, Node.run, ht]

theorem answers_either {a b : Node} {s : Array CodePoint} :
    Follow.Answers ((Node.either a b).run s m k) groups before q ↔
      Follow.Answers (a.run s m k) groups before q ∨
        (∀ q', ¬Follow.Answers (a.run s m k) groups before q') ∧ Follow.Answers (b.run s m k) groups before q := by
  simp only [Follow.Answers, Node.run]
  cases a.run s m k ⟨before.length, groups⟩ <;> simp

/-! ### Groups -/

/-- A group that is entered at one place and left at another holds the text between. -/
theorem leave_enter (index a b : Nat) (groups : List Span) :
    (⟨b, (Place.enter ⟨a, groups⟩ index).groups⟩ : Place).leave index =
      ⟨b, groups.set (index - 1) ⟨some a, some b⟩⟩ := by
  simp only [Place.leave, Place.enter]
  rw [List.modify_modify_eq, List.modify_eq_set]
  rfl

theorem answers_leave (index a : Nat) :
    Follow.Answers (fun p => k (p.leave index)) (Place.enter ⟨a, groups⟩ index).groups before q ↔
      k.Answers (groups.set (index - 1) ⟨some a, some before.length⟩) before q := by
  unfold Follow.Answers
  rw [← leave_enter]

/-- What follows a group needs nothing else for the group before it. -/
theorem needs_leave {P : Text → Prop} (index : Nat) (hk : k.Needs text P) :
    Follow.Needs (fun p => k (p.leave index)) text P :=
  fun _ _ _ _ htext hq => hk htext hq

/-! ### Runs -/

theorem tryDown_of_none {p : Place} {least extra : Nat} (h : ∀ i < extra, k (p.forward (least + i)) = none) :
    tryDown k p least extra = k (p.forward (least + extra)) := by
  induction extra with
  | zero => rfl
  | succ extra ih =>
    rw [tryDown]
    cases hk : k (p.forward (least + (extra + 1))) with
    | some q => rfl
    | none => rw [ih fun i hi => h i (Nat.lt_succ_of_lt hi), h extra (Nat.lt_succ_self extra)]

theorem tryUp_eq_some {p : Place} {least extra : Nat} :
    tryUp k p least extra = some q ↔
      ∃ i ≤ extra, k (p.forward (least + i)) = some q ∧ ∀ j < i, k (p.forward (least + j)) = none := by
  induction extra generalizing least with
  | zero => simp [tryUp]
  | succ extra ih =>
    rw [tryUp]
    cases hk : k (p.forward least) with
    | some q' =>
      constructor
      · rintro ⟨⟩
        exact ⟨0, Nat.zero_le _, hk, fun j hj => absurd hj (Nat.not_lt_zero j)⟩
      · rintro ⟨i, hi, hq, hbefore⟩
        cases i with
        | zero => exact hk.symm.trans hq
        | succ i => exact absurd (hk.symm.trans (hbefore 0 (Nat.succ_pos i))) (Option.some_ne_none q')
    | none =>
      have hshift (i : Nat) : least + 1 + i = least + (i + 1) := by omega
      simp only [ih, hshift]
      constructor
      · rintro ⟨i, hi, hq, hbefore⟩
        refine ⟨i + 1, Nat.succ_le_succ hi, hq, fun j hj => ?_⟩
        cases j with
        | zero => exact hk
        | succ j => exact hbefore j (Nat.lt_of_succ_lt_succ hj)
      · rintro ⟨i, hi, hq, hbefore⟩
        cases i with
        | zero => exact absurd (hk.symm.trans hq) (Option.some_ne_none q).symm
        | succ i => exact ⟨i, Nat.le_of_succ_le_succ hi, hq, fun j hj => hbefore (j + 1) (Nat.succ_lt_succ hj)⟩

/-- How far a run of code points that pass a test goes. -/
theorem runChars_eq (greed : Greed) (test : CharTest) (h : text = before ++ left) :
    (Node.repeated greed 0 none (.char test)).run text.toArray m k ⟨before.length, groups⟩ =
      match greed with
      | .greedy => tryDown k ⟨before.length, groups⟩ 0 (left.takeWhile (test.holds m)).length
      | .lazy => tryUp k ⟨before.length, groups⟩ 0 (left.takeWhile (test.holds m)).length
      | .possessive => k ⟨before.length + (left.takeWhile (test.holds m)).length, groups⟩ := by
  subst h
  have hlength : runLength (before ++ left).toArray m test ((before ++ left).length - before.length) before.length 0 =
      (left.takeWhile (test.holds m)).length := by
    rw [runLength_eq]
    simp
  rw [← hlength]
  cases greed <;> rfl

/-- The first code points of what is left belong to the run exactly up to its length. -/
theorem le_runLength_iff {p : CodePoint → Bool} {u v : Text} :
    u.length ≤ ((u ++ v).takeWhile p).length ↔ ∀ c ∈ u, p c = true := by
  induction u with
  | nil => simp
  | cons c u ih =>
    by_cases hc : p c = true
    · simpa [hc] using ih
    · simp [hc]

theorem forward_append (u : Text) :
    Place.forward ⟨before.length, groups⟩ (0 + u.length) = ⟨(before ++ u).length, groups⟩ := by
  simp [Place.forward]

/-- Where what follows cannot go on at a code point that passes the test, a greedy run gives nothing back. -/
theorem answers_greedy (test : CharTest) (hk : k.Needs text fun left => ∀ c ∈ left.head?, test.holds m c = false)
    (h : text = before ++ left) :
    Follow.Answers ((Node.repeated .greedy 0 none (.char test)).run text.toArray m k) groups before q ↔
      ∃ u v, left = u ++ v ∧ (∀ c ∈ u, test.holds m c = true) ∧ k.Answers groups (before ++ u) q := by
  -- Every place where what follows goes on is the end of the run.
  have hstop {u v : Text} {q' : Place} (huv : left = u ++ v) (hu : ∀ c ∈ u, test.holds m c = true)
      (hq : k.Answers groups (before ++ u) q') : u = left.takeWhile (test.holds m) := by
    have hv := hk (by rw [h, huv, List.append_assoc]) hq
    rw [huv, List.takeWhile_append_of_pos hu]
    cases v with
    | nil => simp
    | cons c v => simp [hv c rfl]
  have hnone (i : Nat) (hi : i < (left.takeWhile (test.holds m)).length) :
      k (Place.forward ⟨before.length, groups⟩ (0 + i)) = none := by
    have hle : i ≤ left.length := (hi.trans_le (List.takeWhile_prefix _).length_le).le
    have hlength : (left.take i).length = i := List.length_take_of_le hle
    rw [Option.eq_none_iff_forall_ne_some]
    intro q' hq'
    have hall : ∀ c ∈ left.take i, test.holds m c = true := by
      rw [← le_runLength_iff, List.take_append_drop, hlength]
      exact hi.le
    have hend := hstop (List.take_append_drop i left).symm hall (by
      rw [Follow.Answers, ← forward_append, hlength]
      exact hq')
    rw [← hend, hlength] at hi
    exact Nat.lt_irrefl i hi
  rw [Follow.Answers, runChars_eq .greedy test h]
  dsimp only
  rw [tryDown_of_none hnone, forward_append]
  constructor
  · intro hq
    exact ⟨_, _, List.takeWhile_append_dropWhile.symm, fun c hc => List.all_eq_true.1 List.all_takeWhile c hc, hq⟩
  · rintro ⟨u, v, huv, hu, hq⟩
    rw [← hstop huv hu hq]
    exact hq

/-- A lazy run stops where what follows goes on for the first time. -/
theorem answers_lazy (test : CharTest) (h : text = before ++ left) :
    Follow.Answers ((Node.repeated .lazy 0 none (.char test)).run text.toArray m k) groups before q ↔
      ∃ u v, left = u ++ v ∧ (∀ c ∈ u, test.holds m c = true) ∧ k.Answers groups (before ++ u) q ∧
        ∀ u' v', left = u' ++ v' → u'.length < u.length → ∀ q', ¬k.Answers groups (before ++ u') q' := by
  have hat {i : Nat} (hi : i ≤ left.length) : Place.forward ⟨before.length, groups⟩ (0 + i) =
      ⟨(before ++ left.take i).length, groups⟩ := by
    rw [← forward_append, List.length_take_of_le hi]
  rw [Follow.Answers, runChars_eq .lazy test h]
  dsimp only
  rw [tryUp_eq_some]
  constructor
  · rintro ⟨i, hi, hq, hbefore⟩
    have hle : i ≤ left.length := hi.trans (List.takeWhile_prefix _).length_le
    refine ⟨left.take i, left.drop i, (List.take_append_drop i left).symm, ?_, ?_, ?_⟩
    · rw [← le_runLength_iff, List.take_append_drop, List.length_take_of_le hle]
      exact hi
    · rw [Follow.Answers, ← hat hle]
      exact hq
    · rintro u' v' rfl hlt q' hq'
      rw [List.length_take_of_le hle] at hlt
      have hnone := hbefore u'.length hlt
      rw [forward_append] at hnone
      exact absurd (hnone.symm.trans hq') (Option.some_ne_none q').symm
  · rintro ⟨u, v, rfl, hu, hq, hbefore⟩
    refine ⟨u.length, le_runLength_iff.2 hu, by rw [forward_append]; exact hq, fun j hj => ?_⟩
    have hle : j ≤ (u ++ v).length := by
      rw [List.length_append]
      omega
    rw [hat hle, Option.eq_none_iff_forall_ne_some]
    exact hbefore _ _ (List.take_append_drop j (u ++ v)).symm (by rw [List.length_take_of_le hle]; exact hj)

/-! ### Anchors -/

theorem answers_lineStart (hm : m.multiline = false) :
    Follow.Answers ((Node.anchor .lineStart).run text.toArray m k) groups before q ↔
      before = [] ∧ k.Answers groups before q := by
  cases before with
  | nil => simp [Follow.Answers, Node.run, Anchor.holds]
  | cons c before => simp [Follow.Answers, Node.run, Anchor.holds, hm]

/-- The end of a text that does not end with a newline. -/
theorem answers_lineEnd (hm : m.multiline = false) (hlast : text.getLast? ≠ some ('\n' : CodePoint))
    (h : text = before ++ left) :
    Follow.Answers ((Node.anchor .lineEnd).run text.toArray m k) groups before q ↔
      left = [] ∧ k.Answers groups before q := by
  subst h
  have hend : Anchor.holds (before ++ left).toArray m before.length .lineEnd = true ↔ left = [] := by
    rcases left with _ | ⟨c, _ | ⟨d, rest⟩⟩
    · simp [Anchor.holds]
    · have hc : c ≠ '\n' := fun hc => hlast (by simp [hc])
      simp [Anchor.holds, hm, hc]
    · simp [Anchor.holds, hm]
  rw [← hend, Follow.Answers, Node.run]
  dsimp only
  by_cases hl : Anchor.holds (before ++ left).toArray m before.length .lineEnd = true
  · rw [if_pos hl]
    exact (and_iff_right hl).symm
  · rw [if_neg hl]
    exact iff_of_false (Option.some_ne_none q).symm fun hq => hl hq.1

end

/-! ### Searching -/

theorem matchAt_lineStart {pattern : Parsed} {node : Node} (hnode : pattern.node = .seq (.anchor .lineStart) node)
    (hm : pattern.mode.multiline = false) (s : Array CodePoint) (pos : Nat) :
    pattern.matchAt? s (pos + 1) = none := by
  simp [Parsed.matchAt?, hnode, Node.run, Anchor.holds, hm]

theorem matchFrom_lineStart {pattern : Parsed} {node : Node} (hnode : pattern.node = .seq (.anchor .lineStart) node)
    (hm : pattern.mode.multiline = false) (s : Array CodePoint) (count pos : Nat) :
    pattern.matchFrom? s count (pos + 1) = none := by
  induction count generalizing pos with
  | zero => exact matchAt_lineStart hnode hm s pos
  | succ count ih =>
    rw [Parsed.matchFrom?, matchAt_lineStart hnode hm s pos]
    exact ih (pos + 1)

/-- A pattern that begins with the start of the text is found there or not at all. -/
theorem search_lineStart {pattern : Parsed} {node : Node} (hnode : pattern.node = .seq (.anchor .lineStart) node)
    (hm : pattern.mode.multiline = false) (text : Text) {found : Match} :
    pattern.search? text 0 = some found ↔ ∃ q,
      Follow.Answers (node.run text.toArray pattern.mode some) (List.replicate pattern.groups {}) [] q ∧
        found = ⟨0, q.pos, q.groups.map Span.ends?⟩ := by
  have hstart : pattern.search? text 0 = pattern.matchAt? text.toArray 0 := by
    simp only [Parsed.search?, Nat.not_lt_zero, if_false]
    cases text.toArray.size - 0 with
    | zero => rfl
    | succ count =>
      rw [Parsed.matchFrom?, matchFrom_lineStart hnode hm]
      cases pattern.matchAt? text.toArray 0 <;> rfl
  rw [hstart, Parsed.matchAt?, hnode, Option.map_eq_some_iff]
  refine exists_congr fun q => and_congr ?_ eq_comm
  have hanchor : Follow.Answers ((Node.anchor .lineStart).run text.toArray pattern.mode
      (node.run text.toArray pattern.mode some)) (List.replicate pattern.groups {}) [] q ↔
        Follow.Answers (node.run text.toArray pattern.mode some) (List.replicate pattern.groups {}) [] q := by
    rw [answers_lineStart hm, and_iff_right rfl]
  exact hanchor

end FileSieve.Regex
