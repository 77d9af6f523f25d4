import FileSieve.Proofs.Regex.Symbol

/-!
# Reading symbols

What the reader does in front of a row of symbols.
-/

namespace FileSieve.Regex.Reading

open Regex.Symbol

/-- The reading before a row of symbols, at a place. -/
def facing (r : Reading) (symbols : List Symbol) (place : Nat) : Reading :=
  { r with rest := tokensOf symbols, place }

/-- What a reader should give: a result before the symbols that are left, or a fault of the syntax. -/
def Gives {α : Type} (r : Reading) (outcome : Except Fault (α × Reading)) : Option (α × List Symbol) → Prop
  | some (a, rest) => ∃ place, outcome = .ok (a, r.facing rest place)
  | none => ∃ cause place, outcome = .error (.malformed cause place)

variable (r : Reading) (xs : List Symbol) (p : Nat)

@[simp] theorem facing_facing (ys : List Symbol) (q : Nat) : (r.facing xs p).facing ys q = r.facing ys q := rfl

@[simp] theorem rest_facing : (r.facing xs p).rest = tokensOf xs := rfl

/-! ### Taking tokens -/

theorem advance_cons {r : Reading} {token : Token} {tokens : List Token} (h : r.rest = token :: tokens)
    (hd : Token.dangling ∉ tokens) :
    r.advance = .ok { r with rest := tokens, place := r.place + token.width } := by
  cases tokens with
  | nil => simp [advance, h]
  | cons t ts =>
    cases t with
    | dangling => simp at hd
    | plain c => simp [advance, h]
    | escaped c => simp [advance, h]

theorem advance_mark (m : Mark) : (r.facing (.mark m :: xs) p).advance = .ok (r.facing xs (p + 1)) :=
  advance_cons (r := r.facing (.mark m :: xs) p) rfl (dangling_notMem xs)

theorem take_mark (m : Mark) :
    (r.facing (.mark m :: xs) p).take = .ok (some (.plain m.point), r.facing xs (p + 1)) := by
  simp [take, advance_mark, tokens, bind, Except.bind, pure, Except.pure]

theorem take_nil : (r.facing [] p).take = .ok (none, r.facing [] p) := rfl

/-- A special code point is next exactly as a mark. -/
theorem isNext_iff {c : CodePoint} (hc : c ∈ specials) :
    (r.facing xs p).isNext c = true ↔ ∃ m ys, xs = .mark m :: ys ∧ m.point = c := by
  cases xs with
  | nil => simp [isNext]
  | cons x ys =>
    cases x with
    | mark m => simp [isNext, tokens]
    | quoted d =>
      by_cases he : isEscaped d
      · simp [isNext, tokens, he]
      · have hd : d ≠ c := ne_of_special (fun h => he (.inr h)) hc
        by_cases h0 : d.val = 0 <;> simp [isNext, tokens, he, h0, hd]

theorem accept_mark (m : Mark) :
    (r.facing (.mark m :: xs) p).accept m.point = .ok (true, r.facing xs (p + 1)) := by
  have h : (r.facing (.mark m :: xs) p).isNext m.point = true := by simp [isNext, tokens]
  simp [accept, h, advance_mark, bind, Except.bind, pure, Except.pure]

theorem accept_other {c : CodePoint} (hc : c ∈ specials) (h : ∀ m ys, xs = .mark m :: ys → m.point ≠ c) :
    (r.facing xs p).accept c = .ok (false, r.facing xs p) := by
  have h' : (r.facing xs p).isNext c = false := by
    rw [Bool.eq_false_iff, Ne, isNext_iff r xs p hc]
    rintro ⟨m, ys, hm, hp⟩
    exact h m ys hm hp
  simp [accept, h']

/-! ### Sets -/

/-- A code point that is no letter and no digit stands for itself behind a backslash. -/
theorem escape_itself {c : CodePoint} (hl : c.isAsciiLetter = false) (hd : c.isDigit = false) :
    anchor? c = none ∧ category? c = none ∧ control? c = none ∧ c.isDigit = false ∧ c.isOctalDigit = false ∧
      c ≠ 'b' ∧ ∀ r : Reading, r.commonEscape c = .ok (c, r) := by
  have hne : ∀ d : CodePoint, d.isAsciiLetter = true → c ≠ d := fun d hd h => by simp [← h, hl] at hd
  have hoctal : c.isOctalDigit = false := by
    simp only [CodePoint.isOctalDigit, CodePoint.isDigit, Bool.and_eq_false_iff, decide_eq_false_iff_not] at hd ⊢
    omega
  refine ⟨?_, ?_, ?_, hd, hoctal, hne _ (by decide), fun r => ?_⟩
  · simp [anchor?, hne 'A' (by decide), hne 'b' (by decide), hne 'B' (by decide), hne 'Z' (by decide)]
  · simp [category?, hne 'd' (by decide), hne 'D' (by decide), hne 's' (by decide), hne 'S' (by decide),
      hne 'w' (by decide), hne 'W' (by decide)]
  · simp [control?, hne 'a' (by decide), hne 'f' (by decide), hne 'n' (by decide), hne 'r' (by decide),
      hne 't' (by decide), hne 'v' (by decide)]
  · simp [commonEscape, hne 'x' (by decide), hne 'u' (by decide), hne 'U' (by decide), hne 'N' (by decide),
      plainEscape, hl]

/-- An escaped special code point is no letter or digit, so it is read as itself. -/
theorem escape_none {c : CodePoint} (h : isEscaped c) :
    anchor? c = none ∧ category? c = none ∧ control? c = none ∧ c.isDigit = false ∧ c.isOctalDigit = false ∧
      c ≠ 'b' ∧ ∀ r : Reading, r.commonEscape c = .ok (c, r) := by
  have hall : (Pattern.delimiter :: specials).all (fun c => !c.isAsciiLetter && !c.isDigit) = true := by decide
  have hc := List.all_eq_true.mp hall c (by simpa [isEscaped] using h)
  simp only [Bool.and_eq_true, Bool.not_eq_true'] at hc
  exact escape_itself hc.1 hc.2

/-- Two zeros behind an escaped one. -/
theorem takeWhile_zeros {r : Reading} {tokens : List Token} (h : r.rest = .plain '0' :: .plain '0' :: tokens)
    (hd : Token.dangling ∉ tokens) :
    r.takeWhile CodePoint.isOctalDigit 2 = .ok (['0', '0'], { r with rest := tokens, place := r.place + 1 + 1 }) := by
  have ho : CodePoint.isOctalDigit '0' = true := by decide
  rw [takeWhile, h]
  simp only [ho, if_true]
  rw [advance_cons h (by simp [hd])]
  simp only [bind, Except.bind, takeWhile, ho, if_true]
  rw [advance_cons rfl hd]
  rfl

/-- An entry of a set is the code point of its symbol. -/
theorem take_setEntry (x : Symbol) : ∃ token r' q,
    (r.facing (x :: xs) p).take = .ok (some token, r') ∧ r'.setEntry token = .ok (.point x.point, r.facing xs q) ∧
      (token = .plain ']' ↔ x = .mark .endBracket) := by
  have hd := dangling_notMem xs
  cases x with
  | mark m =>
    refine ⟨.plain m.point, r.facing xs (p + 1), p + 1, take_mark r xs p m, rfl, ?_⟩
    simp only [Token.plain.injEq, Symbol.mark.injEq]
    exact ⟨fun h => Mark.point_inj h, fun h => h ▸ rfl⟩
  | quoted c =>
    by_cases he : isEscaped c
    · obtain ⟨-, h2, h3, h4, h5, h6, h7⟩ := escape_none he
      have hr : (r.facing (.quoted c :: xs) p).rest = .escaped c :: tokensOf xs := by simp [tokens, he]
      refine ⟨.escaped c, r.facing xs (p + 2), p + 2, ?_, ?_, by simp⟩
      · rw [take, advance_cons hr hd, hr]
        rfl
      · simp [setEntry, setEscape, h2, h3, h4, h5, h6, h7, bind, Except.bind, pure, Except.pure, point]
    by_cases h0 : c.val = 0
    · obtain rfl : c = 0 := Fin.ext h0
      have hr : (r.facing (.quoted 0 :: xs) p).rest = .escaped '0' :: .plain '0' :: .plain '0' :: tokensOf xs := by
        simp [tokens, he]
      have hz := takeWhile_zeros (r := { r with rest := .plain '0' :: .plain '0' :: tokensOf xs, place := p + 2 }) rfl hd
      refine ⟨.escaped '0', { r with rest := .plain '0' :: .plain '0' :: tokensOf xs, place := p + 2 }, p + 4,
        ?_, ?_, by simp⟩
      · rw [take, advance_cons hr (by simp [hd]), hr]
        rfl
      · have h1 : CodePoint.isOctalDigit '0' = true := by decide
        have h2 : category? '0' = none := by decide
        have h3 : control? '0' = none := by decide
        have h4 : ('0' : CodePoint) ≠ 'b' := by decide
        simp only [setEntry, setEscape, h1, h2, h3, h4, hz, if_true, if_false, bind, Except.bind]
        rfl
    · have hr : (r.facing (.quoted c :: xs) p).rest = .plain c :: tokensOf xs := by simp [tokens, he, h0]
      refine ⟨.plain c, r.facing xs (p + 1), p + 1, ?_, rfl, ?_⟩
      · rw [take, advance_cons hr hd, hr]
        rfl
      · have hc : c ≠ ']' := ne_of_special (fun h => he (.inr h)) (by decide)
        simp [hc]

/-- A closing bracket behind an entry ends a set. -/
theorem setItems_end (opening fuel : Nat) {items : List SetItem} (hne : items ≠ []) :
    setItems opening (fuel + 1) items (r.facing (.mark .endBracket :: xs) p) = .ok (items, r.facing xs (p + 1)) := by
  rw [setItems, take_mark]
  simp [bind, Except.bind, pure, Except.pure, hne, Mark.point]

/-- A symbol that does not end a set is an entry, unless a dash follows. -/
theorem setItems_point (opening fuel : Nat) {items : List SetItem} {x : Symbol}
    (hx : ¬(x = .mark .endBracket ∧ items ≠ [])) (hd : ∀ ys, xs ≠ .mark .dash :: ys) :
    ∃ q, setItems opening (fuel + 1) items (r.facing (x :: xs) p) =
      setItems opening fuel (.point x.point :: items) (r.facing xs q) := by
  obtain ⟨token, r', q, ht, he, hb⟩ := take_setEntry r xs p x
  have hstop : (decide (token = .plain ']') && !items.isEmpty) = false := by simpa [hb] using hx
  have hdash : (r.facing xs q).accept '-' = .ok (false, r.facing xs q) :=
    accept_other r xs q (by decide) fun m ys hm hp => hd ys (by rw [hm, show m = .dash from Mark.point_inj hp])
  refine ⟨q, ?_⟩
  rw [setItems, ht]
  simp only [bind, Except.bind, hstop, he, hdash, Bool.false_eq_true, if_false]
  rfl

/-- A dash before the end of a set is an entry itself. -/
theorem setItems_dashEnd (opening fuel : Nat) {items : List SetItem} {x : Symbol}
    (hx : ¬(x = .mark .endBracket ∧ items ≠ [])) :
    ∃ q, setItems opening (fuel + 1) items (r.facing (x :: .mark .dash :: .mark .endBracket :: xs) p) =
      .ok (.point '-' :: .point x.point :: items, r.facing xs q) := by
  obtain ⟨token, r', q, ht, he, hb⟩ := take_setEntry r (.mark .dash :: .mark .endBracket :: xs) p x
  have hstop : (decide (token = .plain ']') && !items.isEmpty) = false := by simpa [hb] using hx
  have hdash : (r.facing (.mark .dash :: .mark .endBracket :: xs) q).accept '-' =
      .ok (true, r.facing (.mark .endBracket :: xs) (q + 1)) := accept_mark r _ q .dash
  refine ⟨q + 1 + 1, ?_⟩
  rw [setItems, ht]
  simp only [bind, Except.bind, hstop, he, hdash, take_mark, Bool.not_true, Bool.false_eq_true, if_false]
  rfl

/-- Two symbols with a dash between them are tried as a range. -/
theorem setItems_pair (opening fuel : Nat) {items : List SetItem} {x y : Symbol}
    (hx : ¬(x = .mark .endBracket ∧ items ≠ [])) (hy : y ≠ .mark .endBracket) :
    ∃ token token' q, setItems opening (fuel + 1) items (r.facing (x :: .mark .dash :: y :: xs) p) =
      ((r.facing xs q).setRange token token' (.point x.point) (.point y.point) >>= fun range =>
        setItems opening fuel (range :: items) (r.facing xs q)) := by
  obtain ⟨token, r', q, ht, he, hb⟩ := take_setEntry r (.mark .dash :: y :: xs) p x
  obtain ⟨token', r'', q', ht', he', hb'⟩ := take_setEntry r xs (q + 1) y
  have hstop : (decide (token = .plain ']') && !items.isEmpty) = false := by simpa [hb] using hx
  have hdash : (r.facing (.mark .dash :: y :: xs) q).accept '-' = .ok (true, r.facing (y :: xs) (q + 1)) :=
    accept_mark r (y :: xs) q .dash
  have hend : token' ≠ .plain ']' := fun h => hy (hb'.mp h)
  refine ⟨token, token', q', ?_⟩
  rw [setItems, ht]
  simp only [bind, Except.bind, hstop, he, hdash, ht', he', hend, Bool.not_true, Bool.false_eq_true, if_false]

/-- Two symbols in order with a dash between them are a range. -/
theorem setItems_range (opening fuel : Nat) {items : List SetItem} {x y : Symbol}
    (hx : ¬(x = .mark .endBracket ∧ items ≠ [])) (hy : y ≠ .mark .endBracket) (hle : x.point ≤ y.point) :
    ∃ q, setItems opening (fuel + 1) items (r.facing (x :: .mark .dash :: y :: xs) p) =
      setItems opening fuel (.range x.point y.point :: items) (r.facing xs q) := by
  obtain ⟨token, token', q, h⟩ := setItems_pair r xs p opening fuel hx hy
  refine ⟨q, ?_⟩
  rw [h, setRange, if_neg (Fin.not_lt.mpr hle)]
  rfl

/-- Two symbols out of order with a dash between them are a fault. -/
theorem setItems_badRange (opening fuel : Nat) {items : List SetItem} {x y : Symbol}
    (hx : ¬(x = .mark .endBracket ∧ items ≠ [])) (hy : y ≠ .mark .endBracket) (hle : ¬x.point ≤ y.point) :
    ∃ cause place, setItems opening (fuel + 1) items (r.facing (x :: .mark .dash :: y :: xs) p) =
      .error (.malformed cause place) := by
  obtain ⟨token, token', q, h⟩ := setItems_pair r xs p opening fuel hx hy
  refine ⟨.badRange token.text token'.text, q - (token.width + 1 + token'.width), ?_⟩
  rw [h, setRange, if_pos (Fin.not_le.mp hle)]
  rfl

/-- A set does not end behind a dash with nothing behind it. -/
theorem setItems_loneDash (opening fuel : Nat) {items : List SetItem} {x : Symbol}
    (hx : ¬(x = .mark .endBracket ∧ items ≠ [])) :
    ∃ cause place, setItems opening (fuel + 1) items (r.facing [x, .mark .dash] p) =
      .error (.malformed cause place) := by
  obtain ⟨token, r', q, ht, he, hb⟩ := take_setEntry r [.mark .dash] p x
  have hstop : (decide (token = .plain ']') && !items.isEmpty) = false := by simpa [hb] using hx
  have hdash : (r.facing [.mark .dash] q).accept '-' = .ok (true, r.facing [] (q + 1)) := accept_mark r [] q .dash
  refine ⟨.unterminatedSet, opening, ?_⟩
  rw [setItems, ht]
  simp only [bind, Except.bind, hstop, he, hdash, take_nil, Bool.not_true, Bool.false_eq_true, if_false]

/-- The entries of a set are those of its symbols. -/
theorem setItems_gives (opening : Nat) (items : List SetItem) (fuel : Nat) (hf : xs.length < fuel) :
    r.Gives (setItems opening fuel items (r.facing xs p)) (entries items xs) := by
  obtain ⟨fuel, rfl⟩ : ∃ n, fuel = n + 1 := ⟨fuel - 1, by omega⟩
  fun_induction entries items xs generalizing fuel p with
  | case1 items =>
    refine ⟨.unterminatedSet, opening, ?_⟩
    rw [setItems, take_nil]
    rfl
  | case2 items x rest hx =>
    obtain ⟨rfl, hne⟩ := hx
    exact ⟨p + 1, setItems_end r rest p opening fuel hne⟩
  | case3 items x hx rest' => exact setItems_dashEnd r rest' p opening fuel hx
  | case4 items x hx y rest' hy hle ih =>
    obtain ⟨q, h⟩ := setItems_range r rest' p opening fuel hx hy hle
    rw [h]
    simp only [List.length_cons] at hf
    obtain ⟨fuel, rfl⟩ : ∃ n, fuel = n + 1 := ⟨fuel - 1, by omega⟩
    exact ih q fuel (by omega)
  | case5 items x hx y rest' hy hle => exact setItems_badRange r rest' p opening fuel hx hy hle
  | case6 items x hx rest' hd ih =>
    simp only [List.length_cons] at hf
    by_cases hdash : ∃ ys, rest' = .mark .dash :: ys
    · -- a dash at the end of the symbols: the set cannot end
      obtain ⟨ys, rfl⟩ := hdash
      obtain rfl : ys = [] := by
        cases ys with
        | nil => rfl
        | cons y ys => exact absurd rfl (hd y ys)
      exact setItems_loneDash r p opening fuel hx
    · obtain ⟨q, h⟩ := setItems_point r rest' p opening fuel hx fun ys hys => hdash ⟨ys, hys⟩
      rw [h]
      obtain ⟨fuel, rfl⟩ : ∃ n, fuel = n + 1 := ⟨fuel - 1, by omega⟩
      exact ih q fuel (by omega)

/-- The test of a set with entries that were read in reverse order. -/
def testOf (negated : Bool) (items : List SetItem) : CharTest :=
  match items.reverse.eraseDups with
  | [.point c] => .point negated c
  | items => .oneOf negated items

/-- The set behind its opening bracket and perhaps a caret. -/
theorem set_of_accept (opening : Nat) {r' : Reading} {negated : Bool}
    (h : r'.accept '^' = .ok (negated, r.facing xs p)) :
    r.Gives (r'.set opening) ((entries [] xs).map fun (items, rest) => (testOf negated items, rest)) := by
  have hf : xs.length < (tokensOf xs).length + 1 := Nat.lt_succ_of_le (length_le_tokensOf xs)
  have hg := setItems_gives r xs p opening [] _ hf
  rw [set, h]
  cases he : entries [] xs with
  | none =>
    rw [he] at hg
    obtain ⟨cause, place, hg⟩ := hg
    refine ⟨cause, place, ?_⟩
    simp only [bind, Except.bind, rest_facing, hg]
  | some found =>
    obtain ⟨items, rest⟩ := found
    rw [he] at hg
    obtain ⟨q, hg⟩ := hg
    refine ⟨q, ?_⟩
    simp only [bind, Except.bind, rest_facing, hg]
    unfold testOf
    rcases items.reverse.eraseDups with _ | ⟨_ | _ | _, _ | _⟩ <;> rfl

/-- A set behind its opening bracket. -/
theorem set_gives (opening : Nat) (h : ∀ ys, xs ≠ .mark .caret :: ys) :
    r.Gives ((r.facing xs p).set opening) ((entries [] xs).map fun (items, rest) => (testOf false items, rest)) :=
  set_of_accept r xs p opening (accept_other r xs p (by decide) fun m ys hm hp =>
    h ys (by rw [hm, show m = .caret from Mark.point_inj hp]))

/-- A set of what it does not have behind its opening bracket. -/
theorem set_gives_negated (opening : Nat) :
    r.Gives ((r.facing (.mark .caret :: xs) p).set opening)
      ((entries [] xs).map fun (items, rest) => (testOf true items, rest)) :=
  set_of_accept r xs (p + 1) opening (accept_mark r xs p .caret)

/-! ### Items -/

variable (fuel depth : Nat) (whole : Bool) (nodes : List Node)

theorem items_nil {verbose : Bool} : items (fuel + 1) verbose depth whole nodes (r.facing [] p) =
    .ok (Node.ofList nodes.reverse, r.facing [] p) := by
  rw [items]
  rfl

/-- A branch ends before a bar or a closing parenthesis. -/
theorem items_stop {m : Mark} (hm : m = .bar ∨ m = .endParen) :
    items (fuel + 1) false depth whole nodes (r.facing (.mark m :: xs) p) =
      .ok (Node.ofList nodes.reverse, r.facing (.mark m :: xs) p) := by
  have h : m.point = '|' ∨ m.point = ')' := by
    rcases hm with rfl | rfl
    · exact .inl rfl
    · exact .inr rfl
  rw [items]
  simp [tokens, h]

theorem items_dot : items (fuel + 1) false depth whole nodes (r.facing (.mark .dot :: xs) p) =
    items fuel false depth whole (.char .any :: nodes) (r.facing xs (p + 1)) := by
  rw [items]
  simp only [rest_facing, tokensOf_cons, tokens, List.cons_append, List.nil_append, advance_mark]
  rfl

theorem items_caret : items (fuel + 1) false depth whole nodes (r.facing (.mark .caret :: xs) p) =
    items fuel false depth whole (.anchor .lineStart :: nodes) (r.facing xs (p + 1)) := by
  rw [items]
  simp only [rest_facing, tokensOf_cons, tokens, List.cons_append, List.nil_append, advance_mark]
  rfl

theorem items_dollar : items (fuel + 1) false depth whole nodes (r.facing (.mark .dollar :: xs) p) =
    items fuel false depth whole (.anchor .lineEnd :: nodes) (r.facing xs (p + 1)) := by
  rw [items]
  simp only [rest_facing, tokensOf_cons, tokens, List.cons_append, List.nil_append, advance_mark]
  rfl

/-- Outside of a set a dash and a closing bracket stand for themselves. -/
theorem items_literal {m : Mark} (hm : m = .dash ∨ m = .endBracket) :
    items (fuel + 1) false depth whole nodes (r.facing (.mark m :: xs) p) =
      items fuel false depth whole (.char (.point false m.point) :: nodes) (r.facing xs (p + 1)) := by
  rw [items]
  simp only [rest_facing, tokensOf_cons, tokens, List.cons_append, List.nil_append, advance_mark]
  rcases hm with rfl | rfl <;> rfl

/-- A code point is repeated by a star behind it. -/
theorem items_star (test : CharTest) (h : ∀ ys, xs ≠ .mark .question :: ys) :
    items (fuel + 1) false depth whole (.char test :: nodes) (r.facing (.mark .star :: xs) p) =
      items fuel false depth whole (.repeated .greedy 0 none (.char test) :: nodes) (r.facing xs (p + 1)) := by
  have hlazy : (r.facing xs (p + 1)).accept '?' = .ok (false, r.facing xs (p + 1)) :=
    accept_other r xs (p + 1) (by decide) fun m ys hm hp =>
      h ys (by rw [hm, show m = .question from Mark.point_inj hp])
  have hpossessive : (r.facing xs (p + 1)).accept '+' = .ok (false, r.facing xs (p + 1)) :=
    accept_other r xs (p + 1) (by decide) fun m ys _ => by cases m <;> decide
  have hgreed : (r.facing xs (p + 1)).greed = .ok (.greedy, r.facing xs (p + 1)) := by
    rw [greed, hlazy]
    simp only [bind, Except.bind, hpossessive]
    rfl
  have hstep : items (fuel + 1) false depth whole (.char test :: nodes) (r.facing (.mark .star :: xs) p) =
      (repeatLast (r.facing xs (p + 1)) p 0 none (.char test :: nodes) >>= fun found =>
        items fuel false depth whole found.1 found.2) := by
    rw [items]
    simp only [rest_facing, tokensOf_cons, tokens, List.cons_append, List.nil_append, advance_mark]
    rfl
  have hrepeat : repeatLast (r.facing xs (p + 1)) p 0 none (.char test :: nodes) =
      .ok (.repeated .greedy 0 none (.char test) :: nodes, r.facing xs (p + 1)) := by
    simp only [repeatLast, hgreed, bind, Except.bind]
    rfl
  rw [hstep, hrepeat]
  rfl

/-- A quoted code point stands for itself unless it is white space that is skipped. -/
theorem items_verbatim {verbose : Bool} {c : CodePoint} (hv : (verbose && c.isAsciiSpace) = false) :
    ∃ q, items (fuel + 1) verbose depth whole nodes (r.facing (.quoted c :: xs) p) =
      items fuel verbose depth whole (.char (.point false c) :: nodes) (r.facing xs q) := by
  have hd := dangling_notMem xs
  by_cases he : isEscaped c
  · obtain ⟨h1, h2, h3, h4, -, -, h7⟩ := escape_none he
    have hr : (r.facing (.quoted c :: xs) p).rest = .escaped c :: tokensOf xs := by simp [tokens, he]
    refine ⟨p + 2, ?_⟩
    rw [items, hr]
    simp only [advance_cons hr hd, bind, Except.bind, escape, h1, h2, h3, h4, h7]
    rfl
  by_cases h0 : c.val = 0
  · obtain rfl : c = 0 := Fin.ext h0
    have hr : (r.facing (.quoted 0 :: xs) p).rest = .escaped '0' :: .plain '0' :: .plain '0' :: tokensOf xs := by
      simp [tokens, he]
    let zeros : Reading := { r with rest := .plain '0' :: .plain '0' :: tokensOf xs, place := p + 2 }
    have hadvance : (r.facing (.quoted 0 :: xs) p).advance = .ok zeros := advance_cons hr (by simp [hd])
    have hescape : zeros.escape '0' = .ok (.point 0, r.facing xs (p + 4)) := by
      have h1 : anchor? '0' = none := by decide
      have h2 : category? '0' = none := by decide
      have h3 : control? '0' = none := by decide
      have h4 : CodePoint.isDigit '0' = true := by decide
      simp only [escape, h1, h2, h3, h4, if_true, digitEscape, bind, Except.bind,
        takeWhile_zeros (r := zeros) rfl hd]
      rfl
    refine ⟨p + 4, ?_⟩
    rw [items, hr]
    simp only [hadvance, hescape, bind, Except.bind]
    rfl
  · have hr : (r.facing (.quoted c :: xs) p).rest = .plain c :: tokensOf xs := by simp [tokens, he, h0]
    have hne : ∀ d ∈ specials, c ≠ d := fun d => ne_of_special fun h => he (.inr h)
    have hstop : c ≠ '|' ∧ c ≠ ')' := ⟨hne _ (by decide), hne _ (by decide)⟩
    have hopen : c ≠ '[' ∧ c ≠ '(' := ⟨hne _ (by decide), hne _ (by decide)⟩
    have hplace : c ≠ '.' ∧ c ≠ '^' ∧ c ≠ '$' := ⟨hne _ (by decide), hne _ (by decide), hne _ (by decide)⟩
    have hrepeat : c ≠ '*' ∧ c ≠ '+' ∧ c ≠ '?' ∧ c ≠ '\x7b' :=
      ⟨hne _ (by decide), hne _ (by decide), hne _ (by decide), hne _ (by decide)⟩
    have hremark : c ≠ '#' := hne _ (by decide)
    refine ⟨p + 1, ?_⟩
    rw [items, hr]
    simp only [advance_cons hr hd, hstop, hopen, hplace, hrepeat, hremark, hv, bind, Except.bind, if_false,
      Bool.false_eq_true, decide_false, Bool.and_false]
    rfl

/-- A quoted code point stands for itself. -/
theorem items_quoted (c : CodePoint) : ∃ q, items (fuel + 1) false depth whole nodes (r.facing (.quoted c :: xs) p) =
    items fuel false depth whole (.char (.point false c) :: nodes) (r.facing xs q) :=
  items_verbatim r xs p fuel depth whole nodes (Bool.false_and _)

/-- No code point that a pattern escapes is white space. -/
theorem not_isEscaped_of_isAsciiSpace {c : CodePoint} (h : c.isAsciiSpace = true) : ¬isEscaped c := by
  have hall : (Pattern.delimiter :: specials).all (fun c => !c.isAsciiSpace) = true := by decide
  intro he
  simpa [h] using List.all_eq_true.mp hall c (by simpa [isEscaped] using he)

/-- White space stands for nothing where it is skipped: a quoted text does not escape it. -/
theorem items_space {c : CodePoint} (hc : c.isAsciiSpace = true) :
    items (fuel + 1) true depth whole nodes (r.facing (.quoted c :: xs) p) =
      items fuel true depth whole nodes (r.facing xs (p + 1)) := by
  have he := not_isEscaped_of_isAsciiSpace hc
  have h0 : c.val ≠ 0 := fun h0 => by
    obtain rfl : c = 0 := Fin.ext h0
    exact absurd hc (by decide)
  have hr : (r.facing (.quoted c :: xs) p).rest = .plain c :: tokensOf xs := by simp [tokens, he, h0]
  have hstop : c ≠ '|' ∧ c ≠ ')' := by
    constructor <;> exact ne_of_special (fun h => he (.inr h)) (by decide)
  rw [items, hr]
  simp only [advance_cons hr (dangling_notMem xs), hstop, hc, bind, Except.bind, if_true, Bool.and_self, decide_false]
  rfl

/-- A bracket is what the set behind it stands for. -/
theorem items_bracketMark : items (fuel + 1) false depth whole nodes (r.facing (.mark .bracket :: xs) p) =
    ((r.facing xs (p + 1)).set p >>= fun found => items fuel false depth whole (.char found.1 :: nodes) found.2) := by
  rw [items]
  simp only [rest_facing, tokensOf_cons, tokens, List.cons_append, List.nil_append, advance_mark]
  rfl

/-- A set is one code point. -/
theorem items_set {test : CharTest} {rest : List Symbol} {q : Nat}
    (h : (r.facing xs (p + 1)).set p = .ok (test, r.facing rest q)) :
    items (fuel + 1) false depth whole nodes (r.facing (.mark .bracket :: xs) p) =
      items fuel false depth whole (.char test :: nodes) (r.facing rest q) := by
  rw [items_bracketMark, h]
  rfl

theorem items_set_error {fault : Fault} (h : (r.facing xs (p + 1)).set p = .error fault) :
    items (fuel + 1) false depth whole nodes (r.facing (.mark .bracket :: xs) p) = .error fault := by
  rw [items_bracketMark, h]
  rfl

/-! ### Groups -/

/-- What looks back for a code point that must not be there. -/
def guard (c : CodePoint) : List Symbol :=
  [.mark .paren, .mark .question, .mark .less, .mark .bang, .quoted c, .mark .endParen]

theorem opening_guard (place : Nat) :
    (r.facing (.mark .question :: .mark .less :: .mark .bang :: xs) p).opening place =
      .ok (.look true true, r.facing xs (p + 1 + 1 + 1)) := by
  rw [opening, show (('?' : Char) : CodePoint) = Mark.question.point from rfl, accept_mark]
  simp only [bind, Except.bind, take_mark]
  rfl

theorem opening_capture (place : Nat) (h : ∀ ys, xs ≠ .mark .question :: ys) :
    (r.facing xs p).opening place = .ok (.capture none, r.facing xs p) := by
  have hq : (r.facing xs p).accept '?' = .ok (false, r.facing xs p) :=
    accept_other r xs p (by decide) fun m ys hm hp => h ys (by rw [hm, show m = .question from Mark.point_inj hp])
  rw [opening, hq]
  rfl

theorem closing_mark (place : Nat) :
    (r.facing (.mark .endParen :: xs) p).closing place = .ok (r.facing xs (p + 1)) := by
  rw [closing, show ((')' : Char) : CodePoint) = Mark.endParen.point from rfl, accept_mark]
  rfl

/-- One branch without a bar behind it is the whole choice. -/
theorem choice_single {verbose : Bool} {r r' : Reading} {node : Node}
    (h : items fuel verbose depth whole [] r = .ok (node, r')) (hbar : r'.isNext '|' = false) :
    choice (fuel + 1) verbose depth whole r = .ok (node, r') := by
  rw [choice, h]
  simp only [bind, Except.bind, hbar]
  rfl

theorem choice_error {r : Reading} {fault : Fault} (h : items fuel false depth whole [] r = .error fault) :
    choice (fuel + 1) false depth whole r = .error fault := by
  rw [choice, h]
  rfl

/-- A branch and what stands behind the bar. -/
theorem choice_bar {r : Reading} {node : Node} {q : Nat} (hv : r.mode.verbose = false)
    {first : Reading} (h : items fuel false depth whole [] first = .ok (node, r.facing (.mark .bar :: xs) q)) :
    choice (fuel + 1) false depth whole first =
      (choice fuel false depth false (r.facing xs (q + 1)) >>= fun (second, s) => .ok (.either node second, s)) := by
  have hbar : (r.facing (.mark .bar :: xs) q).isNext '|' = true := by simp [isNext, tokens, Mark.point]
  have hv' : (r.facing xs (q + 1)).mode.verbose = false := hv
  rw [choice, h]
  simp only [bind, Except.bind, hbar, advance_mark, hv', if_true, ite_self]
  rfl

theorem items_parenMark : items (fuel + 1) false depth whole nodes (r.facing (.mark .paren :: xs) p) =
    (group fuel false depth (whole && nodes.isEmpty) p (r.facing xs (p + 1)) >>= fun found =>
      items fuel found.2.1 depth whole (found.1.toList ++ nodes) found.2.2) := by
  rw [items]
  simp only [rest_facing, tokensOf_cons, tokens, List.cons_append, List.nil_append, advance_mark]
  rfl

/-- A parenthesis is what its group stands for. -/
theorem items_paren {node : Node} {s : Reading}
    (h : group fuel false depth (whole && nodes.isEmpty) p (r.facing xs (p + 1)) = .ok (some node, false, s)) :
    items (fuel + 1) false depth whole nodes (r.facing (.mark .paren :: xs) p) =
      items fuel false depth whole (node :: nodes) s := by
  rw [items_parenMark, h]
  rfl

/-- A group that looks back. -/
theorem group_lookbehind {early negated : Bool} {place : Nat} {r₀ r r' s : Reading} {body : Node}
    (hopen : r₀.opening place = .ok (.look true negated, r)) (hd : depth < maxDepth)
    (hbody : choice fuel false (depth + 1) false { r with behind := r.behind.or (some r.nextGroup) } = .ok (body, r'))
    (hclose : ({ r' with behind := r.behind } : Reading).closing place = .ok s) :
    group (fuel + 1) false depth early place r₀ =
      .ok (some (.lookbehind negated (body.width s.widths).fixed? body), false, s) := by
  rw [group, hopen]
  simp only [bind, Except.bind, Nat.not_le.mpr hd, if_false, hbody, hclose]
  rfl

/-- A group that keeps its text. -/
theorem group_capture {early : Bool} {place : Nat} {r₀ r r' s : Reading} {body : Node}
    (hopen : r₀.opening place = .ok (.capture none, r)) (hd : depth < maxDepth)
    (hbody : choice fuel false (depth + 1) false { r with widths := r.widths ++ [none] } = .ok (body, r'))
    (hclose : r'.closing place = .ok s) :
    group (fuel + 1) false depth early place r₀ =
      .ok (some (.group r.nextGroup body), false, s.closeGroup r.nextGroup body) := by
  rw [group, hopen]
  simp only [bind, Except.bind, Nat.not_le.mpr hd, if_false, openGroup, hbody, hclose]
  rfl

/-- What looks back is read as such. -/
theorem items_guard (hd : depth < maxDepth) (c : CodePoint) :
    ∃ q, items (fuel + 5) false depth whole nodes (r.facing (guard c ++ xs) p) =
      items (fuel + 4) false depth whole (.lookbehind true (some 1) (.char (.point false c)) :: nodes)
        (r.facing xs q) := by
  let inner : Reading := { r with behind := r.behind.or (some r.nextGroup) }
  obtain ⟨q, hq⟩ := items_quoted inner (.mark .endParen :: xs) (p + 4) (fuel + 1) (depth + 1) false [] c
  have hbody : choice (fuel + 3) false (depth + 1) false (inner.facing (.quoted c :: .mark .endParen :: xs) (p + 4)) =
      .ok (.char (.point false c), inner.facing (.mark .endParen :: xs) q) := by
    refine choice_single (fuel + 2) (depth + 1) false ?_ ?_
    · rw [hq, items_stop _ _ _ _ _ _ _ (.inr rfl)]
      rfl
    · rfl
  have hclose : ({ inner.facing (.mark .endParen :: xs) q with behind := r.behind } : Reading).closing p =
      .ok (r.facing xs (q + 1)) := closing_mark r xs q p
  exact ⟨q + 1, items_paren r _ p (fuel + 4) depth whole nodes
    (group_lookbehind (fuel + 3) depth (opening_guard r (.quoted c :: .mark .endParen :: xs) (p + 1) p) hd hbody hclose)⟩

/-- A group that keeps its text is read as such, with a number of its own. -/
theorem items_capture (hd : depth < maxDepth) (h : ∀ ys, xs ≠ .mark .question :: ys) {body : Node} {q : Nat}
    {rest : List Symbol}
    (hbody : choice fuel false (depth + 1) false ({ r with widths := r.widths ++ [none] }.facing xs (p + 1)) =
      .ok (body, { r with widths := r.widths ++ [none] }.facing (.mark .endParen :: rest) q)) :
    ∃ widths, widths.length = r.widths.length + 1 ∧
      items (fuel + 2) false depth whole nodes (r.facing (.mark .paren :: xs) p) =
        items (fuel + 1) false depth whole (.group (r.widths.length + 1) body :: nodes)
          ({ r with widths }.facing rest (q + 1)) := by
  refine ⟨_, ?_, items_paren r xs p (fuel + 1) depth whole nodes
    (group_capture fuel depth (opening_capture r xs (p + 1) p h) hd hbody (closing_mark _ _ _ _))⟩
  simp [facing]

/-- A fault in a group that keeps its text. -/
theorem items_capture_error (hd : depth < maxDepth) (h : ∀ ys, xs ≠ .mark .question :: ys) {fault : Fault}
    (hbody : choice fuel false (depth + 1) false ({ r with widths := r.widths ++ [none] }.facing xs (p + 1)) =
      .error fault) :
    items (fuel + 2) false depth whole nodes (r.facing (.mark .paren :: xs) p) = .error fault := by
  have hgroup : group (fuel + 1) false depth (whole && nodes.isEmpty) p (r.facing xs (p + 1)) = .error fault := by
    rw [group, opening_capture r xs (p + 1) p h]
    simp only [bind, Except.bind, Nat.not_le.mpr hd, if_false, openGroup]
    exact hbody ▸ rfl
  rw [items_parenMark, hgroup]
  rfl

end FileSieve.Regex.Reading
