import FileSieve.Proofs.Glob.Language
import FileSieve.Proofs.Glob.Separator

/-!
# Texts that are escaped in a glob

In a glob a backslash before each code point that quoting marks should take the meaning of a text away, so that the
glob matches the text and nothing else (`escapedGlob`). Backslashes of the text come in pairs then, while a glob is read
by threes of them: of two pairs three backslashes are one code point, and the fourth one goes with what is behind. So
three backslashes of a text become two (`pieces_three`), a NUL takes the second of two away (`pieces_two_nul`), and
behind one or two of them a code point has lost its own backslash (`pieces_one`, `pieces_two`).

A glob matches one text only when each of its pieces takes one code point of the text and no other, if there are no more
pieces than code points (`covers_only_iff`): with a run or a bracket the parts would be fewer than the code points, and
what a run takes may be left out. So the texts that survive escaping are those with nothing behind their backslashes
that the glob reads in another way (`escaped_matches_iff`).
-/

namespace FileSieve.Glob

open Regex

/-- A text with a backslash before each code point that quoting marks. -/
def escapedGlob (t : Text) : Text :=
  t.flatMap fun c => if specials.contains c then ['\\', c] else [c]

theorem escapedGlob_special {c : CodePoint} (h : c ∈ specials) (t : Text) :
    escapedGlob (c :: t) = ('\\' : CodePoint) :: c :: escapedGlob t := by
  simp [escapedGlob, h]

theorem escapedGlob_plain {c : CodePoint} (h : c ∉ specials) (t : Text) :
    escapedGlob (c :: t) = c :: escapedGlob t := by
  simp [escapedGlob, h]

/-- The backslashes of an escaped text are in pairs. -/
theorem escapedGlob_backslash (t : Text) :
    escapedGlob ('\\' :: t) = ('\\' : CodePoint) :: ('\\' : CodePoint) :: escapedGlob t :=
  escapedGlob_special (by decide) t

/-- An escaped text begins with a special code point only if it is a backslash. -/
theorem head_escapedGlob (t : Text) {d : CodePoint} (hd : d ∈ specials) (hne : d ≠ '\\') :
    (escapedGlob t).head? ≠ some d := by
  cases t with
  | nil => simp [escapedGlob]
  | cons c t =>
    by_cases hc : c ∈ specials
    · rw [escapedGlob_special hc]
      simpa using hne.symm
    · rw [escapedGlob_plain hc]
      simp only [List.head?_cons, ne_eq, Option.some.injEq]
      rintro rfl
      exact hc hd

/-! ### The pieces of an escaped text -/

section

variable {c : CodePoint} (t : Text)

/-- A code point that has lost its backslash to the one before. -/
theorem pieces_bare (hc : c ≠ '\\') : pieces (c :: escapedGlob t) = Piece.ofPoint c :: pieces (escapedGlob t) :=
  pieces_ofPoint hc (fun _ => head_escapedGlob t (by decide) (by decide))
    (fun _ => head_escapedGlob t (by decide) (by decide))

theorem ofPoint_plain (hc : c ∉ specials) : Piece.ofPoint c = .literal c := by
  have hne : ∀ d ∈ specials, c ≠ d := fun d => ne_of_special hc
  simp [Piece.ofPoint, hne '*' (by decide), hne '?' (by decide), hne '[' (by decide), hne '-' (by decide),
    hne ']' (by decide)]

/-- A code point that is no backslash stands for itself. -/
theorem pieces_other (hc : c ≠ '\\') : pieces (escapedGlob (c :: t)) = .literal c :: pieces (escapedGlob t) := by
  by_cases hs : c ∈ specials
  · rw [escapedGlob_special hs, pieces_escaped (.inl hs) hc]
  · rw [escapedGlob_plain hs, pieces_bare t hc, ofPoint_plain hs]

/-- One backslash stands for itself, and the code point behind it is bare. -/
theorem pieces_one (hc : c ≠ '\\') :
    pieces (escapedGlob ('\\' :: c :: t)) = .literal '\\' :: Piece.ofPoint c :: pieces (escapedGlob t) := by
  rw [escapedGlob_backslash]
  by_cases hs : c ∈ specials
  · rw [escapedGlob_special hs, pieces_triple, pieces_bare t hc]
  · rw [escapedGlob_plain hs, pieces_pair (by simpa using hc), pieces_bare t hc]

/-- Of three backslashes two are left. -/
theorem pieces_three : pieces (escapedGlob ('\\' :: '\\' :: '\\' :: t)) =
    .literal '\\' :: .literal '\\' :: pieces (escapedGlob t) := by
  rw [escapedGlob_backslash, escapedGlob_backslash, escapedGlob_backslash, pieces_triple, pieces_triple]

/-- A NUL behind two backslashes takes the second one away. -/
theorem pieces_two_nul (h0 : c.val = 0) :
    pieces (escapedGlob ('\\' :: '\\' :: c :: t)) = .literal '\\' :: .literal c :: pieces (escapedGlob t) := by
  have hs : c ∉ specials := by
    rw [show c = CodePoint.ofNat 0 from Fin.ext h0]
    decide
  rw [escapedGlob_backslash, escapedGlob_backslash, escapedGlob_plain hs, pieces_triple,
    pieces_escaped (.inr h0) fun hc => hs (hc ▸ by decide)]

/-- Two backslashes stand for themselves, and any other code point behind them is bare. -/
theorem pieces_two (hc : c ≠ '\\') (h0 : c.val ≠ 0) : pieces (escapedGlob ('\\' :: '\\' :: c :: t)) =
    .literal '\\' :: .literal '\\' :: Piece.ofPoint c :: pieces (escapedGlob t) := by
  rw [escapedGlob_backslash, escapedGlob_backslash, pieces_triple, ← pieces_bare t hc]
  by_cases hs : c ∈ specials
  · rw [escapedGlob_special hs, pieces_pair (by simpa using hc)]
  · rw [escapedGlob_plain hs, pieces_kept (by simp [hs, h0])]

end

/-- Induction over a text by its backslashes: one or two come with the code point behind them, three for themselves. -/
@[elab_as_elim]
theorem backslash_induction {motive : Text → Prop} (nil : motive []) (last : motive ['\\'])
    (lastTwo : motive ['\\', '\\']) (other : ∀ (c : CodePoint) t, c ≠ '\\' → motive t → motive (c :: t))
    (one : ∀ (c : CodePoint) t, c ≠ '\\' → motive t → motive ('\\' :: c :: t))
    (two : ∀ (c : CodePoint) t, c ≠ '\\' → motive t → motive ('\\' :: '\\' :: c :: t))
    (three : ∀ t, motive t → motive ('\\' :: '\\' :: '\\' :: t)) (t : Text) : motive t := by
  induction hn : t.length using Nat.strongRecOn generalizing t with
  | ind n ih =>
  subst hn
  have hrec (u : Text) (h : u.length < t.length) : motive u := ih _ h u rfl
  clear ih
  match t with
  | [] => exact nil
  | c :: t =>
    by_cases hc : c = '\\'
    · subst hc
      match t with
      | [] => exact last
      | d :: t =>
        by_cases hd : d = '\\'
        · subst hd
          match t with
          | [] => exact lastTwo
          | e :: t =>
            by_cases he : e = '\\'
            · exact he ▸ three t (hrec t (by simp only [List.length_cons]; omega))
            · exact two e t he (hrec t (by simp only [List.length_cons]; omega))
        · exact one d t hd (hrec t (by simp only [List.length_cons]; omega))
    · exact other c t hc (hrec t (by simp))

/-- No more pieces come of an escaped text than it has code points. -/
theorem length_pieces_escaped (t : Text) : (pieces (escapedGlob t)).length ≤ t.length := by
  induction t using backslash_induction with
  | nil => exact Nat.le_refl _
  | last => exact Nat.le_refl _
  | lastTwo => exact Nat.le_refl _
  | other c t hc ih =>
    rw [pieces_other t hc]
    exact Nat.succ_le_succ ih
  | one c t hc ih =>
    rw [pieces_one t hc]
    exact Nat.add_le_add_right ih 2
  | two c t hc ih =>
    by_cases h0 : c.val = 0
    · rw [pieces_two_nul t h0]
      simp only [List.length_cons]
      omega
    · rw [pieces_two t hc h0]
      exact Nat.add_le_add_right ih 3
  | three t ih =>
    rw [pieces_three]
    simp only [List.length_cons]
    omega

/-! ### Pieces that take one text only -/

/-- Outside of brackets the piece takes the code point and nothing else. -/
def Piece.TakesOnly (separators : Text) (p : Piece) (c : CodePoint) : Prop :=
  ∃ part, p.outside separators = .inl part ∧ ∀ u, part.Takes (mode false) u ↔ u = [c]

/-- Whether a code point that is bare still stands for itself. -/
def Unharmed (separators : Text) (c : CodePoint) : Prop :=
  c ≠ '*' ∧ c ≠ '[' ∧ (c = '?' → ∀ d, d ∈ separators ↔ d ≠ '?') ∧ (c = ']' → c ∉ separators)

variable {separators : Text} {c : CodePoint}

/-- A single part takes one code point only when its test and its guards leave no other one. -/
theorem takes_single_iff {test : CharTest} {guards : Text} :
    (∀ u, Part.Takes (mode false) (.single test guards) u ↔ u = [c]) ↔
      ∀ d, test.holds (mode false) d = true ∧ d ∉ guards ↔ d = c := by
  have htakes (u : Text) : Part.Takes (mode false) (.single test guards) u ↔
      ∃ d, u = [d] ∧ test.holds (mode false) d = true ∧ d ∉ guards := by
    simp only [Part.Takes, guards_iff, isSeparator_iff_mem]
  constructor
  · intro h d
    simpa [htakes] using h [d]
  · intro h u
    simp only [htakes, h]
    simp

theorem takesOnly_of_outside {p : Piece} {part : Part} (h : p.outside separators = .inl part) :
    p.TakesOnly separators c ↔ ∀ u, part.Takes (mode false) u ↔ u = [c] := by
  simp [Piece.TakesOnly, h]

theorem takesOnly_literal : (Piece.literal c).TakesOnly separators c :=
  (takesOnly_of_outside rfl).mpr (takes_single_iff.mpr fun d => by simp [holds_literal (ignoreCase_mode false)])

theorem not_takesOnly_run : ¬Piece.run.TakesOnly separators c := by
  rw [takesOnly_of_outside rfl]
  intro h
  have hnothing : Part.Takes (mode false) (.run (anyTest separators)) [] := by simp [Part.Takes]
  exact absurd ((h []).mp hnothing) (by simp)

theorem takesOnly_one : Piece.one.TakesOnly separators c ↔ ∀ d, d ∈ separators ↔ d ≠ c := by
  rw [takesOnly_of_outside rfl, takes_single_iff]
  simp only [holds_anyTest, isSeparator_iff_mem, List.not_mem_nil, not_false_eq_true, and_true]
  have htwo : ('a' : CodePoint) ≠ 'b' := by decide
  by_cases hs : separators = []
  · subst hs
    refine iff_of_false (fun h => ?_) fun h => ?_
    · exact htwo (((h 'a').mp (by decide)).trans ((h 'b').mp (by decide)).symm)
    · simp only [List.not_mem_nil, false_iff, not_not] at h
      exact htwo ((h 'a').trans (h 'b').symm)
  · simp only [hs, false_implies, and_true]
    exact forall_congr' fun d => not_iff_comm.trans Iff.comm

theorem takesOnly_closing : Piece.closing.TakesOnly separators ']' ↔ (']' : CodePoint) ∉ separators := by
  rw [takesOnly_of_outside rfl, takes_single_iff]
  simp only [holds_literal (ignoreCase_mode false)]
  constructor
  · intro h
    exact ((h ']').mpr rfl).2
  · rintro h d
    exact ⟨And.left, fun hd => ⟨hd, hd ▸ h⟩⟩

/-- A bare code point takes itself only when it has no meaning or its meaning comes to that. -/
theorem takesOnly_ofPoint : (Piece.ofPoint c).TakesOnly separators c ↔ Unharmed separators c := by
  by_cases hstar : c = '*'
  · subst hstar
    exact iff_of_false not_takesOnly_run fun h => h.1 rfl
  by_cases hbracket : c = '['
  · subst hbracket
    refine iff_of_false ?_ fun h => h.2.1 rfl
    rw [show Piece.ofPoint '[' = .opening false from rfl]
    rintro ⟨part, hpart, -⟩
    cases hpart
  by_cases hquestion : c = '?'
  · subst hquestion
    rw [show Piece.ofPoint '?' = .one from rfl, takesOnly_one]
    simp [Unharmed, hstar, hbracket, show ('?' : CodePoint) ≠ ']' by decide]
  by_cases hclosing : c = ']'
  · subst hclosing
    rw [show Piece.ofPoint ']' = .closing from rfl, takesOnly_closing]
    simp [Unharmed, hstar, hbracket, hquestion]
  have hunharmed : Unharmed separators c := by simp [Unharmed, hstar, hbracket, hquestion, hclosing]
  refine iff_of_true ?_ hunharmed
  by_cases hdash : c = '-'
  · subst hdash
    exact (takesOnly_literal : (Piece.literal '-').TakesOnly separators '-')
  · simp [Piece.ofPoint, hstar, hbracket, hquestion, hclosing, hdash, takesOnly_literal]

/-! ### Rows that cover one text only -/

/-- How many code points a row covers at least: one for each part that is no run. -/
def least : List Part → Nat
  | [] => 0
  | .single .. :: row => least row + 1
  | .run _ :: row => least row

variable {bracket : Option (Bool × List Piece)} {ps : List Piece} {row : List Part} {t : Text}

/-- With nothing for its runs a row covers a text that has one code point for each of its other parts. -/
theorem exists_covers_least {m : Mode} (h : Covers m row t) : ∃ u, Covers m row u ∧ u.length = least row := by
  induction h with
  | nil => exact ⟨[], .nil, rfl⟩
  | @cons part row t u ht _ ih =>
    obtain ⟨v, hv, hlength⟩ := ih
    cases part with
    | single test guards =>
      obtain ⟨d, rfl, -⟩ := id ht
      exact ⟨[d] ++ v, .cons ht hv, by simp [least, hlength]⟩
    | run test => exact ⟨[] ++ v, .cons (by simp [Part.Takes]) hv, by simp [least, hlength]⟩

theorem least_cons_le (part : Part) (row : List Part) : least (part :: row) ≤ least row + 1 := by
  cases part <;> simp [least]

/-- A bracket is one part of at least two pieces, so there are as many code points as pieces only without brackets and
runs. -/
theorem least_le (h : parts separators bracket ps = some row) : least row ≤ ps.length := by
  induction ps generalizing bracket row with
  | nil =>
    cases bracket with
    | none =>
      obtain rfl : [] = row := Option.some.inj h
      exact Nat.le_refl _
    | some open? => simp [parts] at h
  | cons p ps ih =>
    rcases parts_cons_cases separators h with ⟨open?, hrest⟩ | ⟨part, row', rfl, hrest, -⟩
    · exact Nat.le_succ_of_le (ih hrest)
    · exact (least_cons_le part row').trans (Nat.succ_le_succ (ih hrest))

/-- Outside of brackets the piece is a part that takes one code point. -/
def Piece.IsSingle (separators : Text) (p : Piece) (part : Part) : Prop :=
  p.outside separators = .inl part ∧ ∃ test guards, part = .single test guards

/-- Pieces of which there are no more than code points are parts that take one code point each. -/
theorem single_of_length_le (h : parts separators none ps = some row) (hlength : ps.length ≤ least row) :
    List.Forall₂ (Piece.IsSingle separators) ps row := by
  induction ps generalizing row with
  | nil =>
    obtain rfl : [] = row := Option.some.inj h
    exact .nil
  | cons p ps ih =>
    rw [parts] at h
    split at h
    · next part hp =>
      obtain ⟨row, hrow, rfl⟩ := Option.map_eq_some_iff.mp h
      cases part with
      | single test guards => exact .cons ⟨hp, test, guards, rfl⟩ (ih hrow (Nat.le_of_succ_le_succ hlength))
      | run test =>
        have hrest : ps.length + 1 ≤ least row := hlength
        exact absurd (hrest.trans (least_le hrow)) (Nat.not_succ_le_self _)
    · next negated hp => exact absurd (hlength.trans (least_le h)) (Nat.not_succ_le_self _)

/-- Parts that take one code point each and cover one text only take its code points only. -/
theorem takesOnly_of_single (h : List.Forall₂ (Piece.IsSingle separators) ps row)
    (honly : ∀ u, Covers (mode false) row u ↔ u = t) : List.Forall₂ (Piece.TakesOnly separators) ps t := by
  induction h generalizing t with
  | nil =>
    obtain rfl : [] = t := (honly []).mp .nil
    exact .nil
  | @cons p part ps row hp _ ih =>
    obtain ⟨houtside, test, guards, rfl⟩ := hp
    obtain ⟨v, w, rfl, hv, hw⟩ := covers_cons_iff.mp ((honly t).mpr rfl)
    obtain ⟨c, rfl, hc⟩ := id hv
    refine .cons ⟨_, houtside, fun u => ?_⟩ (ih fun u => ?_)
    · constructor
      · intro hu
        exact List.append_cancel_right ((honly _).mp (.cons hu hw))
      · rintro rfl
        exact hv
    · constructor
      · intro hu
        exact List.append_cancel_left ((honly _).mp (.cons hv hu))
      · rintro rfl
        exact hw

theorem covers_only_of_takesOnly (h : List.Forall₂ (Piece.TakesOnly separators) ps t) :
    ∃ row, parts separators none ps = some row ∧ ∀ u, Covers (mode false) row u ↔ u = t := by
  induction h with
  | nil => exact ⟨[], rfl, fun _ => covers_nil_iff⟩
  | @cons p c ps t hp _ ih =>
    obtain ⟨part, houtside, htakes⟩ := hp
    obtain ⟨row, hrow, honly⟩ := ih
    refine ⟨part :: row, by simp [parts, houtside, hrow], fun u => ?_⟩
    simp only [covers_cons_iff, htakes, honly]
    constructor
    · rintro ⟨_, _, rfl, rfl, rfl⟩
      rfl
    · rintro rfl
      exact ⟨[c], t, rfl, rfl, rfl⟩

/-- Pieces of which there are no more than code points cover one text only when each takes its code point only. -/
theorem covers_only_iff (hlength : ps.length ≤ t.length) :
    (∃ row, parts separators none ps = some row ∧ ∀ u, Covers (mode false) row u ↔ u = t) ↔
      List.Forall₂ (Piece.TakesOnly separators) ps t := by
  refine ⟨?_, covers_only_of_takesOnly⟩
  rintro ⟨row, hrow, honly⟩
  obtain ⟨u, hu, hsum⟩ := exists_covers_least ((honly t).mpr rfl)
  obtain rfl := (honly u).mp hu
  exact takesOnly_of_single (single_of_length_le hrow (hlength.trans hsum.le)) honly

/-- A glob matches a text, and this text before a newline, and nothing else when its parts cover the text only. -/
theorem matchesText_only_iff (glob : Text) :
    (∀ s, (compile glob separators false).matchesText s = .ok true ↔ s = t ∨ s = t ++ [('\n' : CodePoint)]) ↔
      ∃ row, partsOf separators glob = some row ∧ ∀ u, Covers (mode false) row u ↔ u = t := by
  simp only [matchesText_compile_iff]
  constructor
  · intro h
    obtain ⟨row, hrow, u, hu, -⟩ := (h t).mpr (.inl rfl)
    have honly {v : Text} (hv : Covers (mode false) row v) : v = t := by
      refine ((h v).mp ⟨row, hrow, v, hv, .inl rfl⟩).resolve_right fun hlonger => ?_
      have hnext := (h (v ++ [('\n' : CodePoint)])).mp ⟨row, hrow, v, hv, .inr rfl⟩
      rcases hnext with hnext | hnext <;> simp [hlonger] at hnext
    exact ⟨row, hrow, fun v => ⟨honly, fun hv => hv ▸ honly hu ▸ hu⟩⟩
  · rintro ⟨row, hrow, honly⟩ s
    constructor
    · rintro ⟨row', hrow', u, hu, hs⟩
      obtain rfl : row = row' := Option.some.inj (hrow.symm.trans hrow')
      exact (honly u).mp hu ▸ hs
    · exact fun hs => ⟨row, hrow, t, (honly t).mpr rfl, hs⟩

/-! ### Texts that survive escaping -/

/-- What does not stand behind the backslashes of a text. -/
@[mk_iff]
structure Survives (separators t : Text) : Prop where
  /-- Three backslashes would become two. -/
  backslashes : ¬(['\\', '\\', '\\'] : Text) <:+: t
  /-- Of two backslashes the second one would be gone. -/
  nul : ¬(['\\', '\\', '\x00'] : Text) <:+: t
  /-- Other code points would be bare. -/
  bare : ∀ c : CodePoint, ([('\\' : CodePoint), c] : Text) <:+: t → Unharmed separators c

theorem Survives.tail (h : Survives separators (c :: t)) : Survives separators t where
  backslashes hin := h.backslashes (hin.trans (List.suffix_cons c t).isInfix)
  nul hin := h.nul (hin.trans (List.suffix_cons c t).isInfix)
  bare d hin := h.bare d (hin.trans (List.suffix_cons c t).isInfix)

theorem survives_other (hc : c ≠ '\\') : Survives separators (c :: t) ↔ Survives separators t := by
  simp [survives_iff, List.infix_cons_iff, hc.symm]

theorem survives_one (hc : c ≠ '\\') :
    Survives separators ('\\' :: c :: t) ↔ Unharmed separators c ∧ Survives separators t := by
  constructor
  · exact fun h => ⟨h.bare c ⟨[], t, rfl⟩, h.tail.tail⟩
  · rintro ⟨hbare, h⟩
    rw [← survives_other hc] at h
    refine ⟨?_, ?_, ?_⟩
    · simpa [List.infix_cons_iff, hc.symm] using h.backslashes
    · simpa [List.infix_cons_iff, hc.symm] using h.nul
    · simpa [List.infix_cons_iff, hc.symm, hbare] using h.bare

theorem unharmed_backslash : Unharmed separators '\\' := by
  refine ⟨by decide, by decide, fun h => absurd h (by decide), fun h => absurd h (by decide)⟩

theorem survives_two (hc : c ≠ '\\') : Survives separators ('\\' :: '\\' :: c :: t) ↔
    c.val ≠ 0 ∧ Survives separators ('\\' :: c :: t) := by
  have hnul : ('\x00' : CodePoint) = c ↔ c.val = 0 := by
    rw [eq_comm, Fin.ext_iff]
    rfl
  constructor
  · exact fun h => ⟨fun h0 => h.nul ⟨[], t, by rw [hnul.mpr h0]; rfl⟩, h.tail⟩
  · rintro ⟨h0, h⟩
    refine ⟨?_, ?_, ?_⟩
    · simpa [List.infix_cons_iff, hc.symm] using h.backslashes
    · simpa [List.infix_cons_iff, hc.symm, hnul, h0] using h.nul
    · simpa [List.infix_cons_iff, hc.symm, unharmed_backslash] using h.bare

theorem not_survives_three : ¬Survives separators ('\\' :: '\\' :: '\\' :: t) :=
  fun h => h.backslashes ⟨[], t, rfl⟩

/-- The pieces of an escaped text take its code points only when it survives escaping. -/
theorem takesOnly_escaped_iff (t : Text) :
    List.Forall₂ (Piece.TakesOnly separators) (pieces (escapedGlob t)) t ↔ Survives separators t := by
  induction t using backslash_induction with
  | nil =>
    have hpieces : pieces (escapedGlob []) = [] := rfl
    simp [hpieces, survives_iff]
  | last =>
    have hpieces : pieces (escapedGlob ['\\']) = [.literal '\\'] := by decide
    simp [hpieces, survives_iff, takesOnly_literal, List.infix_cons_iff]
  | lastTwo =>
    have hpieces : pieces (escapedGlob ['\\', '\\']) = [.literal '\\', .literal '\\'] := by decide
    simp [hpieces, survives_iff, takesOnly_literal, List.infix_cons_iff, unharmed_backslash]
  | other c t hc ih =>
    rw [pieces_other t hc, List.forall₂_cons, survives_other hc, ih]
    exact and_iff_right takesOnly_literal
  | one c t hc ih =>
    rw [pieces_one t hc, List.forall₂_cons, List.forall₂_cons, survives_one hc, ih, takesOnly_ofPoint]
    exact and_iff_right takesOnly_literal
  | two c t hc ih =>
    rw [survives_two hc, survives_one hc]
    by_cases h0 : c.val = 0
    · refine iff_of_false (fun h => ?_) fun h => h.1 h0
      have hlength := h.length_eq
      have hle := length_pieces_escaped t
      rw [pieces_two_nul t h0] at hlength
      simp only [List.length_cons] at hlength
      omega
    · rw [pieces_two t hc h0, List.forall₂_cons, List.forall₂_cons, List.forall₂_cons, ih, takesOnly_ofPoint]
      simp [takesOnly_literal, h0]
  | three t ih =>
    refine iff_of_false (fun h => ?_) not_survives_three
    have hlength := h.length_eq
    have hle := length_pieces_escaped t
    rw [pieces_three] at hlength
    simp only [List.length_cons] at hlength
    omega

/-- The glob of an escaped text matches that text and no other exactly when no code points stand behind its backslashes
that the glob reads together with them. -/
theorem escaped_matches_iff (t separators : Text) :
    (∀ s, (compile (escapedGlob t) separators false).matchesText s = .ok true ↔ s = t ∨ s = t ++ [('\n' : CodePoint)]) ↔
      Survives separators t := by
  rw [matchesText_only_iff, partsOf, covers_only_iff (length_pieces_escaped t), takesOnly_escaped_iff]

/-- A star behind a backslash keeps its meaning when both are escaped. -/
theorem escaped_star_matches_other :
    ¬((compile (escapedGlob ['\\', '*']) ['/'] false).matchesText ['\\', 'x'] = .ok true ↔
      (['\\', 'x'] : Text) = ['\\', '*'] ∨ (['\\', 'x'] : Text) = ['\\', '*', '\n']) := by
  have hmatch : (compile (escapedGlob ['\\', '*']) ['/'] false).matchesText ['\\', 'x'] = .ok true := by
    decide +kernel
  exact fun h => absurd (h.mp hmatch) (by decide)

end FileSieve.Glob
