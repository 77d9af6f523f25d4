import FileSieve.Proofs.Glob.Separation
import FileSieve.Proofs.Glob.Stars

/-!
# What a bracket takes

A bracket should take one of the code points in it that is no separator. But wildcards are replaced in a bracket as
they are outside of it. Where there are separators, what takes the place of a star or a question mark has a closing
bracket of its own: the bracket is cut short there, and takes the separators (`Cut`). Where there are none, or two
stars stand in the bracket, it is left with other code points than it was given (`entered`). Without wildcards and
without a negation in its midst a bracket takes what is in it, and `takesItsPoints_iff` says when it does with them.
-/

namespace FileSieve.Glob

open Regex

/-! ### Brackets -/

/-- What is between the brackets: something without backslashes and dashes, so that nothing is escaped and there are no
ranges, and without an exclamation mark in front. -/
structure Inside (X : Text) : Prop where
  /-- There is something. -/
  nonempty : X ≠ []
  /-- The bracket does not end. -/
  closing : (']' : CodePoint) ∉ X
  /-- Nothing is escaped. -/
  backslash : ('\\' : CodePoint) ∉ X
  /-- There are no ranges. -/
  dash : ('-' : CodePoint) ∉ X
  /-- There is no newline. -/
  newline : ('\n' : CodePoint) ∉ X
  /-- The bracket is not negated. -/
  bang : X.head? ≠ some ('!' : CodePoint)

/-- A text between brackets. -/
def bracketed (X : Text) : Text :=
  '[' :: (X ++ [(']' : CodePoint)])

variable {X separators s : Text}

theorem Inside.closing_notMem (h : Inside X) : Piece.closing ∉ pieces X :=
  fun hp => h.closing (points_mem hp (List.mem_singleton.mpr rfl))

theorem Inside.dash_notMem (h : Inside X) : Piece.dash ∉ pieces X :=
  fun hp => h.dash (points_mem hp (List.mem_singleton.mpr rfl))

theorem pieces_bracketed (h : Inside X) : pieces (bracketed X) = .opening false :: (pieces X ++ [.closing]) := by
  have hlast : ∀ c ∈ X.getLast?, c ≠ '\\' ∧ (c = '*' → [(']' : CodePoint)].head? ≠ some ('*' : CodePoint)) := by
    intro c hc
    have hslash : c ≠ '\\' := fun hslash => h.backslash (hslash ▸ List.mem_of_getLast? hc)
    exact ⟨hslash, fun _ => by decide⟩
  have hbang : (X ++ [(']' : CodePoint)]).head? ≠ some ('!' : CodePoint) := by
    rw [List.head?_append_of_ne_nil _ h.nonempty]
    exact h.bang
  have hopening : pieces (bracketed X) = .opening false :: pieces (X ++ [(']' : CodePoint)]) :=
    pieces_ofPoint (by decide) (fun h => absurd h (by decide)) fun _ => hbang
  rw [hopening, pieces_append hlast (by decide)]
  rfl

theorem partsOf_bracketed (h : Inside X) :
    partsOf separators (bracketed X) = parts separators (some (false, [])) (pieces X ++ [.closing]) := by
  rw [partsOf, pieces_bracketed h, parts]
  rfl

/-- A text without a newline fits parts that cover it. -/
theorem fits_iff_covers {caseFold : Bool} {row : List Part} (hs : ('\n' : CodePoint) ∉ s) :
    Fits caseFold row s ↔ Covers (mode caseFold) row s := by
  constructor
  · rintro ⟨u, hu, rfl | rfl⟩
    · exact hu
    · exact absurd (by simp) hs
  · exact fun hu => ⟨s, hu, .inl rfl⟩

/-! ### Brackets that no wildcard cuts short -/

/-- A wildcard cuts the bracket short. -/
def Cut (separators X : Text) : Prop :=
  separators ≠ [] ∧ (Piece.run ∈ pieces X ∨ Piece.one ∈ pieces X)

/-- The code points that are left in a bracket with its wildcards replaced. -/
def entered (separators X : Text) : Text :=
  (symbolsOf separators (pieces X)).map Symbol.point

theorem nil_of_wildcard (hcut : ¬Cut separators X) (hwild : .run ∈ pieces X ∨ .one ∈ pieces X) : separators = [] :=
  not_not.mp fun hne => hcut ⟨hne, hwild⟩

/-- A piece of a bracket that is not cut short does not end it. -/
theorem ending_eq_none (h : Inside X) (hcut : ¬Cut separators X) :
    ∀ p ∈ pieces X, ∀ inner, p.ending separators inner = none := by
  intro p hp inner
  cases p with
  | closing => exact absurd hp h.closing_notMem
  | run => rw [Piece.ending, if_pos (nil_of_wildcard hcut (.inl hp))]
  | one => rw [Piece.ending, if_pos (nil_of_wildcard hcut (.inr hp))]
  | _ => rfl

theorem pieces_ne_nil (h : Inside X) : pieces X ≠ [] := by
  obtain ⟨c, rest, rfl⟩ := List.exists_cons_of_ne_nil h.nonempty
  have hslash : c ≠ '\\' := fun hslash => h.backslash (by simp [hslash])
  cases rest with
  | nil => simp [pieces]
  | cons d rest =>
    rw [pieces.eq_def]
    simp only [hslash, if_false]
    split_ifs <;> simp

/-- In a bracket that is not cut short every symbol stands for its code point. -/
theorem inSet_symbols (h : Inside X) (hcut : ¬Cut separators X) {x : Symbol}
    (hx : x ∈ symbolsOf separators (pieces X)) : x.inSet = .quoted x.point := by
  obtain ⟨p, hp, hx⟩ := List.mem_flatMap.mp hx
  have hend : x ≠ .mark .endBracket := by
    rintro rfl
    rcases endBracket_of_not_ending separators (ending_eq_none h hcut p hp [p]) with hnot | ⟨hnil, -⟩
    · exact hnot hx
    · simp at hnil
  have hdash : x ≠ .mark .dash := by
    rintro rfl
    cases p with
    | dash => exact h.dash_notMem hp
    | closing => exact h.closing_notMem hp
    | opening negated => cases negated <;> simp [Piece.symbols] at hx
    | run => simp only [Piece.symbols, anySymbols] at hx; split_ifs at hx <;> simp at hx
    | one => simp only [Piece.symbols, anySymbols] at hx; split_ifs at hx <;> simp at hx
    | _ => simp [Piece.symbols] at hx
  exact Symbol.inSet_eq_quoted hend hdash

/-- The test of a bracket that is not cut short is for the code points that are left in it. -/
theorem bracketTest_entered (h : Inside X) (hcut : ¬Cut separators X) :
    bracketTest separators false (pieces X ++ [.closing]) =
      some (Reading.testOf false ((entered separators X).map SetItem.point).reverse) := by
  have hinside : Symbol.SameInSet (symbolsOf separators (pieces X)) ((entered separators X).map .quoted) := by
    rw [Symbol.SameInSet, entered, List.map_map, List.map_map]
    exact List.map_congr_left fun x hx => inSet_symbols h hcut hx
  have hsame : Symbol.SameInSet (symbolsOf separators (pieces X ++ [.closing]))
      ((entered separators X).map .quoted ++ .mark .endBracket :: separators.flatMap Reading.guard) := by
    rw [symbolsOf_append, symbolsOf_cons, symbolsOf_nil, List.append_nil]
    exact hinside.append rfl
  have hne : entered separators X ≠ [] := by
    rw [entered, Ne, List.map_eq_nil_iff, symbolsOf_eq_nil]
    exact pieces_ne_nil h
  have hentries := hsame.entries_eq []
  rw [Symbol.entries_quoted [] _ _ (.inr hne), List.append_nil] at hentries
  have htest (inner : List Piece) : bracketTest separators false inner =
      ((Symbol.entries [] (symbolsOf separators inner)).map Prod.fst).map (Reading.testOf false) := by
    rw [Option.map_map]
    rfl
  rw [htest, hentries]
  rfl

/-- A bracket that is not cut short takes the code points that are left in it, but for separators. -/
theorem matchesText_bracketed (h : Inside X) (hcut : ¬Cut separators X) (hs : ('\n' : CodePoint) ∉ s) :
    (compile (bracketed X) separators false).matchesText s = .ok true ↔
      ∃ c, s = [c] ∧ c ∈ entered separators X ∧ c ∉ separators := by
  have hparts : partsOf separators (bracketed X) =
      some [.single (Reading.testOf false ((entered separators X).map SetItem.point).reverse) separators] := by
    rw [partsOf_bracketed h, parts_inner separators (ending_eq_none h hcut), List.nil_append, parts]
    have hending : Piece.closing.ending separators (pieces X) = some (.single · separators) := by
      rw [Piece.ending, if_neg (pieces_ne_nil h)]
    simp only [hending, bracketTest_entered h hcut]
    rfl
  have hholds (c : CodePoint) :
      (Reading.testOf false ((entered separators X).map SetItem.point).reverse).holds (mode false) c = true ↔
        c ∈ entered separators X := by
    rw [holds_testOf (unicode_mode false), ← isSeparator_iff_mem, ← any_points_iff]
    simp
  rw [matchesText_compile_iff, hparts]
  constructor
  · rintro ⟨_, ⟨⟩, hfits⟩
    obtain ⟨u, v, rfl, ⟨c, rfl, hc, hguards⟩, hv⟩ := covers_cons_iff.mp ((fits_iff_covers hs).mp hfits)
    obtain rfl := covers_nil_iff.mp hv
    exact ⟨c, rfl, (hholds c).mp hc, (isSeparator_iff_mem separators).not.mp ((guards_iff separators).mp hguards)⟩
  · rintro ⟨c, rfl, hc, hsep⟩
    have htakes : Part.Takes (mode false)
        (.single (Reading.testOf false ((entered separators X).map SetItem.point).reverse) separators) [c] :=
      ⟨c, rfl, (hholds c).mpr hc, (guards_iff separators).mpr ((isSeparator_iff_mem separators).not.mpr hsep)⟩
    exact ⟨_, rfl, (fits_iff_covers hs).mpr (.cons htakes .nil)⟩

/-! ### Brackets that a wildcard cuts short -/

/-- A bracket with a wildcard that cuts it short begins with a part for the wildcard, which takes the separators. -/
theorem parts_cut (hne : separators ≠ []) {ps qs inner : List Piece} {row : List Part} (hi : Unended separators inner)
    (hclosing : .closing ∉ ps) (hwild : .run ∈ ps ∨ .one ∈ ps)
    (h : parts separators (some (false, inner)) (ps ++ qs) = some row) :
    ∃ items part row' ps', row = part (Reading.testOf false items) :: row' ∧ (part = .run ∨ part = (.single · [])) ∧
      (∀ g ∈ separators, SetItem.point g ∈ items) ∧ parts separators none (ps' ++ qs) = some row' := by
  induction ps generalizing inner with
  | nil => simp at hwild
  | cons p ps ih =>
    obtain ⟨hp, hclosing⟩ : p ≠ .closing ∧ .closing ∉ ps := by simpa [eq_comm] using hclosing
    cases he : p.ending separators inner with
    | none =>
      have hnot : p ≠ .run ∧ p ≠ .one := by
        constructor
        all_goals
          rintro rfl
          simp [Piece.ending, hne] at he
      have hwild : .run ∈ ps ∨ .one ∈ ps := by simpa [hnot.1.symm, hnot.2.symm] using hwild
      rw [List.cons_append, parts] at h
      simp only [he] at h
      exact ih (unended_append separators hi he) hclosing hwild h
    | some part =>
      rw [List.cons_append, parts] at h
      simp only [he] at h
      have hpart : (p = .run ∨ p = .one) ∧ (part = .run ∨ part = (.single · [])) := by
        rcases ending_cases separators he with ⟨rfl, -⟩ | ⟨rfl, -, rfl⟩ | ⟨rfl, -, rfl⟩
        · exact absurd rfl hp
        · exact ⟨.inl rfl, .inl rfl⟩
        · exact ⟨.inr rfl, .inr rfl⟩
      cases ht : bracketTest separators false (inner ++ [p]) with
      | none => simp [ht] at h
      | some test =>
        obtain ⟨items, rfl, hitems⟩ := bracketTest_wildcard separators hne hi hpart.1 he ht
        simp only [ht] at h
        obtain ⟨row', hrow', rfl⟩ := Option.map_eq_some_iff.mp h
        exact ⟨items, part, row', ps, rfl, hpart.2, hitems, hrow'⟩

/-- A row that begins with a part covers something if the rest of the row does. -/
theorem ne_nil_of_covers_cons {m : Mode} {part : Part} {row : List Part} {t : Text}
    (hrow : ∀ u, Covers m row u → u ≠ []) (h : Covers m (part :: row) t) : t ≠ [] := by
  obtain ⟨u, v, rfl, -, hv⟩ := covers_cons_iff.mp h
  exact List.append_ne_nil_of_right_ne_nil u (hrow v hv)

theorem ne_nil_of_covers_single {m : Mode} {test : CharTest} {guards t : Text}
    (h : Covers m [.single test guards] t) : t ≠ [] := by
  obtain ⟨_, v, rfl, ⟨c, rfl, -⟩, -⟩ := covers_cons_iff.mp h
  exact List.append_ne_nil_of_left_ne_nil (List.cons_ne_nil c []) v

/-- What closes a bracket at the end of some pieces is a part that takes one code point, or the end of one. -/
theorem ne_nil_of_covers {m : Mode} {bracket : Option (Bool × List Piece)} {ps : List Piece} {row : List Part}
    (h : parts separators bracket (ps ++ [.closing]) = some row) : ∀ t, Covers m row t → t ≠ [] := by
  induction ps generalizing bracket row with
  | nil =>
    rcases parts_cons_cases separators h with ⟨open?, hrest⟩ | ⟨part, row', rfl, hrest, hpart⟩
    · simp [parts] at hrest
    obtain rfl : [] = row' := Option.some.inj hrest
    rcases hpart with houtside | ⟨inner, make, test, hending, rfl⟩
    · obtain rfl : .single (.point false ']') separators = part := Sum.inl.inj houtside
      exact fun t => ne_nil_of_covers_single
    · obtain ⟨-, -, rfl⟩ | ⟨hrun, -⟩ | ⟨hone, -⟩ := ending_cases separators hending
      · exact fun t => ne_nil_of_covers_single
      · cases hrun
      · cases hone
  | cons p ps ih =>
    rcases parts_cons_cases separators h with ⟨open?, hrest⟩ | ⟨part, row', rfl, hrest, -⟩
    · exact ih hrest
    · exact fun t => ne_nil_of_covers_cons (ih hrest)

/-- Where a bracket that is cut short matches anything, it matches more than one code point, too. -/
theorem exists_longer (h : Inside X) (hsep : ('\n' : CodePoint) ∉ separators) (hcut : Cut separators X)
    (hs : ('\n' : CodePoint) ∉ s) (hmatch : (compile (bracketed X) separators false).matchesText s = .ok true) :
    ∃ t, ('\n' : CodePoint) ∉ t ∧ 2 ≤ t.length ∧ (compile (bracketed X) separators false).matchesText t = .ok true := by
  obtain ⟨hne, hwild⟩ := hcut
  obtain ⟨row, hrow, hfits⟩ := (matchesText_compile_iff _ _ _ _).mp hmatch
  have hcovers := (fits_iff_covers hs).mp hfits
  rw [partsOf_bracketed h] at hrow
  obtain ⟨items, part, row', ps, rfl, hpart, hitems, hrow'⟩ :=
    parts_cut hne (unended_nil separators) h.closing_notMem hwild hrow
  obtain ⟨u, v, rfl, hu, hv⟩ := covers_cons_iff.mp hcovers
  have hlength : 1 ≤ v.length := List.length_pos_of_ne_nil (ne_nil_of_covers hrow' v hv)
  rcases hpart with rfl | rfl
  · -- the run takes a separator in front, too
    obtain ⟨g, hg⟩ := List.exists_mem_of_ne_nil separators hne
    have hholds : (Reading.testOf false items).holds (mode false) g = true := holds_of_entry (hitems g hg)
    have htakes : Part.Takes (mode false) (.run (Reading.testOf false items)) (g :: u) :=
      List.forall_mem_cons.mpr ⟨hholds, hu⟩
    have hnewline : ('\n' : CodePoint) ∉ (g :: u) ++ v := by
      intro hmem
      rcases List.mem_cons.mp hmem with rfl | hmem
      · exact hsep hg
      · exact hs hmem
    have hlonger : Fits false _ ((g :: u) ++ v) := (fits_iff_covers hnewline).mpr (.cons htakes hv)
    refine ⟨(g :: u) ++ v, hnewline, ?_, (matchesText_compile_iff _ _ _ _).mpr ⟨_, ?_, hlonger⟩⟩
    · simp only [List.cons_append, List.length_cons, List.length_append]
      omega
    · exact (partsOf_bracketed h).trans hrow
  · obtain ⟨c, rfl, -⟩ := id hu
    exact ⟨[c] ++ v, hs, Nat.succ_le_succ hlength, hmatch⟩

/-! ### Brackets that take what is in them -/

/-- A bracket takes, of the texts without newlines, those of one code point in it that is no separator. -/
def TakesItsPoints (separators X : Text) : Prop :=
  ∀ s, ('\n' : CodePoint) ∉ s → ((compile (bracketed X) separators false).matchesText s = .ok true ↔
    ∃ c, s = [c] ∧ c ∈ X ∧ c ∉ separators)

/-- What is left in a bracket was in it, or comes from a replacement. -/
theorem mem_entered (h : Inside X) (hcut : ¬Cut separators X) {c : CodePoint} (hc : c ∈ entered separators X) :
    c ∈ X ∨ ∃ m : Mark, c = m.point := by
  obtain ⟨x, hx, rfl⟩ := List.mem_map.mp hc
  obtain ⟨p, hp, hx⟩ := List.mem_flatMap.mp hx
  cases x with
  | mark m => exact .inr ⟨m, rfl⟩
  | quoted c =>
    cases p with
    | literal d =>
      obtain rfl : c = d := by simpa [Piece.symbols] using hx
      exact .inl (points_mem hp (List.mem_singleton.mpr rfl))
    | run => simp [Piece.symbols, anySymbols, nil_of_wildcard hcut (.inl hp)] at hx
    | one => simp [Piece.symbols, anySymbols, nil_of_wildcard hcut (.inr hp)] at hx
    | opening negated => cases negated <;> simp [Piece.symbols] at hx
    | closing => exact absurd hp h.closing_notMem
    | _ => simp [Piece.symbols] at hx

theorem newline_notMem_entered (h : Inside X) (hcut : ¬Cut separators X) :
    ('\n' : CodePoint) ∉ entered separators X := by
  intro hc
  rcases mem_entered h hcut hc with hX | ⟨m, hm⟩
  · exact h.newline hX
  · cases m <;> exact absurd hm (by decide)

/-- A bracket that is not cut short takes its code points when the same are left in it, but for separators. -/
theorem takesItsPoints_uncut (h : Inside X) (hcut : ¬Cut separators X) :
    TakesItsPoints separators X ↔ ∀ c, c ∉ separators → (c ∈ entered separators X ↔ c ∈ X) := by
  have hmatch {s : Text} (hs : ('\n' : CodePoint) ∉ s) := matchesText_bracketed h hcut hs
  constructor
  · intro htakes c hc
    by_cases hnewline : c = '\n'
    · rw [hnewline]
      exact iff_of_false (newline_notMem_entered h hcut) h.newline
    · have hs : ('\n' : CodePoint) ∉ [c] := by simpa using Ne.symm hnewline
      simpa [hc] using (hmatch hs).symm.trans (htakes [c] hs)
  · intro hsame s hs
    rw [hmatch hs]
    exact exists_congr fun c => and_congr_right fun _ => and_congr_left (hsame c)

/-- A bracket that is cut short takes its code points only when it is to take nothing and does so. -/
theorem takesItsPoints_cut (h : Inside X) (hsep : ('\n' : CodePoint) ∉ separators) (hcut : Cut separators X) :
    TakesItsPoints separators X ↔ (∀ c ∈ X, c ∈ separators) ∧
      ∀ s, ('\n' : CodePoint) ∉ s → (compile (bracketed X) separators false).matchesText s ≠ .ok true := by
  constructor
  · intro htakes
    have hnothing : ∀ s, ('\n' : CodePoint) ∉ s →
        (compile (bracketed X) separators false).matchesText s ≠ .ok true := by
      intro s hs hmatch
      obtain ⟨t, ht, hlength, hlonger⟩ := exists_longer h hsep hcut hs hmatch
      obtain ⟨c, rfl, -⟩ := (htakes t ht).mp hlonger
      exact absurd hlength (by simp)
    refine ⟨fun c hc => ?_, hnothing⟩
    by_contra hnot
    have hs : ('\n' : CodePoint) ∉ [c] := fun hmem => h.newline (List.mem_singleton.mp hmem ▸ hc)
    exact hnothing [c] hs ((htakes [c] hs).mpr ⟨c, rfl, hc, hnot⟩)
  · rintro ⟨hall, hnothing⟩ s hs
    refine iff_of_false (hnothing s hs) ?_
    rintro ⟨c, -, hc, hnot⟩
    exact hnot (hall c hc)

/-! ### Brackets without wildcards -/

section

variable (hwild : ∀ c ∈ X, c ≠ '*' ∧ c ≠ '?')

include hwild

theorem not_cut_plain : ¬Cut separators X := by
  have hnot {p : Piece} (hp : p ∈ pieces X) : p ≠ .run ∧ p ≠ .one := by
    rcases from_of_mem hp with ⟨c, hc, rfl | rfl⟩ | ⟨rfl, -⟩ | ⟨rfl, -⟩
    · simp
    · rw [Piece.ofPoint, if_neg (hwild c hc).1, if_neg (hwild c hc).2]
      split_ifs <;> simp
    · simp
    · simp
  rintro ⟨-, hrun | hone⟩
  · exact (hnot hrun).1 rfl
  · exact (hnot hone).2 rfl

variable (hbang : ¬(['[', '!'] : Text) <:+: X)

include hbang

theorem pieces_plain (hslash : ('\\' : CodePoint) ∉ X) : pieces X = X.map Piece.ofPoint := by
  induction X with
  | nil => rfl
  | cons c X ih =>
    have hnegation : c = '[' → X.head? ≠ some ('!' : CodePoint) := by
      rintro rfl hhead
      obtain ⟨rest, rfl⟩ := List.head?_eq_some_iff.mp hhead
      exact hbang ⟨[], rest, rfl⟩
    have hrest := ih (fun d hd => hwild d (.tail _ hd)) (fun hin => hbang (hin.trans (List.suffix_cons c X).isInfix))
      fun hmem => hslash (.tail _ hmem)
    have hc : c ≠ '\\' := fun hc => hslash (by simp [hc])
    rw [pieces_ofPoint hc (fun hstar => absurd hstar (hwild c (by simp)).1) hnegation, hrest, List.map_cons]

theorem entered_plain (h : Inside X) : entered separators X = X := by
  have hpoint : ∀ c ∈ X, ((Piece.ofPoint c).symbols separators).map Symbol.point = [c] := by
    intro c hc
    obtain ⟨hstar, hquestion⟩ := hwild c hc
    have hclosing : c ≠ ']' := fun hclosing => h.closing (hclosing ▸ hc)
    have hdash : c ≠ '-' := fun hdash => h.dash (hdash ▸ hc)
    by_cases hbracket : c = '['
    · rw [hbracket]
      rfl
    · simp [Piece.ofPoint, hstar, hquestion, hclosing, hdash, hbracket, Piece.symbols, Symbol.point]
  rw [entered, pieces_plain hwild hbang h.backslash, symbolsOf, List.flatMap_map, List.map_flatMap]
  exact (List.flatMap_congr hpoint).trans (List.flatMap_singleton' X)

end

/-- A bracket without wildcards takes its code points, but for separators. With wildcards it does when the same code
points are left in it, but for separators, unless it is cut short: then it does only when it is to take nothing and does
so. -/
theorem takesItsPoints_iff (h : Inside X) (hsep : ('\n' : CodePoint) ∉ separators) :
    ((∀ c ∈ X, c ≠ '*' ∧ c ≠ '?') → ¬(['[', '!'] : Text) <:+: X → TakesItsPoints separators X) ∧
      (¬Cut separators X →
        (TakesItsPoints separators X ↔ ∀ c, c ∉ separators → (c ∈ entered separators X ↔ c ∈ X))) ∧
      (Cut separators X →
        (TakesItsPoints separators X ↔ (∀ c ∈ X, c ∈ separators) ∧
          ∀ s, ('\n' : CodePoint) ∉ s → (compile (bracketed X) separators false).matchesText s ≠ .ok true)) := by
  refine ⟨fun hwild hbang => ?_, takesItsPoints_uncut h, takesItsPoints_cut h hsep⟩
  rw [takesItsPoints_uncut h (not_cut_plain hwild), entered_plain hwild hbang h]
  exact fun c _ => Iff.rfl

/-- An opening bracket and a caret in a bracket stand for themselves. -/
theorem bracket_takes_caret : Inside ['a', '[', '^'] ∧ ('\n' : CodePoint) ∉ (['/', 'a'] : Text) ∧
    (compile (bracketed ['a', '[', '^']) ['/', 'a'] false).matchesText ['^'] = .ok true := by
  have hinside : Inside ['a', '[', '^'] := by
    refine ⟨?_, ?_, ?_, ?_, ?_, ?_⟩ <;> decide
  have hsep : ('\n' : CodePoint) ∉ (['/', 'a'] : Text) := by decide
  have htakes : TakesItsPoints ['/', 'a'] ['a', '[', '^'] := by
    refine (takesItsPoints_iff hinside hsep).1 (fun c hc => ?_) (by decide)
    simp only [List.mem_cons, List.not_mem_nil, or_false] at hc
    rcases hc with rfl | rfl | rfl <;> decide
  exact ⟨hinside, hsep, (htakes ['^'] (by decide)).mpr ⟨'^', rfl, by decide, by decide⟩⟩

/-- A star in a bracket is not taken by it. -/
theorem bracket_misses_star : Inside ['*'] ∧ ('\n' : CodePoint) ∉ (['/'] : Text) ∧ ¬TakesItsPoints ['/'] ['*'] := by
  have hmiss : (compile (bracketed ['*']) ['/'] false).matchesText ['*'] = .ok false := by decide +kernel
  refine ⟨⟨by decide, by decide, by decide, by decide, by decide, by decide⟩, by decide, fun htakes => ?_⟩
  have hmatch := (htakes ['*'] (by decide)).mpr ⟨'*', rfl, by decide, by decide⟩
  rw [hmiss] at hmatch
  exact absurd (Except.ok.inj hmatch) Bool.false_ne_true

end FileSieve.Glob
