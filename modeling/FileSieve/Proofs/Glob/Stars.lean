import FileSieve.Proofs.Glob.Joining
import FileSieve.Proofs.Glob.Language
import FileSieve.Proofs.Glob.Separator

/-!
# One star and two stars

Two stars take any run and one star a run without separators, so a glob should match all that it matches with one star
when two stand in its place. But two stars take no newline, because a dot does not match it, and one star does where it
is no separator. So two stars are never less than one exactly when there are no separators or a newline is one of them
(`stars_dominate_iff`); a text without a newline before its end makes no difference.

This is about stars that stand by themselves (`Around`): what is before them is read alone then (`pieces_append`,
`parts_append`), and so is what is behind them (`matchesText_around`).
-/

namespace FileSieve.Glob

open Regex

/-! ### Pieces one after the other -/

theorem last_of_cons {P : CodePoint → Prop} {c : CodePoint} {t : Text} (h : ∀ x ∈ (c :: t).getLast?, P x) :
    ∀ x ∈ t.getLast?, P x := by
  intro x hx
  refine h x ?_
  rw [List.getLast?_cons, Option.mem_def.mp hx]
  rfl

/-- Behind a text that does not end with a backslash the pieces of what follows begin anew, unless stars become
adjacent. -/
theorem pieces_append {u w : Text} (hlast : ∀ c ∈ u.getLast?, c ≠ '\\' ∧ (c = '*' → w.head? ≠ some ('*' : CodePoint)))
    (hbang : w.head? ≠ some ('!' : CodePoint)) : pieces (u ++ w) = pieces u ++ pieces w := by
  fun_induction pieces u with
  | case1 => rfl
  | case2 c =>
    obtain ⟨hslash, hstar⟩ := hlast c rfl
    exact pieces_ofPoint hslash hstar (fun _ => hbang)
  | case3 rest ih =>
    cases rest with
    | nil => exact absurd rfl (hlast '\\' rfl).1
    | cons e rest =>
      have hrest := last_of_cons (last_of_cons hlast)
      dsimp only
      by_cases he : e = '\\'
      · subst he
        rw [if_pos rfl]
        exact (pieces_triple (rest ++ w)).trans (congrArg _ (ih.1 (last_of_cons hrest)))
      · rw [if_neg he]
        exact (pieces_pair (by simpa using he)).trans (congrArg _ (ih.2 hrest))
  | case4 d rest hd h ih =>
    exact (pieces_escaped h hd (rest ++ w)).trans (congrArg _ (ih (last_of_cons (last_of_cons hlast))))
  | case5 d rest hd h ih =>
    exact (pieces_kept h (rest ++ w)).trans (congrArg _ (ih (last_of_cons hlast)))
  | case6 c d rest hc h ih =>
    obtain ⟨rfl, rfl⟩ := h
    exact (pieces_stars (rest ++ w)).trans (congrArg _ (ih (last_of_cons (last_of_cons hlast))))
  | case7 c d rest hc _ h ih =>
    obtain ⟨rfl, rfl⟩ := h
    exact (pieces_bracket_bang (rest ++ w)).trans (congrArg _ (ih (last_of_cons (last_of_cons hlast))))
  | case8 c d rest hc hstars hbang ih =>
    have hfirst : pieces (c :: d :: (rest ++ w)) = .ofPoint c :: pieces (d :: (rest ++ w)) :=
      pieces_ofPoint hc (fun h hd => hstars ⟨h, Option.some.inj hd⟩) (fun h hd => hbang ⟨h, Option.some.inj hd⟩)
    exact hfirst.trans (congrArg _ (ih (last_of_cons hlast)))

/-! ### Between two texts -/

variable {separators : Text} {caseFold : Bool}

/-- Texts between which stars stand by themselves: they are no part of a bracket, of other stars or of an escape. -/
structure Around (separators u v : Text) : Prop where
  /-- The text before the stars ends with neither a star nor a backslash. -/
  before : ∀ c ∈ u.getLast?, c ≠ '*' ∧ c ≠ '\\'
  /-- The text behind the stars begins with none. -/
  behind : v.head? ≠ some ('*' : CodePoint)
  /-- Every bracket in the text before the stars is closed there. -/
  closed : leavesOpen separators (pieces u) = false

variable {u v s : Text}

section

variable (h : Around separators u v) {p : Piece} {part : Part} {w : Text} (hw : pieces ('*' :: w) = p :: pieces v)
  (hp : p.outside separators = .inl part)

include h hw hp

theorem partsOf_around : partsOf separators (u ++ ('*' : CodePoint) :: w) =
    (partsOf separators u).bind fun row => (partsOf separators v).map fun row' => row ++ part :: row' := by
  have hbang : (('*' : CodePoint) :: w).head? ≠ some ('!' : CodePoint) := by
    rw [List.head?_cons]
    decide
  have hfirst : parts separators none (p :: pieces v) = (partsOf separators v).map (part :: ·) := by
    simp only [parts, hp, partsOf]
  have hlast : ∀ c ∈ u.getLast?, c ≠ '\\' ∧
      (c = '*' → (('*' : CodePoint) :: w).head? ≠ some ('*' : CodePoint)) := fun c hc =>
    ⟨(h.before c hc).2, fun hstar => absurd hstar (h.before c hc).1⟩
  rw [partsOf, pieces_append hlast hbang, parts_append separators _ h.closed, hw, hfirst]
  simp [partsOf, Function.comp_def]

/-- A glob in which stars stand between texts matches what fits the parts of the texts with that of the stars between
them. -/
theorem matchesText_around :
    (compile (u ++ ('*' : CodePoint) :: w) separators caseFold).matchesText s = .ok true ↔
      ∃ row row', partsOf separators u = some row ∧ partsOf separators v = some row' ∧
        Fits caseFold (row ++ part :: row') s := by
  rw [matchesText_compile_iff, partsOf_around h hw hp]
  constructor
  · rintro ⟨_, hparts, hfits⟩
    obtain ⟨row, hrow, hparts⟩ := Option.bind_eq_some_iff.mp hparts
    obtain ⟨row', hrow', rfl⟩ := Option.map_eq_some_iff.mp hparts
    exact ⟨row, row', hrow, hrow', hfits⟩
  · rintro ⟨row, row', hrow, hrow', hfits⟩
    exact ⟨_, by simp [hrow, hrow'], hfits⟩

end

theorem matchesText_star (h : Around separators u v) :
    (compile (u ++ ('*' : CodePoint) :: v) separators caseFold).matchesText s = .ok true ↔
      ∃ row row', partsOf separators u = some row ∧ partsOf separators v = some row' ∧
        Fits caseFold (row ++ .run (anyTest separators) :: row') s :=
  matchesText_around h (pieces_ofPoint (by decide) (fun _ => h.behind) (fun h => absurd h (by decide))) rfl

theorem matchesText_stars (h : Around separators u v) :
    (compile (u ++ ('*' : CodePoint) :: ('*' : CodePoint) :: v) separators caseFold).matchesText s = .ok true ↔
      ∃ row row', partsOf separators u = some row ∧ partsOf separators v = some row' ∧
        Fits caseFold (row ++ .run .any :: row') s :=
  matchesText_around h (pieces_stars v) rfl

/-! ### Newlines -/

/-- A run without newlines is one that two stars take. -/
theorem takes_any_of_notMem {b : Text} (h : ('\n' : CodePoint) ∉ b) : Part.Takes (mode caseFold) (.run .any) b :=
  fun _ hc => holds_dot.mpr fun hn => h (hn ▸ hc)

/-- A code point that a text has at its end only is the end of the part that it is in, and nothing is behind the part. -/
theorem last_of_notMem_dropLast {c : CodePoint} {a b rest : Text} (hc : c ∈ b)
    (hlast : c ∉ (a ++ (b ++ rest)).dropLast) : rest = [] ∧ ∃ front, b = front ++ [c] ∧ c ∉ front := by
  have hnil : rest = [] := by
    by_contra hne
    rw [List.dropLast_append_of_ne_nil (by simp [hne]), List.dropLast_append_of_ne_nil hne] at hlast
    exact hlast (by simp [hc])
  subst hnil
  obtain rfl | ⟨front, x, rfl⟩ := List.eq_nil_or_concat' b
  · simp at hc
  have hbefore : c ∉ a ++ front := by simpa [← List.append_assoc] using hlast
  have hfront : c ∉ front := fun h => hbefore (List.mem_append_right a h)
  obtain rfl : c = x := by simpa [hfront] using hc
  exact ⟨rfl, front, rfl, hfront⟩

/-- What fits with one star fits with two unless a newline before the end is in the run. -/
theorem fits_any {row row' : List Part}
    (hs : separators = [] ∨ ('\n' : CodePoint) ∈ separators ∨ ('\n' : CodePoint) ∉ s.dropLast)
    (h : Fits caseFold (row ++ .run (anyTest separators) :: row') s) : Fits caseFold (row ++ .run .any :: row') s := by
  by_cases hnone : separators = []
  · rwa [anyTest, if_pos hnone] at h
  obtain ⟨t, ht, hst⟩ := h
  obtain ⟨a, bc, rfl, ha, hbc⟩ := covers_append_iff.mp ht
  obtain ⟨b, c, rfl, hb, hc⟩ := covers_cons_iff.mp hbc
  by_cases hnewline : ('\n' : CodePoint) ∈ b
  · -- the newline is no separator, so it is the last code point, which the end of the pattern leaves out
    have hsep := ((holds_anyTest separators).mp (hb _ hnewline)).1
    rw [isSeparator_newline] at hsep
    have hlast := (hs.resolve_left hnone).resolve_left hsep
    obtain rfl : s = a ++ (b ++ c) := hst.resolve_right fun hst => hlast (by simp [hst, hnewline])
    obtain ⟨rfl, b, rfl, hrun⟩ := last_of_notMem_dropLast hnewline hlast
    exact ⟨a ++ (b ++ []), covers_append_iff.mpr ⟨a, _, rfl, ha, .cons (takes_any_of_notMem hrun) hc⟩, .inr (by simp)⟩
  · exact ⟨_, covers_append_iff.mpr ⟨a, _, rfl, ha, .cons (takes_any_of_notMem hnewline) hc⟩, hst⟩

/-- Where a newline is no separator one star matches two newlines, and two stars do not. -/
theorem newlines_of_star (caseFold : Bool) (hne : separators ≠ []) (hnewline : ('\n' : CodePoint) ∉ separators) :
    Fits caseFold [.run (anyTest separators)] ['\n', '\n'] ∧ ¬Fits caseFold [.run .any] ['\n', '\n'] := by
  constructor
  · have hrun : Part.Takes (mode caseFold) (.run (anyTest separators)) ['\n', '\n'] := fun c hc => by
      obtain rfl : c = '\n' := by simpa using hc
      exact (holds_anyTest separators).mpr ⟨(isSeparator_newline separators).not.mpr hnewline, fun h => absurd h hne⟩
    exact ⟨_, .cons hrun .nil, .inl rfl⟩
  · rintro ⟨t, ht, hst⟩
    obtain ⟨b, c, rfl, hb, hc⟩ := covers_cons_iff.mp ht
    obtain rfl := covers_nil_iff.mp hc
    rw [List.append_nil] at hst
    have hmem : ('\n' : CodePoint) ∈ b := by
      rcases hst with rfl | hst
      · simp
      · obtain rfl : [('\n' : CodePoint)] = b := List.append_cancel_right hst
        simp
    exact holds_dot.mp (hb _ hmem) rfl

/-- Two stars match what one star does in a text without a newline before its end. In every text they do, for all that
stands around them, exactly when there are no separators or a newline is one. -/
theorem stars_dominate_iff (separators : Text) (caseFold : Bool) :
    (∀ u v s, Around separators u v → ('\n' : CodePoint) ∉ s.dropLast →
      (compile (u ++ ('*' : CodePoint) :: v) separators caseFold).matchesText s = .ok true →
      (compile (u ++ ('*' : CodePoint) :: ('*' : CodePoint) :: v) separators caseFold).matchesText s = .ok true) ∧
    ((∀ u v s, Around separators u v →
      (compile (u ++ ('*' : CodePoint) :: v) separators caseFold).matchesText s = .ok true →
      (compile (u ++ ('*' : CodePoint) :: ('*' : CodePoint) :: v) separators caseFold).matchesText s = .ok true) ↔
        separators = [] ∨ ('\n' : CodePoint) ∈ separators) := by
  have hdominate {u v s : Text} (h : Around separators u v)
      (hs : separators = [] ∨ ('\n' : CodePoint) ∈ separators ∨ ('\n' : CodePoint) ∉ s.dropLast)
      (hmatch : (compile (u ++ ('*' : CodePoint) :: v) separators caseFold).matchesText s = .ok true) :
      (compile (u ++ ('*' : CodePoint) :: ('*' : CodePoint) :: v) separators caseFold).matchesText s = .ok true := by
    obtain ⟨row, row', hrow, hrow', hfits⟩ := (matchesText_star h).mp hmatch
    exact (matchesText_stars h).mpr ⟨row, row', hrow, hrow', fits_any hs hfits⟩
  refine ⟨fun u v s h hs => hdominate h (.inr (.inr hs)), fun hall => ?_, fun hsep u v s h => hdominate h (by tauto)⟩
  by_contra hnot
  obtain ⟨hne, hnewline⟩ := not_or.mp hnot
  have haround : Around separators [] [] := ⟨by simp, by simp, rfl⟩
  obtain ⟨hstar, hstars⟩ := newlines_of_star caseFold hne hnewline
  obtain ⟨row, row', hrow, hrow', hfits⟩ := (matchesText_stars haround).mp
    (hall [] [] ['\n', '\n'] haround ((matchesText_star haround).mpr ⟨[], [], rfl, rfl, hstar⟩))
  obtain rfl : [] = row := Option.some.inj hrow
  obtain rfl : [] = row' := Option.some.inj hrow'
  exact hstars hfits

/-- A star behind a bracket that takes a letter in the other case, in a line that ends. -/
theorem stars_dominate_behind_bracket :
    Around ['/'] ['[', 'a', '-', 'c', ']'] ['?', '.', 'd'] ∧
      (compile ['[', 'a', '-', 'c', ']', '*', '*', '?', '.', 'd'] ['/'] true).matchesText
        ['B', 'x', 'y', '.', 'D', '\n'] = .ok true := by
  have haround : Around ['/'] ['[', 'a', '-', 'c', ']'] ['?', '.', 'd'] := by
    refine ⟨fun c hc => ?_, by decide, by decide⟩
    obtain rfl : ']' = c := Option.some.inj hc
    decide
  have hstar : (compile ['[', 'a', '-', 'c', ']', '*', '?', '.', 'd'] ['/'] true).matchesText
      ['B', 'x', 'y', '.', 'D', '\n'] = .ok true := by decide +kernel
  exact ⟨haround,
    (stars_dominate_iff ['/'] true).1 ['[', 'a', '-', 'c', ']'] ['?', '.', 'd'] _ haround (by decide) hstar⟩

/-- One star matches what a newline parts, and two stars do not. -/
theorem two_stars_miss_newline : Around ['/'] [] [] ∧
    ¬((compile ['*'] ['/'] true).matchesText ['a', '\n', 'b'] = .ok true →
      (compile ['*', '*'] ['/'] true).matchesText ['a', '\n', 'b'] = .ok true) := by
  have hstar : (compile ['*'] ['/'] true).matchesText ['a', '\n', 'b'] = .ok true := by decide +kernel
  have hstars : (compile ['*', '*'] ['/'] true).matchesText ['a', '\n', 'b'] = .ok false := by decide +kernel
  refine ⟨⟨by simp, by simp, rfl⟩, fun h => ?_⟩
  rw [hstars] at h
  exact absurd (Except.ok.inj (h hstar)) Bool.false_ne_true

end FileSieve.Glob
