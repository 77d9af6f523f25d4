import FileSieve.Proofs.Glob.Separator

/-!
# Which globs keep to one directory

A glob without two adjacent stars whose code points are no separators should match nothing with a separator in it.
The tests outside of brackets see to that, and so do the guards behind the closing bracket that a glob has. But the
replacement of a star or a question mark within a bracket brings a closing bracket of its own, with no guards
behind it, and what is taken for entries are the separators themselves. A negated bracket excludes them then; any
other lets them through (`leaks`).

`separator_excluded_iff` says that this is all that can happen: such globs match no separator exactly when no bracket
leaks, or nothing is matched at all.
-/

namespace FileSieve.Glob

open Regex

/-! ### Leaks -/

/-- Whether a star or a question mark stands in a bracket that is not negated; `bracket` says of the bracket around the
pieces whether it is negated and whether it is empty so far. -/
def leaks : (bracket : Option (Bool × Bool)) → List Piece → Bool
  | _, [] => false
  | none, .opening negated :: ps => leaks (some (negated, true)) ps
  | none, _ :: ps => leaks none ps
  | some (negated, _), .run :: ps | some (negated, _), .one :: ps => !negated || leaks none ps
  | some (negated, empty), .closing :: ps => if empty then leaks (some (negated, false)) ps else leaks none ps
  | some (negated, _), _ :: ps => leaks (some (negated, false)) ps

/-- What `leaks` sees of a bracket. -/
def outline (bracket : Option (Bool × List Piece)) : Option (Bool × Bool) :=
  bracket.map fun (negated, inner) => (negated, inner.isEmpty)

variable (separators : Text)

theorem leaks_outside {p : Piece} {part : Part} (h : p.outside separators = .inl part) (ps : List Piece) :
    leaks none (p :: ps) = leaks none ps := by
  cases p with
  | opening negated => simp [Piece.outside] at h
  | _ => rfl

theorem leaks_inside (hne : separators ≠ []) {inner : List Piece} {p : Piece} (h : p.ending separators inner = none)
    (negated : Bool) (ps : List Piece) :
    leaks (outline (some (negated, inner))) (p :: ps) = leaks (outline (some (negated, inner ++ [p]))) ps := by
  have houtline : outline (some (negated, inner ++ [p])) = some (negated, false) := by simp [outline]
  rw [houtline]
  cases p with
  | run => simp [Piece.ending, hne] at h
  | one => simp [Piece.ending, hne] at h
  | closing =>
    have hi : inner = [] := by simpa [Piece.ending] using h
    simp [outline, leaks, hi]
  | _ => rfl

/-- A bracket ends with guards, or with a wildcard, and then it leaks unless it is negated. -/
theorem leaks_ending {inner : List Piece} {p : Piece} {part : CharTest → Part} (h : p.ending separators inner = some part)
    (negated : Bool) (ps : List Piece) :
    (part = (.single · separators) ∧ leaks (outline (some (negated, inner))) (p :: ps) = leaks none ps) ∨
      ((p = .run ∧ part = .run ∨ p = .one ∧ part = (.single · [])) ∧
        leaks (outline (some (negated, inner))) (p :: ps) = (!negated || leaks none ps)) := by
  rcases ending_cases separators h with ⟨rfl, hi, rfl⟩ | ⟨rfl, -, rfl⟩ | ⟨rfl, -, rfl⟩
  · exact .inl ⟨rfl, by simp [outline, leaks, hi]⟩
  · exact .inr ⟨.inl ⟨rfl, rfl⟩, rfl⟩
  · exact .inr ⟨.inr ⟨rfl, rfl⟩, rfl⟩

/-! ### Brackets that a wildcard ends -/

/-- The separators in the replacement of a wildcard are entries of the set that it ends. -/
theorem points_mem_entries {items its : List SetItem} {front rest : List Symbol} {t : Text}
    (h : Symbol.entries items (front ++ .mark .bracket :: .mark .caret :: (t.map .quoted ++ .mark .endBracket :: rest)) =
      some (its, rest)) : ∀ g ∈ t, SetItem.point g ∈ its := by
  -- from the caret on nothing is a dash, so every code point is an entry of its own
  have hcaret : ∀ items, Symbol.entries items (.mark .caret :: (t.map .quoted ++ .mark .endBracket :: rest)) =
      some ((t.map SetItem.point).reverse ++ .point '^' :: items, rest) := fun items => by
    rw [Symbol.entries_point items (by simp) (by cases t <;> simp), Symbol.entries_quoted _ t rest (.inl (by simp))]
    rfl
  have hdone : ∀ {items}, Symbol.entries items (.mark .caret :: (t.map .quoted ++ .mark .endBracket :: rest)) =
      some (its, rest) → ∀ g ∈ t, SetItem.point g ∈ its := fun {items} h g hg => by
    obtain rfl : (t.map SetItem.point).reverse ++ .point '^' :: items = its := by simpa [hcaret] using h
    simp [hg]
  generalize hs : front ++ .mark .bracket :: .mark .caret :: (t.map .quoted ++ .mark .endBracket :: rest) = symbols at h
  fun_induction Symbol.entries items symbols generalizing front with
  | case1 => simp at h
  | case2 items x rest' hx =>
    obtain ⟨-, rfl⟩ : _ ∧ rest' = rest := by simpa using h
    have := congrArg List.length hs
    simp at this
    omega
  | case3 items x hx rest' =>
    obtain ⟨-, rfl⟩ : _ ∧ rest' = rest := by simpa using h
    rcases front with _ | ⟨a, front⟩
    · simp at hs
    · have := congrArg List.length hs
      simp at this
      omega
  | case4 items x hx y rest' hy hle ih =>
    rcases front with _ | ⟨a, _ | ⟨b, _ | ⟨c, front⟩⟩⟩
    · simp at hs
    · simp at hs
    · obtain ⟨-, -, -, rfl⟩ : a = x ∧ b = .mark .dash ∧ _ = y ∧ _ = rest' := by simpa using hs
      exact hdone h
    · obtain ⟨-, -, -, rfl⟩ : a = x ∧ b = .mark .dash ∧ c = y ∧ _ = rest' := by simpa using hs
      exact ih rfl h
  | case5 => simp at h
  | case6 items x hx rest' hd ih =>
    rcases front with _ | ⟨a, front⟩
    · obtain ⟨-, rfl⟩ : _ = x ∧ _ = rest' := by simpa using hs
      exact hdone h
    · obtain ⟨-, rfl⟩ : a = x ∧ _ = rest' := by simpa using hs
      exact ih rfl h

/-- A bracket that a wildcard ends has the separators among its entries. -/
theorem bracketTest_wildcard (hne : separators ≠ []) {inner : List Piece} {p : Piece} {part : CharTest → Part}
    (hi : Unended separators inner) (hp : p = .run ∨ p = .one) (h : p.ending separators inner = some part)
    {negated : Bool} {test : CharTest} (ht : bracketTest separators negated (inner ++ [p]) = some test) :
    ∃ items, test = Reading.testOf negated items ∧ ∀ g ∈ separators, SetItem.point g ∈ items := by
  obtain ⟨⟨its, rest⟩, hentries, rfl⟩ := Option.map_eq_some_iff.mp ht
  have hrest : rest = p.behind separators := by
    have hback := entries_bracket separators (Symbol.SameInSet.refl (symbolsOf separators inner)) hi h []
    rw [List.append_nil, hentries] at hback
    simp only [symbolsOf_append, symbolsOf_cons, symbolsOf_nil, List.append_nil] at hentries
    simpa [hentries] using hback
  have hsymbols : Symbol.entries [] (symbolsOf separators inner ++
      .mark .bracket :: .mark .caret :: (separators.map .quoted ++ .mark .endBracket :: rest)) = some (its, rest) := by
    rw [← hentries, hrest]
    rcases hp with rfl | rfl <;> simp [Piece.symbols, anySymbols, hne, Piece.behind]
  exact ⟨its, rfl, points_mem_entries hsymbols⟩

/-! ### The code points of a glob and its pieces -/

/-- The code points that a piece stands for. -/
def Piece.points : Piece → Text
  | .literal c => [c]
  | .dash => ['-']
  | .closing => [']']
  | _ => []

theorem points_ofPoint {c d : CodePoint} (h : d ∈ (Piece.ofPoint c).points) : d = c := by
  unfold Piece.ofPoint at h
  split_ifs at h with h1 h2 h3 h4 h5
  · exact absurd h List.not_mem_nil
  · exact absurd h List.not_mem_nil
  · exact absurd h List.not_mem_nil
  · exact (List.mem_singleton.mp h).trans h4.symm
  · exact (List.mem_singleton.mp h).trans h5.symm
  · exact List.mem_singleton.mp h

/-- What the pieces of a glob stand for is in the glob. -/
theorem points_mem {glob : Text} {p : Piece} (hp : p ∈ pieces glob) {c : CodePoint} (hc : c ∈ p.points) : c ∈ glob := by
  rcases from_of_mem hp with ⟨d, hd, rfl | rfl⟩ | ⟨rfl, -⟩ | ⟨rfl, -⟩
  · exact List.mem_singleton.mp hc ▸ hd
  · exact points_ofPoint hc ▸ hd
  · exact absurd hc List.not_mem_nil
  · exact absurd hc List.not_mem_nil

/-- Only two adjacent stars are a piece for any run. -/
theorem stars_of_anyRun {glob : Text} (h : .anyRun ∈ pieces glob) : (['*', '*'] : Text) <:+: glob := by
  have hne (c : CodePoint) : Piece.anyRun ≠ Piece.ofPoint c := by
    unfold Piece.ofPoint
    split_ifs <;> simp
  rcases from_of_mem h with ⟨c, -, hliteral | hpoint⟩ | ⟨-, hstars⟩ | ⟨hopening, -⟩
  · cases hliteral
  · exact absurd hpoint (hne c)
  · exact hstars
  · cases hopening

/-! ### Parts that exclude separators -/

variable (caseFold : Bool)

/-- A part takes no separator. -/
def Excludes (part : Part) : Prop :=
  ∀ t, part.Takes (mode caseFold) t → ∀ c ∈ t, ¬IsSeparator separators caseFold c

/-- Pieces without one for any run, for code points that are no separators in either case. -/
def Clear (ps : List Piece) : Prop :=
  .anyRun ∉ ps ∧ ∀ p ∈ ps, ∀ c ∈ p.points, ∀ g ∈ separators, c.asciiLower ≠ g.asciiLower

variable {separators caseFold}

theorem Clear.tail {p : Piece} {ps : List Piece} (h : Clear separators (p :: ps)) : Clear separators ps :=
  ⟨fun hm => h.1 (.tail _ hm), fun q hq => h.2 q (.tail _ hq)⟩

theorem excludes_guarded (test : CharTest) : Excludes separators caseFold (.single test separators) := by
  rintro _ ⟨c, rfl, -, hguards⟩ d hd
  obtain rfl := List.mem_singleton.mp hd
  exact (guards_iff separators).mp hguards

theorem excludes_run {test : CharTest}
    (h : ∀ c, test.holds (mode caseFold) c = true → ¬IsSeparator separators caseFold c) :
    Excludes separators caseFold (.run test) :=
  fun _ ht c hc => h c (ht c hc)

theorem excludes_single {test : CharTest} {guards : Text}
    (h : ∀ c, test.holds (mode caseFold) c = true → ¬IsSeparator separators caseFold c) :
    Excludes separators caseFold (.single test guards) := by
  rintro _ ⟨c, rfl, hc, -⟩ d hd
  obtain rfl := List.mem_singleton.mp hd
  exact h _ hc

/-- A code point of the glob takes no separator. -/
theorem not_isSeparator_of_point {x c : CodePoint} (h : (CharTest.point false x).holds (mode caseFold) c = true)
    (hx : ∀ g ∈ separators, x.asciiLower ≠ g.asciiLower) : ¬IsSeparator separators caseFold c := by
  have hxc : Alike caseFold x c := same_iff_alike.mp (by simpa [CharTest.holds] using h)
  rintro ⟨g, hg, hgc⟩
  exact hx g hg ((lower_of_alike hxc).trans (lower_of_alike hgc).symm)

theorem excludes_outside {p : Piece} {ps : List Piece} (hclear : Clear separators (p :: ps)) {part : Part}
    (h : p.outside separators = .inl part) : Excludes separators caseFold part := by
  have hpoint : ∀ x, x ∈ p.points → Excludes separators caseFold (.single (.point false x) []) := fun x hx =>
    excludes_single fun c hc => not_isSeparator_of_point hc (hclear.2 p (by simp) x hx)
  have hany : ∀ c, (anyTest separators).holds (mode caseFold) c = true → ¬IsSeparator separators caseFold c :=
    fun c hc => ((holds_anyTest separators).mp hc).1
  cases p with
  | literal c => exact Sum.inl.inj h ▸ hpoint c List.mem_cons_self
  | dash => exact Sum.inl.inj h ▸ hpoint _ List.mem_cons_self
  | anyRun => exact absurd List.mem_cons_self hclear.1
  | run => exact Sum.inl.inj h ▸ excludes_run hany
  | one => exact Sum.inl.inj h ▸ excludes_single hany
  | opening negated => simp [Piece.outside] at h
  | closing => exact Sum.inl.inj h ▸ excludes_guarded _

/-- A negated set with the separators among its entries holds of none of them. -/
theorem not_isSeparator_of_negated {items : List SetItem} (hitems : ∀ g ∈ separators, SetItem.point g ∈ items)
    {c : CodePoint} (h : (Reading.testOf true items).holds (mode caseFold) c = true) :
    ¬IsSeparator separators caseFold c := by
  rintro ⟨g, hg, hgc⟩
  have hany : items.any (·.holds (mode caseFold) c) = true :=
    List.any_eq_true.mpr ⟨_, hitems g hg, by rwa [holds_point (unicode_mode caseFold), ignoreCase_mode]⟩
  rw [holds_testOf (unicode_mode caseFold), hany] at h
  simp at h

/-- A set that is not negated holds of the separators among its entries. -/
theorem holds_of_entry {items : List SetItem} {g : CodePoint} (hg : SetItem.point g ∈ items) :
    (Reading.testOf false items).holds (mode caseFold) g = true := by
  have hholds : (SetItem.point g).holds (mode caseFold) g = true :=
    (holds_point (unicode_mode caseFold)).mpr (alike_refl _ g)
  have hany : items.any (·.holds (mode caseFold) g) = true := List.any_eq_true.mpr ⟨_, hg, hholds⟩
  rw [holds_testOf (unicode_mode caseFold), hany]
  rfl

/-- Without a leak every part excludes the separators. -/
theorem excludes_parts (hne : separators ≠ []) {bracket : Option (Bool × List Piece)} {ps : List Piece} {row : List Part}
    (hs : Sound separators bracket) (h : parts separators bracket ps = some row) (hclear : Clear separators ps)
    (hleaks : leaks (outline bracket) ps = false) : ∀ part ∈ row, Excludes separators caseFold part := by
  fun_induction parts separators bracket ps generalizing row with
  | case1 =>
    obtain rfl := Option.some.inj h
    simp
  | case2 => simp at h
  | case3 p ps part hp ih =>
    obtain ⟨row, hrow, rfl⟩ := Option.map_eq_some_iff.mp h
    rw [show outline none = none from rfl, leaks_outside separators hp] at hleaks
    exact List.forall_mem_cons.mpr ⟨excludes_outside hclear hp, ih (sound_none separators) hrow hclear.tail hleaks⟩
  | case4 p ps negated hp ih =>
    obtain rfl := outside_inr separators hp
    exact ih (sound_some separators (unended_nil separators)) h hclear.tail hleaks
  | case5 negated inner p ps hp ih =>
    rw [leaks_inside separators hne hp] at hleaks
    exact ih (sound_some separators (unended_append separators (hs negated inner rfl) hp)) h hclear.tail hleaks
  | case6 => simp at h
  | case7 negated inner p ps part hp test ht ih =>
    obtain ⟨row, hrow, rfl⟩ := Option.map_eq_some_iff.mp h
    rcases leaks_ending separators hp negated ps with ⟨rfl, hl⟩ | ⟨hwild, hl⟩
    · rw [hl] at hleaks
      exact List.forall_mem_cons.mpr ⟨excludes_guarded test, ih (sound_none separators) hrow hclear.tail hleaks⟩
    · obtain ⟨rfl, hl'⟩ : negated = true ∧ leaks none ps = false := by
        rw [hl] at hleaks
        simpa using hleaks
      obtain ⟨items, rfl, hitems⟩ := bracketTest_wildcard separators hne (hs _ inner rfl)
        (hwild.imp And.left And.left) hp ht
      have hpart : Excludes separators caseFold (part (Reading.testOf true items)) := by
        rcases hwild with ⟨-, rfl⟩ | ⟨-, rfl⟩
        · exact excludes_run fun c hc => not_isSeparator_of_negated hitems hc
        · exact excludes_single fun c hc => not_isSeparator_of_negated hitems hc
      exact List.forall_mem_cons.mpr ⟨hpart, ih (sound_none separators) hrow hclear.tail hl'⟩

/-- With a leak some part takes each separator. -/
theorem exists_leaking_part (hne : separators ≠ []) {bracket : Option (Bool × List Piece)} {ps : List Piece}
    {row : List Part} (hs : Sound separators bracket) (h : parts separators bracket ps = some row)
    (hleaks : leaks (outline bracket) ps = true) :
    ∃ part ∈ row, ∀ g ∈ separators, part.Takes (mode caseFold) [g] := by
  fun_induction parts separators bracket ps generalizing row with
  | case1 => simp [leaks] at hleaks
  | case2 => simp at h
  | case3 p ps part hp ih =>
    obtain ⟨row, hrow, rfl⟩ := Option.map_eq_some_iff.mp h
    rw [show outline none = none from rfl, leaks_outside separators hp] at hleaks
    obtain ⟨q, hq, htakes⟩ := ih (sound_none separators) hrow hleaks
    exact ⟨q, .tail _ hq, htakes⟩
  | case4 p ps negated hp ih =>
    obtain rfl := outside_inr separators hp
    exact ih (sound_some separators (unended_nil separators)) h hleaks
  | case5 negated inner p ps hp ih =>
    rw [leaks_inside separators hne hp] at hleaks
    exact ih (sound_some separators (unended_append separators (hs negated inner rfl) hp)) h hleaks
  | case6 => simp at h
  | case7 negated inner p ps part hp test ht ih =>
    obtain ⟨row, hrow, rfl⟩ := Option.map_eq_some_iff.mp h
    have hlater : leaks none ps = true →
        ∃ q ∈ part test :: row, ∀ g ∈ separators, q.Takes (mode caseFold) [g] := fun hl => by
      obtain ⟨q, hq, htakes⟩ := ih (sound_none separators) hrow hl
      exact ⟨q, .tail _ hq, htakes⟩
    rcases leaks_ending separators hp negated ps with ⟨rfl, hl⟩ | ⟨hwild, hl⟩
    · exact hlater (hl ▸ hleaks)
    · rw [hl] at hleaks
      cases negated with
      | true => exact hlater (by simpa using hleaks)
      | false =>
        obtain ⟨items, rfl, hitems⟩ := bracketTest_wildcard separators hne (hs _ inner rfl)
          (hwild.imp And.left And.left) hp ht
        refine ⟨_, List.mem_cons_self, fun g hg => ?_⟩
        have hholds : (Reading.testOf false items).holds (mode caseFold) g = true := holds_of_entry (hitems g hg)
        rcases hwild with ⟨-, rfl⟩ | ⟨-, rfl⟩
        · exact fun c hc => List.mem_singleton.mp hc ▸ hholds
        · exact ⟨g, rfl, hholds, by simp⟩

/-! ### Whole globs -/

theorem covers_excludes {row : List Part} (h : ∀ part ∈ row, Excludes separators caseFold part) {u : Text}
    (hu : Covers (mode caseFold) row u) : ∀ c ∈ u, ¬IsSeparator separators caseFold c := by
  induction hu with
  | nil => simp
  | @cons part row t u ht _ ih =>
    intro c hc
    rcases List.mem_append.mp hc with hc | hc
    · exact h part (by simp) t ht c hc
    · exact ih (fun q hq => h q (.tail _ hq)) c hc

/-- What a part takes can stand in place of its piece of a text that is covered. -/
theorem covers_replace {m : Mode} {row : List Part} {u : Text} (hu : Covers m row u) {part : Part} (hp : part ∈ row)
    {t : Text} (ht : part.Takes m t) : ∃ u', Covers m row u' ∧ t ⊆ u' := by
  induction hu with
  | nil => simp at hp
  | @cons q row v w hv hw ih =>
    rcases List.mem_cons.mp hp with rfl | hp
    · exact ⟨t ++ w, .cons ht hw, List.subset_append_left t w⟩
    · obtain ⟨u', hu', hsub⟩ := ih hp
      exact ⟨v ++ u', .cons hv hu', List.Subset.trans hsub (List.subset_append_right v u')⟩

/-- A glob without adjacent stars, of code points that are no separators, keeps to one directory exactly when it has no
star or question mark in a bracket that is not negated, or matches nothing. -/
theorem separator_excluded_iff (glob separators : Text) (caseFold : Bool) (hstars : ¬(['*', '*'] : Text) <:+: glob)
    (hne : separators ≠ []) (hnewline : ('\n' : CodePoint) ∉ separators)
    (hglob : ∀ c ∈ glob, ∀ g ∈ separators, c.asciiLower ≠ g.asciiLower) :
    (∀ s, (compile glob separators caseFold).matchesText s = .ok true → ∀ c ∈ s, c ∉ separators) ↔
      (leaks none (pieces glob) = false ∨ ∀ s, (compile glob separators caseFold).matchesText s ≠ .ok true) := by
  have hclear : Clear separators (pieces glob) :=
    ⟨fun hm => hstars (stars_of_anyRun hm), fun p hp c hc => hglob c (points_mem hp hc)⟩
  constructor
  · intro hexcluded
    cases hleaks : leaks none (pieces glob) with
    | false => exact .inl rfl
    | true =>
      refine .inr fun s hs => ?_
      obtain ⟨row, hrow, u, hu, -⟩ := (matchesText_compile_iff separators glob caseFold s).mp hs
      obtain ⟨part, hpart, htakes⟩ : ∃ part ∈ row, ∀ g ∈ separators, part.Takes (mode caseFold) [g] :=
        exists_leaking_part hne (sound_none separators) hrow hleaks
      obtain ⟨g, hg⟩ := List.exists_mem_of_ne_nil separators hne
      obtain ⟨u', hu', hsub⟩ := covers_replace hu hpart (htakes g hg)
      exact hexcluded u' ((matchesText_compile_iff separators glob caseFold u').mpr ⟨row, hrow, u', hu', .inl rfl⟩) g
        (hsub (by simp)) hg
  · rintro (hleaks | hnone) s hs c hc hsep
    · obtain ⟨row, hrow, u, hu, hsu⟩ := (matchesText_compile_iff separators glob caseFold s).mp hs
      have hu' : c ∉ u := fun hcu =>
        covers_excludes (excludes_parts hne (sound_none separators) hrow hclear hleaks) hu c hcu
          ⟨c, hsep, alike_refl caseFold c⟩
      rcases hsu with rfl | rfl
      · exact hu' hc
      · rcases List.mem_append.mp hc with hc | hc
        · exact hu' hc
        · exact hnewline (List.mem_singleton.mp hc ▸ hsep)
    · exact hnone s hs

/-- A range may reach over the separator; the guard behind the bracket sees to it. -/
theorem range_keeps_out_separator : ¬∃ s, (compile ['[', '+', '-', '9', ']', '*'] ['/'] true).matchesText s = .ok true ∧
    ('/' : CodePoint) ∈ s := by
  have hglob : ∀ c ∈ (['[', '+', '-', '9', ']', '*'] : Text), ∀ g ∈ (['/'] : Text), c.asciiLower ≠ g.asciiLower := by
    simp only [List.mem_cons, List.not_mem_nil, or_false, forall_eq_or_imp, forall_eq]
    decide
  rintro ⟨s, hs, hslash⟩
  exact (separator_excluded_iff _ ['/'] true (by decide) (by decide) (by decide) hglob).mpr (.inl (by decide)) s hs '/'
    hslash (by decide)

/-- A question mark alone in a bracket lets the separator through. -/
theorem question_lets_in_separator : ¬(['*', '*'] : Text) <:+: ['[', '?', ']'] ∧
    (compile ['[', '?', ']'] ['/'] true).matchesText ['/', ']'] = .ok true := by
  have hparts : partsOf ['/'] ['[', '?', ']'] =
      some [.single (.oneOf false [.point '[', .point '^', .point '/']) [], .single (.point false ']') ['/']] := by
    decide
  have hset : Part.Takes (mode true) (.single (.oneOf false [.point '[', .point '^', .point '/']) []) ['/'] :=
    ⟨'/', rfl, by decide, fun g hg => absurd hg List.not_mem_nil⟩
  have hbracket : Part.Takes (mode true) (.single (.point false ']') ['/']) [']'] :=
    ⟨']', rfl, by decide, fun g hg => List.mem_singleton.mp hg ▸ by decide⟩
  have hcovers := Covers.cons hset (.cons hbracket .nil)
  exact ⟨by decide, (matchesText_compile_iff ['/'] _ true _).mpr ⟨_, hparts, _, hcovers, .inl rfl⟩⟩

end FileSieve.Glob
