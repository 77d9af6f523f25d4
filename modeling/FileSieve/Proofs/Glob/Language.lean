import FileSieve.Proofs.Glob.Separator

/-!
# The language of globs

A well-formed glob is spelled by elements: stars, question marks, brackets of code points and ranges, and code
points that stand for themselves, escaped or not. Read from the left, two stars are always the one element for any
run, and an exclamation mark behind an opening bracket always negates it.

`matchesText_spelling` is the meaning of well-formed globs: a subject without a newline matches exactly when it is
cut into pieces that the elements take in their order, whatever the separators are, special code points of patterns
and letters included. Under case folding letters of ASCII are compared in either case everywhere: with code points,
between the ends of ranges, and with separators.
-/

namespace FileSieve.Glob

open Regex

/-! ### Well-formed globs -/

/-- The code points that never stand for themselves. -/
def signs : Text := ['*', '?', '[', ']', '\\']

/-- An item of a bracket. -/
inductive Item where
  /-- A code point. -/
  | point (c : CodePoint)
  /-- The code points from one to another. -/
  | range (lo hi : CodePoint)
  deriving DecidableEq

/-- An element of a glob. -/
inductive Element where
  /-- Two stars: any run. -/
  | anyRun
  /-- A star: a run without separators. -/
  | run
  /-- A question mark: one code point that is no separator. -/
  | one
  /-- A bracket: one code point that is no separator, among the items or not among them. -/
  | set (negated : Bool) (items : List Item)
  /-- A code point behind a backslash. -/
  | escaped (c : CodePoint)
  /-- A code point that stands for itself. -/
  | plain (c : CodePoint)
  deriving DecidableEq

/-- The text of an item. -/
def Item.text : Item → Text
  | .point c => [c]
  | .range lo hi => [lo, '-', hi]

/-- The text of an element. -/
def Element.text : Element → Text
  | .anyRun => ['*', '*']
  | .run => ['*']
  | .one => ['?']
  | .set false items => ('[' : CodePoint) :: (items.flatMap Item.text ++ [(']' : CodePoint)])
  | .set true items => ('[' : CodePoint) :: ('!' : CodePoint) :: (items.flatMap Item.text ++ [(']' : CodePoint)])
  | .escaped c => ['\\', c]
  | .plain c => [c]

/-- The glob that elements spell. -/
def spelling (elements : List Element) : Text :=
  elements.flatMap Element.text

/-- A code point that may stand in a bracket. -/
def Ordinary (c : CodePoint) : Prop :=
  c ∉ signs ∧ c ≠ '-' ∧ c.val < 0x10000

instance (c : CodePoint) : Decidable (Ordinary c) := inferInstanceAs (Decidable (_ ∧ _ ∧ _))

/-- An item of ordinary code points, in order. -/
def Item.WellFormed : Item → Prop
  | .point c => Ordinary c
  | .range lo hi => Ordinary lo ∧ Ordinary hi ∧ lo ≤ hi

/-- An element that may be part of a well-formed glob. A bracket has items, and unless it is negated no exclamation
mark is first in it. Behind a backslash stands what quoting escapes, other than a backslash. -/
def Element.WellFormed : Element → Prop
  | .anyRun | .run | .one => True
  | .set negated items => items ≠ [] ∧ (∀ item ∈ items, item.WellFormed) ∧
    (negated = false → (items.flatMap Item.text).head? ≠ some ('!' : CodePoint))
  | .escaped c => (c ∈ specials ∨ c.val = 0) ∧ c ≠ '\\'
  | .plain c => c ∉ signs

/-- Elements that are found again when the glob that they spell is read from the left: a star is not followed by
another one. -/
def WellFormed : List Element → Prop
  | [] => True
  | e :: es => e.WellFormed ∧ (e = .run → (spelling es).head? ≠ some ('*' : CodePoint)) ∧ WellFormed es

/-! ### What elements take -/

variable (separators : Text) (caseFold : Bool)

/-- A code point that an item has. -/
def Item.Has (c : CodePoint) : Item → Prop
  | .point x => Alike caseFold x c
  | .range lo hi => ∃ x, lo ≤ x ∧ x ≤ hi ∧ Alike caseFold x c

/-- A text that an element takes. -/
def Element.Takes : Element → Text → Prop
  | .anyRun, _ => True
  | .run, t => ∀ c ∈ t, ¬IsSeparator separators caseFold c
  | .one, t => ∃ c, t = [c] ∧ ¬IsSeparator separators caseFold c
  | .set negated items, t => ∃ c, t = [c] ∧ ¬IsSeparator separators caseFold c ∧
    ((∃ item ∈ items, item.Has caseFold c) ↔ negated = false)
  | .escaped x, t | .plain x, t => ∃ c, t = [c] ∧ Alike caseFold x c

/-- A text that is cut into pieces which elements take in their order. -/
inductive Splits : List Element → Text → Prop where
  /-- No elements, no text. -/
  | nil : Splits [] []
  /-- The first element takes the first piece. -/
  | cons {e : Element} {es : List Element} {t u : Text} :
      e.Takes separators caseFold t → Splits es u → Splits (e :: es) (t ++ u)

/-! ### The pieces of a well-formed glob -/

/-- The pieces of an item. -/
def Item.pieces : Item → List Piece
  | .point c => [.literal c]
  | .range lo hi => [.literal lo, .dash, .literal hi]

/-- The pieces of an element. -/
def Element.pieces : Element → List Piece
  | .anyRun => [.anyRun]
  | .run => [.run]
  | .one => [.one]
  | .set negated items => .opening negated :: (items.flatMap Item.pieces ++ [.closing])
  | .escaped c => [.literal c]
  | .plain c => [Piece.ofPoint c]

theorem pieces_ofPoint {c : CodePoint} {rest : Text} (hc : c ≠ '\\') (hstar : c = '*' → rest.head? ≠ some ('*' : CodePoint))
    (hbracket : c = '[' → rest.head? ≠ some ('!' : CodePoint)) :
    pieces (c :: rest) = Piece.ofPoint c :: pieces rest := by
  cases rest with
  | nil => rfl
  | cons d rest =>
    have h1 : ¬(c = '*' ∧ d = '*') := fun h => hstar h.1 (by rw [h.2]; rfl)
    have h2 : ¬(c = '[' ∧ d = '!') := fun h => hbracket h.1 (by rw [h.2]; rfl)
    rw [pieces.eq_def]
    simp only [hc, h1, h2, if_false]

theorem pieces_stars (rest : Text) :
    pieces (('*' : CodePoint) :: ('*' : CodePoint) :: rest) = .anyRun :: pieces rest := by
  have hc : ¬('*' : CodePoint) = '\\' := by decide
  rw [pieces.eq_def]
  simp only [hc, and_self, if_true, if_false]

theorem pieces_bracket_bang (rest : Text) :
    pieces (('[' : CodePoint) :: ('!' : CodePoint) :: rest) = .opening true :: pieces rest := by
  have hc : ¬('[' : CodePoint) = '\\' := by decide
  have hs : ¬(('[' : CodePoint) = '*' ∧ ('!' : CodePoint) = '*') := by decide
  rw [pieces.eq_def]
  simp only [hc, hs, and_self, if_true, if_false]

theorem pieces_escaped {c : CodePoint} (hc : c ∈ specials ∨ c.val = 0) (hb : c ≠ '\\') (rest : Text) :
    pieces (('\\' : CodePoint) :: c :: rest) = .literal c :: pieces rest := by
  rw [pieces.eq_def]
  simp only [hb, hc, if_true, if_false]

/-- A backslash stands for itself before a code point that it need not take a meaning from. -/
theorem pieces_kept {c : CodePoint} (hc : ¬(c ∈ specials ∨ c.val = 0)) (rest : Text) :
    pieces ('\\' :: c :: rest) = .literal '\\' :: pieces (c :: rest) := by
  have hb : c ≠ '\\' := fun h => hc (.inl (h ▸ by decide))
  rw [pieces.eq_def]
  simp only [hb, hc, if_true, if_false]

/-- Two backslashes are one, when no third one is behind them. -/
theorem pieces_pair {rest : Text} (h : rest.head? ≠ some ('\\' : CodePoint)) :
    pieces ('\\' :: '\\' :: rest) = .literal '\\' :: pieces rest := by
  rw [pieces.eq_def]
  cases rest with
  | nil => rfl
  | cons e rest =>
    have he : e ≠ '\\' := fun he => h (by rw [he]; rfl)
    simp [he]

/-- Three backslashes are one. -/
theorem pieces_triple (rest : Text) : pieces ('\\' :: '\\' :: '\\' :: rest) = .literal '\\' :: pieces rest := by
  rw [pieces.eq_def]
  simp

theorem pieces_ordinary {c : CodePoint} (hc : Ordinary c) (rest : Text) : pieces (c :: rest) = .literal c :: pieces rest := by
  obtain ⟨hs, hd, -⟩ := hc
  simp only [signs, List.mem_cons, List.not_mem_nil, or_false, not_or] at hs
  obtain ⟨h1, h2, h3, h4, h5⟩ := hs
  rw [pieces_ofPoint h5 (fun h => absurd h h1) (fun h => absurd h h3)]
  simp [Piece.ofPoint, h1, h2, h3, h4, hd]

theorem pieces_item {item : Item} (h : item.WellFormed) (rest : Text) :
    pieces (item.text ++ rest) = item.pieces ++ pieces rest := by
  cases item with
  | point c => exact pieces_ordinary h rest
  | range lo hi =>
    obtain ⟨hlo, hhi, -⟩ := h
    have hdash : pieces (('-' : CodePoint) :: hi :: rest) = .dash :: pieces (hi :: rest) :=
      pieces_ofPoint (by decide) (fun h => absurd h (by decide)) (fun h => absurd h (by decide))
    rw [pieces_ordinary hhi] at hdash
    exact (pieces_ordinary hlo _).trans (congrArg _ hdash)

theorem pieces_items {items : List Item} (h : ∀ item ∈ items, item.WellFormed) (rest : Text) :
    pieces (items.flatMap Item.text ++ rest) = items.flatMap Item.pieces ++ pieces rest := by
  induction items with
  | nil => rfl
  | cons item items ih =>
    rw [List.flatMap_cons, List.append_assoc, pieces_item (h item (by simp)), ih fun i hi => h i (.tail _ hi),
      List.flatMap_cons, List.append_assoc]

theorem pieces_element {e : Element} (h : e.WellFormed) {rest : Text}
    (hrun : e = .run → rest.head? ≠ some ('*' : CodePoint)) : pieces (e.text ++ rest) = e.pieces ++ pieces rest := by
  cases e with
  | anyRun => exact pieces_stars rest
  | run => exact pieces_ofPoint (by decide) (fun _ => hrun rfl) (fun h => absurd h (by decide))
  | one => exact pieces_ofPoint (by decide) (fun h => absurd h (by decide)) (fun h => absurd h (by decide))
  | set negated items =>
    obtain ⟨hne, hitems, hfirst⟩ := h
    have hclosing : pieces ((']' : CodePoint) :: rest) = .closing :: pieces rest :=
      pieces_ofPoint (by decide) (fun h => absurd h (by decide)) (fun h => absurd h (by decide))
    have hinner : pieces (items.flatMap Item.text ++ (']' : CodePoint) :: rest) =
        items.flatMap Item.pieces ++ .closing :: pieces rest := by
      rw [pieces_items hitems, hclosing]
    cases negated with
    | true =>
      have hopening := pieces_bracket_bang (items.flatMap Item.text ++ (']' : CodePoint) :: rest)
      rw [hinner] at hopening
      simpa [Element.text, Element.pieces] using hopening
    | false =>
      have hhead : (items.flatMap Item.text ++ (']' : CodePoint) :: rest).head? ≠ some ('!' : CodePoint) := by
        cases ht : items.flatMap Item.text with
        | nil =>
          have hend : some (']' : CodePoint) ≠ some ('!' : CodePoint) := by decide
          exact hend
        | cons c t => simpa [ht] using hfirst rfl
      have hopening := pieces_ofPoint (c := ('[' : CodePoint)) (by decide) (fun h => absurd h (by decide)) (fun _ => hhead)
      rw [hinner, show Piece.ofPoint '[' = .opening false from rfl] at hopening
      simpa [Element.text, Element.pieces] using hopening
  | escaped c => exact pieces_escaped h.1 h.2 rest
  | plain c =>
    simp only [Element.WellFormed, signs, List.mem_cons, List.not_mem_nil, or_false, not_or] at h
    exact pieces_ofPoint h.2.2.2.2 (fun hc => absurd hc h.1) (fun hc => absurd hc h.2.2.1)

/-- A well-formed glob falls into the pieces of its elements. -/
theorem pieces_spelling {es : List Element} (h : WellFormed es) : pieces (spelling es) = es.flatMap Element.pieces := by
  induction es with
  | nil => rfl
  | cons e es ih =>
    obtain ⟨he, hrun, hes⟩ := h
    have hcons : spelling (e :: es) = e.text ++ spelling es := rfl
    rw [hcons, pieces_element he hrun, ih hes, List.flatMap_cons]

/-! ### The parts of a well-formed glob -/

/-- The entry of an item. -/
def Item.entry : Item → SetItem
  | .point c => .point c
  | .range lo hi => .range lo hi

/-- The part of an element. -/
def Element.part (separators : Text) : Element → Part
  | .anyRun => .run .any
  | .run => .run (anyTest separators)
  | .one => .single (anyTest separators) []
  | .set negated items => .single (Reading.testOf negated (items.map Item.entry).reverse) separators
  | .escaped c | .plain c => .single (.point false c) []

theorem outside_plain {c : CodePoint} (hc : c ∉ signs) :
    (Piece.ofPoint c).outside separators = .inl (.single (.point false c) []) := by
  simp only [signs, List.mem_cons, List.not_mem_nil, or_false, not_or] at hc
  obtain ⟨h1, h2, h3, h4, -⟩ := hc
  by_cases hd : c = '-'
  · rw [hd]
    rfl
  · simp [Piece.ofPoint, h1, h2, h3, h4, hd, Piece.outside]

/-- Items become entries of a set up to its closing bracket. -/
theorem entries_items {items : List Item} (h : ∀ item ∈ items, item.WellFormed) (its : List SetItem)
    (hne : its ≠ [] ∨ items ≠ []) (rest : List Symbol) :
    Symbol.entries its (symbolsOf separators (items.flatMap Item.pieces) ++ .mark .endBracket :: rest) =
      some ((items.map Item.entry).reverse ++ its, rest) := by
  induction items generalizing its with
  | nil => exact Symbol.entries_end (hne.resolve_right (by simp)) rest
  | cons item items ih =>
    have hitems := ih (fun i hi => h i (.tail _ hi)) (item.entry :: its) (.inl (by simp))
    have hcons : ((item :: items).map Item.entry).reverse ++ its =
        (items.map Item.entry).reverse ++ item.entry :: its := by
      simp
    rw [hcons, ← hitems]
    cases item with
    | point c =>
      -- the next symbol is a quoted one or the closing bracket, never a dash
      refine Symbol.entries_point its (x := .quoted c) (by simp) fun y ys => ?_
      cases items with
      | nil => simp
      | cons item items => cases item <;> simp [Item.pieces, Piece.symbols]
    | range lo up =>
      obtain ⟨-, -, hle⟩ : Item.WellFormed (.range lo up) := h _ (by simp)
      exact Symbol.entries_range its (x := .quoted lo) (y := .quoted up) (by simp) (by simp) hle _

/-- The pieces of items do not end a bracket. -/
theorem ending_items {items : List Item} :
    ∀ p ∈ items.flatMap Item.pieces, ∀ inner, p.ending separators inner = none := by
  intro p hp inner
  obtain ⟨item, -, hp⟩ := List.mem_flatMap.mp hp
  cases item with
  | point c =>
    obtain rfl := List.mem_singleton.mp hp
    rfl
  | range lo up =>
    obtain rfl | rfl | rfl : p = .literal lo ∨ p = .dash ∨ p = .literal up := by simpa [Item.pieces] using hp
    all_goals rfl

/-- An element is read as its part. -/
theorem parts_element {e : Element} (h : e.WellFormed) (ps : List Piece) :
    parts separators none (e.pieces ++ ps) = (parts separators none ps).map (e.part separators :: ·) := by
  cases e with
  | set negated items =>
    obtain ⟨hne, hitems, -⟩ := h
    have hpieces : items.flatMap Item.pieces ≠ [] := by
      obtain ⟨item, items, rfl⟩ := List.exists_cons_of_ne_nil hne
      cases item <;> simp [Item.pieces]
    have htest : bracketTest separators negated (items.flatMap Item.pieces ++ [.closing]) =
        some (Reading.testOf negated (items.map Item.entry).reverse) := by
      have hentries := entries_items separators hitems [] (.inr hne) (separators.flatMap Reading.guard)
      simp only [bracketTest, symbolsOf_append, symbolsOf_cons, symbolsOf_nil, List.append_nil, Piece.symbols, hentries]
      rfl
    have hset : (Element.set negated items).pieces ++ ps =
        .opening negated :: (items.flatMap Item.pieces ++ .closing :: ps) := by
      simp [Element.pieces]
    rw [hset, parts]
    simp only [Piece.outside, parts_inner separators (ending_items separators), List.nil_append]
    simp only [parts, Piece.ending, hpieces, if_false, htest]
    rfl
  | plain c =>
    rw [Element.pieces, List.cons_append, parts, outside_plain separators h]
    rfl
  | _ => rfl

/-- A well-formed glob has the parts of its elements. -/
theorem partsOf_spelling {es : List Element} (h : WellFormed es) :
    partsOf separators (spelling es) = some (es.map (Element.part separators)) := by
  rw [partsOf, pieces_spelling h]
  induction es with
  | nil => rfl
  | cons e es ih =>
    rw [List.flatMap_cons, parts_element separators h.1, ih h.2.2]
    rfl

/-! ### Meaning -/

variable {separators caseFold}

theorem holds_entry {item : Item} (h : item.WellFormed) {c : CodePoint} :
    item.entry.holds (mode caseFold) c = true ↔ item.Has caseFold c := by
  cases item with
  | point x =>
    rw [Item.entry, holds_point (unicode_mode caseFold), ignoreCase_mode]
    rfl
  | range lo up =>
    have hup : up.val ≤ 0xFFFF := Nat.le_of_lt_succ h.2.1.2.2
    rw [Item.entry, holds_range (unicode_mode caseFold) hup, ignoreCase_mode]
    rfl

theorem holds_set {items : List Item} (h : ∀ item ∈ items, item.WellFormed) (negated : Bool) {c : CodePoint} :
    (Reading.testOf negated (items.map Item.entry).reverse).holds (mode caseFold) c = true ↔
      ((∃ item ∈ items, item.Has caseFold c) ↔ negated = false) := by
  have hany : (items.map Item.entry).reverse.any (·.holds (mode caseFold) c) = true ↔
      ∃ item ∈ items, item.Has caseFold c := by
    simp only [List.any_eq_true, List.mem_reverse, List.mem_map]
    constructor
    · rintro ⟨_, ⟨item, hi, rfl⟩, hc⟩
      exact ⟨item, hi, (holds_entry (h item hi)).mp hc⟩
    · rintro ⟨item, hi, hc⟩
      exact ⟨_, ⟨item, hi, rfl⟩, (holds_entry (h item hi)).mpr hc⟩
  rw [holds_testOf (unicode_mode caseFold), ← hany]
  cases negated <;> simp

/-- The part of an element takes what the element takes, where there is no newline. -/
theorem takes_part {e : Element} (h : e.WellFormed) {t : Text} (ht : ('\n' : CodePoint) ∉ t) :
    (e.part separators).Takes (mode caseFold) t ↔ e.Takes separators caseFold t := by
  have hdot : (mode caseFold).dotAll = false := by rw [mode_eq]
  have hpoint : ∀ x : CodePoint, (Part.single (.point false x) []).Takes (mode caseFold) t ↔
      ∃ c, t = [c] ∧ Alike caseFold x c := fun x => by
    simp [Part.Takes, CharTest.holds, same_iff_alike]
  cases e with
  | anyRun =>
    have hany : ∀ c ∈ t, CharTest.any.holds (mode caseFold) c = true := fun c hc => by
      have hne : c ≠ '\n' := fun hn => ht (hn ▸ hc)
      simp [CharTest.holds, hne]
    exact ⟨fun _ => trivial, fun _ => hany⟩
  | run =>
    have hany : ∀ c ∈ t, (anyTest separators).holds (mode caseFold) c = true ↔ ¬IsSeparator separators caseFold c := by
      intro c hc
      have hne : c ≠ '\n' := fun hn => ht (hn ▸ hc)
      rw [holds_anyTest, and_iff_left fun _ => hne]
    exact forall₂_congr hany
  | one =>
    constructor
    · rintro ⟨c, rfl, hc, -⟩
      exact ⟨c, rfl, (holds_anyTest separators).mp hc |>.1⟩
    · rintro ⟨c, rfl, hc⟩
      have hne : c ≠ '\n' := fun hn => ht (by simp [hn])
      exact ⟨c, rfl, (holds_anyTest separators).mpr ⟨hc, fun _ => hne⟩, by simp⟩
  | set negated items =>
    obtain ⟨-, hitems, -⟩ := h
    simp only [Element.part, Part.Takes, Element.Takes, holds_set hitems, guards_iff]
    constructor
    · rintro ⟨c, rfl, hset, hguards⟩
      exact ⟨c, rfl, hguards, hset⟩
    · rintro ⟨c, rfl, hguards, hset⟩
      exact ⟨c, rfl, hset, hguards⟩
  | escaped x => exact hpoint x
  | plain x => exact hpoint x

/-- The parts of elements cover what is cut into pieces that the elements take. -/
theorem covers_iff_splits {es : List Element} (h : WellFormed es) {t : Text} (ht : ('\n' : CodePoint) ∉ t) :
    Covers (mode caseFold) (es.map (Element.part separators)) t ↔ Splits separators caseFold es t := by
  induction es generalizing t with
  | nil =>
    rw [List.map_nil, covers_nil_iff]
    constructor
    · rintro rfl
      exact .nil
    · intro hs
      cases hs
      rfl
  | cons e es ih =>
    rw [List.map_cons, covers_cons_iff]
    constructor
    · rintro ⟨u, v, rfl, hu, hv⟩
      rw [List.mem_append, not_or] at ht
      exact .cons ((takes_part h.1 ht.1).mp hu) ((ih h.2.2 ht.2).mp hv)
    · intro hs
      cases hs with
      | @cons _ _ u v hu hv =>
        rw [List.mem_append, not_or] at ht
        exact ⟨u, v, rfl, (takes_part h.1 ht.1).mpr hu, (ih h.2.2 ht.2).mpr hv⟩

/-- A well-formed glob always gives an answer: a subject without a newline matches exactly when it is cut into pieces
that the elements of the glob take in their order. -/
theorem matchesText_spelling (es : List Element) (h : WellFormed es) (separators : Text) (caseFold : Bool) (s : Text)
    (hs : ('\n' : CodePoint) ∉ s) : ∃ found,
    (compile (spelling es) separators caseFold).matchesText s = .ok found ∧
      (found = true ↔ Splits separators caseFold es s) := by
  obtain ⟨found, hf, hfits⟩ := matchesText_compile separators (spelling es) caseFold (partsOf_spelling separators h) s
  refine ⟨found, hf, hfits.trans ?_⟩
  rw [← covers_iff_splits h hs]
  constructor
  · rintro ⟨u, hu, rfl | rfl⟩
    · exact hu
    · exact absurd (by simp) hs
  · exact fun hu => ⟨s, hu, .inl rfl⟩

theorem matchesText_range_run :
    (compile (spelling [.set false [.range 'a' 'f'], .run]) ['/', 'Z'] true).matchesText ['D', '.', 'y'] = .ok true := by
  have hw : WellFormed [.set false [.range 'a' 'f'], .run] := by
    simp only [WellFormed, Element.WellFormed, Item.WellFormed, List.mem_singleton, forall_eq]
    decide
  obtain ⟨found, hf, hiff⟩ := matchesText_spelling _ hw ['/', 'Z'] true ['D', '.', 'y'] (by decide)
  have hsep : ∀ c : CodePoint, ¬c.asciiLower = '/' → ¬c.asciiLower = 'z' → ¬IsSeparator ['/', 'Z'] true c := by
    intro c h1 h2
    have hz : CodePoint.asciiLower 'Z' = 'z' := by decide
    have hslash : CodePoint.asciiLower '/' = '/' := by decide
    simp [IsSeparator, Alike, hz, hslash, Ne.symm h1, Ne.symm h2]
  have hrange : Item.Has true 'D' (.range 'a' 'f') := ⟨'d', by decide, by decide, by decide⟩
  have hset : (Element.set false [.range 'a' 'f']).Takes ['/', 'Z'] true ['D'] :=
    ⟨'D', rfl, hsep 'D' (by decide) (by decide), iff_of_true ⟨_, by simp, hrange⟩ rfl⟩
  have hrun : Element.run.Takes ['/', 'Z'] true ['.', 'y'] := by
    simp only [Element.Takes, List.mem_cons, List.not_mem_nil, or_false, forall_eq_or_imp, forall_eq]
    exact ⟨hsep '.' (by decide) (by decide), hsep 'y' (by decide) (by decide)⟩
  rw [hf, hiff.mpr (.cons (t := ['D']) hset (.cons (t := ['.', 'y']) hrun .nil))]

end FileSieve.Glob
