import FileSieve.Proofs.Glob.Compile

/-!
# What a glob can put into a pattern

A glob from anyone is safe to compile when no run of backslashes, no bracket and no other code point of it reaches
the engine with a meaning that the table of replacements does not give it. The pieces of a glob settle that: the
regular expression is one text after the other, and each of them is a quoted code point or stands in the table
(`Emitted`). Faults can only come from a bracket, so a glob without one always gives a pattern that answers.
-/

namespace FileSieve.Glob

open Regex

/-- A text that a piece of a glob may become in the regular expression. -/
inductive Emitted (separators : Text) : Text → Prop
  /-- A special code point behind a backslash. -/
  | escaped {c : CodePoint} (hc : c ∈ specials) : Emitted separators ['\\', c]
  /-- NUL by its octal number. -/
  | nul : Emitted separators "\\000"
  /-- A code point without a meaning. -/
  | plain {c : CodePoint} (hc : c ∉ specials) (h0 : c.val ≠ 0) : Emitted separators [c]
  /-- Any run. -/
  | anyRun : Emitted separators ".*"
  /-- Any code point, where there are no separators. -/
  | anyPoint (h : separators = []) : Emitted separators "."
  /-- One code point that is no separator. -/
  | noSeparator (h : separators ≠ []) : Emitted separators ("[^" ++ separators.quotedLiteral ++ "]")
  /-- A run without separators. -/
  | noSeparators (h : separators ≠ []) : Emitted separators ("[^" ++ separators.quotedLiteral ++ "]*")
  /-- The opening of a bracket. -/
  | opening : Emitted separators "["
  /-- The opening of a negated bracket. -/
  | negated : Emitted separators "[^"
  /-- A dash. -/
  | dash : Emitted separators "-"
  /-- The closing of a bracket, with a look-behind for each separator. -/
  | closing : Emitted separators ("]" ++ separators.flatMap fun c => ("(?<!" ++ quotePoint [] c ++ ")" : Text))

variable {separators : Text}

/-! ### One piece -/

theorem emitted_quotePoint (c : CodePoint) : Emitted separators (quotePoint [] c) := by
  by_cases hs : c ∈ specials
  · rw [quotePoint_special hs]
    exact .escaped hs
  by_cases h0 : c.val = 0
  · rw [quotePoint_nul hs h0]
    exact .nul
  · rw [quotePoint_plain hs h0]
    exact .plain hs h0

theorem anyPoint_ofText (h : separators ≠ []) :
    (Separators.ofText separators).anyPoint = "[^" ++ separators.quotedLiteral ++ "]" := by
  simp [Separators.anyPoint, Separators.ofText, h]

theorem emitted_one : Emitted separators (Symbol.textOf (Piece.one.symbols separators)) := by
  rw [Piece.symbols, textOf_anySymbols]
  by_cases h : separators = []
  · subst h
    exact .anyPoint rfl
  · rw [anyPoint_ofText h]
    exact .noSeparator h

theorem emitted_run : Emitted separators (Symbol.textOf (Piece.run.symbols separators)) := by
  rw [textOf_run, Separators.anyRun]
  by_cases h : separators = []
  · subst h
    exact .anyRun
  · rw [anyPoint_ofText h, List.append_assoc]
    exact .noSeparators h

theorem emitted_closing : Emitted separators (Symbol.textOf (Piece.closing.symbols separators)) := by
  have hguards : Symbol.textOf (separators.flatMap Reading.guard) =
      separators.flatMap fun c => ("(?<!" ++ quotePoint [] c ++ ")" : Text) := by
    rw [textOf_guards, Separators.ofText, List.flatMap_map]
    simp [Text.quotedLiteral]
  rw [Piece.symbols, Symbol.textOf_cons, hguards]
  exact .closing

theorem emitted_piece (p : Piece) : Emitted separators (Symbol.textOf (p.symbols separators)) := by
  cases p with
  | literal c => simpa [Piece.symbols, Symbol.text] using emitted_quotePoint c
  | dash => exact .dash
  | anyRun => exact .anyRun
  | run => exact emitted_run
  | one => exact emitted_one
  | opening negated =>
    cases negated
    · exact .opening
    · exact .negated
  | closing => exact emitted_closing

/-! ### Globs without brackets -/

theorem ofPoint_ne_opening {c : CodePoint} (hc : c ≠ '[') (negated : Bool) : Piece.ofPoint c ≠ .opening negated := by
  unfold Piece.ofPoint
  split_ifs <;> simp

/-- Only an opening bracket of the glob is a piece that opens one. -/
theorem opening_notMem_pieces {glob : Text} (h : ('[' : CodePoint) ∉ glob) (negated : Bool) :
    .opening negated ∉ pieces glob := by
  intro hp
  rcases from_of_mem hp with ⟨c, hc, hliteral | hpoint⟩ | ⟨hstars, -⟩ | ⟨-, hnegation⟩
  · cases hliteral
  · exact ofPoint_ne_opening (fun hbracket => h (hbracket ▸ hc)) negated hpoint.symm
  · cases hstars
  · exact h (hnegation.subset List.mem_cons_self)

/-- Pieces that open no bracket are all parts. -/
theorem isSome_parts {ps : List Piece} (h : ∀ negated, .opening negated ∉ ps) :
    (parts separators none ps).isSome = true := by
  induction ps with
  | nil => rfl
  | cons p ps ih =>
    have hps := ih fun negated hm => h negated (.tail _ hm)
    cases hp : p.outside separators with
    | inl part => simpa [parts, hp] using hps
    | inr negated => exact absurd (outside_inr separators hp ▸ List.mem_cons_self) (h negated)

variable (glob separators)

/-- The regular expression of a glob is made of quoted code points and of what stands in the table alone; without an
opening bracket it is always valid, and every text is matched or not. -/
theorem toRegex_emitted :
    (∃ texts : List Text, toRegex glob separators = texts.flatten ∧ ∀ t ∈ texts, Emitted separators t) ∧
      (('[' : CodePoint) ∉ glob → ∀ caseFold, (compile glob separators caseFold).isWellFormed = .ok true ∧
        ∀ s, ∃ found, (compile glob separators caseFold).matchesText s = .ok found) := by
  refine ⟨⟨(pieces glob).map fun p => Symbol.textOf (p.symbols separators), ?_, ?_⟩, fun h caseFold => ?_⟩
  · rw [toRegex_eq]
    induction pieces glob with
    | nil => rfl
    | cons p ps ih => simp [ih]
  · intro t ht
    obtain ⟨p, -, rfl⟩ := List.mem_map.mp ht
    exact emitted_piece p
  · have hparts : (parts separators none (pieces glob)).isSome = true := isSome_parts (opening_notMem_pieces h)
    obtain ⟨row, hrow⟩ := Option.isSome_iff_exists.mp hparts
    refine ⟨by rw [isWellFormed_compile, partsOf, hrow]; rfl, fun s => ?_⟩
    obtain ⟨found, hfound, -⟩ := matchesText_compile separators glob caseFold hrow s
    exact ⟨found, hfound⟩

/-- A closing bracket and a backslash at the end do no harm. -/
theorem toRegex_emitted_stray :
    ('[' : CodePoint) ∉ ([']', '\\'] : Text) ∧ (compile [']', '\\'] ['/'] true).isWellFormed = .ok true :=
  ⟨by decide, ((toRegex_emitted ['/'] [']', '\\']).2 (by decide) true).1⟩

end FileSieve.Glob
