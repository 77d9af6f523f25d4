import FileSieve.Glob.Compile
import FileSieve.Proofs.Pattern.Substitution
import FileSieve.Proofs.Regex.Reading

/-!
# The pieces of a glob

A glob is quoted as a whole and then the quoted wildcards are replaced, the longest first. Read from the left the
glob itself falls into pieces: wildcards, the opening and the closing of brackets, dashes, and literal code
points (`pieces`). Backslashes are looked at in threes: three are one literal backslash, and so are two; one
takes the meaning away from a special code point behind it and is literal before any other.

`toRegex_eq` says that the regular expression is the text of the symbols that the pieces stand for, for every
glob and all separators: no run of backslashes brings the replacement out of step with the pieces.
-/

namespace FileSieve

theorem CodePoint.ofChar_inj {a b : Char} : CodePoint.ofChar a = CodePoint.ofChar b ↔ a = b := by
  refine ⟨fun h => ?_, fun h => h ▸ rfl⟩
  have hv : a.toNat = b.toNat := by simpa [CodePoint.ofChar] using congrArg Fin.val h
  exact Char.toNat_inj.mp hv

namespace Glob

open Regex

/-! ### Pieces -/

/-- A piece of a glob. -/
inductive Piece where
  /-- A code point that stands for itself. -/
  | literal (c : CodePoint)
  /-- A dash. -/
  | dash
  /-- Two stars: any run. -/
  | anyRun
  /-- A star: a run without separators. -/
  | run
  /-- A question mark: one code point that is no separator. -/
  | one
  /-- The opening of a bracket. -/
  | opening (negated : Bool)
  /-- The closing of a bracket. -/
  | closing
  deriving DecidableEq

/-- The piece of a code point that has none behind it to take into account. -/
def Piece.ofPoint (c : CodePoint) : Piece :=
  if c = '*' then .run
  else if c = '?' then .one
  else if c = '[' then .opening false
  else if c = '-' then .dash
  else if c = ']' then .closing
  else .literal c

/-- The pieces of a glob. -/
def pieces : Text → List Piece
  | [] => []
  | [c] => [Piece.ofPoint c]
  | c :: d :: rest =>
    if c = '\\' then
      if d = '\\' then
        .literal '\\' :: match rest with
          | [] => []
          | e :: rest' => if e = '\\' then pieces rest' else pieces (e :: rest')
      else if d ∈ specials ∨ d.val = 0 then .literal d :: pieces rest
      else .literal '\\' :: pieces (d :: rest)
    else if c = '*' ∧ d = '*' then .anyRun :: pieces rest
    else if c = '[' ∧ d = '!' then .opening true :: pieces rest
    else Piece.ofPoint c :: pieces (d :: rest)

/-- What a piece of a glob comes from: a code point of the glob, taken as it stands or for what it means alone, or two
adjacent ones. -/
def Piece.From (glob : Text) (p : Piece) : Prop :=
  (∃ c ∈ glob, p = .literal c ∨ p = Piece.ofPoint c) ∨ p = .anyRun ∧ (['*', '*'] : Text) <:+: glob ∨
    p = .opening true ∧ (['[', '!'] : Text) <:+: glob

theorem Piece.From.mono {s t : Text} {p : Piece} (h : p.From s) (hst : s <:+ t) : p.From t := by
  rcases h with ⟨c, hc, hp⟩ | ⟨hp, hin⟩ | ⟨hp, hin⟩
  · exact .inl ⟨c, hst.subset hc, hp⟩
  · exact .inr (.inl ⟨hp, hin.trans hst.isInfix⟩)
  · exact .inr (.inr ⟨hp, hin.trans hst.isInfix⟩)

/-- Every piece of a glob comes from it. -/
theorem from_of_mem {glob : Text} {p : Piece} (hp : p ∈ pieces glob) : p.From glob := by
  have hone (c : CodePoint) (rest : Text) : rest <:+ c :: rest := List.suffix_cons c rest
  have htwo (c d : CodePoint) (rest : Text) : rest <:+ c :: d :: rest := (hone d rest).trans (hone c _)
  fun_induction pieces glob with
  | case1 => exact absurd hp List.not_mem_nil
  | case2 c => exact .inl ⟨c, by simp, .inr (List.mem_singleton.mp hp)⟩
  | case3 rest ih =>
    rcases List.mem_cons.mp hp with rfl | hp
    · exact .inl ⟨_, List.mem_cons_self, .inl rfl⟩
    · cases rest with
      | nil => exact absurd hp List.not_mem_nil
      | cons e rest =>
        simp only at hp ih
        split_ifs at hp with he
        · exact (ih.1 hp).mono ((hone e rest).trans (htwo _ _ _))
        · exact (ih.2 hp).mono (htwo _ _ _)
  | case4 d rest hd hs ih =>
    rcases List.mem_cons.mp hp with rfl | hp
    · exact .inl ⟨d, by simp, .inl rfl⟩
    · exact (ih hp).mono (htwo _ _ _)
  | case5 d rest hd hs ih =>
    rcases List.mem_cons.mp hp with rfl | hp
    · exact .inl ⟨_, List.mem_cons_self, .inl rfl⟩
    · exact (ih hp).mono (hone _ _)
  | case6 c d rest hc hs ih =>
    rcases List.mem_cons.mp hp with rfl | hp
    · obtain ⟨rfl, rfl⟩ := hs
      exact .inr (.inl ⟨rfl, [], rest, rfl⟩)
    · exact (ih hp).mono (htwo _ _ _)
  | case7 c d rest hc _ hs ih =>
    rcases List.mem_cons.mp hp with rfl | hp
    · obtain ⟨rfl, rfl⟩ := hs
      exact .inr (.inr ⟨rfl, [], rest, rfl⟩)
    · exact (ih hp).mono (htwo _ _ _)
  | case8 c d rest hc hstars hbang ih =>
    rcases List.mem_cons.mp hp with rfl | hp
    · exact .inl ⟨c, List.mem_cons_self, .inr rfl⟩
    · exact (ih hp).mono (hone _ _)

/-- The symbols for one code point that is no separator. -/
def anySymbols (separators : Text) : List Symbol :=
  if separators = [] then [.mark .dot]
  else .mark .bracket :: .mark .caret :: (separators.map .quoted ++ [.mark .endBracket])

/-- The symbols of a piece. -/
def Piece.symbols (separators : Text) : Piece → List Symbol
  | .literal c => [.quoted c]
  | .dash => [.mark .dash]
  | .anyRun => [.mark .dot, .mark .star]
  | .run => anySymbols separators ++ [.mark .star]
  | .one => anySymbols separators
  | .opening false => [.mark .bracket]
  | .opening true => [.mark .bracket, .mark .caret]
  | .closing => .mark .endBracket :: separators.flatMap Reading.guard

/-- The symbols of pieces. -/
def symbolsOf (separators : Text) (ps : List Piece) : List Symbol :=
  ps.flatMap (Piece.symbols separators)

@[simp] theorem symbolsOf_nil (separators : Text) : symbolsOf separators [] = [] := rfl

@[simp] theorem symbolsOf_cons (separators : Text) (p : Piece) (ps : List Piece) :
    symbolsOf separators (p :: ps) = p.symbols separators ++ symbolsOf separators ps := rfl

@[simp] theorem symbolsOf_append (separators : Text) (ps qs : List Piece) :
    symbolsOf separators (ps ++ qs) = symbolsOf separators ps ++ symbolsOf separators qs := by
  simp [symbolsOf]

/-! ### The texts of the replacements -/

variable (separators : Text)

theorem textOf_anySymbols : Symbol.textOf (anySymbols separators) = (Separators.ofText separators).anyPoint := by
  cases separators with
  | nil => rfl
  | cons c cs =>
    rw [anySymbols, if_neg (by simp), Symbol.textOf_cons, Symbol.textOf_cons, Symbol.textOf_append,
      Symbol.textOf_quoted]
    rfl

theorem textOf_guards : Symbol.textOf (separators.flatMap Reading.guard) =
    ((Separators.ofText separators).each.flatMap fun c : Text => ("(?<!" ++ c ++ ")" : Text)) := by
  induction separators with
  | nil => rfl
  | cons c cs ih =>
    have hc : Text.quotedLiteral [c] = quotePoint [] c := by simp [Text.quotedLiteral]
    have hg : Symbol.textOf (Reading.guard c) = ("(?<!" ++ quotePoint [] c ++ ")" : Text) := rfl
    rw [List.flatMap_cons, Symbol.textOf_append, ih, hg]
    simp [Separators.ofText, hc]

theorem textOf_run : Symbol.textOf (Piece.run.symbols separators) = (Separators.ofText separators).anyRun := by
  rw [Piece.symbols, Symbol.textOf_append, textOf_anySymbols]
  rfl

theorem textOf_closing :
    Symbol.textOf (Piece.closing.symbols separators) = (Separators.ofText separators).bracketEnd := by
  rw [Piece.symbols, Symbol.textOf_cons, textOf_guards]
  rfl

/-! ### Replacing the quoted wildcards -/

/-- The table of replacements. -/
abbrev replacements : Substitution := (Separators.ofText separators).table

/-- The replacements with their keys spelled out. -/
theorem replacements_eq : replacements separators =
    [(.ofChars ['\\', '*', '\\', '*'], (".*" : Text)),
      (.ofChars ['\\', '*'], (Separators.ofText separators).anyRun),
      (.ofChars ['\\', '?'], (Separators.ofText separators).anyPoint),
      (.ofChars ['\\', '[', '\\', '!'], ("[^" : Text)),
      (.ofChars ['\\', '['], ("[" : Text)),
      (.ofChars ['\\', '-'], ("-" : Text)),
      (.ofChars ['\\', ']'], (Separators.ofText separators).bracketEnd),
      (.ofChars ['\\', '\\', '\\'], ("\\" : Text))] := rfl

/-- No key starts with anything but a backslash. -/
theorem walk_plain {c : CodePoint} (hc : c ≠ '\\') (rest : Text) :
    Substitution.walk (replacements separators) (c :: rest) 0 =
      c :: Substitution.walk (replacements separators) rest 0 := by
  refine Substitution.walk_copy ?_
  have h : ('\\' : CodePoint) ≠ c := hc.symm
  simp [replacements_eq, Substitution.longest?, Text.ofChars, h]

theorem walk_stars (rest : Text) :
    Substitution.walk (replacements separators) ('\\' :: '*' :: '\\' :: '*' :: rest) 0 =
      ".*" ++ Substitution.walk (replacements separators) rest 0 := by
  refine Substitution.walk_key ['*', '\\', '*'] ?_
  simp [replacements_eq, Substitution.longest?, Text.ofChars, CodePoint.ofChar_inj]

theorem walk_star {rest : Text} (h : ¬Text.ofChars ['\\', '*'] <+: rest) :
    Substitution.walk (replacements separators) ('\\' :: '*' :: rest) 0 =
      (Separators.ofText separators).anyRun ++ Substitution.walk (replacements separators) rest 0 := by
  refine Substitution.walk_key ['*'] ?_
  simp only [Text.ofChars, List.map_cons, List.map_nil] at h
  simp [replacements_eq, Substitution.longest?, Text.ofChars, CodePoint.ofChar_inj, h]

theorem walk_question (rest : Text) :
    Substitution.walk (replacements separators) ('\\' :: '?' :: rest) 0 =
      (Separators.ofText separators).anyPoint ++ Substitution.walk (replacements separators) rest 0 := by
  refine Substitution.walk_key ['?'] ?_
  simp [replacements_eq, Substitution.longest?, Text.ofChars, CodePoint.ofChar_inj]

theorem walk_bracket_bang (rest : Text) :
    Substitution.walk (replacements separators) ('\\' :: '[' :: '\\' :: '!' :: rest) 0 =
      "[^" ++ Substitution.walk (replacements separators) rest 0 := by
  refine Substitution.walk_key ['[', '\\', '!'] ?_
  simp [replacements_eq, Substitution.longest?, Text.ofChars, CodePoint.ofChar_inj]

theorem walk_bracket {rest : Text} (h : ¬Text.ofChars ['\\', '!'] <+: rest) :
    Substitution.walk (replacements separators) ('\\' :: '[' :: rest) 0 =
      "[" ++ Substitution.walk (replacements separators) rest 0 := by
  refine Substitution.walk_key ['['] ?_
  simp only [Text.ofChars, List.map_cons, List.map_nil] at h
  simp [replacements_eq, Substitution.longest?, Text.ofChars, CodePoint.ofChar_inj, h]

theorem walk_dash (rest : Text) :
    Substitution.walk (replacements separators) ('\\' :: '-' :: rest) 0 =
      "-" ++ Substitution.walk (replacements separators) rest 0 := by
  refine Substitution.walk_key ['-'] ?_
  simp [replacements_eq, Substitution.longest?, Text.ofChars, CodePoint.ofChar_inj]

theorem walk_endBracket (rest : Text) :
    Substitution.walk (replacements separators) ('\\' :: ']' :: rest) 0 =
      (Separators.ofText separators).bracketEnd ++ Substitution.walk (replacements separators) rest 0 := by
  refine Substitution.walk_key [']'] ?_
  simp [replacements_eq, Substitution.longest?, Text.ofChars, CodePoint.ofChar_inj]

theorem walk_backslashes (rest : Text) :
    Substitution.walk (replacements separators) ('\\' :: '\\' :: '\\' :: rest) 0 =
      "\\" ++ Substitution.walk (replacements separators) rest 0 := by
  refine Substitution.walk_key ['\\', '\\'] ?_
  simp [replacements_eq, Substitution.longest?, Text.ofChars, CodePoint.ofChar_inj]

/-- A backslash is kept before another one that no third one follows. -/
theorem walk_backslash_pair {rest : Text} (h : rest.head? ≠ some ('\\' : CodePoint)) :
    Substitution.walk (replacements separators) ('\\' :: '\\' :: rest) 0 =
      ("\\" : Text) ++ Substitution.walk (replacements separators) ('\\' :: rest) 0 := by
  refine Substitution.walk_copy ?_
  have hthree : ¬Text.ofChars ['\\'] <+: rest := by
    rintro ⟨u, rfl⟩
    exact h rfl
  simp only [Text.ofChars, List.map_cons, List.map_nil] at hthree
  simp [replacements_eq, Substitution.longest?, Text.ofChars, CodePoint.ofChar_inj, hthree]

/-- A backslash is kept before a code point that makes no key with it. -/
theorem walk_backslash_plain {c : CodePoint}
    (h : c ≠ '*' ∧ c ≠ '?' ∧ c ≠ '[' ∧ c ≠ '-' ∧ c ≠ ']' ∧ c ≠ '\\') (rest : Text) :
    Substitution.walk (replacements separators) ('\\' :: c :: rest) 0 =
      ("\\" : Text) ++ c :: Substitution.walk (replacements separators) rest 0 := by
  obtain ⟨h1, h2, h3, h4, h5, h6⟩ := h
  rw [Substitution.walk_copy, walk_plain separators h6]
  · rfl
  · simp [replacements_eq, Substitution.longest?, Text.ofChars, h1.symm, h2.symm, h3.symm, h4.symm, h5.symm, h6.symm]

theorem walk_backslash_end : Substitution.walk (replacements separators) ['\\'] 0 = ("\\" : Text) := by
  refine Substitution.walk_copy ?_
  simp [replacements_eq, Substitution.longest?, Text.ofChars]

/-! ### The whole glob -/

theorem quotedLiteral_cons (c : CodePoint) (t : Text) :
    Text.quotedLiteral (c :: t) = quotePoint [] c ++ Text.quotedLiteral t := by
  simp [Text.quotedLiteral]

theorem quotePoint_special {c : CodePoint} (h : c ∈ specials) : quotePoint [] c = [('\\' : CodePoint), c] := by
  simp [quotePoint, isQuoted, h]

theorem quotePoint_nul {c : CodePoint} (h : c ∉ specials) (h0 : c.val = 0) :
    quotePoint [] c = [('\\' : CodePoint), ('0' : CodePoint), ('0' : CodePoint), ('0' : CodePoint)] := by
  simp only [quotePoint, isQuoted, h0]
  simp [h]
  rfl

theorem quotePoint_plain {c : CodePoint} (h : c ∉ specials) (h0 : c.val ≠ 0) : quotePoint [] c = [c] := by
  simp [quotePoint, isQuoted, h, h0]

/-- A quoted text begins with a quoted special code point only if the text begins with that code point. -/
theorem head_of_quoted {c d : CodePoint} {t : Text} (hd : d ∈ specials)
    (h : [('\\' : CodePoint), d] <+: Text.quotedLiteral (c :: t)) : c = d := by
  obtain ⟨u, hu⟩ := h
  rw [quotedLiteral_cons] at hu
  by_cases hs : c ∈ specials
  · rw [quotePoint_special hs] at hu
    exact (List.cons.inj (List.cons.inj hu).2).1.symm
  by_cases h0 : c.val = 0
  · rw [quotePoint_nul hs h0] at hu
    have hzero : d = '0' := (List.cons.inj (List.cons.inj hu).2).1
    exact absurd (hzero ▸ hd) (by decide)
  · rw [quotePoint_plain hs h0] at hu
    have hslash : ('\\' : CodePoint) = c := (List.cons.inj hu).1
    exact absurd (hslash ▸ (by decide : ('\\' : CodePoint) ∈ specials)) hs

/-- Quoted code points without a meaning in globs are kept. -/
theorem walk_quotePoint {c : CodePoint}
    (h : c ≠ '*' ∧ c ≠ '?' ∧ c ≠ '[' ∧ c ≠ '-' ∧ c ≠ ']' ∧ c ≠ '\\') (rest : Text) :
    Substitution.walk (replacements separators) (quotePoint [] c ++ rest) 0 =
      quotePoint [] c ++ Substitution.walk (replacements separators) rest 0 := by
  by_cases hs : c ∈ specials
  · rw [quotePoint_special hs]
    exact walk_backslash_plain separators h rest
  by_cases h0 : c.val = 0
  · have hzero : ('0' : CodePoint) ≠ '\\' := by decide
    rw [quotePoint_nul hs h0]
    simp only [List.cons_append, List.nil_append]
    rw [walk_backslash_plain separators (by decide), walk_plain separators hzero, walk_plain separators hzero]
    rfl
  · rw [quotePoint_plain hs h0]
    exact walk_plain separators h.2.2.2.2.2 rest

/-- A code point that has none behind it to take into account is replaced by what its piece stands for. -/
theorem walk_ofPoint {c : CodePoint} {rest : Text} (hc : c ≠ '\\')
    (hstar : c = '*' → ¬Text.ofChars ['\\', '*'] <+: rest)
    (hbracket : c = '[' → ¬Text.ofChars ['\\', '!'] <+: rest) :
    Substitution.walk (replacements separators) (quotePoint [] c ++ rest) 0 =
      Symbol.textOf ((Piece.ofPoint c).symbols separators) ++
        Substitution.walk (replacements separators) rest 0 := by
  have hspecial : ∀ d : CodePoint, c = d → d ∈ specials → quotePoint [] c ++ rest = ('\\' : CodePoint) :: c :: rest :=
    fun d h hd => by rw [quotePoint_special (h ▸ hd)]; rfl
  by_cases h1 : c = '*'
  · rw [hspecial _ h1 (by decide), h1, walk_star separators (hstar h1), show Piece.ofPoint '*' = .run from rfl,
      textOf_run]
  by_cases h2 : c = '?'
  · rw [hspecial _ h2 (by decide), h2, walk_question, show Piece.ofPoint '?' = .one from rfl, Piece.symbols,
      textOf_anySymbols]
  by_cases h3 : c = '['
  · rw [hspecial _ h3 (by decide), h3, walk_bracket separators (hbracket h3)]
    rfl
  by_cases h4 : c = '-'
  · rw [hspecial _ h4 (by decide), h4, walk_dash]
    rfl
  by_cases h5 : c = ']'
  · rw [hspecial _ h5 (by decide), h5, walk_endBracket, show Piece.ofPoint ']' = .closing from rfl, textOf_closing]
  · rw [walk_quotePoint separators ⟨h1, h2, h3, h4, h5, hc⟩]
    simp [Piece.ofPoint, h1, h2, h3, h4, h5, Piece.symbols, Symbol.text]

/-- A backslash that no other one follows is kept before a quoted text. -/
theorem walk_backslash_quoted {t : Text} (h : t.head? ≠ some ('\\' : CodePoint)) :
    Substitution.walk (replacements separators) ('\\' :: Text.quotedLiteral t) 0 =
      ("\\" : Text) ++ Substitution.walk (replacements separators) (Text.quotedLiteral t) 0 := by
  cases t with
  | nil => exact walk_backslash_end separators
  | cons c t =>
    have hc : c ≠ '\\' := fun hc => h (by rw [hc]; rfl)
    rw [quotedLiteral_cons]
    by_cases hs : c ∈ specials
    · rw [quotePoint_special hs]
      exact walk_backslash_pair separators (by simpa using hc)
    by_cases h0 : c.val = 0
    · rw [quotePoint_nul hs h0]
      have hzero : some ('0' : CodePoint) ≠ some ('\\' : CodePoint) := by decide
      exact walk_backslash_pair separators hzero
    · have hne : ∀ d ∈ specials, c ≠ d := fun d => ne_of_special hs
      rw [quotePoint_plain hs h0]
      simp only [List.cons_append, List.nil_append]
      rw [walk_backslash_plain separators ⟨hne _ (by decide), hne _ (by decide), hne _ (by decide), hne _ (by decide),
        hne _ (by decide), hc⟩, walk_plain separators hc]

theorem quotedLiteral_backslash (t : Text) :
    Text.quotedLiteral ('\\' :: t) = ('\\' : CodePoint) :: ('\\' : CodePoint) :: Text.quotedLiteral t := by
  rw [quotedLiteral_cons, quotePoint_special (by decide)]
  rfl

/-- A backslash takes the meaning away from a quoted code point. -/
theorem walk_escaped {d : CodePoint} (hd : d ≠ '\\') (h : d ∈ specials ∨ d.val = 0) (rest : Text) :
    Substitution.walk (replacements separators) ('\\' :: '\\' :: (quotePoint [] d ++ rest)) 0 =
      quotePoint [] d ++ Substitution.walk (replacements separators) rest 0 := by
  by_cases hs : d ∈ specials
  · rw [quotePoint_special hs]
    simp only [List.cons_append, List.nil_append]
    rw [walk_backslashes, walk_plain separators hd]
    rfl
  · have hzero : ('0' : CodePoint) ≠ '\\' := by decide
    rw [quotePoint_nul hs (h.resolve_left hs)]
    simp only [List.cons_append, List.nil_append]
    rw [walk_backslashes, walk_plain separators hzero, walk_plain separators hzero, walk_plain separators hzero]
    rfl

/-- Replacing the wildcards of a quoted glob gives the text of the symbols of its pieces. -/
theorem walk_quotedLiteral (glob : Text) :
    Substitution.walk (replacements separators) glob.quotedLiteral 0 =
      Symbol.textOf (symbolsOf separators (pieces glob)) := by
  have hliteral : Symbol.textOf (Piece.symbols separators (.literal '\\')) = ("\\" : Text) ++ ("\\" : Text) := rfl
  fun_induction pieces glob with
  | case1 => rfl
  | case2 c =>
    rw [symbolsOf_cons, Symbol.textOf_append]
    by_cases hc : c = '\\'
    · rw [hc, quotedLiteral_backslash, walk_backslash_pair separators (by simp [Text.quotedLiteral])]
      exact congrArg _ (walk_backslash_end separators)
    · rw [quotedLiteral_cons]
      exact walk_ofPoint separators hc (by simp [Text.quotedLiteral, Text.ofChars])
        (by simp [Text.quotedLiteral, Text.ofChars])
  | case3 rest ih =>
    rw [symbolsOf_cons, Symbol.textOf_append, quotedLiteral_backslash, quotedLiteral_backslash, walk_backslashes,
      hliteral, List.append_assoc]
    refine congrArg _ ?_
    cases rest with
    | nil => exact walk_backslash_end separators
    | cons e rest' =>
      by_cases he : e = '\\'
      · rw [he, quotedLiteral_backslash, walk_backslashes, ih.1]
        simp
      · rw [walk_backslash_quoted separators (by simpa using he), ih.2]
        simp [he]
  | case4 d rest hd h ih =>
    rw [symbolsOf_cons, Symbol.textOf_append, quotedLiteral_backslash, quotedLiteral_cons, walk_escaped separators hd h, ih]
    simp [Piece.symbols, Symbol.text]
  | case5 d rest hd h ih =>
    have hplain : quotePoint [] d = [d] := quotePoint_plain (fun hs => h (.inl hs)) (fun h0 => h (.inr h0))
    have hhead : (Text.quotedLiteral (d :: rest)).head? ≠ some ('\\' : CodePoint) := by
      rw [quotedLiteral_cons, hplain]
      simpa using hd
    rw [symbolsOf_cons, Symbol.textOf_append, quotedLiteral_backslash, walk_backslash_pair separators hhead,
      walk_backslash_quoted separators (by simpa using hd), hliteral, ih, List.append_assoc]
  | case6 c d rest hc h ih =>
    obtain ⟨rfl, rfl⟩ := h
    rw [symbolsOf_cons, Symbol.textOf_append, quotedLiteral_cons, quotedLiteral_cons, quotePoint_special (by decide), ← ih]
    exact walk_stars separators _
  | case7 c d rest hc _ h ih =>
    obtain ⟨rfl, rfl⟩ := h
    rw [symbolsOf_cons, Symbol.textOf_append, quotedLiteral_cons, quotedLiteral_cons, quotePoint_special (by decide),
      quotePoint_special (by decide), ← ih]
    exact walk_bracket_bang separators _
  | case8 c d rest hc hstars hbang ih =>
    rw [symbolsOf_cons, Symbol.textOf_append, quotedLiteral_cons, ← ih]
    exact walk_ofPoint separators hc
      (fun h hp => hstars ⟨h, head_of_quoted (by decide) hp⟩) (fun h hp => hbang ⟨h, head_of_quoted (by decide) hp⟩)

/-- The regular expression of a glob is the text of the symbols of its pieces. -/
theorem toRegex_eq (glob : Text) : toRegex glob separators = Symbol.textOf (symbolsOf separators (pieces glob)) := by
  have hproper : (replacements separators).Proper := by
    rw [replacements_eq]
    simp [Substitution.Proper, Text.ofChars]
  rw [← walk_quotedLiteral]
  exact Substitution.apply_eq_walk hproper glob.quotedLiteral

end Glob

end FileSieve
