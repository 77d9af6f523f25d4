import FileSieve.Pattern.Basic
import FileSieve.Regex.Reader
import Mathlib.Data.List.Basic

/-!
# Patterns in symbols

The patterns of globs are rows of symbols. A symbol is a quoted code point, which stands for itself wherever it
is, or a mark, whose meaning depends on where it stands: within the brackets of a set most marks are code points
like others. A row of symbols determines the text between the delimiters of a pattern, where `~` is escaped
too, and the tokens of that text (`ofText_escaped`).

The entries of a set are read symbol by symbol here (`entries`): an entry is a code point or a range, and only
a closing bracket behind at least one entry ends the set. `entries_split` says where the end is: at the first
closing bracket behind the first symbol, whatever stands between.
-/

namespace FileSieve

theorem ne_of_special {c d : CodePoint} (hc : c ∉ specials) (hd : d ∈ specials) : c ≠ d :=
  fun h => hc (h ▸ hd)

namespace Regex

/-! ### Symbols -/

/-- A code point with a meaning by the place where it stands. -/
inductive Mark where
  /-- Any code point. -/
  | dot
  /-- Any number of times. -/
  | star
  /-- The start of a set. -/
  | bracket
  /-- The start of the text or, first in a set, what is not in it. -/
  | caret
  /-- The end of a set. -/
  | endBracket
  /-- From one code point to another, in a set. -/
  | dash
  /-- The start of a group. -/
  | paren
  /-- Behind the start of a group, that it is none that is kept. -/
  | question
  /-- Behind that, that the group looks back. -/
  | less
  /-- Behind that, that it must not match. -/
  | bang
  /-- The end of a group. -/
  | endParen
  /-- The end of the text. -/
  | dollar
  /-- Between alternatives. -/
  | bar
  deriving DecidableEq

/-- The code point of a mark. -/
def Mark.point : Mark → CodePoint
  | .dot => '.'
  | .star => '*'
  | .bracket => '['
  | .caret => '^'
  | .endBracket => ']'
  | .dash => '-'
  | .paren => '('
  | .question => '?'
  | .less => '<'
  | .bang => '!'
  | .endParen => ')'
  | .dollar => '$'
  | .bar => '|'

theorem Mark.point_special (m : Mark) : m.point ∈ specials := by
  cases m <;> decide

theorem Mark.point_inj {m m' : Mark} (h : m.point = m'.point) : m = m' := by
  revert h
  cases m <;> cases m' <;> decide

/-- A symbol of a pattern. -/
inductive Symbol where
  /-- A code point that stands for itself. -/
  | quoted (c : CodePoint)
  /-- A mark. -/
  | mark (m : Mark)
  deriving DecidableEq

namespace Symbol

/-- The code point of a symbol where marks are code points like others. -/
def point : Symbol → CodePoint
  | .quoted c => c
  | .mark m => m.point

/-- The text of a symbol. -/
def text : Symbol → Text
  | .quoted c => quotePoint [] c
  | .mark m => [m.point]

/-- The code points that a pattern between delimiters escapes. -/
def isEscaped (c : CodePoint) : Prop :=
  c = Pattern.delimiter ∨ c ∈ specials

instance (c : CodePoint) : Decidable (isEscaped c) := inferInstanceAs (Decidable (_ ∨ _))

/-- The tokens of a symbol: a code point is escaped, or given by its octal number, or plain. -/
def tokens : Symbol → List Token
  | .quoted c =>
    if isEscaped c then [.escaped c]
    else if c.val = 0 then [.escaped '0', .plain '0', .plain '0']
    else [.plain c]
  | .mark m => [.plain m.point]

/-- The text of symbols. -/
def textOf (symbols : List Symbol) : Text :=
  symbols.flatMap text

/-- The tokens of symbols. -/
def tokensOf (symbols : List Symbol) : List Token :=
  symbols.flatMap tokens

@[simp] theorem textOf_nil : textOf [] = [] := rfl

@[simp] theorem textOf_cons (x : Symbol) (xs : List Symbol) : textOf (x :: xs) = x.text ++ textOf xs := rfl

@[simp] theorem textOf_append (xs ys : List Symbol) : textOf (xs ++ ys) = textOf xs ++ textOf ys := by
  simp [textOf]

@[simp] theorem tokensOf_nil : tokensOf [] = [] := rfl

@[simp] theorem tokensOf_cons (x : Symbol) (xs : List Symbol) : tokensOf (x :: xs) = x.tokens ++ tokensOf xs := rfl

/-- Quoting a text gives its code points as quoted symbols. -/
theorem textOf_quoted (t : Text) : textOf (t.map .quoted) = t.quotedLiteral := by
  simp [textOf, Text.quotedLiteral, List.flatMap_map, text]

/-! ### Tokens -/

theorem dangling_notMem_tokens (x : Symbol) : Token.dangling ∉ x.tokens := by
  cases x with
  | quoted c => simp only [tokens]; split_ifs <;> simp
  | mark m => simp [tokens]

theorem dangling_notMem (xs : List Symbol) : Token.dangling ∉ tokensOf xs := by
  simp only [tokensOf, List.mem_flatMap, not_exists, not_and]
  exact fun x _ => dangling_notMem_tokens x

theorem tokens_ne_nil (x : Symbol) : x.tokens ≠ [] := by
  cases x with
  | quoted c => simp only [tokens]; split_ifs <;> simp
  | mark m => simp [tokens]

theorem length_le_tokensOf (xs : List Symbol) : xs.length ≤ (tokensOf xs).length := by
  induction xs with
  | nil => exact Nat.le_refl _
  | cons x xs ih =>
    have := List.length_pos_iff.mpr (tokens_ne_nil x)
    simp only [tokensOf_cons, List.length_cons, List.length_append]
    omega

end Symbol

/-- A code point other than a backslash is a token by itself. -/
theorem Token.ofText_plain {c : CodePoint} (hc : c ≠ '\\') (rest : Text) :
    Token.ofText (c :: rest) = .plain c :: Token.ofText rest := by
  cases rest with
  | nil => simp [Token.ofText, hc]
  | cons d rest => simp [Token.ofText, hc]

theorem Token.ofText_escaped (c : CodePoint) (rest : Text) :
    Token.ofText ('\\' :: c :: rest) = .escaped c :: Token.ofText rest := by
  simp [Token.ofText]

/-- Escaping the delimiter in the text of a symbol, the tokens are those of the symbol. -/
theorem Symbol.ofText_text (x : Symbol) (rest : Text) :
    Token.ofText (x.text.replacePoint Pattern.delimiter ['\\', Pattern.delimiter] ++ rest) =
      x.tokens ++ Token.ofText rest := by
  have hd : Pattern.delimiter ∉ specials := by decide
  have hb : ('\\' : CodePoint) ≠ Pattern.delimiter := by decide
  cases x with
  | mark m =>
    have h : m.point ≠ Pattern.delimiter := fun h => hd (h ▸ m.point_special)
    have hm : m.point ≠ '\\' := by cases m <;> decide
    simp [text, tokens, Text.replacePoint, h, Token.ofText_plain hm]
  | quoted c =>
    by_cases hs : c ∈ specials
    · have hc : c ≠ Pattern.delimiter := fun h => hd (h ▸ hs)
      simp [text, tokens, quotePoint, isQuoted, isEscaped, Text.replacePoint, hs, hc, hb, Token.ofText_escaped]
    by_cases ht : c = Pattern.delimiter
    · subst ht
      have h0 : Pattern.delimiter.val ≠ 0 := by decide
      simp [text, tokens, quotePoint, isQuoted, isEscaped, Text.replacePoint, hd, h0, Token.ofText_escaped]
    by_cases h0 : c.val = 0
    · have hz : Token.ofText ('\\' :: '0' :: '0' :: '0' :: rest) =
          .escaped '0' :: .plain '0' :: .plain '0' :: Token.ofText rest := by
        rw [Token.ofText_escaped, Token.ofText_plain (by decide), Token.ofText_plain (by decide)]
      have he : Text.replacePoint ("\\000" : Text) Pattern.delimiter ['\\', Pattern.delimiter] =
          ['\\', '0', '0', '0'] := by decide
      simp only [text, tokens, quotePoint, isQuoted, isEscaped]
      simp [hs, ht, h0, he, hz]
    · have hc : c ≠ '\\' := ne_of_special hs (by decide)
      simp [text, tokens, quotePoint, isQuoted, isEscaped, Text.replacePoint, hs, ht, h0, Token.ofText_plain hc]

/-- The tokens of a pattern that is a row of symbols. -/
theorem Symbol.ofText_escaped (xs : List Symbol) :
    Token.ofText ((textOf xs).replacePoint Pattern.delimiter ['\\', Pattern.delimiter]) = tokensOf xs := by
  induction xs with
  | nil => rfl
  | cons x xs ih =>
    have h := ofText_text x ((textOf xs).replacePoint Pattern.delimiter ['\\', Pattern.delimiter])
    rw [ih] at h
    simpa [Text.replacePoint] using h

namespace Symbol

/-! ### The entries of a set -/

/-- The entries of a set, behind those of `items` and in reverse order, and the symbols behind its end; none when
it does not end or a range is out of order. -/
def entries : (items : List SetItem) → List Symbol → Option (List SetItem × List Symbol)
  | _, [] => none
  | items, x :: rest =>
    if x = .mark .endBracket ∧ items ≠ [] then some (items, rest)
    else match rest with
      | .mark .dash :: y :: rest' =>
        if y = .mark .endBracket then some (.point '-' :: .point x.point :: items, rest')
        else if x.point ≤ y.point then entries (.range x.point y.point :: items) rest'
        else none
      | rest => entries (.point x.point :: items) rest

/-- Behind an entry a set ends at the first closing bracket. -/
theorem entries_split_of_ne {items its : List SetItem} {xs rest : List Symbol}
    (h : entries items xs = some (its, rest)) (hne : items ≠ []) :
    ∃ inner, xs = inner ++ .mark .endBracket :: rest ∧ .mark .endBracket ∉ inner := by
  fun_induction entries items xs with
  | case1 => simp at h
  | case2 items x rest' hx =>
    obtain ⟨rfl, rfl⟩ : items = its ∧ rest' = rest := by simpa using h
    exact ⟨[], by rw [hx.1]; rfl, by simp⟩
  | case3 items x hx rest' =>
    obtain ⟨-, rfl⟩ : _ ∧ rest' = rest := by simpa using h
    have hx' : x ≠ .mark .endBracket := fun hx' => hx ⟨hx', hne⟩
    exact ⟨[x, .mark .dash], rfl, by simp [hx'.symm]⟩
  | case4 items x hx y rest' hy hle ih =>
    obtain ⟨inner, rfl, hin⟩ := ih h (by simp)
    have hx' : x ≠ .mark .endBracket := fun hx' => hx ⟨hx', hne⟩
    exact ⟨x :: .mark .dash :: y :: inner, rfl, by simp [hx'.symm, Ne.symm hy, hin]⟩
  | case5 => simp at h
  | case6 items x hx rest' _ ih =>
    obtain ⟨inner, rfl, hin⟩ := ih h (by simp)
    have hx' : x ≠ .mark .endBracket := fun hx' => hx ⟨hx', hne⟩
    exact ⟨x :: inner, rfl, by simp [hx'.symm, hin]⟩

/-- The first symbol of a set does not end it; from then on the first closing bracket does. -/
theorem entries_split {its : List SetItem} {x : Symbol} {xs rest : List Symbol}
    (h : entries [] (x :: xs) = some (its, rest)) :
    ∃ inner, xs = inner ++ .mark .endBracket :: rest ∧ .mark .endBracket ∉ inner := by
  rw [entries.eq_def] at h
  simp only [ne_eq, not_true_eq_false, and_false, if_false] at h
  split at h
  · next y rest' =>
    split_ifs at h with hy hle
    · obtain ⟨-, rfl⟩ : _ ∧ rest' = rest := by simpa using h
      exact ⟨[.mark .dash], by rw [hy]; rfl, by simp⟩
    · obtain ⟨inner, rfl, hin⟩ := entries_split_of_ne h (by simp)
      exact ⟨.mark .dash :: y :: inner, rfl, by simp [Ne.symm hy, hin]⟩
  · exact entries_split_of_ne h (by simp)

/-- The first closing bracket divides symbols in one way only. -/
theorem endBracket_split_inj {inner inner' rest rest' : List Symbol} (h : .mark .endBracket ∉ inner)
    (h' : .mark .endBracket ∉ inner')
    (he : inner ++ .mark .endBracket :: rest = inner' ++ .mark .endBracket :: rest') : inner = inner' ∧ rest = rest' := by
  induction inner generalizing inner' with
  | nil =>
    cases inner' with
    | nil => exact ⟨rfl, (List.cons.inj he).2⟩
    | cons y ys => exact absurd (List.cons.inj he).1 (fun hy => h' (by simp [hy]))
  | cons x xs ih =>
    cases inner' with
    | nil => exact absurd (List.cons.inj he).1 (fun hx => h (by simp [hx]))
    | cons y ys =>
      obtain ⟨rfl, htail⟩ := List.cons.inj he
      obtain ⟨rfl, rfl⟩ := ih (fun hm => h (.tail _ hm)) (fun hm => h' (.tail _ hm)) htail
      exact ⟨rfl, rfl⟩

/-- What stands behind the end of a set has no say in its entries. -/
theorem entries_swap {items its : List SetItem} (inner : List Symbol) {rest : List Symbol} (rest' : List Symbol)
    (h : entries items (inner ++ .mark .endBracket :: rest) = some (its, rest)) :
    entries items (inner ++ .mark .endBracket :: rest') = some (its, rest') := by
  generalize hs : inner ++ .mark .endBracket :: rest = symbols at h
  fun_induction entries items symbols generalizing inner with
  | case1 => simp at h
  | case2 items x rest₀ hx =>
    obtain ⟨rfl, rfl⟩ : items = its ∧ rest₀ = rest := by simpa using h
    obtain ⟨rfl, hne⟩ := hx
    obtain rfl : inner = [] := List.append_cancel_right (hs.trans (List.nil_append _).symm)
    rw [List.nil_append, entries.eq_def]
    simp [hne]
  | case3 items x hx rest₀ =>
    obtain ⟨rfl, rfl⟩ : _ = its ∧ rest₀ = rest := by simpa using h
    have hs : inner ++ .mark .endBracket :: rest₀ = [x, .mark .dash] ++ .mark .endBracket :: rest₀ := hs
    obtain rfl := List.append_cancel_right hs
    rw [List.cons_append, entries.eq_def]
    simp [hx]
  | case4 items x hx y rest₀ hy hle ih =>
    obtain ⟨inner₀, rfl, -⟩ := entries_split_of_ne h (by simp)
    have hs : inner ++ .mark .endBracket :: rest = (x :: .mark .dash :: y :: inner₀) ++ .mark .endBracket :: rest := hs
    obtain rfl := List.append_cancel_right hs
    have h' := ih _ rfl h
    rw [List.cons_append, entries.eq_def]
    simpa [hx, hy, hle] using h'
  | case5 => simp at h
  | case6 items x hx rest₀ hd ih =>
    obtain ⟨inner₀, rfl, -⟩ := entries_split_of_ne h (by simp)
    have hs : inner ++ .mark .endBracket :: rest = (x :: inner₀) ++ .mark .endBracket :: rest := hs
    obtain rfl := List.append_cancel_right hs
    have h' := ih _ rfl h
    -- no dash with a symbol behind it is next, whatever is behind the end
    rw [List.cons_append, entries.eq_def]
    rcases inner₀ with _ | ⟨y, _ | ⟨z, inner₀⟩⟩
    · simpa [hx] using h'
    · by_cases hy : y = .mark .dash
      · exact absurd (by rw [hy]; rfl) (hd (.mark .endBracket) rest)
      · simpa [hx, hy] using h'
    · by_cases hy : y = .mark .dash
      · exact absurd (by rw [hy]; rfl) (hd z (inner₀ ++ .mark .endBracket :: rest))
      · simpa [hx, hy] using h'

/-- The entries of a set and what is left, by the entries of the set alone. -/
theorem entries_rest {x : Symbol} {inner : List Symbol} (h : .mark .endBracket ∉ inner) (rest rest' : List Symbol) :
    entries [] (x :: (inner ++ .mark .endBracket :: rest)) =
      (entries [] (x :: (inner ++ .mark .endBracket :: rest'))).map fun found => (found.1, rest) := by
  have hback : ∀ {its t r}, entries [] (x :: (inner ++ .mark .endBracket :: t)) = some (its, r) → r = t := by
    intro its t r hr
    obtain ⟨inner', he, hin⟩ := entries_split hr
    exact (endBracket_split_inj h hin he).2.symm
  cases hr : entries [] (x :: (inner ++ .mark .endBracket :: rest')) with
  | some found =>
    obtain ⟨its, r⟩ := found
    obtain rfl := hback hr
    exact entries_swap (x :: inner) rest hr
  | none =>
    cases hr' : entries [] (x :: (inner ++ .mark .endBracket :: rest)) with
    | none => rfl
    | some found =>
      obtain ⟨its, r⟩ := found
      obtain rfl := hback hr'
      have := entries_swap (x :: inner) rest' hr'
      rw [List.cons_append, hr] at this
      simp at this

/-- Without a closing bracket behind its first symbol a set does not end. -/
theorem entries_unended {x : Symbol} {xs : List Symbol} (h : .mark .endBracket ∉ xs) : entries [] (x :: xs) = none := by
  cases hr : entries [] (x :: xs) with
  | none => rfl
  | some found =>
    obtain ⟨inner, rfl, -⟩ := entries_split hr
    exact absurd (by simp) h

/-! ### Symbols with the same part in a set -/

/-- What a symbol is in a set: only a closing bracket and a dash have a meaning there, the other marks are code points. -/
def inSet : Symbol → Symbol
  | .quoted c => .quoted c
  | .mark m => if m = .endBracket ∨ m = .dash then .mark m else .quoted m.point

@[simp] theorem point_inSet (x : Symbol) : x.inSet.point = x.point := by
  cases x with
  | quoted c => rfl
  | mark m => simp only [inSet]; split_ifs <;> rfl

theorem inSet_eq_mark {x : Symbol} {m : Mark} (hm : m = .endBracket ∨ m = .dash) : x.inSet = .mark m ↔ x = .mark m := by
  cases x with
  | quoted c => simp [inSet]
  | mark m' =>
    simp only [inSet]
    split_ifs with h
    · rfl
    · simp only [false_iff, Symbol.mark.injEq]
      rintro rfl
      exact h hm

theorem inSet_eq_quoted {x : Symbol} (hend : x ≠ .mark .endBracket) (hdash : x ≠ .mark .dash) :
    x.inSet = .quoted x.point := by
  cases x with
  | quoted c => rfl
  | mark m =>
    have hm : ¬(m = .endBracket ∨ m = .dash) := by simpa using And.intro hend hdash
    rw [inSet, if_neg hm]
    rfl

/-- The entries of a set depend on the parts of its symbols alone. -/
theorem entries_inSet (items : List SetItem) (xs : List Symbol) :
    entries items (xs.map inSet) = (entries items xs).map fun found => (found.1, found.2.map inSet) := by
  have hend : ∀ x : Symbol, x.inSet = .mark .endBracket ↔ x = .mark .endBracket := fun x => inSet_eq_mark (.inl rfl)
  have hdash : inSet (.mark .dash) = .mark .dash := rfl
  fun_induction entries items xs with
  | case1 => rfl
  | case2 items x rest hx =>
    rw [List.map_cons, entries.eq_def]
    simp [hend, hx]
  | case3 items x hx rest' =>
    rw [List.map_cons, List.map_cons, List.map_cons, entries.eq_def]
    simp [hend, hdash, hx]
  | case4 items x hx y rest' hy hle ih =>
    rw [List.map_cons, List.map_cons, List.map_cons, entries.eq_def]
    simpa [hend, hdash, hx, hy, hle] using ih
  | case5 items x hx y rest' hy hle =>
    rw [List.map_cons, List.map_cons, List.map_cons, entries.eq_def]
    simp [hend, hdash, hx, hy, hle]
  | case6 items x hx rest' hd ih =>
    have hd' : ∀ y ys, rest'.map inSet ≠ .mark .dash :: y :: ys := by
      intro y ys h
      rcases rest' with _ | ⟨z, _ | ⟨z', rest'⟩⟩ <;> simp only [List.map_cons, List.map_nil, List.cons.injEq] at h
      · simp at h
      · simp at h
      · exact hd z' rest' (by rw [(inSet_eq_mark (.inr rfl)).mp h.1])
    rw [List.map_cons, entries.eq_def]
    simpa only [hend, hx, if_false, point_inSet] using ih

/-- Symbols that have the same parts in a set. -/
def SameInSet (xs ys : List Symbol) : Prop :=
  xs.map inSet = ys.map inSet

theorem SameInSet.refl (xs : List Symbol) : SameInSet xs xs := rfl

theorem SameInSet.append {xs ys xs' ys' : List Symbol} (h : SameInSet xs ys) (h' : SameInSet xs' ys') :
    SameInSet (xs ++ xs') (ys ++ ys') := by
  simp only [SameInSet, List.map_append] at h h' ⊢
  rw [h, h']

theorem SameInSet.endBracket_mem_iff {xs ys : List Symbol} (h : SameInSet xs ys) :
    .mark .endBracket ∈ xs ↔ .mark .endBracket ∈ ys := by
  have hmem : ∀ zs : List Symbol, .mark .endBracket ∈ zs.map inSet ↔ .mark .endBracket ∈ zs := fun zs => by
    simp [List.mem_map, inSet_eq_mark]
  rw [← hmem xs, h, hmem ys]

theorem SameInSet.entries_eq {xs ys : List Symbol} (h : SameInSet xs ys) (items : List SetItem) :
    (entries items xs).map Prod.fst = (entries items ys).map Prod.fst := by
  have hfst : ∀ zs : List Symbol, (entries items (zs.map inSet)).map Prod.fst = (entries items zs).map Prod.fst :=
    fun zs => by rw [entries_inSet, Option.map_map]; rfl
  rw [← hfst xs, h, hfst ys]

theorem entries_end {items : List SetItem} (hne : items ≠ []) (xs : List Symbol) :
    entries items (.mark .endBracket :: xs) = some (items, xs) := by
  rw [entries.eq_def]
  simp [hne]

theorem entries_point (items : List SetItem) {x : Symbol} {xs : List Symbol} (hx : x ≠ .mark .endBracket)
    (hd : ∀ y ys, xs ≠ .mark .dash :: y :: ys) : entries items (x :: xs) = entries (.point x.point :: items) xs := by
  rw [entries.eq_def]
  simp only [hx, false_and, if_false]

theorem entries_range (items : List SetItem) {x y : Symbol} (hx : x ≠ .mark .endBracket) (hy : y ≠ .mark .endBracket)
    (hle : x.point ≤ y.point) (xs : List Symbol) :
    entries items (x :: .mark .dash :: y :: xs) = entries (.range x.point y.point :: items) xs := by
  rw [entries.eq_def]
  simp only [hx, hy, hle, false_and, if_false, if_true]

/-- Quoted code points up to a closing bracket are entries themselves. -/
theorem entries_quoted (items : List SetItem) (t : Text) (rest : List Symbol) (hne : items ≠ [] ∨ t ≠ []) :
    entries items (t.map .quoted ++ .mark .endBracket :: rest) = some ((t.map .point).reverse ++ items, rest) := by
  induction t generalizing items with
  | nil => exact entries_end (hne.resolve_right (by simp)) rest
  | cons c t ih =>
    have hd : ∀ y ys, t.map .quoted ++ .mark .endBracket :: rest ≠ .mark .dash :: y :: ys := by
      cases t <;> simp
    rw [List.map_cons, List.cons_append, entries_point items (by simp) hd, ih _ (.inl (by simp))]
    simp [point]

end Symbol

end Regex

end FileSieve
