import FileSieve.Proofs.Glob.Piece
import FileSieve.Proofs.Regex.Language

/-!
# The parts of a glob

What the reader of patterns makes of the pieces of a glob. Outside of brackets a piece is a part, or it opens a
bracket (`Piece.outside`). Within a bracket the wildcards are replaced too, and what takes their place is read as
entries of the set: a star or a question mark brings a closing bracket of its own with it, where there are
separators, and ends the set (`Piece.ending`).

`parts` follows the pieces from the left with the pieces of an open bracket at hand. It gives nothing when a
bracket does not end or has a range out of order, and then the reader gives a fault; otherwise the reader gives the
nodes of the parts and is left with what stands behind (`ReadsAs.row`). `scan` is the same up to the end of the
pieces, where a bracket may still be open; the reader then stands before that bracket with all that is in it
(`items_scan`).
-/

namespace FileSieve.Glob

open Regex

/-! ### From pieces to parts -/

/-- The test for a code point that is no separator. -/
def anyTest (separators : Text) : CharTest :=
  if separators = [] then .any else Reading.testOf true (separators.map SetItem.point).reverse

/-- What a piece is outside of brackets: a part, or the opening of a bracket that is negated or not. -/
def Piece.outside (separators : Text) : Piece → Part ⊕ Bool
  | .literal c => .inl (.single (.point false c) [])
  | .dash => .inl (.single (.point false '-') [])
  | .anyRun => .inl (.run .any)
  | .run => .inl (.run (anyTest separators))
  | .one => .inl (.single (anyTest separators) [])
  | .opening negated => .inr negated
  | .closing => .inl (.single (.point false ']') separators)

/-- The part that a piece behind `inner` makes of the test of a bracket, if it ends the bracket. -/
def Piece.ending (separators : Text) (inner : List Piece) : Piece → Option (CharTest → Part)
  | .closing => if inner = [] then none else some (.single · separators)
  | .run => if separators = [] then none else some .run
  | .one => if separators = [] then none else some (.single · [])
  | _ => none

/-- The symbols of a piece behind the closing bracket that it brings. -/
def Piece.behind (separators : Text) : Piece → List Symbol
  | .closing => separators.flatMap Reading.guard
  | .run => [.mark .star]
  | _ => []

/-- The test of a bracket by its pieces up to the one that ends it. -/
def bracketTest (separators : Text) (negated : Bool) (inner : List Piece) : Option CharTest :=
  (Symbol.entries [] (symbolsOf separators inner)).map fun found => Reading.testOf negated found.1

/-- The parts of pieces, with the pieces so far of the bracket around them, if there is one. -/
def parts (separators : Text) : (bracket : Option (Bool × List Piece)) → List Piece → Option (List Part)
  | none, [] => some []
  | some _, [] => none
  | none, p :: ps =>
    match p.outside separators with
    | .inl part => (parts separators none ps).map (part :: ·)
    | .inr negated => parts separators (some (negated, [])) ps
  | some (negated, inner), p :: ps =>
    match p.ending separators inner with
    | none => parts separators (some (negated, inner ++ [p])) ps
    | some part =>
      match bracketTest separators negated (inner ++ [p]) with
      | none => none
      | some test => (parts separators none ps).map (part test :: ·)

/-- The parts of pieces up to their end, and the bracket that is open there; nothing with a range out of order. -/
def scan (separators : Text) : (bracket : Option (Bool × List Piece)) → List Piece →
    Option (List Part × Option (Bool × List Piece))
  | bracket, [] => some ([], bracket)
  | none, p :: ps =>
    match p.outside separators with
    | .inl part => (scan separators none ps).map fun (row, bracket) => (part :: row, bracket)
    | .inr negated => scan separators (some (negated, [])) ps
  | some (negated, inner), p :: ps =>
    match p.ending separators inner with
    | none => scan separators (some (negated, inner ++ [p])) ps
    | some part =>
      match bracketTest separators negated (inner ++ [p]) with
      | none => none
      | some test => (scan separators none ps).map fun (row, bracket) => (part test :: row, bracket)

variable (separators : Text)

/-- Pieces have parts when they leave no bracket open. -/
theorem parts_eq_scan (bracket : Option (Bool × List Piece)) (ps : List Piece) :
    parts separators bracket ps =
      (scan separators bracket ps).bind fun (row, bracket) => if bracket = none then some row else none := by
  fun_induction scan separators bracket ps with
  | case1 bracket => cases bracket <;> rfl
  | case2 p ps part hp ih =>
    simp only [parts, hp, ih]
    cases scan separators none ps with
    | none => rfl
    | some found => by_cases h : found.2 = none <;> simp [h]
  | case3 p ps negated hp ih => simp only [parts, hp, ih]
  | case4 negated inner p ps hp ih => simp only [parts, hp, ih]
  | case5 negated inner p ps part hp ht => simp only [parts, hp, ht, Option.bind_none]
  | case6 negated inner p ps part hp test ht ih =>
    simp only [parts, hp, ht, ih]
    cases scan separators none ps with
    | none => rfl
    | some found => by_cases h : found.2 = none <;> simp [h]

/-- The pieces behind others are gone through with the bracket that those leave open. -/
theorem scan_append (bracket : Option (Bool × List Piece)) (ps qs : List Piece) :
    scan separators bracket (ps ++ qs) =
      (scan separators bracket ps).bind fun (row, bracket) =>
        (scan separators bracket qs).map fun (row', bracket) => (row ++ row', bracket) := by
  fun_induction scan separators bracket ps with
  | case1 bracket => simp
  | case2 p ps part hp ih =>
    simp only [List.cons_append, scan, hp, ih]
    cases scan separators none ps <;> simp [Function.comp_def]
  | case3 p ps negated hp ih => simp only [List.cons_append, scan, hp, ih]
  | case4 negated inner p ps hp ih => simp only [List.cons_append, scan, hp, ih]
  | case5 negated inner p ps part hp ht => simp only [List.cons_append, scan, hp, ht, Option.bind_none]
  | case6 negated inner p ps part hp test ht ih =>
    simp only [List.cons_append, scan, hp, ht, ih]
    cases scan separators none ps <;> simp [Function.comp_def]

theorem outside_inr {p : Piece} {negated : Bool} (h : p.outside separators = .inr negated) : p = .opening negated := by
  cases p with
  | opening => exact congrArg Piece.opening (Sum.inr.inj h)
  | _ => simp [Piece.outside] at h

/-- What ends a bracket: a closing bracket that is not first in it, or a wildcard where there are separators. -/
theorem ending_cases {inner : List Piece} {p : Piece} {part : CharTest → Part}
    (h : p.ending separators inner = some part) :
    (p = .closing ∧ inner ≠ [] ∧ part = (.single · separators)) ∨
      (p = .run ∧ separators ≠ [] ∧ part = .run) ∨ (p = .one ∧ separators ≠ [] ∧ part = (.single · [])) := by
  cases p with
  | closing =>
    obtain ⟨hi, rfl⟩ : inner ≠ [] ∧ (.single · separators) = part := by simpa [Piece.ending] using h
    exact .inl ⟨rfl, hi, rfl⟩
  | run =>
    obtain ⟨hs, rfl⟩ : separators ≠ [] ∧ Part.run = part := by simpa [Piece.ending] using h
    exact .inr (.inl ⟨rfl, hs, rfl⟩)
  | one =>
    obtain ⟨hs, rfl⟩ : separators ≠ [] ∧ (.single · []) = part := by simpa [Piece.ending] using h
    exact .inr (.inr ⟨rfl, hs, rfl⟩)
  | _ => simp [Piece.ending] at h

/-- The first of some pieces leaves a bracket open, or it makes a part: by itself, or of the bracket that it ends. -/
theorem parts_cons_cases {bracket : Option (Bool × List Piece)} {p : Piece} {ps : List Piece} {row : List Part}
    (h : parts separators bracket (p :: ps) = some row) :
    (∃ open?, parts separators (some open?) ps = some row) ∨
      ∃ part row', row = part :: row' ∧ parts separators none ps = some row' ∧
        (p.outside separators = .inl part ∨
          ∃ inner make test, p.ending separators inner = some make ∧ part = make test) := by
  cases bracket with
  | none =>
    rw [parts] at h
    cases hp : p.outside separators with
    | inl part =>
      simp only [hp] at h
      obtain ⟨row', hrow', rfl⟩ := Option.map_eq_some_iff.mp h
      exact .inr ⟨part, row', rfl, hrow', .inl rfl⟩
    | inr negated =>
      simp only [hp] at h
      exact .inl ⟨_, h⟩
  | some open? =>
    obtain ⟨negated, inner⟩ := open?
    rw [parts] at h
    cases he : p.ending separators inner with
    | none =>
      simp only [he] at h
      exact .inl ⟨_, h⟩
    | some make =>
      simp only [he] at h
      cases ht : bracketTest separators negated (inner ++ [p]) with
      | none => simp [ht] at h
      | some test =>
        simp only [ht] at h
        obtain ⟨row', hrow', rfl⟩ := Option.map_eq_some_iff.mp h
        exact .inr ⟨make test, row', rfl, hrow', .inr ⟨inner, make, test, he, rfl⟩⟩

/-- Pieces that do not end a bracket, whatever is in it, are gone through within it. -/
theorem parts_inner {ps : List Piece} (h : ∀ p ∈ ps, ∀ inner, p.ending separators inner = none) (negated : Bool)
    (inner qs : List Piece) :
    parts separators (some (negated, inner)) (ps ++ qs) = parts separators (some (negated, inner ++ ps)) qs := by
  induction ps generalizing inner with
  | nil => rw [List.nil_append, List.append_nil]
  | cons p ps ih =>
    have hps : ∀ q ∈ ps, ∀ inner, q.ending separators inner = none := fun q hq => h q (.tail _ hq)
    simp only [List.cons_append, parts, h p (by simp), ih hps, List.append_assoc, List.nil_append]

/-! ### Closing brackets -/

/-- Pieces of a bracket that is still open: only its first symbol may be a closing bracket. -/
def Unended (inner : List Piece) : Prop :=
  ∀ x xs, symbolsOf separators inner = x :: xs → .mark .endBracket ∉ xs

theorem unended_nil : Unended separators [] := by
  simp [Unended]

theorem symbols_ne_nil (p : Piece) : p.symbols separators ≠ [] := by
  cases p with
  | run => simp [Piece.symbols]
  | one => simp only [Piece.symbols, anySymbols]; split_ifs <;> simp
  | opening negated => cases negated <;> simp [Piece.symbols]
  | _ => simp [Piece.symbols]

theorem symbolsOf_eq_nil {ps : List Piece} : symbolsOf separators ps = [] ↔ ps = [] := by
  cases ps <;> simp [symbols_ne_nil]

theorem endBracket_notMem_guards (t : Text) : Symbol.mark .endBracket ∉ t.flatMap Reading.guard := by
  simp [Reading.guard]

theorem length_le_guards (t : Text) : t.length ≤ (t.flatMap Reading.guard).length := by
  induction t with
  | nil => exact Nat.le_refl _
  | cons c t ih =>
    simp only [List.flatMap_cons, List.length_append, List.length_cons, Reading.guard]
    omega

/-- A piece that does not end a bracket has no closing bracket, unless it is one that comes first. -/
theorem endBracket_of_not_ending {inner : List Piece} {p : Piece} (h : p.ending separators inner = none) :
    .mark .endBracket ∉ p.symbols separators ∨ inner = [] ∧ p = .closing := by
  cases p with
  | closing => exact .inr ⟨by simpa [Piece.ending] using h, rfl⟩
  | run =>
    have hs : separators = [] := by simpa [Piece.ending] using h
    exact .inl (by simp [Piece.symbols, anySymbols, hs])
  | one =>
    have hs : separators = [] := by simpa [Piece.ending] using h
    exact .inl (by simp [Piece.symbols, anySymbols, hs])
  | opening negated => exact .inl (by cases negated <;> simp [Piece.symbols])
  | _ => exact .inl (by simp [Piece.symbols])

theorem Unended.append_of_notMem {inner qs : List Piece} (hi : Unended separators inner)
    (h : .mark .endBracket ∉ symbolsOf separators qs) : Unended separators (inner ++ qs) := by
  intro x xs hx
  rw [symbolsOf_append] at hx
  rcases List.append_eq_cons_iff.mp hx with ⟨-, hs⟩ | ⟨ys, hs, rfl⟩
  · exact fun hm => h (hs ▸ .tail _ hm)
  · exact fun hm => (List.mem_append.mp hm).elim (hi x ys hs) h

theorem unended_append {inner : List Piece} {p : Piece} (hi : Unended separators inner)
    (h : p.ending separators inner = none) : Unended separators (inner ++ [p]) := by
  rcases endBracket_of_not_ending separators h with hp | ⟨rfl, rfl⟩
  · exact hi.append_of_notMem separators (by simpa using hp)
  · intro x xs hx
    rw [List.nil_append, symbolsOf_cons, symbolsOf_nil, List.append_nil, Piece.symbols] at hx
    obtain ⟨-, rfl⟩ := List.cons.inj hx
    exact endBracket_notMem_guards separators

/-- A piece that ends a bracket brings a closing bracket, which is not first. -/
theorem symbols_of_ending {inner : List Piece} {p : Piece} {part : CharTest → Part}
    (h : p.ending separators inner = some part) :
    ∃ front, p.symbols separators = front ++ .mark .endBracket :: p.behind separators ∧
      .mark .endBracket ∉ front ∧ (inner ≠ [] ∨ front ≠ []) := by
  rcases ending_cases separators h with ⟨rfl, hi, -⟩ | ⟨rfl, hs, -⟩ | ⟨rfl, hs, -⟩
  · exact ⟨[], rfl, by simp, .inl hi⟩
  · exact ⟨.mark .bracket :: .mark .caret :: separators.map .quoted, by simp [Piece.symbols, anySymbols, hs, Piece.behind],
      by simp, .inr (by simp)⟩
  · exact ⟨.mark .bracket :: .mark .caret :: separators.map .quoted, by simp [Piece.symbols, anySymbols, hs, Piece.behind],
      by simp, .inr (by simp)⟩

/-- Symbols that are the same in a set as those of an open bracket do not end it either. -/
theorem endBracket_notMem_of_unended {inner : List Piece} (hi : Unended separators inner) {A : List Symbol}
    (hA : Symbol.SameInSet A (symbolsOf separators inner)) {x : Symbol} {ys : List Symbol} (hx : A = x :: ys) :
    .mark .endBracket ∉ ys := by
  subst hx
  cases hs : symbolsOf separators inner with
  | nil => simp [Symbol.SameInSet, hs] at hA
  | cons z zs =>
    have hys : Symbol.SameInSet ys zs := by
      simp only [Symbol.SameInSet, hs, List.map_cons] at hA
      exact (List.cons.inj hA).2
    exact fun hm => hi z zs hs (hys.endBracket_mem_iff.mp hm)

/-- The entries of a bracket, by symbols that are the same in a set as those of its pieces, do not depend on what stands
behind the piece that ends it. -/
theorem entries_bracket {inner : List Piece} {p : Piece} {part : CharTest → Part} {A : List Symbol}
    (hA : Symbol.SameInSet A (symbolsOf separators inner)) (hi : Unended separators inner)
    (h : p.ending separators inner = some part) (xs : List Symbol) :
    Symbol.entries [] (A ++ (p.symbols separators ++ xs)) =
      (Symbol.entries [] (symbolsOf separators (inner ++ [p]))).map fun found =>
        (found.1, p.behind separators ++ xs) := by
  obtain ⟨front, hp, hfront, hne⟩ := symbols_of_ending separators h
  have hnil : A = [] ↔ inner = [] := by
    rw [← symbolsOf_eq_nil separators, ← List.map_eq_nil_iff (f := Symbol.inSet), hA, List.map_eq_nil_iff]
  have hswap : Symbol.entries [] (A ++ (p.symbols separators ++ xs)) =
      (Symbol.entries [] (A ++ p.symbols separators)).map fun found => (found.1, p.behind separators ++ xs) := by
    cases hf : A ++ front with
    | nil =>
      obtain ⟨h1, h2⟩ := List.append_eq_nil_iff.mp hf
      exact absurd h2 (hne.resolve_left (not_not.mpr (hnil.mp h1)))
    | cons x ys =>
      have hys : .mark .endBracket ∉ ys := by
        rcases List.append_eq_cons_iff.mp hf with ⟨-, rfl⟩ | ⟨zs, hz, rfl⟩
        · exact fun hm => hfront (.tail _ hm)
        · exact fun hm => (List.mem_append.mp hm).elim (endBracket_notMem_of_unended separators hi hA hz) hfront
      have hfront : ∀ t, A ++ (p.symbols separators ++ t) =
          x :: (ys ++ .mark .endBracket :: (p.behind separators ++ t)) := fun t => by
        rw [hp, List.append_assoc, ← List.append_assoc A, hf]
        rfl
      have hfront' := hfront []
      rw [List.append_nil, List.append_nil] at hfront'
      rw [hfront, hfront']
      exact Symbol.entries_rest hys _ _
  have hsame := (hA.append (rfl : Symbol.SameInSet (p.symbols separators) (p.symbols separators))).entries_eq []
  have hmap : ∀ found : Option (List SetItem × List Symbol),
      (found.map fun f => (f.1, p.behind separators ++ xs)) =
        (found.map Prod.fst).map fun its => (its, p.behind separators ++ xs) := fun found => by cases found <;> rfl
  rw [hswap, hmap, hsame, ← hmap, symbolsOf_append, symbolsOf_cons, symbolsOf_nil, List.append_nil]

/-! ### Reading parts -/

/-- The items that a part is read as. -/
def steps : Part → Nat
  | .single _ guards => guards.length + 1
  | .run _ => 2

/-- A bracket that is open has not ended. -/
def Sound (bracket : Option (Bool × List Piece)) : Prop :=
  ∀ negated inner, bracket = some (negated, inner) → Unended separators inner

theorem sound_none : Sound separators none := by
  simp [Sound]

theorem sound_some {negated : Bool} {inner : List Piece} (h : Unended separators inner) :
    Sound separators (some (negated, inner)) := by
  rintro _ _ ⟨⟩
  exact h

/-- Symbols of an open bracket: its opening, and symbols that are the same in a set as those of its pieces. -/
inductive Stands : Option (Bool × List Piece) → List Symbol → Prop where
  /-- No bracket is open. -/
  | closed : Stands none []
  /-- The pieces do not end the bracket, and no caret is first. -/
  | opened {negated : Bool} {inner : List Piece} {A : List Symbol} :
      Symbol.SameInSet A (symbolsOf separators inner) → Unended separators inner → (∀ ys, A ≠ .mark .caret :: ys) →
      Stands (some (negated, inner)) ((Piece.opening negated).symbols separators ++ A)

theorem stands_opening (negated : Bool) :
    Stands separators (some (negated, [])) ((Piece.opening negated).symbols separators) := by
  have h := @Stands.opened separators negated [] [] rfl (unended_nil separators) (by simp)
  rwa [List.append_nil] at h

theorem append_ne {x : Symbol} {A T : List Symbol} (hA : ∀ ys, A ≠ x :: ys) (hT : ∀ ys, T ≠ x :: ys) (ys : List Symbol) :
    A ++ T ≠ x :: ys := by
  cases A with
  | nil => exact hT ys
  | cons y A => exact fun h => hA A (by rw [(List.cons.inj h).1])

/-- More symbols of a bracket that they do not end. -/
theorem Stands.append {negated : Bool} {inner qs : List Piece} {B T : List Symbol}
    (h : Stands separators (some (negated, inner)) B) (hT : Symbol.SameInSet T (symbolsOf separators qs))
    (hi : Unended separators (inner ++ qs)) (hcaret : ∀ ys, T ≠ .mark .caret :: ys) :
    Stands separators (some (negated, inner ++ qs)) (B ++ T) := by
  cases h with
  | opened hA _ hA' =>
    rw [List.append_assoc]
    exact .opened (by rw [symbolsOf_append]; exact hA.append hT) hi (append_ne hA' hcaret)

variable (r : Reading) (xs : List Symbol) (place fuel depth : Nat) (whole : Bool) (nodes : List Node)

/-- No piece begins with a caret or a question mark that is a mark. -/
theorem symbolsOf_append_ne {m : Mark} (hm : m = .caret ∨ m = .question) (ps : List Piece)
    (hxs : ps = [] → ∀ ys, xs ≠ .mark m :: ys) (ys : List Symbol) : symbolsOf separators ps ++ xs ≠ .mark m :: ys := by
  cases ps with
  | nil => exact hxs rfl ys
  | cons p ps =>
    have hp : ∃ y zs, p.symbols separators = y :: zs ∧ y ≠ .mark m := by
      cases p with
      | run => unfold Piece.symbols anySymbols; split_ifs <;> rcases hm with rfl | rfl <;> simp
      | one => unfold Piece.symbols anySymbols; split_ifs <;> rcases hm with rfl | rfl <;> simp
      | opening negated => cases negated <;> rcases hm with rfl | rfl <;> simp [Piece.symbols]
      | _ => rcases hm with rfl | rfl <;> simp [Piece.symbols]
    obtain ⟨y, zs, hy, hne⟩ := hp
    simp [hy, hne]

theorem items_guards (hd : depth < maxDepth) (guards : Text) : ∃ q,
    Reading.items (fuel + 4 + guards.length) false depth whole nodes
        (r.facing (guards.flatMap Reading.guard ++ xs) place) =
      Reading.items (fuel + 4) false depth whole ((guards.map guardNode).reverse ++ nodes) (r.facing xs q) := by
  induction guards generalizing place nodes with
  | nil => exact ⟨place, rfl⟩
  | cons c guards ih =>
    obtain ⟨q, hq⟩ := Reading.items_guard r (guards.flatMap Reading.guard ++ xs) place (fuel + guards.length) depth
      whole nodes hd c
    obtain ⟨q', hq'⟩ := ih q (guardNode c :: nodes)
    refine ⟨q', ?_⟩
    rw [show fuel + 4 + (c :: guards).length = fuel + guards.length + 5 by simp only [List.length_cons]; omega,
      List.flatMap_cons, List.append_assoc, hq, show fuel + guards.length + 4 = fuel + 4 + guards.length by omega]
    simpa [guardNode] using hq'

/-- What takes the place of one code point that is no separator is read as the test for it. -/
theorem items_anySymbols : ∃ q,
    Reading.items (fuel + 1) false depth whole nodes (r.facing (anySymbols separators ++ xs) place) =
      Reading.items fuel false depth whole (.char (anyTest separators) :: nodes) (r.facing xs q) := by
  by_cases hs : separators = []
  · rw [anySymbols, anyTest, if_pos hs, if_pos hs]
    exact ⟨_, Reading.items_dot r xs place fuel depth whole nodes⟩
  · rw [anySymbols, anyTest, if_neg hs, if_neg hs]
    have hg := Reading.set_gives_negated r (separators.map .quoted ++ .mark .endBracket :: xs) (place + 1) place
    rw [Symbol.entries_quoted [] separators xs (.inr hs)] at hg
    obtain ⟨q, hq⟩ := hg
    rw [List.append_nil] at hq
    refine ⟨q, ?_⟩
    simpa using Reading.items_set r _ place fuel depth whole nodes hq

/-- A star behind a code point and what it is read as. -/
theorem items_run (test : CharTest) (hq : ∀ ys, xs ≠ .mark .question :: ys) :
    Reading.items (fuel + 1) false depth whole (.char test :: nodes) (r.facing (.mark .star :: xs) place) =
      Reading.items fuel false depth whole ((Part.run test).nodes.reverse ++ nodes) (r.facing xs (place + 1)) :=
  Reading.items_star r xs place fuel depth whole nodes test hq

/-- A piece outside of brackets is read as its part. -/
theorem items_outside (hd : depth < maxDepth) (hq : ∀ ys, xs ≠ .mark .question :: ys) {p : Piece} {part : Part}
    (h : p.outside separators = .inl part) : ∃ q,
    Reading.items (fuel + 4 + steps part) false depth whole nodes (r.facing (p.symbols separators ++ xs) place) =
      Reading.items (fuel + 4) false depth whole (part.nodes.reverse ++ nodes) (r.facing xs q) := by
  cases p with
  | literal c =>
    obtain rfl := Sum.inl.inj h
    exact Reading.items_quoted r xs place (fuel + 4) depth whole nodes c
  | dash =>
    obtain rfl := Sum.inl.inj h
    exact ⟨_, Reading.items_literal r xs place (fuel + 4) depth whole nodes (.inl rfl)⟩
  | anyRun =>
    obtain rfl := Sum.inl.inj h
    refine ⟨place + 1 + 1, ?_⟩
    have hdot := Reading.items_dot r (.mark .star :: xs) place (fuel + 4 + 1) depth whole nodes
    exact hdot.trans (items_run r xs (place + 1) (fuel + 4) depth whole nodes .any hq)
  | run =>
    obtain rfl := Sum.inl.inj h
    obtain ⟨q, hany⟩ := items_anySymbols separators r (.mark .star :: xs) place (fuel + 4 + 1) depth whole nodes
    refine ⟨q + 1, ?_⟩
    rw [Piece.symbols, List.append_assoc]
    exact hany.trans (items_run r xs q (fuel + 4) depth whole nodes (anyTest separators) hq)
  | one =>
    obtain rfl := Sum.inl.inj h
    exact items_anySymbols separators r xs place (fuel + 4) depth whole nodes
  | opening negated => simp [Piece.outside] at h
  | closing =>
    obtain rfl := Sum.inl.inj h
    have hliteral := Reading.items_literal r (separators.flatMap Reading.guard ++ xs) place
      (fuel + 4 + separators.length) depth whole nodes (.inr rfl)
    obtain ⟨q, hguards⟩ := items_guards r xs (place + 1) fuel depth whole (.char (.point false ']') :: nodes) hd separators
    refine ⟨q, ?_⟩
    rw [Part.nodes, List.reverse_cons, List.append_assoc]
    exact hliteral.trans hguards

/-- What the reader makes of a bracket up to the piece that ends it. -/
theorem set_of_bracket {negated : Bool} {inner : List Piece} {B : List Symbol}
    (hB : Stands separators (some (negated, inner)) B) {p : Piece} {part : CharTest → Part}
    (h : p.ending separators inner = some part) : ∃ ys,
    B ++ (p.symbols separators ++ xs) = .mark .bracket :: ys ∧
      r.Gives ((r.facing ys (place + 1)).set place)
        ((bracketTest separators negated (inner ++ [p])).map fun test => (test, p.behind separators ++ xs)) := by
  cases hB with
  | @opened _ _ A hA hi hcaret =>
    have hentries : ((Symbol.entries [] (A ++ (p.symbols separators ++ xs))).map fun found =>
        (Reading.testOf negated found.1, found.2)) =
          (bracketTest separators negated (inner ++ [p])).map fun test => (test, p.behind separators ++ xs) := by
      rw [entries_bracket separators hA hi h, bracketTest, Option.map_map, Option.map_map]
      rfl
    have hp : ∀ ys, p.symbols separators ++ xs ≠ .mark .caret :: ys := by
      simpa using symbolsOf_append_ne separators xs (.inl rfl) [p] (by simp)
    rw [List.append_assoc, ← hentries]
    cases negated with
    | true => exact ⟨_, rfl, Reading.set_gives_negated r _ (place + 1) place⟩
    | false => exact ⟨A ++ (p.symbols separators ++ xs), rfl, Reading.set_gives r _ (place + 1) place (append_ne hcaret hp)⟩

/-- Behind the closing bracket that ends a set the rest of the piece is read. -/
theorem items_behind (hd : depth < maxDepth) (hq : ∀ ys, xs ≠ .mark .question :: ys) {inner : List Piece} {p : Piece}
    {part : CharTest → Part} (h : p.ending separators inner = some part) (test : CharTest) :
    ∃ n q, steps (part test) = n + 1 ∧
      Reading.items (fuel + 4 + n) false depth whole (.char test :: nodes)
          (r.facing (p.behind separators ++ xs) place) =
        Reading.items (fuel + 4) false depth whole ((part test).nodes.reverse ++ nodes) (r.facing xs q) := by
  rcases ending_cases separators h with ⟨rfl, -, rfl⟩ | ⟨rfl, -, rfl⟩ | ⟨rfl, -, rfl⟩
  · obtain ⟨q, hguards⟩ := items_guards r xs place fuel depth whole (.char test :: nodes) hd separators
    refine ⟨separators.length, q, rfl, ?_⟩
    rw [Part.nodes, List.reverse_cons, List.append_assoc]
    exact hguards
  · exact ⟨1, place + 1, rfl, items_run r xs place (fuel + 4) depth whole nodes test hq⟩
  · exact ⟨0, place, rfl, rfl⟩

/-- A bracket with a test is read as the part of the piece that ends it. -/
theorem items_bracket (hd : depth < maxDepth) (hq : ∀ ys, xs ≠ .mark .question :: ys) {negated : Bool}
    {inner : List Piece} {B : List Symbol} (hB : Stands separators (some (negated, inner)) B) {p : Piece}
    {part : CharTest → Part} {test : CharTest} (h : p.ending separators inner = some part)
    (ht : bracketTest separators negated (inner ++ [p]) = some test) : ∃ q,
    Reading.items (fuel + 4 + steps (part test)) false depth whole nodes
        (r.facing (B ++ (p.symbols separators ++ xs)) place) =
      Reading.items (fuel + 4) false depth whole ((part test).nodes.reverse ++ nodes) (r.facing xs q) := by
  obtain ⟨ys, hys, hset⟩ := set_of_bracket separators r xs place hB h
  rw [ht] at hset
  obtain ⟨q, hset⟩ := hset
  obtain ⟨n, q', hn, hbehind⟩ := items_behind separators r xs q fuel depth whole nodes hd hq h test
  refine ⟨q', ?_⟩
  rw [hys, hn, ← hbehind]
  exact Reading.items_set r ys place (fuel + 4 + n) depth whole nodes hset

/-- A bracket with a range out of order is a fault. -/
theorem items_bracket_none {negated : Bool} {inner : List Piece} {B : List Symbol}
    (hB : Stands separators (some (negated, inner)) B) {p : Piece} {part : CharTest → Part}
    (h : p.ending separators inner = some part) (ht : bracketTest separators negated (inner ++ [p]) = none) :
    ∃ cause q, Reading.items (fuel + 1) false depth whole nodes (r.facing (B ++ (p.symbols separators ++ xs)) place) =
      .error (.malformed cause q) := by
  obtain ⟨ys, hys, hset⟩ := set_of_bracket separators r xs place hB h
  rw [ht] at hset
  obtain ⟨cause, q, hset⟩ := hset
  refine ⟨cause, q, ?_⟩
  rw [hys]
  exact Reading.items_set_error r ys place fuel depth whole nodes hset

/-- A bracket that does not end is a fault. -/
theorem items_open {open? : Bool × List Piece} {B : List Symbol} (hB : Stands separators (some open?) B)
    (hxs : .mark .endBracket ∉ xs) (hcaret : ∀ ys, xs ≠ .mark .caret :: ys) :
    ∃ cause q, Reading.items (fuel + 1) false depth whole nodes (r.facing (B ++ xs) place) =
      .error (.malformed cause q) := by
  cases hB with
  | @opened negated inner A hA hi hA' =>
    have hnone : Symbol.entries [] (A ++ xs) = none := by
      cases hs : A ++ xs with
      | nil => rfl
      | cons y ys =>
        refine Symbol.entries_unended ?_
        rcases List.append_eq_cons_iff.mp hs with ⟨-, rfl⟩ | ⟨zs, hz, rfl⟩
        · exact fun hm => hxs (.tail _ hm)
        · exact fun hm => (List.mem_append.mp hm).elim (endBracket_notMem_of_unended separators hi hA hz) hxs
    rw [List.append_assoc]
    cases negated with
    | true =>
      have hset := Reading.set_gives_negated r (A ++ xs) (place + 1) place
      rw [hnone] at hset
      obtain ⟨cause, q, hset⟩ := hset
      exact ⟨cause, q, Reading.items_set_error r _ place fuel depth whole nodes hset⟩
    | false =>
      have hset := Reading.set_gives r (A ++ xs) (place + 1) place (append_ne hA' hcaret)
      rw [hnone] at hset
      obtain ⟨cause, q, hset⟩ := hset
      exact ⟨cause, q, Reading.items_set_error r _ place fuel depth whole nodes hset⟩

/-! ### Reading a glob -/

theorem steps_outside {p : Piece} {part : Part} (h : p.outside separators = .inl part) :
    steps part ≤ (p.symbols separators).length := by
  cases p with
  | opening negated => simp [Piece.outside] at h
  | run => obtain rfl := Sum.inl.inj h; simp only [steps, Piece.symbols, anySymbols]; split_ifs <;> simp
  | one => obtain rfl := Sum.inl.inj h; simp only [steps, Piece.symbols, anySymbols]; split_ifs <;> simp
  | closing =>
    obtain rfl := Sum.inl.inj h
    simp only [steps, Piece.symbols, List.length_cons]
    exact Nat.succ_le_succ (length_le_guards separators)
  | _ => obtain rfl := Sum.inl.inj h; simp [steps, Piece.symbols]

theorem steps_ending {inner : List Piece} {p : Piece} {part : CharTest → Part}
    (h : p.ending separators inner = some part) (test : CharTest) :
    steps (part test) ≤ (p.symbols separators).length := by
  rcases ending_cases separators h with ⟨rfl, -, rfl⟩ | ⟨rfl, -, rfl⟩ | ⟨rfl, -, rfl⟩
  · exact Nat.succ_le_succ (length_le_guards separators)
  · have hsteps : steps (.run (anyTest separators)) ≤ (Piece.run.symbols separators).length :=
      steps_outside separators rfl
    exact hsteps
  · have hsteps : steps (.single (anyTest separators) []) ≤ (Piece.one.symbols separators).length :=
      steps_outside separators rfl
    exact hsteps

/-- What the reader should make of pieces in front of `xs`: the nodes of their parts and what stands for the bracket
that is open behind them, or a fault. -/
def Scans (outcome : Except Fault (Node × Reading)) : Option (List Part × Option (Bool × List Piece)) → Prop
  | some (row, bracket) => ∃ extra q B, fuel ≤ extra ∧ Stands separators bracket B ∧ outcome =
      Reading.items (extra + 4) false depth whole ((row.flatMap Part.nodes).reverse ++ nodes) (r.facing (B ++ xs) q)
  | none => ∃ cause q, outcome = .error (.malformed cause q)

variable {separators r xs depth whole nodes}

theorem Scans.mono {fuel' : Nat} (hf : fuel' ≤ fuel) {outcome : Except Fault (Node × Reading)}
    {found : Option (List Part × Option (Bool × List Piece))}
    (h : Scans separators r xs fuel depth whole nodes outcome found) :
    Scans separators r xs fuel' depth whole nodes outcome found := by
  cases found with
  | none => exact h
  | some found =>
    obtain ⟨extra, q, B, hle, h⟩ := h
    exact ⟨extra, q, B, Nat.le_trans hf hle, h⟩

/-- Parts that have been read stand in front of those that are read next. -/
theorem Scans.map (row : List Part) {outcome : Except Fault (Node × Reading)}
    {found : Option (List Part × Option (Bool × List Piece))}
    (h : Scans separators r xs fuel depth whole ((row.flatMap Part.nodes).reverse ++ nodes) outcome found) :
    Scans separators r xs fuel depth whole nodes outcome (found.map fun (row', bracket) => (row ++ row', bracket)) := by
  cases found with
  | none => exact h
  | some found => simpa [Scans] using h

variable (r xs depth whole nodes)

/-- The pieces of a glob are read as its parts, up to the bracket that they leave open. -/
theorem items_scan (hd : depth < maxDepth) (hm : ∀ m, m = .caret ∨ m = .question → ∀ ys, xs ≠ .mark m :: ys)
    (bracket : Option (Bool × List Piece)) {B : List Symbol} (hB : Stands separators bracket B) (ps : List Piece) :
    Scans separators r xs fuel depth whole nodes
      (Reading.items (fuel + 4 + (symbolsOf separators ps).length) false depth whole nodes
        (r.facing (B ++ (symbolsOf separators ps ++ xs)) place))
      (scan separators bracket ps) := by
  fun_induction scan separators bracket ps generalizing place fuel nodes B with
  | case1 bracket => exact ⟨fuel, place, B, Nat.le_refl _, hB, rfl⟩
  | case2 p ps part hp ih =>
    obtain ⟨e, he⟩ := Nat.exists_eq_add_of_le (steps_outside separators hp)
    have hne := symbolsOf_append_ne separators xs (.inr rfl) ps fun _ => hm _ (.inr rfl)
    obtain ⟨q, hpart⟩ := items_outside separators r (symbolsOf separators ps ++ xs) place
      (fuel + e + (symbolsOf separators ps).length) depth whole nodes hd hne hp
    have hrest := ih q (fuel + e) (part.nodes.reverse ++ nodes) .closed
    cases hB
    rw [symbolsOf_cons, List.length_append, he, List.append_assoc, List.nil_append,
      show fuel + 4 + (steps part + e + (symbolsOf separators ps).length) =
        fuel + e + (symbolsOf separators ps).length + 4 + steps part by omega, hpart]
    rw [show fuel + e + 4 + (symbolsOf separators ps).length =
      fuel + e + (symbolsOf separators ps).length + 4 by omega] at hrest
    exact Scans.map fuel [part] (by simpa using hrest.mono _ (Nat.le_add_right fuel e))
  | case3 p ps negated hp ih =>
    obtain rfl := outside_inr separators hp
    have hrest := ih place (fuel + ((Piece.opening negated).symbols separators).length) nodes
      (stands_opening separators negated)
    cases hB
    rw [symbolsOf_cons, List.length_append,
      show fuel + 4 + (((Piece.opening negated).symbols separators).length + (symbolsOf separators ps).length) =
        fuel + ((Piece.opening negated).symbols separators).length + 4 + (symbolsOf separators ps).length by omega]
    simpa using hrest.mono _ (Nat.le_add_right fuel _)
  | case4 negated inner p ps hp ih =>
    have hstands : Stands separators (some (negated, inner ++ [p])) (B ++ p.symbols separators) := by
      cases hB with
      | opened hA hi hcaret =>
        have hp' : ∀ ys, p.symbols separators ≠ .mark .caret :: ys := by
          simpa using symbolsOf_append_ne separators [] (.inl rfl) [p] (by simp)
        exact (Stands.opened hA hi hcaret).append separators (by simp [Symbol.SameInSet])
          (unended_append separators hi hp) hp'
    have hrest := ih place (fuel + (p.symbols separators).length) nodes hstands
    rw [symbolsOf_cons, List.length_append,
      show fuel + 4 + ((p.symbols separators).length + (symbolsOf separators ps).length) =
        fuel + (p.symbols separators).length + 4 + (symbolsOf separators ps).length by omega]
    simpa using hrest.mono _ (Nat.le_add_right fuel _)
  | case5 negated inner p ps part hp ht =>
    obtain ⟨cause, q, hfault⟩ := items_bracket_none separators r (symbolsOf separators ps ++ xs) place
      (fuel + 3 + (symbolsOf separators (p :: ps)).length) depth whole nodes hB hp ht
    refine ⟨cause, q, ?_⟩
    rw [← hfault, show fuel + 4 + (symbolsOf separators (p :: ps)).length =
      fuel + 3 + (symbolsOf separators (p :: ps)).length + 1 by omega]
    simp
  | case6 negated inner p ps part hp test ht ih =>
    obtain ⟨e, he⟩ := Nat.exists_eq_add_of_le (steps_ending separators hp test)
    have hne := symbolsOf_append_ne separators xs (.inr rfl) ps fun _ => hm _ (.inr rfl)
    obtain ⟨q, hpart⟩ := items_bracket separators r (symbolsOf separators ps ++ xs) place
      (fuel + e + (symbolsOf separators ps).length) depth whole nodes hd hne hB hp ht
    have hrest := ih q (fuel + e) ((part test).nodes.reverse ++ nodes) .closed
    rw [symbolsOf_cons, List.length_append, he, List.append_assoc,
      show fuel + 4 + (steps (part test) + e + (symbolsOf separators ps).length) =
        fuel + e + (symbolsOf separators ps).length + 4 + steps (part test) by omega, hpart]
    rw [show fuel + e + 4 + (symbolsOf separators ps).length =
      fuel + e + (symbolsOf separators ps).length + 4 by omega] at hrest
    exact Scans.map fuel [part test] (by simpa using hrest.mono _ (Nat.le_add_right fuel e))

variable (separators)

/-- Symbols that the reader takes for pieces of a glob, whatever stands around them. -/
def ReadsAs (symbols : List Symbol) (ps : List Piece) : Prop :=
  ∀ (r : Reading) (xs : List Symbol) (place fuel depth : Nat) (whole : Bool) (nodes : List Node), depth < maxDepth →
    (∀ m, m = .caret ∨ m = .question → ∀ ys, xs ≠ .mark m :: ys) →
    Scans separators r xs fuel depth whole nodes
      (Reading.items (fuel + 4 + symbols.length) false depth whole nodes (r.facing (symbols ++ xs) place))
      (scan separators none ps)

theorem readsAs_symbolsOf (ps : List Piece) : ReadsAs separators (symbolsOf separators ps) ps :=
  fun r xs place fuel depth whole nodes hd hm => items_scan r xs place fuel depth whole nodes hd hm none .closed ps

/-- Symbols that are taken for pieces with parts are read as those. -/
theorem ReadsAs.row {symbols : List Symbol} {ps : List Piece} (h : ReadsAs separators symbols ps) {row : List Part}
    (hrow : parts separators none ps = some row) (hd : depth < maxDepth)
    (hm : ∀ m, m = .caret ∨ m = .question → ∀ ys, xs ≠ .mark m :: ys) : ∃ extra q, fuel ≤ extra ∧
    Reading.items (fuel + 4 + symbols.length) false depth whole nodes (r.facing (symbols ++ xs) place) =
      Reading.items (extra + 4) false depth whole ((row.flatMap Part.nodes).reverse ++ nodes) (r.facing xs q) := by
  have hscan := h r xs place fuel depth whole nodes hd hm
  rw [parts_eq_scan] at hrow
  obtain ⟨⟨row', bracket⟩, hfound, hrow⟩ := Option.bind_eq_some_iff.mp hrow
  simp only [Option.ite_none_right_eq_some, Option.some.injEq] at hrow
  obtain ⟨rfl, rfl⟩ := hrow
  rw [hfound] at hscan
  obtain ⟨extra, q, B, hle, hB, hitems⟩ := hscan
  cases hB
  exact ⟨extra, q, hle, hitems⟩

/-- Symbols that are taken for pieces without parts are a fault, if a range is out of order or nothing behind them ends a
bracket. -/
theorem ReadsAs.fault {symbols : List Symbol} {ps : List Piece} (h : ReadsAs separators symbols ps)
    (hnone : parts separators none ps = none) (hxs : scan separators none ps = none ∨ .mark .endBracket ∉ xs)
    (hd : depth < maxDepth) (hm : ∀ m, m = .caret ∨ m = .question → ∀ ys, xs ≠ .mark m :: ys) : ∃ cause q,
    Reading.items (fuel + 4 + symbols.length) false depth whole nodes (r.facing (symbols ++ xs) place) =
      .error (.malformed cause q) := by
  have hscan := h r xs place fuel depth whole nodes hd hm
  rw [parts_eq_scan] at hnone
  cases hfound : scan separators none ps with
  | none =>
    rw [hfound] at hscan
    exact hscan
  | some found =>
    obtain ⟨row, bracket⟩ := found
    rw [hfound] at hscan hnone
    obtain ⟨extra, q, B, -, hB, hitems⟩ := hscan
    cases bracket with
    | none => simp at hnone
    | some bracket =>
      rw [hitems]
      exact items_open separators r xs q (extra + 3) depth whole _ hB (hxs.resolve_left (by simp [hfound]))
        (hm _ (.inl rfl))

end FileSieve.Glob
