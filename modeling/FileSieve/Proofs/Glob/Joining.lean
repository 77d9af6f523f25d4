import FileSieve.Proofs.Glob.Compile
import Mathlib.Data.List.Forall2

/-!
# Globs that leave a bracket open

The regular expressions of several globs are joined before any of them is read: each is put between anchors and in
parentheses, and a bar comes between two of them. Where a glob leaves a bracket open, the anchor, the parentheses and
the bar are code points in that bracket, and the next glob goes on within it. So what is read as one alternative is a
run of globs with those code points between them (`joined`), and a list of globs is read as the alternatives of these
(`choice_joined`), or it is a fault when one of them has no parts (`choice_joined_fault`).
-/

namespace FileSieve.Glob

open Regex

variable (separators : Text)

/-! ### Globs in each other's brackets -/

/-- Whether pieces leave a bracket open. -/
def leavesOpen (ps : List Piece) : Bool :=
  match scan separators none ps with
  | some (_, some _) => true
  | _ => false

/-- The marks between two globs. -/
def glueMarks : List Mark :=
  [.dollar, .endParen, .bar, .paren, .caret]

/-- What stands between two globs, where it is in a bracket. -/
def glue : List Piece :=
  glueMarks.map fun m => .literal m.point

/-- Globs as they are read together: one that leaves a bracket open goes on with the next. -/
def joined : List Piece → List (List Piece) → List (List Piece)
  | ps, [] => [ps]
  | ps, next :: rest =>
    if leavesOpen separators ps then joined (ps ++ (glue ++ next)) rest else ps :: joined next rest

theorem leavesOpen_iff {ps : List Piece} :
    leavesOpen separators ps = true ↔
      ∃ row negated inner, scan separators none ps = some (row, some (negated, inner)) := by
  unfold leavesOpen
  split
  · next row bracket h =>
    obtain ⟨negated, inner⟩ := bracket
    simp [h]
  · next h =>
    simp only [Bool.false_eq_true, false_iff, not_exists]
    exact fun row negated inner hs => h row _ hs

theorem leavesOpen_of_parts {ps : List Piece} {row : List Part} (h : parts separators none ps = some row) :
    leavesOpen separators ps = false := by
  rw [Bool.eq_false_iff, Ne, leavesOpen_iff]
  rintro ⟨row', negated, inner, hs⟩
  simp [parts_eq_scan, hs] at h

/-- Pieces without parts that leave no bracket open have a range out of order. -/
theorem scan_eq_none {ps : List Piece} (h : parts separators none ps = none) (hopen : leavesOpen separators ps = false) :
    scan separators none ps = none := by
  cases hs : scan separators none ps with
  | none => rfl
  | some found =>
    obtain ⟨row, _ | ⟨negated, inner⟩⟩ := found
    · simp [parts_eq_scan, hs] at h
    · exact absurd ((leavesOpen_iff separators).mpr ⟨row, negated, inner, hs⟩) (by simp [hopen])

/-- Behind pieces that leave no bracket open the parts of others begin anew. -/
theorem parts_append {ps : List Piece} (qs : List Piece) (h : leavesOpen separators ps = false) :
    parts separators none (ps ++ qs) =
      (parts separators none ps).bind fun row => (parts separators none qs).map (row ++ ·) := by
  simp only [parts_eq_scan, scan_append]
  cases hscan : scan separators none ps with
  | none => rfl
  | some found =>
    obtain ⟨row, _ | ⟨negated, inner⟩⟩ := found
    · cases hnext : scan separators none qs with
      | none => simp [hnext]
      | some found => by_cases hopen : found.2 = none <;> simp [hnext, hopen]
    · exact absurd ((leavesOpen_iff separators).mpr ⟨row, negated, inner, hscan⟩) (by simp [h])

/-- Where no glob but the last leaves a bracket open, each is read for itself. -/
theorem joined_eq {ps : List Piece} {rest : List (List Piece)}
    (h : ∀ qs ∈ (ps :: rest).dropLast, leavesOpen separators qs = false) : joined separators ps rest = ps :: rest := by
  induction rest generalizing ps with
  | nil => rfl
  | cons next rest ih =>
    have hrest : joined separators next rest = next :: rest :=
      ih fun qs hq => h qs (by rw [List.dropLast_cons_cons]; exact .tail _ hq)
    simp [joined, h ps (by simp), hrest]

theorem joined_ne_nil (ps : List Piece) (rest : List (List Piece)) : joined separators ps rest ≠ [] := by
  induction rest generalizing ps with
  | nil => simp [joined]
  | cons next rest ih =>
    rw [joined]
    split_ifs
    · exact ih _
    · simp

/-- Rows of pieces with their parts. -/
abbrev HaveParts (globs : List (List Piece)) (rows : List (List Part)) : Prop :=
  List.Forall₂ (fun ps row => parts separators none ps = some row) globs rows

/-! ### Reading on in an open bracket -/

/-- Symbols that are read up to an open bracket are read on in it. -/
theorem ReadsAs.join {symbols : List Symbol} {ps : List Piece} (h : ReadsAs separators symbols ps)
    (hopen : leavesOpen separators ps = true) (next : List Piece) :
    ReadsAs separators (symbols ++ (glueMarks.map .mark ++ symbolsOf separators next)) (ps ++ (glue ++ next)) := by
  intro r xs place fuel depth whole nodes hd hm
  obtain ⟨row, negated, inner, hs⟩ := (leavesOpen_iff separators).mp hopen
  -- up to the open bracket, with fuel to spare for the rest
  have hfirst := h r (glueMarks.map .mark ++ (symbolsOf separators next ++ xs)) place
    (fuel + glueMarks.length + (symbolsOf separators next).length) depth whole nodes hd
    (by rintro m (rfl | rfl) ys <;> simp [glueMarks])
  rw [hs] at hfirst
  obtain ⟨extra, q, B, hle, hB, hfirst⟩ := hfirst
  obtain ⟨spare, rfl⟩ := Nat.exists_eq_add_of_le hle
  -- and on from the bracket that has taken in what stands between the globs
  have hglue : scan separators (some (negated, inner)) (glue ++ next) =
      scan separators (some (negated, inner ++ glue)) next := by
    simp [glue, glueMarks, scan, Piece.ending]
  have hstands : Stands separators (some (negated, inner ++ glue)) (B ++ glueMarks.map .mark) := by
    cases hB with
    | opened hA hi hcaret =>
      have hinner : Unended separators (inner ++ glue) :=
        hi.append_of_notMem separators (by simp [glue, glueMarks, Piece.symbols])
      exact (Stands.opened hA hi hcaret).append separators
        (show Symbol.SameInSet _ (symbolsOf separators glue) from rfl) hinner (by simp [glueMarks])
  have hsecond := items_scan r xs q (fuel + glueMarks.length + spare) depth whole
    ((row.flatMap Part.nodes).reverse ++ nodes) hd hm _ hstands next
  have hscan : scan separators none (ps ++ (glue ++ next)) =
      (scan separators (some (negated, inner ++ glue)) next).map fun p => (row ++ p.1, p.2) := by
    rw [scan_append, hs, ← hglue]
    rfl
  have hfuel : fuel + 4 + (symbols ++ (glueMarks.map Symbol.mark ++ symbolsOf separators next)).length =
      fuel + glueMarks.length + (symbolsOf separators next).length + 4 + symbols.length := by
    simp only [List.length_append, List.length_map]
    omega
  rw [hscan, hfuel, List.append_assoc, List.append_assoc, hfirst,
    show fuel + glueMarks.length + (symbolsOf separators next).length + spare + 4 =
      fuel + glueMarks.length + spare + 4 + (symbolsOf separators next).length by omega]
  rw [List.append_assoc] at hsecond
  exact Scans.map _ row (hsecond.mono _ (by omega))

/-! ### Reading alternatives -/

/-- The symbols of the pieces of several globs. -/
def alternativesSymbols : List Piece → List (List Piece) → List Symbol
  | ps, [] => .mark .paren :: (anchoredSymbols separators ps ++ [.mark .endParen])
  | ps, next :: rest =>
    .mark .paren :: (anchoredSymbols separators ps ++ .mark .endParen :: .mark .bar :: alternativesSymbols next rest)

/-- What stands behind the symbols of a glob. -/
def tailSymbols : List (List Piece) → List Symbol
  | [] => [.mark .dollar, .mark .endParen]
  | next :: rest => glueMarks.map .mark ++ (symbolsOf separators next ++ tailSymbols rest)

theorem alternativesSymbols_eq (ps : List Piece) (rest : List (List Piece)) :
    alternativesSymbols separators ps rest =
      .mark .paren :: .mark .caret :: (symbolsOf separators ps ++ tailSymbols separators rest) := by
  induction rest generalizing ps with
  | nil => simp [alternativesSymbols, anchoredSymbols, tailSymbols]
  | cons next rest ih => simp [alternativesSymbols, anchoredSymbols, tailSymbols, glueMarks, ih]

variable (r : Reading) (place fuel : Nat) (whole : Bool) {symbols : List Symbol} {ps : List Piece}

/-- Symbols that are taken for a glob with parts are a group of their own in parentheses. -/
theorem items_alternative (hX : ReadsAs separators symbols ps) {row : List Part}
    (h : parts separators none ps = some row) {tail : List Symbol} (ht : tail = [] ∨ ∃ ys, tail = .mark .bar :: ys) :
    ∃ widths q, widths.length = r.widths.length + 1 ∧
      Reading.items (fuel + 8 + symbols.length) false 0 whole []
          (r.facing (.mark .paren :: .mark .caret :: (symbols ++ .mark .dollar :: .mark .endParen :: tail)) place) =
        .ok (.group (r.widths.length + 1) (Node.ofList (anchoredNodes row)), { r with widths }.facing tail q) := by
  obtain ⟨q, hitems⟩ := items_anchored separators { r with widths := r.widths ++ [none] } (place + 1) fuel 1 false
    hX (by decide) h (.inr ⟨tail, rfl⟩)
  have hbody := Reading.choice_single _ 1 false hitems rfl
  obtain ⟨widths, hwidths, hgroup⟩ := Reading.items_capture r _ place _ 0 whole [] (by decide) (by simp) hbody
  refine ⟨widths, q + 1, hwidths, ?_⟩
  rw [show fuel + 8 + symbols.length = fuel + 5 + symbols.length + 1 + 2 by omega, hgroup]
  rcases ht with rfl | ⟨ys, rfl⟩
  · exact Reading.items_nil _ _ _ 0 whole _
  · exact Reading.items_stop _ ys _ _ 0 whole _ (.inl rfl)

theorem items_alternative_fault (hX : ReadsAs separators symbols ps) (h : parts separators none ps = none)
    (tail : List Symbol) (ht : scan separators none ps = none ∨ .mark .endBracket ∉ tail) : ∃ cause q,
    Reading.items (fuel + 8 + symbols.length) false 0 whole []
        (r.facing (.mark .paren :: .mark .caret :: (symbols ++ .mark .dollar :: .mark .endParen :: tail)) place) =
      .error (.malformed cause q) := by
  obtain ⟨cause, q, hitems⟩ := items_anchored_fault separators { r with widths := r.widths ++ [none] } (place + 1) fuel 1
    false hX (by decide) h (.mark .endParen :: tail) (ht.imp_right fun hm => by simpa using hm)
  refine ⟨cause, q, ?_⟩
  rw [show fuel + 8 + symbols.length = fuel + 5 + symbols.length + 1 + 2 by omega]
  exact Reading.items_capture_error r _ place _ 0 whole [] (by decide) (by simp) (Reading.choice_error _ 1 false hitems)

/-- A glob with parts comes in front of the alternatives behind it. -/
theorem choice_alternative (hv : r.mode.verbose = false) (hX : ReadsAs separators symbols ps) {row : List Part}
    (h : parts separators none ps = some row) (next : List Piece) (rest : List (List Piece)) : ∃ widths q,
    widths.length = r.widths.length + 1 ∧
      Reading.choice (fuel + 9 + symbols.length + (tailSymbols separators (next :: rest)).length) false 0 whole
          (r.facing (.mark .paren :: .mark .caret :: (symbols ++ tailSymbols separators (next :: rest))) place) =
        (Reading.choice (fuel + 4 + symbols.length + 9 + (symbolsOf separators next).length +
            (tailSymbols separators rest).length) false 0 false
          ({ r with widths }.facing
            (.mark .paren :: .mark .caret :: (symbolsOf separators next ++ tailSymbols separators rest)) q) >>=
          fun (second, s) => .ok (.either (.group (r.widths.length + 1) (Node.ofList (anchoredNodes row))) second, s)) := by
  obtain ⟨widths, q, hwidths, hitems⟩ := items_alternative separators r place
    (fuel + 5 + (symbolsOf separators next).length + (tailSymbols separators rest).length) whole hX h
    (.inr ⟨.mark .paren :: .mark .caret :: (symbolsOf separators next ++ tailSymbols separators rest), rfl⟩)
  have hbar := Reading.choice_bar (r := { r with widths }) _ _ 0 whole hv hitems
  have hlength : fuel + 9 + symbols.length + (tailSymbols separators (next :: rest)).length =
      fuel + 5 + (symbolsOf separators next).length + (tailSymbols separators rest).length + 8 + symbols.length + 1 := by
    simp only [tailSymbols, glueMarks, List.length_append, List.length_map, List.length_cons, List.length_nil]
    omega
  refine ⟨widths, q + 1, hwidths, ?_⟩
  rw [hlength, show fuel + 4 + symbols.length + 9 + (symbolsOf separators next).length +
      (tailSymbols separators rest).length =
    fuel + 5 + (symbolsOf separators next).length + (tailSymbols separators rest).length + 8 + symbols.length by omega]
  exact hbar

/-- Globs are read as the alternatives of those that result from open brackets, if each of these has parts. -/
theorem choice_joined (hv : r.mode.verbose = false) (hX : ReadsAs separators symbols ps) (rest : List (List Piece))
    {row : List Part} {rows : List (List Part)}
    (h : HaveParts separators (joined separators ps rest) (row :: rows)) : ∃ widths q,
    Reading.choice (fuel + 9 + symbols.length + (tailSymbols separators rest).length) false 0 whole
        (r.facing (.mark .paren :: .mark .caret :: (symbols ++ tailSymbols separators rest)) place) =
      .ok (alternativesNode (r.widths.length + 1) row rows, { r with widths }.facing [] q) := by
  induction rest generalizing r place fuel whole symbols ps row rows with
  | nil =>
    obtain ⟨hrow, hnil⟩ := List.forall₂_cons.mp h
    cases hnil
    obtain ⟨widths, q, -, hitems⟩ := items_alternative separators r place (fuel + 2) whole hX hrow (.inl rfl)
    refine ⟨widths, q, ?_⟩
    rw [show fuel + 9 + symbols.length + (tailSymbols separators []).length = fuel + 2 + 8 + symbols.length + 1 by
      simp only [tailSymbols, List.length_cons, List.length_nil]; omega]
    exact Reading.choice_single _ 0 whole hitems rfl
  | cons next rest ih =>
    by_cases hopen : leavesOpen separators ps = true
    · rw [joined, if_pos hopen] at h
      obtain ⟨widths, q, hchoice⟩ := ih r place fuel whole hv (hX.join separators hopen next) h
      refine ⟨widths, q, ?_⟩
      simpa [tailSymbols, Nat.add_assoc] using hchoice
    · rw [joined, if_neg hopen] at h
      obtain ⟨hrow, hrest⟩ := List.forall₂_cons.mp h
      obtain ⟨row', rows', rfl⟩ : ∃ row' rows', rows = row' :: rows' := by
        cases rows with
        | nil => exact absurd (List.forall₂_nil_right_iff.mp hrest) (joined_ne_nil separators next rest)
        | cons row' rows' => exact ⟨row', rows', rfl⟩
      obtain ⟨widths, q, hwidths, hfirst⟩ := choice_alternative separators r place fuel whole hv hX hrow next rest
      obtain ⟨widths', q', hchoice⟩ := ih { r with widths } q (fuel + 4 + symbols.length) false hv
        (readsAs_symbolsOf separators next) hrest
      refine ⟨widths', q', ?_⟩
      rw [hfirst, hchoice, ← hwidths]
      rfl

/-- Globs are a fault, if one of those that result from open brackets has no parts. -/
theorem choice_joined_fault (hv : r.mode.verbose = false) (hX : ReadsAs separators symbols ps) (rest : List (List Piece))
    (h : ∃ qs ∈ joined separators ps rest, parts separators none qs = none) : ∃ cause q,
    Reading.choice (fuel + 9 + symbols.length + (tailSymbols separators rest).length) false 0 whole
        (r.facing (.mark .paren :: .mark .caret :: (symbols ++ tailSymbols separators rest)) place) =
      .error (.malformed cause q) := by
  induction rest generalizing r place fuel whole symbols ps with
  | nil =>
    have hnone : parts separators none ps = none := by simpa [joined] using h
    obtain ⟨cause, q, hitems⟩ := items_alternative_fault separators r place (fuel + 2) whole hX hnone []
      (.inr (by simp))
    refine ⟨cause, q, ?_⟩
    rw [show fuel + 9 + symbols.length + (tailSymbols separators []).length = fuel + 2 + 8 + symbols.length + 1 by
      simp only [tailSymbols, List.length_cons, List.length_nil]; omega]
    exact Reading.choice_error _ 0 whole hitems
  | cons next rest ih =>
    by_cases hopen : leavesOpen separators ps = true
    · rw [joined, if_pos hopen] at h
      obtain ⟨cause, q, hchoice⟩ := ih r place fuel whole hv (hX.join separators hopen next) h
      refine ⟨cause, q, ?_⟩
      simpa [tailSymbols, Nat.add_assoc] using hchoice
    · rw [joined, if_neg hopen] at h
      cases hparts : parts separators none ps with
      | none =>
        obtain ⟨cause, q, hitems⟩ := items_alternative_fault separators r place
          (fuel + (tailSymbols separators (next :: rest)).length) whole hX hparts
          (.mark .bar :: .mark .paren :: .mark .caret :: (symbolsOf separators next ++ tailSymbols separators rest))
          (.inl (scan_eq_none separators hparts (Bool.eq_false_iff.mpr hopen)))
        refine ⟨cause, q, ?_⟩
        rw [show fuel + 9 + symbols.length + (tailSymbols separators (next :: rest)).length =
          fuel + (tailSymbols separators (next :: rest)).length + 8 + symbols.length + 1 by omega]
        exact Reading.choice_error _ 0 whole hitems
      | some row =>
        obtain ⟨qs, hq, hnone⟩ := h
        have hq' : qs ∈ joined separators next rest := by
          rcases List.mem_cons.mp hq with rfl | hq
          · simp [hparts] at hnone
          · exact hq
        obtain ⟨widths, q, -, hfirst⟩ := choice_alternative separators r place fuel whole hv hX hparts next rest
        obtain ⟨cause, q', hchoice⟩ := ih { r with widths } q (fuel + 4 + symbols.length) false hv
          (readsAs_symbolsOf separators next) ⟨qs, hq', hnone⟩
        exact ⟨cause, q', by rw [hfirst, hchoice]; rfl⟩

end FileSieve.Glob
