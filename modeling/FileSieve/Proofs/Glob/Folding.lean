import FileSieve.Proofs.Glob.Alternatives
import FileSieve.Proofs.Glob.Separator

/-!
# Globs under case folding

Under case folding no test of a glob tells a letter from the same letter in the other case, be it a code point, a range
of one case only, a negated set or the guard behind a bracket (`holds_asciiLower`). So what parts take does not depend
on the case of letters, piece by piece, and neither does what globs match (`matchesText_fold`).
-/

namespace FileSieve.Glob

open Regex

/-! ### Texts that differ in case -/

/-- Two texts are the same but for the case of letters. -/
def Folded (s t : Text) : Prop :=
  s.map CodePoint.asciiLower = t.map CodePoint.asciiLower

variable {s t : Text}

theorem Folded.symm (h : Folded s t) : Folded t s :=
  Eq.symm h

/-- A text falls into pieces like another one that differs in case only. -/
theorem Folded.append {u v : Text} (h : Folded (u ++ v) t) : ∃ u' v', t = u' ++ v' ∧ Folded u u' ∧ Folded v v' := by
  rw [Folded, List.map_append] at h
  obtain ⟨u', v', rfl, hu, hv⟩ := List.map_eq_append_iff.mp h.symm
  exact ⟨u', v', rfl, hu.symm, hv.symm⟩

theorem Folded.nil (h : Folded [] t) : t = [] :=
  List.map_eq_nil_iff.mp h.symm

theorem Folded.singleton {c : CodePoint} (h : Folded [c] t) : ∃ d, t = [d] ∧ c.asciiLower = d.asciiLower := by
  obtain ⟨d, hd, hcd⟩ := List.map_eq_singleton_iff.mp h.symm
  exact ⟨d, hd, hcd.symm⟩

theorem Folded.newline (h : Folded [('\n' : CodePoint)] t) : t = [('\n' : CodePoint)] := by
  obtain ⟨d, rfl, hd⟩ := h.singleton
  have hlower : ('\n' : CodePoint).asciiLower = '\n' := by decide
  rw [hlower, eq_comm, CodePoint.asciiLower_eq_newline] at hd
  rw [hd]

/-! ### Parts -/

theorem holds_fold {c d : CodePoint} (h : c.asciiLower = d.asciiLower) (test : CharTest) :
    test.holds (mode true) c = test.holds (mode true) d := by
  rw [← holds_asciiLower (unicode_mode true) (ignoreCase_mode true), h,
    holds_asciiLower (unicode_mode true) (ignoreCase_mode true)]

theorem same_fold {c d : CodePoint} (h : c.asciiLower = d.asciiLower) (x : CodePoint) :
    (mode true).same x c = (mode true).same x d := by
  rw [← same_asciiLower (unicode_mode true) (ignoreCase_mode true), h,
    same_asciiLower (unicode_mode true) (ignoreCase_mode true)]

theorem takes_fold {part : Part} (h : Folded s t) (hs : part.Takes (mode true) s) : part.Takes (mode true) t := by
  cases part with
  | single test guards =>
    obtain ⟨c, rfl, hc, hguards⟩ := hs
    obtain ⟨d, rfl, hd⟩ := h.singleton
    exact ⟨d, rfl, holds_fold hd test ▸ hc, fun g hg => same_fold hd g ▸ hguards g hg⟩
  | run test =>
    intro d hd
    have hmem : d.asciiLower ∈ s.map CodePoint.asciiLower := h ▸ List.mem_map_of_mem hd
    obtain ⟨c, hc, hcd⟩ := List.mem_map.mp hmem
    exact holds_fold hcd test ▸ hs c hc

theorem covers_fold {row : List Part} (hs : Covers (mode true) row s) (h : Folded s t) : Covers (mode true) row t := by
  induction hs generalizing t with
  | nil =>
    rw [h.nil]
    exact .nil
  | cons hpart _ ih =>
    obtain ⟨u, v, rfl, hu, hv⟩ := h.append
    exact .cons (takes_fold hu hpart) (ih hv)

theorem fits_of_folded {row : List Part} (h : Folded s t) (hs : Fits true row s) : Fits true row t := by
  obtain ⟨u, hu, rfl | rfl⟩ := hs
  · exact ⟨t, covers_fold hu h, .inl rfl⟩
  · obtain ⟨v, w, rfl, hv, hw⟩ := h.append
    rw [hw.newline]
    exact ⟨v, covers_fold hu hv, .inr rfl⟩

/-- What fits parts fits them in any case. -/
theorem fits_fold (h : Folded s t) (row : List Part) : Fits true row s ↔ Fits true row t :=
  ⟨fits_of_folded h, fits_of_folded h.symm⟩

/-! ### Globs -/

/-- The pattern of no globs is empty and matches every text. -/
theorem matchesText_compileAll_nil (separators : Text) (caseFold : Bool) (s : Text) :
    (compileAll [] separators caseFold).matchesText s = .ok true := by
  have hparse : parse [] (mode caseFold) = .ok ⟨.empty, 0, mode caseFold⟩ := by
    cases caseFold <;> decide +kernel
  have hengine : (compileAll [] separators caseFold).engine = .ok ⟨.empty, 0, mode caseFold⟩ := engine_eq rfl hparse
  have hfound : (Parsed.search? ⟨.empty, 0, mode caseFold⟩ s 0).isSome = true :=
    (isSome_search _ s).mpr ⟨[], s, rfl, rfl⟩
  rw [Pattern.matchesText_eq (isUnicode_of_flags rfl) hengine, hfound]

/-- Under case folding globs match a text exactly when they match the same text with letters in the other case, and fail
alike. They give an answer if each of them is a regular expression for itself. -/
theorem matchesText_fold (globs : List Text) (separators : Text) (h : Folded s t) :
    (compileAll globs separators true).matchesText s = (compileAll globs separators true).matchesText t ∧
      ((∀ glob ∈ globs, (compile glob separators true).isWellFormed = .ok true) →
        ∃ found, (compileAll globs separators true).matchesText s = .ok found) := by
  cases globs with
  | nil =>
    rw [matchesText_compileAll_nil, matchesText_compileAll_nil]
    exact ⟨rfl, fun _ => ⟨true, rfl⟩⟩
  | cons glob globs =>
    constructor
    · by_cases hparts :
        ∀ ps ∈ joined separators (pieces glob) (globs.map pieces), (parts separators none ps).isSome = true
      · obtain ⟨found, hfound, hs⟩ := matchesText_joined separators glob true hparts s
        obtain ⟨found', hfound', ht⟩ := matchesText_joined separators glob true hparts t
        have hsame : found = true ↔ found' = true := by
          rw [hs, ht]
          simp only [fits_fold h]
        rw [hfound, hfound', Bool.eq_iff_iff.mpr hsame]
      · have hnone : ∃ ps ∈ joined separators (pieces glob) (globs.map pieces), parts separators none ps = none := by
          simpa using hparts
        obtain ⟨e, -, he⟩ := matchesText_joined_fault separators glob true hnone
        rw [he, he]
    · intro hvalid
      obtain ⟨found, hfound, -⟩ := matchesText_compileAll_iff separators true (List.cons_ne_nil glob globs) hvalid s
      exact ⟨found, hfound⟩

/-- A range of capitals and a negated set, in the other case. -/
theorem capitals_fold : Folded ['d', 'X'] ['D', 'x'] ∧
    (compileAll [['[', 'A', '-', 'F', ']', '[', '!', 'y', ']']] ['/', 'Z'] true).matchesText ['D', 'x'] = .ok true := by
  have hfolded : Folded ['d', 'X'] ['D', 'x'] := by
    unfold Folded
    decide
  have hmatch : (compileAll [['[', 'A', '-', 'F', ']', '[', '!', 'y', ']']] ['/', 'Z'] true).matchesText ['d', 'X'] =
      .ok true := by
    decide +kernel
  exact ⟨hfolded, (matchesText_fold _ ['/', 'Z'] hfolded).1 ▸ hmatch⟩

end FileSieve.Glob
