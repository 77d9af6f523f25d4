import FileSieve.Proofs.Glob.Alternatives

/-!
# Malformed globs in a list

A glob that is no regular expression for itself makes a list of globs one that gives no answer, as long as no glob
before the last leaves a bracket open. Otherwise the next glob goes on in that bracket and may end it: then the two are
one glob that is neither of them (`open_bracket_swallows_glob`). `compileAll_malformed` says exactly which lists with a
malformed glob give no answer, and what the others match.
-/

namespace FileSieve.Glob

open Regex

variable (separators : Text) (caseFold : Bool)

/-- The globs of a list as they are read, where some leave a bracket open. -/
def readTogether : List Text → List (List Piece)
  | [] => []
  | glob :: globs => joined separators (pieces glob) (globs.map pieces)

/-- A pattern that is refused as a regular expression whatever is asked of it. -/
def Refused (p : Pattern) : Prop :=
  ∃ e : Pattern.Error, e.kind = .compilationFailed ∧ ∀ s, p.matchesText s = .error (.pattern e)

variable {separators}

/-- Where no glob but the last leaves a bracket open, each of a list is read for itself. -/
theorem readTogether_eq {globs : List Text} (h : ∀ glob ∈ globs.dropLast, leavesOpen separators (pieces glob) = false) :
    readTogether separators globs = globs.map pieces := by
  cases globs with
  | nil => rfl
  | cons glob globs =>
    refine joined_eq separators fun ps hp => ?_
    rw [← List.map_cons, ← List.map_dropLast] at hp
    obtain ⟨g, hg, rfl⟩ := List.mem_map.mp hp
    exact h g hg

/-- A list with a glob that is no regular expression for itself gives no answer to any name exactly when one of the
globs that are read together has no parts; otherwise it matches what one of those matches. If no glob before the last
leaves a bracket open, it never gives an answer. -/
theorem compileAll_malformed {globs : List Text}
    (hmalformed : ∃ glob ∈ globs, (compile glob separators caseFold).isWellFormed = .ok false) :
    (Refused (compileAll globs separators caseFold) ↔
      ∃ ps ∈ readTogether separators globs, parts separators none ps = none) ∧
    (¬Refused (compileAll globs separators caseFold) → ∀ s, ∃ found,
      (compileAll globs separators caseFold).matchesText s = .ok found ∧
        (found = true ↔ ∃ ps ∈ readTogether separators globs, ∃ row,
          parts separators none ps = some row ∧ Fits caseFold row s)) ∧
    ((∀ glob ∈ globs.dropLast, leavesOpen separators (pieces glob) = false) →
      Refused (compileAll globs separators caseFold)) := by
  cases globs with
  | nil => simp at hmalformed
  | cons first globs =>
    have hfault : (∃ ps ∈ readTogether separators (first :: globs), parts separators none ps = none) →
        Refused (compileAll (first :: globs) separators caseFold) :=
      matchesText_joined_fault separators first caseFold
    have hverdict : (¬∃ ps ∈ readTogether separators (first :: globs), parts separators none ps = none) → ∀ s, ∃ found,
        (compileAll (first :: globs) separators caseFold).matchesText s = .ok found ∧
          (found = true ↔ ∃ ps ∈ readTogether separators (first :: globs), ∃ row,
            parts separators none ps = some row ∧ Fits caseFold row s) := by
      intro hnone
      refine matchesText_joined separators first caseFold fun ps hp => ?_
      rw [Option.isSome_iff_ne_none]
      exact fun h => hnone ⟨ps, hp, h⟩
    refine ⟨⟨fun hrefused => ?_, hfault⟩, fun hrefused => hverdict fun h => hrefused (hfault h), fun hclosed => ?_⟩
    · by_contra hnone
      obtain ⟨e, -, he⟩ := hrefused
      obtain ⟨found, hf, -⟩ := hverdict hnone []
      simp [he] at hf
    · obtain ⟨glob, hg, hw⟩ := hmalformed
      rw [isWellFormed_compile] at hw
      have hparts : parts separators none (pieces glob) = none :=
        Option.not_isSome_iff_eq_none.mp (by simpa [partsOf] using Except.ok.inj hw)
      refine hfault ⟨pieces glob, ?_, hparts⟩
      rw [readTogether_eq hclosed]
      exact List.mem_map_of_mem hg

/-- A bracket that the last glob leaves open is never closed. -/
theorem last_bracket_refused : Refused (compileAll [['*', 'b'], ['[', 'a']] ['/'] true) := by
  refine (compileAll_malformed true ⟨['[', 'a'], by simp, ?_⟩).2.2 ?_
  · rw [isWellFormed_compile]
    decide
  · simp only [List.dropLast_cons_cons, List.dropLast_singleton, List.forall_mem_singleton]
    decide

/-- A bracket that a glob leaves open takes the next glob in: together they match what neither of them does. -/
theorem open_bracket_swallows_glob :
    (compile ['[', 'a'] ['/'] true).isWellFormed = .ok false ∧
      (compile ['b', ']'] ['/'] true).matchesText ['a'] ≠ .ok true ∧
      (compileAll [['[', 'a'], ['b', ']']] ['/'] true).matchesText ['a'] = .ok true := by
  have hmalformed : (compile ['[', 'a'] ['/'] true).isWellFormed = .ok false := by
    rw [isWellFormed_compile]
    decide
  refine ⟨hmalformed, ?_, ?_⟩
  · have hparts : partsOf ['/'] ['b', ']'] = some [.single (.point false 'b') [], .single (.point false ']') ['/']] := by
      decide
    rw [Ne, matchesText_compile_iff]
    rintro ⟨row, hrow, u, hu, hs⟩
    obtain rfl := Option.some.inj (hparts.symm.trans hrow)
    obtain ⟨_, _, rfl, ⟨c, rfl, -, -⟩, hrest⟩ := covers_cons_iff.mp hu
    obtain ⟨_, _, rfl, ⟨d, rfl, -, -⟩, hrest⟩ := covers_cons_iff.mp hrest
    rcases hs with hs | hs <;> simpa using congrArg List.length hs
  · let entries : List SetItem := ['a', '$', ')', '|', '(', '^', 'b'].map fun c => .point (.ofChar c)
    let ps : List Piece := .opening false :: .literal 'a' :: (glue ++ [.literal 'b', .closing])
    have hjoined : joined ['/'] (pieces ['[', 'a']) [pieces ['b', ']']] = [ps] := by decide
    have hparts : parts ['/'] none ps = some [.single (.oneOf false entries) ['/']] := by decide
    have htakes : Part.Takes (mode true) (.single (.oneOf false entries) ['/']) ['a'] :=
      ⟨'a', rfl, by decide, fun g hg => List.mem_singleton.mp hg ▸ by decide⟩
    have hcovers := Covers.cons htakes .nil
    have hsome : ∀ qs ∈ joined ['/'] (pieces ['[', 'a']) (List.map pieces ([['b', ']']] : List Text)),
        (parts ['/'] none qs).isSome = true := by
      rw [List.map_singleton, hjoined, List.forall_mem_singleton, hparts]
      rfl
    obtain ⟨found, hf, hiff⟩ := matchesText_joined ['/'] ['[', 'a'] true hsome ['a']
    have hfound : found = true := hiff.mpr ⟨ps, by rw [List.map_singleton, hjoined]; simp, _, hparts, _, hcovers, .inl rfl⟩
    rw [hf, hfound]

end FileSieve.Glob
