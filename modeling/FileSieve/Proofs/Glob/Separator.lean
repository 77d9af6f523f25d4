import FileSieve.Proofs.Glob.Compile
import FileSieve.Proofs.Regex.Fold

/-!
# Separators

What the tests of globs say of separators, under case folding or not: the test for one code point holds of what is no
separator, and so do the guards behind a bracket.
-/

namespace FileSieve.Glob

open Regex

theorem unicode_mode (caseFold : Bool) : (mode caseFold).unicode = false := by rw [mode_eq]

theorem ignoreCase_mode (caseFold : Bool) : (mode caseFold).ignoreCase = caseFold := by rw [mode_eq]

variable (separators : Text) (caseFold : Bool)

/-- A code point that is like a separator. -/
def IsSeparator (c : CodePoint) : Prop :=
  ∃ g ∈ separators, Alike caseFold g c

variable {caseFold} {c : CodePoint}

theorem same_iff_alike {x : CodePoint} : (mode caseFold).same x c = true ↔ Alike caseFold x c := by
  rw [same_iff (unicode_mode caseFold), ignoreCase_mode]

theorem guards_iff : (∀ g ∈ separators, (mode caseFold).same g c = false) ↔ ¬IsSeparator separators caseFold c := by
  simp only [IsSeparator, not_exists, not_and, ← same_iff_alike, Bool.not_eq_true]

theorem isSeparator_iff_mem : IsSeparator separators false c ↔ c ∈ separators := by
  simp [IsSeparator, Alike]

/-- One of the entries for separators has a code point when it is a separator. -/
theorem any_points_iff :
    (separators.map SetItem.point).reverse.any (·.holds (mode caseFold) c) = true ↔ IsSeparator separators caseFold c := by
  simp only [List.any_eq_true, List.mem_reverse, List.mem_map, IsSeparator]
  constructor
  · rintro ⟨_, ⟨g, hg, rfl⟩, h⟩
    rw [holds_point (unicode_mode caseFold), ignoreCase_mode] at h
    exact ⟨g, hg, h⟩
  · rintro ⟨g, hg, h⟩
    refine ⟨_, ⟨g, hg, rfl⟩, ?_⟩
    rwa [holds_point (unicode_mode caseFold), ignoreCase_mode]

/-- Without separators a newline is the one code point that the test for one does not hold of. -/
theorem holds_anyTest : (anyTest separators).holds (mode caseFold) c = true ↔
    ¬IsSeparator separators caseFold c ∧ (separators = [] → c ≠ '\n') := by
  by_cases hs : separators = []
  · have hdot : (mode caseFold).dotAll = false := by rw [mode_eq]
    simp [anyTest, hs, CharTest.holds, hdot, IsSeparator]
  · rw [anyTest, if_neg hs, holds_testOf (unicode_mode caseFold), ← any_points_iff]
    simp [hs]

/-- Case folding likens nothing to a newline. -/
theorem isSeparator_newline : IsSeparator separators caseFold '\n' ↔ ('\n' : CodePoint) ∈ separators := by
  have halike (g : CodePoint) : Alike caseFold g '\n' ↔ g = '\n' := by
    cases caseFold with
    | false => rfl
    | true =>
      have hlower : ('\n' : CodePoint).asciiLower = '\n' := by decide
      rw [Alike, if_pos rfl, hlower, CodePoint.asciiLower_eq_newline]
  simp [IsSeparator, halike]

theorem holds_dot : CharTest.any.holds (mode caseFold) c = true ↔ c ≠ '\n' := by
  have hdot : (anyTest []).holds (mode caseFold) c = true ↔ _ := holds_anyTest []
  rw [anyTest, if_pos rfl] at hdot
  simpa [IsSeparator] using hdot

end FileSieve.Glob
