import FileSieve.Filter.Report
import FileSieve.Proofs.Log.Report

/-!
# Filters that are reported

A setting of a filter comes to the same while a board reports it, unless the board refuses an entry: one that is reported
before the filter changes, which then it does not, or one that is reported when it has changed (`Setting.reported_cases`).
-/

namespace FileSieve.Setting

/-- What becomes of a setting while a board reports it. -/
theorem reported_cases (s : Setting) (f : Sieve) (b : Log.Board) :
    ((s.reported f b).2 = s ∧ (s.failure = none → b.Takes Log.rulesLogger .debug s.after)) ∨
    (¬b.Takes Log.rulesLogger .debug s.before ∧ (s.reported f b).2.filter = f ∧
      ∃ m, (s.reported f b).2.failure = some (.misuse m) ∧ b.Refuses Log.rulesLogger .debug m) ∨
    (s.failure = none ∧ b.Takes Log.rulesLogger .debug s.before ∧ ¬b.Takes Log.rulesLogger .debug s.after ∧
      (s.reported f b).2.filter = s.filter ∧
      ∃ m, (s.reported f b).2.failure = some (.misuse m) ∧ b.Refuses Log.rulesLogger .debug m) := by
  have hbefore := b.report_ok_iff Log.rulesLogger .debug s.before
  rw [reported]
  rcases hreport : b.report Log.rulesLogger .debug s.before with ⟨c, _ | m⟩
  · rw [hreport] at hbefore
    have hsame := Log.Board.sameLogging_report hreport
    have hafter := c.report_ok_iff Log.rulesLogger .debug s.after
    rw [hsame.takes_iff] at hafter
    cases hfailure : s.failure with
    | some e => exact .inl ⟨by simp only, nofun⟩
    | none =>
      rcases hlate : c.report Log.rulesLogger .debug s.after with ⟨d, _ | m⟩
      · rw [hlate] at hafter
        exact .inl ⟨by simp only [hlate], fun _ => hafter.mp rfl⟩
      · rw [hlate] at hafter
        refine .inr (.inr ⟨rfl, hbefore.mp rfl, fun htakes => absurd (hafter.mpr htakes) nofun, ?_⟩)
        simp only [hlate]
        exact ⟨trivial, m, rfl, hsame.refuses_iff.mp (Log.Board.refuses_of_report hlate)⟩
  · rw [hreport] at hbefore
    exact .inr (.inl ⟨fun htakes => absurd (hbefore.mpr htakes) nofun, rfl, m, rfl, Log.Board.refuses_of_report hreport⟩)

end FileSieve.Setting
