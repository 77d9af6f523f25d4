import FileSieve.Proofs.Number.Decimal
import Mathlib.Data.List.Infix

/-!
# Runs of digits

An integer can be read from a text if the text has not too many digits in a row (`ShortRuns`). This holds of a text when
it holds of it from left to right, with the digits counted that have just been passed (`shortRuns_iff`). So what changes
a text from left to right, and neither adds digits nor brings any together, keeps it (`ShortBehind.keep`).
-/

namespace FileSieve

/-- A text with no more digits in a row than an integer may have. -/
def ShortRuns (t : Text) : Prop :=
  ∀ run : Text, run <:+: t → Digits run → run.length ≤ maxDigits

/-- A text with no more digits in a row than an integer may have, behind `count` digits. -/
def ShortBehind : (count : Nat) → Text → Prop
  | count, [] => count ≤ maxDigits
  | count, c :: rest =>
    if c.isDigit then ShortBehind (count + 1) rest else count ≤ maxDigits ∧ ShortBehind 0 rest

variable {count : Nat} {c : CodePoint} {t u ws : Text}

theorem ShortRuns.of_isInfix (h : ShortRuns t) (hu : u <:+: t) : ShortRuns u :=
  fun run hrun hdigits => h run (hrun.trans hu) hdigits

theorem shortRuns_of_length (h : t.length ≤ maxDigits) : ShortRuns t := fun _ hrun _ => hrun.length_le.trans h

theorem ShortRuns.reverse (h : ShortRuns t) : ShortRuns t.reverse := by
  intro run hrun hdigits
  rw [← List.length_reverse]
  refine h run.reverse ?_ fun c hc => hdigits c (List.mem_reverse.mp hc)
  rwa [← List.reverse_infix, List.reverse_reverse]

/-! ### Counting from left to right -/

theorem shortBehind_digit (hc : c.isDigit = true) : ShortBehind count (c :: t) ↔ ShortBehind (count + 1) t := by
  rw [ShortBehind, if_pos hc]

theorem shortBehind_other (hc : ¬c.isDigit = true) :
    ShortBehind count (c :: t) ↔ count ≤ maxDigits ∧ ShortBehind 0 t := by
  rw [ShortBehind, if_neg hc]

theorem digits_cons_iff {run : Text} : Digits (c :: run) ↔ c.isDigit = true ∧ Digits run :=
  List.forall_mem_cons

/-- The digits at the front go on with those that have been counted. -/
theorem ShortBehind.front {run : Text} (h : ShortBehind count t) (hrun : run <+: t) (hdigits : Digits run) :
    count + run.length ≤ maxDigits := by
  induction t generalizing count run with
  | nil =>
    obtain rfl := List.prefix_nil.mp hrun
    exact h
  | cons c t ih =>
    by_cases hc : c.isDigit = true
    · have hnext {run : Text} (hrun : run <+: t) (hdigits : Digits run) : count + 1 + run.length ≤ maxDigits :=
        ih ((shortBehind_digit hc).mp h) hrun hdigits
      cases run with
      | nil => exact (Nat.le_succ count).trans (hnext List.nil_prefix hdigits)
      | cons d run =>
        have hlength := hnext (List.cons_prefix_cons.mp hrun).2 (digits_cons_iff.mp hdigits).2
        rw [List.length_cons]
        omega
    · cases run with
      | nil => exact ((shortBehind_other hc).mp h).1
      | cons d run =>
        obtain ⟨rfl, -⟩ := List.cons_prefix_cons.mp hrun
        exact absurd (digits_cons_iff.mp hdigits).1 hc

theorem ShortBehind.shortRuns (h : ShortBehind count t) : ShortRuns t := by
  induction t generalizing count with
  | nil =>
    intro run hrun _
    rw [List.infix_nil.mp hrun]
    exact Nat.zero_le _
  | cons c t ih =>
    intro run hrun hdigits
    rcases List.infix_cons_iff.mp hrun with hrun | hrun
    · exact (Nat.le_add_left _ _).trans (h.front hrun hdigits)
    · by_cases hc : c.isDigit = true
      · exact ih ((shortBehind_digit hc).mp h) run hrun hdigits
      · exact ih ((shortBehind_other hc).mp h).2 run hrun hdigits

theorem ShortRuns.shortBehind (h : ShortRuns t)
    (hfront : ∀ run : Text, run <+: t → Digits run → count + run.length ≤ maxDigits) : ShortBehind count t := by
  induction t generalizing count with
  | nil => exact hfront [] List.nil_prefix nofun
  | cons c t ih =>
    have htail : ShortRuns t := h.of_isInfix (List.suffix_cons c t).isInfix
    by_cases hc : c.isDigit = true
    · refine (shortBehind_digit hc).mpr (ih htail fun run hrun hdigits => ?_)
      have hlength := hfront (c :: run) ((List.prefix_cons_inj c).mpr hrun) (digits_cons_iff.mpr ⟨hc, hdigits⟩)
      rw [List.length_cons] at hlength
      omega
    · refine (shortBehind_other hc).mpr ⟨hfront [] List.nil_prefix nofun, ih htail fun run hrun hdigits => ?_⟩
      rw [Nat.zero_add]
      exact htail run hrun.isInfix hdigits

theorem shortRuns_iff : ShortRuns t ↔ ShortBehind 0 t := by
  refine ⟨fun h => h.shortBehind fun run hrun hdigits => ?_, ShortBehind.shortRuns⟩
  rw [Nat.zero_add]
  exact h run hrun.isInfix hdigits

/-! ### Changes from left to right -/

/-- A code point stays, and what is behind it may change. -/
theorem ShortBehind.keep (h : ShortBehind count (c :: t))
    (hrest : ∀ next, (¬c.isDigit = true → next = 0) → ShortBehind next t → ShortBehind next u) :
    ShortBehind count (c :: u) := by
  by_cases hc : c.isDigit = true
  · rw [shortBehind_digit hc] at h ⊢
    exact hrest _ (absurd hc) h
  · rw [shortBehind_other hc] at h ⊢
    exact ⟨h.1, hrest 0 (fun _ => rfl) h.2⟩

/-- So do several. -/
theorem ShortBehind.keepAll (h : ShortBehind count (ws ++ t))
    (hrest : ∀ next, ShortBehind next t → ShortBehind next u) : ShortBehind count (ws ++ u) := by
  induction ws generalizing count with
  | nil => exact hrest count h
  | cons c ws ih => exact h.keep fun next _ hnext => ih hnext

/-- Of code points that are no digits it does not matter which and how many they are. -/
theorem shortBehind_others (hne : ws ≠ []) (hws : ∀ c ∈ ws, ¬c.isDigit = true) :
    ShortBehind count (ws ++ t) ↔ count ≤ maxDigits ∧ ShortBehind 0 t := by
  induction ws generalizing count with
  | nil => exact absurd rfl hne
  | cons c ws ih =>
    obtain ⟨hc, hws⟩ := List.forall_mem_cons.mp hws
    rw [List.cons_append, shortBehind_other hc]
    by_cases hnil : ws = []
    · rw [hnil, List.nil_append]
    · rw [ih hnil hws, and_iff_right (Nat.zero_le maxDigits)]

end FileSieve
