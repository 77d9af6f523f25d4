import FileSieve.Text.Blank
import Mathlib.Data.List.TakeWhile

/-!
# Trimming a text

Trimming takes the code points of a class away at either end and no others: neither end of the trimmed text is of the
class (`head_trim`, `last_trim`), a text of which this holds is trimmed already (`trim_eq_self`), and a code point that
is not of the class stays (`mem_trim`).
-/

namespace FileSieve

section

variable {p : CodePoint → Bool} {t : Text}

theorem head_dropWhile : ∀ c ∈ (t.dropWhile p).head?, p c = false := by
  intro c hc
  have hnot := List.head?_dropWhile_not p t
  rw [Option.mem_def.1 hc] at hnot
  exact hnot

theorem head_trim : ∀ c ∈ (t.trim p).head?, p c = false := by
  intro c hc
  have hprefix : t.trim p <+: t.dropWhile p := by
    rw [← List.reverse_suffix, Text.trim, List.reverse_reverse]
    exact List.dropWhile_suffix p
  obtain ⟨v, hv⟩ := hprefix
  have hhead : c ∈ (t.dropWhile p).head? := by
    rw [← hv, List.head?_append, Option.mem_def.1 hc]
    rfl
  exact head_dropWhile c hhead

/-- Trimming leaves a part of the text. -/
theorem trim_isInfix (p : CodePoint → Bool) (t : Text) : t.trim p <:+: t := by
  have hdrop (u : Text) : u.dropWhile p <:+: u := (List.dropWhile_suffix p).isInfix
  rw [← List.reverse_infix, Text.trim, List.reverse_reverse]
  exact (hdrop _).trans (List.reverse_infix.mpr (hdrop t))

theorem last_trim : ∀ c ∈ (t.trim p).getLast?, p c = false := by
  rw [Text.trim, List.getLast?_reverse]
  exact head_dropWhile

theorem trim_eq_self (hhead : ∀ c ∈ t.head?, p c = false) (hlast : ∀ c ∈ t.getLast?, p c = false) : t.trim p = t := by
  have hdrop {u : Text} (hu : ∀ c ∈ u.head?, p c = false) : u.dropWhile p = u := by
    cases u with
    | nil => rfl
    | cons c u => simp [hu c rfl]
  rw [Text.trim, hdrop hhead, hdrop (by rwa [List.head?_reverse]), List.reverse_reverse]

/-- What a text begins with stays, if it is not of the class. -/
theorem trim_cons {c : CodePoint} (hp : p c = false) (rest : Text) : ∃ u, Text.trim p (c :: rest) = c :: u := by
  have hdrop : List.dropWhile p (c :: rest) = c :: rest := by simp [hp]
  have hne : ((c :: rest).reverse.dropWhile p).reverse ≠ [] := by
    rw [ne_eq, List.reverse_eq_nil_iff, List.dropWhile_eq_nil_iff]
    exact fun h => absurd (h c (by simp)) (by simp [hp])
  have hprefix : ((c :: rest).reverse.dropWhile p).reverse <+: c :: rest := by
    rw [← List.reverse_suffix, List.reverse_reverse]
    exact List.dropWhile_suffix p
  rw [Text.trim, hdrop]
  obtain ⟨d, u, hu⟩ := List.exists_cons_of_ne_nil hne
  rw [hu] at hprefix
  rw [hu, (List.cons_prefix_cons.mp hprefix).1]
  exact ⟨u, rfl⟩

/-- Where a text does not begin with the class, trimming takes away something of the class at its end. -/
theorem exists_trim_append (h : ∀ c ∈ t.head?, p c = false) : ∃ ws, (∀ c ∈ ws, p c = true) ∧ t = t.trim p ++ ws := by
  have hdrop : t.dropWhile p = t := by
    cases t with
    | nil => rfl
    | cons c t => simp [h c rfl]
  refine ⟨(t.reverse.takeWhile p).reverse, fun c hc => List.mem_takeWhile_imp (List.mem_reverse.mp hc), ?_⟩
  rw [Text.trim, hdrop, ← List.reverse_append, List.takeWhile_append_dropWhile, List.reverse_reverse]

/-- Trimming takes away something of the class at either end. -/
theorem exists_trim (p : CodePoint → Bool) (t : Text) : ∃ front back,
    (∀ c ∈ front, p c = true) ∧ (∀ c ∈ back, p c = true) ∧ t = front ++ t.trim p ++ back := by
  refine ⟨t.takeWhile p, ((t.dropWhile p).reverse.takeWhile p).reverse, fun c hc => List.mem_takeWhile_imp hc,
    fun c hc => List.mem_takeWhile_imp (List.mem_reverse.mp hc), ?_⟩
  rw [Text.trim, List.append_assoc, ← List.reverse_append, List.takeWhile_append_dropWhile, List.reverse_reverse,
    List.takeWhile_append_dropWhile]

/-- What is of the class at the end of a text makes no difference. -/
theorem trim_append {ws : Text} (hws : ∀ c ∈ ws, p c = true) : (t ++ ws).trim p = t.trim p := by
  have hnil : ws.dropWhile p = [] := List.dropWhile_eq_nil_iff.2 hws
  rw [Text.trim, List.dropWhile_append]
  split_ifs with hempty
  · rw [hnil, Text.trim, List.isEmpty_iff.1 hempty]
  · rw [List.reverse_append, List.dropWhile_append_of_pos fun c hc => hws c (List.mem_reverse.1 hc), Text.trim]

/-- What is of the class around a text makes no difference. -/
theorem trim_padded {before after : Text} (hbefore : ∀ c ∈ before, p c = true) (hafter : ∀ c ∈ after, p c = true) :
    (before ++ t ++ after).trim p = t.trim p := by
  rw [trim_append hafter, Text.trim, List.dropWhile_append_of_pos hbefore, Text.trim]

theorem mem_trim {c : CodePoint} (hp : p c = false) (hc : c ∈ t) : c ∈ t.trim p := by
  have hdrop {u : Text} (hu : c ∈ u) : c ∈ u.dropWhile p := by
    rw [← List.takeWhile_append_dropWhile (p := p) (l := u), List.mem_append] at hu
    refine hu.resolve_left fun hmem => ?_
    rw [List.all_eq_true.1 List.all_takeWhile c hmem] at hp
    exact absurd hp Bool.noConfusion
  unfold Text.trim
  rw [List.mem_reverse]
  exact hdrop (List.mem_reverse.2 (hdrop hc))

end

/-! ### White space -/

theorem not_isBlank_of_isDigit {c : CodePoint} (h : c.isDigit = true) : c.isBlank = false := by
  have hall : ∀ n : Fin 0x3A, 0x30 ≤ n.val → Ranges.contains blankRanges n.val = false := by decide
  simp only [CodePoint.isDigit, Bool.and_eq_true, decide_eq_true_eq] at h
  exact hall ⟨c.val, by omega⟩ h.1

/-- The white space of ASCII is white space. -/
theorem isBlank_of_isAsciiSpace {c : CodePoint} (h : c.isAsciiSpace = true) : c.isBlank = true := by
  have hall : ∀ n : Fin 0x21, (n.val == 0x20 || (0x09 ≤ n.val && n.val ≤ 0x0D)) = true →
      Ranges.contains blankRanges n.val = true := by
    decide
  have hlt : c.val < 0x21 := by
    simp only [CodePoint.isAsciiSpace, Bool.or_eq_true, beq_iff_eq, Bool.and_eq_true, decide_eq_true_eq] at h
    omega
  exact hall ⟨c.val, hlt⟩ h

end FileSieve
