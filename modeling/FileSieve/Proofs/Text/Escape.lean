import FileSieve.Text.Basic
import Mathlib.Data.List.Infix

/-!
# Escaping one code point

In a text with a code point `d` escaped by another one `b`, every `d` has a `b` of its own in front. So the text can be
told from what it becomes (`replacePoint_injective`), and what has neither of the two in it stands in the one text when
it stands in the other (`infix_of_replacePoint`).
-/

namespace FileSieve.Text

variable {b d : CodePoint} {w : Text}

theorem replacePoint_self (t : Text) : replacePoint (d :: t) d [b, d] = b :: d :: replacePoint t d [b, d] := by
  simp [replacePoint]

theorem replacePoint_other {c : CodePoint} (h : c ≠ d) (t : Text) :
    replacePoint (c :: t) d [b, d] = c :: replacePoint t d [b, d] := by
  simp [replacePoint, h]

/-! ### What stands in a text -/

theorem eq_nil_of_prefix_cons {l : Text} (h : w <+: b :: l) (hb : b ∉ w) : w = [] := by
  rcases List.prefix_cons_iff.mp h with hw | ⟨w', rfl, -⟩
  · exact hw
  · exact absurd List.mem_cons_self hb

theorem prefix_of_replacePoint {t : Text} (h : w <+: replacePoint t d [b, d]) (hb : b ∉ w) : w <+: t := by
  induction t generalizing w with
  | nil => exact h
  | cons c t ih =>
    by_cases hc : c = d
    · rw [hc, replacePoint_self] at h
      rw [eq_nil_of_prefix_cons h hb]
      exact List.nil_prefix
    · rw [replacePoint_other hc] at h
      rcases List.prefix_cons_iff.mp h with rfl | ⟨w', rfl, hw⟩
      · exact List.nil_prefix
      · exact List.cons_prefix_cons.mpr ⟨rfl, ih hw fun hmem => hb (.tail _ hmem)⟩

/-- What stands in a text with `d` escaped by `b`, and has neither in it, stands in the text. -/
theorem infix_of_replacePoint {t : Text} (h : w <:+: replacePoint t d [b, d]) (hb : b ∉ w) (hd : d ∉ w) : w <:+: t := by
  induction t with
  | nil => exact h
  | cons c t ih =>
    have htail (ht : w <:+: replacePoint t d [b, d]) : w <:+: c :: t := (ih ht).trans (List.suffix_cons c t).isInfix
    by_cases hc : c = d
    · rw [hc, replacePoint_self] at h
      rcases List.infix_cons_iff.mp h with hw | hw
      · rw [eq_nil_of_prefix_cons hw hb]
        exact List.nil_infix
      · rcases List.infix_cons_iff.mp hw with hw | hw
        · rw [eq_nil_of_prefix_cons hw hd]
          exact List.nil_infix
        · exact htail hw
    · rw [replacePoint_other hc] at h
      rcases List.infix_cons_iff.mp h with hw | hw
      · rw [← replacePoint_other hc] at hw
        exact (prefix_of_replacePoint hw hb).isInfix
      · exact htail hw

/-! ### Telling texts apart -/

theorem head?_replacePoint_ne (h : b ≠ d) (t : Text) : (replacePoint t d [b, d]).head? ≠ some d := by
  cases t with
  | nil => nofun
  | cons c t =>
    by_cases hc : c = d
    · rw [hc, replacePoint_self]
      simpa using h
    · rw [replacePoint_other hc]
      simpa using hc

/-- The escaping code point of one text would be one of the other's own, with a bare `d` behind it. -/
theorem replacePoint_self_ne_other {c : CodePoint} (h : b ≠ d) (hc : c ≠ d) (s t : Text) :
    replacePoint (d :: s) d [b, d] ≠ replacePoint (c :: t) d [b, d] := by
  rw [replacePoint_self, replacePoint_other hc]
  intro heq
  obtain ⟨-, htail⟩ := List.cons.inj heq
  exact head?_replacePoint_ne h t (htail ▸ rfl)

theorem replacePoint_cons_ne_nil (c : CodePoint) (t : Text) : replacePoint (c :: t) d [b, d] ≠ [] := by
  by_cases hc : c = d
  · rw [hc, replacePoint_self]
    nofun
  · rw [replacePoint_other hc]
    nofun

/-- A text can be told from what it becomes with a code point escaped by another one. -/
theorem replacePoint_injective (h : b ≠ d) : Function.Injective fun t : Text => replacePoint t d [b, d] := by
  intro s t heq
  simp only at heq
  induction s generalizing t with
  | nil =>
    cases t with
    | nil => rfl
    | cons c t => exact absurd heq.symm (replacePoint_cons_ne_nil c t)
  | cons c s ih =>
    cases t with
    | nil => exact absurd heq (replacePoint_cons_ne_nil c s)
    | cons e t =>
      rcases eq_or_ne c d with rfl | hc
      · rcases eq_or_ne e c with rfl | he
        · rw [replacePoint_self, replacePoint_self, List.cons.injEq, List.cons.injEq] at heq
          rw [ih heq.2.2]
        · exact absurd heq (replacePoint_self_ne_other h he s t)
      · rcases eq_or_ne e d with rfl | he
        · exact absurd heq.symm (replacePoint_self_ne_other h hc t s)
        · rw [replacePoint_other hc, replacePoint_other he, List.cons.injEq] at heq
          rw [heq.1, ih heq.2]

end FileSieve.Text
