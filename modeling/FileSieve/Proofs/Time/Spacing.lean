import FileSieve.Proofs.Number.Runs
import FileSieve.Proofs.Text.Trim
import FileSieve.Time.Spacing
import Mathlib.Data.List.Chain

/-!
# Texts without superfluous white space

Tidying leaves a text as it is when no two of its neighbours would be changed: white space stands neither next to a
mark, nor next to a T, nor next to other white space, nor at either end (`tidy_eq_self`). Each of the passes looks at
two neighbours at a time, so one relation on neighbours covers all of them.

Tidying makes no run of digits longer either (`shortRuns_tidy`): what is dropped next to a mark or a T does not stand
between two digits, and where several code points of white space stand, one stays.
-/

namespace FileSieve.Spacing

/-- Two code points that may stand next to each other in a text that is tidy. -/
structure Neighbours (a b : CodePoint) : Prop where
  /-- White space does not follow a mark, a T or other white space. -/
  behind : b.isBlank = true → isMark a = false ∧ a ≠ 'T' ∧ a.isBlank = false
  /-- White space is not followed by a mark or a T. -/
  before : a.isBlank = true → isMark b = false ∧ b ≠ 'T'

/-- A text whose neighbours may stand next to each other, without white space at its ends. -/
structure Tidied (t : Text) : Prop where
  /-- The neighbours may stand next to each other. -/
  neighbours : t.IsChain Neighbours
  /-- It does not begin with white space. -/
  head : ∀ c ∈ t.head?, c.isBlank = false
  /-- It does not end with white space. -/
  last : ∀ c ∈ t.getLast?, c.isBlank = false

/-- A text without white space is tidy. -/
theorem neighbours_of_solid {t : Text} (h : ∀ c ∈ t, c.isBlank = false) : t.IsChain Neighbours := by
  induction t with
  | nil => exact .nil
  | cons c t ih =>
    have hc : ¬c.isBlank = true := by simp [h c List.mem_cons_self]
    refine List.isChain_cons.mpr ⟨fun d hd => ⟨fun hblank => ?_, fun hblank => absurd hblank hc⟩, ?_⟩
    · have hd := h d (.tail _ (List.mem_of_mem_head? hd))
      exact absurd hblank (by simp [hd])
    · exact ih fun d hd => h d (.tail _ hd)

/-- Anything may stand behind a digit. -/
theorem neighbours_behind {a : CodePoint} (ha : a.isDigit = true) (c : CodePoint) : Neighbours a c := by
  have hmark : (!isMark a) = true := CodePoint.forall_digit (p := fun a => !isMark a) (by decide) ha
  have hT : a ≠ 'T' := by
    rintro rfl
    exact absurd ha (by decide)
  have hblank := not_isBlank_of_isDigit ha
  exact ⟨fun _ => ⟨by simpa using hmark, hT, hblank⟩, fun h => absurd h (by simp [hblank])⟩

/-- Anything may stand before a digit. -/
theorem neighbours_before {b : CodePoint} (hb : b.isDigit = true) (c : CodePoint) : Neighbours c b := by
  have hmark : (!isMark b) = true := CodePoint.forall_digit (p := fun b => !isMark b) (by decide) hb
  have hT : b ≠ 'T' := by
    rintro rfl
    exact absurd hb (by decide)
  have hblank := not_isBlank_of_isDigit hb
  exact ⟨fun h => absurd h (by simp [hblank]), fun _ => ⟨by simpa using hmark, hT⟩⟩

/-- Whatever stands between two digits, nothing there is in excess if there is no white space elsewhere. -/
theorem tidied_between {u v : Text} {a b : CodePoint} (hu : ∀ c ∈ u, c.isBlank = false)
    (hv : ∀ c ∈ v, c.isBlank = false) (ha : a.isDigit = true) (hb : b.isDigit = true) (c : CodePoint) :
    Tidied (u ++ a :: c :: b :: v) := by
  have hblank {c : CodePoint} (hc : c.isDigit = true) := not_isBlank_of_isDigit hc
  have hsolid : ∀ c ∈ b :: v, c.isBlank = false := List.forall_mem_cons.mpr ⟨hblank hb, hv⟩
  refine ⟨?_, fun d hd => ?_, fun d hd => ?_⟩
  · refine List.isChain_append.mpr ⟨neighbours_of_solid hu, ?_, ?_⟩
    · exact .cons_cons (neighbours_behind ha c) (.cons_cons (neighbours_before hb c) (neighbours_of_solid hsolid))
    · rintro x - y ⟨⟩
      exact neighbours_before ha x
  · cases u with
    | nil =>
      obtain rfl := Option.some.inj hd
      exact hblank ha
    | cons e u =>
      obtain rfl := Option.some.inj hd
      exact hu e List.mem_cons_self
  · rw [show u ++ a :: c :: b :: v = (u ++ [a, c]) ++ (b :: v) by simp,
      List.getLast?_append_of_ne_nil _ (List.cons_ne_nil b v)] at hd
    exact hsolid d (List.mem_of_getLast? hd)

/-! ### The passes -/

section

variable {t : Text}

theorem closeAfter_eq_self {dropping : Bool} (h : t.IsChain fun a b : CodePoint => isMark a = true → b.isBlank = false)
    (hhead : dropping = true → ∀ c ∈ t.head?, c.isBlank = false) : closeAfter dropping t = t := by
  induction t generalizing dropping with
  | nil => rfl
  | cons c t ih =>
    have hkeep : (dropping && c.isBlank) = false := by
      cases dropping with
      | false => rfl
      | true => exact hhead rfl c rfl
    obtain ⟨hnext, htail⟩ := List.isChain_cons.mp h
    rw [closeAfter, hkeep, if_neg Bool.false_ne_true, ih htail fun hmark d hd => hnext d hd hmark]

theorem closeBefore_eq_self (h : t.IsChain fun a b : CodePoint => isMark b = true → a.isBlank = false) :
    closeBefore t = t := by
  rw [closeBefore, closeAfter_eq_self (List.isChain_reverse.mpr h) (by simp), List.reverse_reverse]

theorem closeAfterT_eq_self {run dropping : Bool} (h : t.IsChain fun a b : CodePoint => a = 'T' → b.isBlank = false)
    (hhead : dropping = true → ∀ c ∈ t.head?, c.isBlank = false) : closeAfterT run dropping t = t := by
  induction t generalizing run dropping with
  | nil => rfl
  | cons c t ih =>
    have hkeep : (dropping && c.isBlank) = false := by
      cases dropping with
      | false => rfl
      | true => exact hhead rfl c rfl
    obtain ⟨hnext, htail⟩ := List.isChain_cons.mp h
    rw [closeAfterT, hkeep, if_neg Bool.false_ne_true, ih htail fun hdrop d hd => ?_]
    simp only [Bool.and_eq_true, decide_eq_true_eq] at hdrop
    exact hnext d hd hdrop.2

/-- White space that is held back is given out again in front of anything but a T. -/
theorem closeBeforeT_eq {inRun : Bool} {held : Text} (hrun : inRun = true → held = [])
    (h : t.IsChain fun a b : CodePoint => a.isBlank = true → b ≠ 'T') (hhead : held ≠ [] → ∀ c ∈ t.head?, c ≠ 'T') :
    closeBeforeT inRun held t = held.reverse ++ t := by
  induction t generalizing inRun held with
  | nil => simp [closeBeforeT]
  | cons c t ih =>
    obtain ⟨hnext, htail⟩ := List.isChain_cons.mp h
    rw [closeBeforeT]
    split_ifs with hc hblank hT
    · obtain rfl := hrun (Bool.and_eq_true_iff.mp hc).1
      rw [ih (fun _ => rfl) htail (absurd rfl)]
      rfl
    · rw [ih (by simp) htail fun _ d hd => hnext d hd hblank]
      simp
    · simp only [Bool.and_eq_true, decide_eq_true_eq, Bool.not_eq_true', List.isEmpty_eq_false_iff] at hT
      exact absurd hT.1.1 (hhead hT.1.2 c rfl)
    · rw [ih (by simp) htail (absurd rfl)]
      rfl

theorem collapsed_eq {held : Text} (h : held.length ≤ 1) : collapsed held = held.reverse := by
  match held with
  | [] => rfl
  | [c] => rfl
  | _ :: _ :: _ => simp at h

theorem collapse_eq {held : Text} (hheld : held.length ≤ 1)
    (h : t.IsChain fun a b : CodePoint => b.isBlank = true → a.isBlank = false)
    (hhead : held ≠ [] → ∀ c ∈ t.head?, c.isBlank = false) : collapse held t = held.reverse ++ t := by
  induction t generalizing held with
  | nil => rw [collapse, collapsed_eq hheld, List.append_nil]
  | cons c t ih =>
    obtain ⟨hnext, htail⟩ := List.isChain_cons.mp h
    rw [collapse]
    have hone : [c].length ≤ 1 := Nat.le_refl 1
    have hnil : ([] : Text).length ≤ 1 := Nat.zero_le 1
    split_ifs with hblank
    · obtain rfl : held = [] := by
        by_contra hne
        exact absurd hblank (by simp [hhead hne c rfl])
      rw [ih hone htail fun _ d hd => ?_]
      · rfl
      · exact Bool.eq_false_iff.mpr fun hd' => absurd (hnext d hd hd') (by simp [hblank])
    · rw [ih hnil htail (absurd rfl), collapsed_eq hheld]
      rfl

/-- Tidying leaves a text as it is that is tidy. -/
theorem tidy_eq_self (h : Tidied t) : tidy t = t := by
  have hmark : t.IsChain fun a b : CodePoint => isMark a = true → b.isBlank = false :=
    h.neighbours.imp fun a b hab hmark => Bool.eq_false_iff.mpr fun hb => by simp [(hab.behind hb).1] at hmark
  have hmark' : t.IsChain fun a b : CodePoint => isMark b = true → a.isBlank = false :=
    h.neighbours.imp fun a b hab hmark => Bool.eq_false_iff.mpr fun ha => by simp [(hab.before ha).1] at hmark
  have hT : t.IsChain fun a b : CodePoint => a = 'T' → b.isBlank = false :=
    h.neighbours.imp fun a b hab ha => Bool.eq_false_iff.mpr fun hb => (hab.behind hb).2.1 ha
  have hT' : t.IsChain fun a b : CodePoint => a.isBlank = true → b ≠ 'T' :=
    h.neighbours.imp fun a b hab ha => (hab.before ha).2
  have hblank : t.IsChain fun a b : CodePoint => b.isBlank = true → a.isBlank = false :=
    h.neighbours.imp fun a b hab hb => (hab.behind hb).2.2
  have hnil : ([] : Text).length ≤ 1 := Nat.zero_le 1
  rw [tidy, closeAfter_eq_self hmark (by simp), closeAfterT_eq_self hT (by simp), closeBefore_eq_self hmark',
    closeBeforeT_eq (by simp) hT' (absurd rfl), List.reverse_nil, List.nil_append, collapse_eq hnil hblank (absurd rfl)]
  exact trim_eq_self h.head h.last

end

/-! ### A digit at the front -/

theorem closeAfter_concat {dropping : Bool} {d : CodePoint} (hd : d.isBlank = false) (t : Text) :
    ∃ u, closeAfter dropping (t ++ [d]) = u ++ [d] := by
  induction t generalizing dropping with
  | nil => exact ⟨[], by simp [closeAfter, hd]⟩
  | cons c t ih =>
    rw [List.cons_append, closeAfter]
    split_ifs
    · exact ih
    · obtain ⟨u, hu⟩ := ih
      exact ⟨c :: u, by rw [hu, List.cons_append]⟩

theorem closeBefore_cons {d : CodePoint} (hd : d.isBlank = false) (t : Text) :
    ∃ u, closeBefore (d :: t) = d :: u := by
  obtain ⟨u, hu⟩ := closeAfter_concat hd t.reverse
  exact ⟨u.reverse, by rw [closeBefore, List.reverse_cons, hu, List.reverse_append]; rfl⟩

/-- A digit that a text begins with stays in front. -/
theorem tidy_cons {d : CodePoint} (hd : d.isDigit = true) (t : Text) : ∃ u, tidy (d :: t) = d :: u := by
  have hblank := not_isBlank_of_isDigit hd
  have hT : d ≠ 'T' := by
    rintro rfl
    exact absurd hd (by decide)
  obtain ⟨v, hv⟩ := closeBefore_cons hblank (closeAfterT (isRun d) (false && d = 'T') (closeAfter (isMark d) t))
  have hpasses : collapse [] (closeBeforeT false [] (closeBefore (closeAfterT false false (closeAfter false (d :: t))))) =
      d :: collapse [] (closeBeforeT false [] v) := by
    simp only [closeAfter, closeAfterT, Bool.false_and, Bool.false_eq_true, if_false] at hv ⊢
    rw [hv]
    simp [closeBeforeT, collapse, collapsed, hblank, hT]
  rw [tidy, hpasses]
  exact trim_cons hblank _

/-! ### Runs of digits -/

section

variable {count : Nat} {held t : Text}

theorem not_isDigit_of_isBlank {c : CodePoint} (h : c.isBlank = true) : ¬c.isDigit = true := fun hdigit =>
  absurd h (by simp [not_isBlank_of_isDigit hdigit])

theorem not_isDigit_of_isMark {c : CodePoint} (h : isMark c = true) : ¬c.isDigit = true := fun hdigit =>
  absurd (CodePoint.forall_digit (p := fun c => !isMark c) (by decide) hdigit) (by simp [h])

theorem shortBehind_closeAfter {dropping : Bool} (hdropping : dropping = true → count = 0) (h : ShortBehind count t) :
    ShortBehind count (closeAfter dropping t) := by
  induction t generalizing count dropping with
  | nil => exact h
  | cons c t ih =>
    rw [closeAfter]
    split_ifs with hdrop
    · obtain ⟨hmark, hblank⟩ := Bool.and_eq_true_iff.mp hdrop
      obtain rfl := hdropping hmark
      exact ih (fun _ => rfl) ((shortBehind_other (not_isDigit_of_isBlank hblank)).mp h).2
    · exact h.keep fun next hnext => ih fun hmark => hnext (not_isDigit_of_isMark hmark)

theorem shortRuns_closeBefore (h : ShortRuns t) : ShortRuns (closeBefore t) := by
  have hafter : ShortBehind 0 (closeAfter false t.reverse) :=
    shortBehind_closeAfter nofun (shortRuns_iff.mp h.reverse)
  exact hafter.shortRuns.reverse

theorem shortBehind_closeAfterT {run dropping : Bool} (hdropping : dropping = true → count = 0)
    (h : ShortBehind count t) : ShortBehind count (closeAfterT run dropping t) := by
  induction t generalizing count run dropping with
  | nil => exact h
  | cons c t ih =>
    rw [closeAfterT]
    split_ifs with hdrop
    · obtain ⟨hT, hblank⟩ := Bool.and_eq_true_iff.mp hdrop
      obtain rfl := hdropping hT
      exact ih (fun _ => rfl) ((shortBehind_other (not_isDigit_of_isBlank hblank)).mp h).2
    · refine h.keep fun next hnext => ih fun hT => hnext ?_
      simp only [Bool.and_eq_true, decide_eq_true_eq] at hT
      rw [hT.2]
      decide

theorem shortBehind_closeBeforeT {inRun : Bool} (hrun : inRun = true → held = [])
    (hheld : ∀ c ∈ held, ¬c.isDigit = true) (h : ShortBehind count (held.reverse ++ t)) :
    ShortBehind count (closeBeforeT inRun held t) := by
  induction t generalizing count inRun held with
  | nil => simpa [closeBeforeT] using h
  | cons c t ih =>
    have hnil : ∀ c ∈ ([] : Text), ¬c.isDigit = true := List.forall_mem_nil _
    have hrest (inRun : Bool) {next : Nat} (h : ShortBehind next t) : ShortBehind next (closeBeforeT inRun [] t) :=
      ih (fun _ => rfl) hnil h
    rw [closeBeforeT]
    split_ifs with hc hblank hT
    · obtain rfl := hrun (Bool.and_eq_true_iff.mp hc).1
      exact h.keep fun next _ => hrest true
    · refine ih nofun (List.forall_mem_cons.mpr ⟨not_isDigit_of_isBlank hblank, hheld⟩) ?_
      simpa using h
    · -- The white space before the T is dropped; no digit can go on behind the T.
      simp only [Bool.and_eq_true, decide_eq_true_eq, Bool.not_eq_true', List.isEmpty_eq_false_iff] at hT
      obtain ⟨⟨rfl, hne⟩, -⟩ := hT
      have hdropped := (shortBehind_others (by simpa using hne) (by simpa using hheld)).mp h
      have hkept : ShortBehind count ('T' :: t) :=
        (shortBehind_other (by decide)).mpr ⟨hdropped.1, ((shortBehind_other (by decide)).mp hdropped.2).2⟩
      exact hkept.keep fun next _ => hrest true
    · exact h.keepAll fun next hnext => hnext.keep fun next _ => hrest false

theorem shortBehind_collapsed (hheld : ∀ c ∈ held, ¬c.isDigit = true) (h : ShortBehind count (held.reverse ++ t)) :
    ShortBehind count (collapsed held ++ t) := by
  match held with
  | [] => exact h
  | [c] => exact h
  | c :: d :: held =>
    have hreverse : ∀ e ∈ (c :: d :: held).reverse, ¬e.isDigit = true := fun e he => hheld e (List.mem_reverse.mp he)
    exact (shortBehind_other (by decide)).mpr ((shortBehind_others (by simp) hreverse).mp h)

theorem shortBehind_collapse (hheld : ∀ c ∈ held, ¬c.isDigit = true) (h : ShortBehind count (held.reverse ++ t)) :
    ShortBehind count (collapse held t) := by
  induction t generalizing count held with
  | nil =>
    rw [collapse, ← List.append_nil (collapsed held)]
    exact shortBehind_collapsed hheld h
  | cons c t ih =>
    rw [collapse]
    split_ifs with hblank
    · refine ih (List.forall_mem_cons.mpr ⟨not_isDigit_of_isBlank hblank, hheld⟩) ?_
      simpa using h
    · have hrest {next : Nat} (h : ShortBehind next t) : ShortBehind next (collapse [] t) := ih (List.forall_mem_nil _) h
      exact (shortBehind_collapsed hheld h).keepAll fun next hnext => hnext.keep fun next _ => hrest

/-- Tidying a text does not bring digits together. -/
theorem shortRuns_tidy (h : ShortRuns t) : ShortRuns (tidy t) := by
  have hnil : ∀ c ∈ ([] : Text), ¬c.isDigit = true := List.forall_mem_nil _
  have hafter : ShortBehind 0 (closeAfter false t) := shortBehind_closeAfter nofun (shortRuns_iff.mp h)
  have hafterT : ShortBehind 0 (closeAfterT false false (closeAfter false t)) := shortBehind_closeAfterT nofun hafter
  have hbefore := shortRuns_iff.mp (shortRuns_closeBefore hafterT.shortRuns)
  have hbeforeT : ShortBehind 0 (closeBeforeT false [] (closeBefore (closeAfterT false false (closeAfter false t)))) :=
    shortBehind_closeBeforeT nofun hnil hbefore
  exact (shortBehind_collapse hnil hbeforeT).shortRuns.of_isInfix (trim_isInfix _ _)

end

end FileSieve.Spacing
