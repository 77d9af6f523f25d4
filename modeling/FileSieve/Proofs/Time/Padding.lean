import FileSieve.Proofs.Time.Spacing
import FileSieve.Time.Clock

/-!
# White space around marks

White space that is put around the marks of a text (`Padded`) makes no difference to what the text is as a time
(`padding_irrelevant`). The pass behind marks takes away what was put behind them, and the pass before marks, which is
the same one from the other side, what was put before them. Between the two comes the pass behind a T, which looks at
what stands before the T: there the texts differ only in white space before marks, and behind a mark that pass is in
the same state, whatever stood before it (`closeAfterT_before_mark`).
-/

namespace FileSieve

namespace Spacing

/-- White space alone. -/
def Blank (t : Text) : Prop :=
  ∀ c ∈ t, c.isBlank = true

/-- Nothing at all. -/
def Nothing (t : Text) : Prop :=
  t = []

theorem blank_nil : Blank [] := List.forall_mem_nil _

theorem nothing_nil : Nothing [] := rfl

/-- A text and the same text with something before and behind some of its marks. -/
inductive Padded (Before Behind : Text → Prop) : Text → Text → Prop
  /-- The empty text. -/
  | nil : Padded Before Behind [] []
  /-- A code point that is kept as it is. -/
  | keep {t u : Text} (c : CodePoint) : Padded Before Behind t u → Padded Before Behind (c :: t) (c :: u)
  /-- A mark that something is put around. -/
  | mark {t u before behind : Text} {c : CodePoint} : isMark c = true → Before before → Behind behind →
    Padded Before Behind t u → Padded Before Behind (c :: t) (before ++ c :: (behind ++ u))

variable {Before Behind : Text → Prop} {t u v w ws : Text} {c : CodePoint}

theorem not_isBlank_of_isMark (h : isMark c = true) : c.isBlank = false := by
  simp only [isMark, Bool.or_eq_true, decide_eq_true_eq] at h
  obtain (((rfl | rfl) | rfl) | rfl) | rfl := h <;> decide

/-- White space is no mark. -/
theorem not_isMark_of_isBlank (h : c.isBlank = true) : isMark c = false := by
  cases hmark : isMark c with
  | false => rfl
  | true => exact absurd h (by simp [not_isBlank_of_isMark hmark])

/-! ### Behind marks -/

/-- Behind a mark white space is dropped, -/
theorem closeAfter_drop (hws : Blank ws) (t : Text) : closeAfter true (ws ++ t) = closeAfter true t := by
  induction ws with
  | nil => rfl
  | cons c ws ih =>
    obtain ⟨hc, hws⟩ := List.forall_mem_cons.mp hws
    rw [List.cons_append, closeAfter, hc, Bool.true_and, if_pos rfl, ih hws]

/-- and elsewhere it stays. -/
theorem closeAfter_keep (hws : Blank ws) (t : Text) : closeAfter false (ws ++ t) = ws ++ closeAfter false t := by
  induction ws with
  | nil => rfl
  | cons c ws ih =>
    obtain ⟨hc, hws⟩ := List.forall_mem_cons.mp hws
    rw [List.cons_append, closeAfter, Bool.false_and, if_neg Bool.false_ne_true, not_isMark_of_isBlank hc, ih hws,
      List.cons_append]

theorem closeAfter_mark (hc : isMark c = true) (dropping : Bool) (t : Text) :
    closeAfter dropping (c :: t) = c :: closeAfter true t := by
  rw [closeAfter, not_isBlank_of_isMark hc, Bool.and_false, if_neg Bool.false_ne_true, hc]

/-- The pass behind marks takes away what is put behind them. -/
theorem Padded.closeAfter (hbefore : ∀ ws, Before ws → Blank ws) (hnil : Before []) (h : Padded Before Blank t u)
    (dropping : Bool) : Padded Before Nothing (closeAfter dropping t) (closeAfter dropping u) := by
  induction h generalizing dropping with
  | nil => exact .nil
  | keep c _ ih =>
    rw [Spacing.closeAfter, Spacing.closeAfter]
    split_ifs
    · exact ih true
    · exact .keep c (ih _)
  | mark hc hws hbehind _ ih =>
    rw [closeAfter_mark hc]
    cases dropping with
    | true =>
      rw [closeAfter_drop (hbefore _ hws), closeAfter_mark hc, closeAfter_drop hbehind]
      exact .mark hc hnil nothing_nil (ih true)
    | false =>
      rw [closeAfter_keep (hbefore _ hws), closeAfter_mark hc, closeAfter_drop hbehind]
      exact .mark hc hws nothing_nil (ih true)

/-- Nothing is put around the marks of a text that stays what it is. -/
theorem Padded.eq (h : Padded Nothing Nothing t u) : t = u := by
  induction h with
  | nil => rfl
  | keep c _ ih => rw [ih]
  | mark _ hbefore hbehind _ ih =>
    obtain rfl := hbefore
    obtain rfl := hbehind
    rw [ih]
    rfl

/-! ### Behind a T -/

/-- Behind a mark there is no T, and no run before one. -/
theorem closeAfterT_mark (hc : isMark c = true) (run dropping : Bool) (t : Text) :
    closeAfterT run dropping (c :: t) = c :: closeAfterT false false t := by
  have hblank := not_isBlank_of_isMark hc
  have hrun : isRun c = false := by
    rw [isRun, hblank, Bool.or_false]
    exact Bool.eq_false_iff.mpr (not_isDigit_of_isMark hc)
  have hT : c ≠ 'T' := by
    rintro rfl
    exact absurd hc (by decide)
  rw [closeAfterT, hblank, Bool.and_false, if_neg Bool.false_ne_true, hrun, decide_eq_false hT, Bool.and_false]

/-- In front of a mark white space is dropped or kept, which makes no difference behind it. -/
theorem closeAfterT_before_mark (hc : isMark c = true) (hws : Blank ws) (run dropping : Bool) (t : Text) :
    ∃ ws', Blank ws' ∧ closeAfterT run dropping (ws ++ c :: t) = ws' ++ c :: closeAfterT false false t := by
  induction ws generalizing run dropping with
  | nil => exact ⟨[], blank_nil, closeAfterT_mark hc run dropping t⟩
  | cons b ws ih =>
    obtain ⟨hb, hws⟩ := List.forall_mem_cons.mp hws
    rw [List.cons_append, closeAfterT]
    split_ifs
    · exact ih hws false true
    · obtain ⟨ws', hws', heq⟩ := ih hws (isRun b) (run && b = 'T')
      exact ⟨b :: ws', List.forall_mem_cons.mpr ⟨hb, hws'⟩, by rw [heq, List.cons_append]⟩

/-- The pass behind a T keeps what is put before marks, or drops it. -/
theorem Padded.closeAfterT (h : Padded Blank Nothing t u) (run dropping : Bool) :
    Padded Blank Nothing (closeAfterT run dropping t) (closeAfterT run dropping u) := by
  induction h generalizing run dropping with
  | nil => exact .nil
  | keep c _ ih =>
    rw [Spacing.closeAfterT, Spacing.closeAfterT]
    split_ifs
    · exact ih false true
    · exact .keep c (ih _ _)
  | mark hc hbefore hbehind _ ih =>
    obtain rfl := hbehind
    obtain ⟨ws', hws', heq⟩ := closeAfterT_before_mark hc hbefore run dropping _
    rw [closeAfterT_mark hc, List.nil_append, heq]
    exact .mark hc hws' nothing_nil (ih false false)

/-! ### Before marks -/

theorem Padded.append (h : Padded Before Behind t u) (h' : Padded Before Behind v w) :
    Padded Before Behind (t ++ v) (u ++ w) := by
  induction h with
  | nil => exact h'
  | keep c _ ih => exact .keep c ih
  | mark hc hbefore hbehind _ ih =>
    rw [List.append_assoc, List.cons_append, List.cons_append, List.append_assoc]
    exact .mark hc hbefore hbehind ih

theorem Blank.reverse (h : Blank ws) : Blank ws.reverse := fun c hc => h c (List.mem_reverse.mp hc)

/-- From the other side, what is put before marks is put behind them. -/
theorem Padded.reverse (h : Padded Blank Nothing t u) : Padded Nothing Blank t.reverse u.reverse := by
  induction h with
  | nil => exact .nil
  | keep c _ ih =>
    rw [List.reverse_cons, List.reverse_cons]
    exact ih.append (.keep c .nil)
  | @mark t u before behind c hc hbefore hbehind _ ih =>
    obtain rfl := hbehind
    have hreverse : (before ++ c :: ([] ++ u)).reverse = u.reverse ++ ([] ++ c :: (before.reverse ++ [])) := by simp
    rw [List.reverse_cons, hreverse]
    exact ih.append (.mark hc nothing_nil hbefore.reverse .nil)

/-- The pass before marks takes away what is put before them. -/
theorem Padded.closeBefore (h : Padded Blank Nothing t u) : closeBefore t = closeBefore u := by
  have hnothing : ∀ ws, Nothing ws → Blank ws := by
    rintro ws rfl
    exact blank_nil
  rw [Spacing.closeBefore, Spacing.closeBefore, (h.reverse.closeAfter hnothing nothing_nil false).eq]

/-- White space around marks is superfluous. -/
theorem Padded.tidy (h : Padded Blank Blank t u) : tidy u = tidy t := by
  have hafter := h.closeAfter (fun _ hws => hws) blank_nil false
  rw [Spacing.tidy, Spacing.tidy, (hafter.closeAfterT false false).closeBefore]

end Spacing

namespace Clock

open Spacing

/-- A fault of another text, where it names the text. -/
def Fault.about (t : Text) : Fault → Fault
  | .unreadable _ => .unreadable t
  | e => e

/-- What goes wrong with a number is not about a text. -/
theorem ofSeconds_about (clock : Clock) (value : Value) (t : Text) :
    (clock.ofSeconds value).mapError (Fault.about t) = clock.ofSeconds value := by
  rw [ofSeconds]
  split
  · rfl
  · split <;> rfl

/-- Texts that are tidied alike are the same instant by a clock, or none for the same reason. -/
theorem read_of_tidy (clock : Clock) {t u : Text} (h : tidy u = tidy t) :
    clock.read u = (clock.read t).mapError (Fault.about u) := by
  simp only [read, h]
  generalize tidy t = normal
  split_ifs with hnumber
  · cases number normal with
    | ok value => exact (clock.ofSeconds_about value u).symm
    | error m => rfl
  · cases Keyword.ofText? normal with
    | some word =>
      dsimp only
      cases clock.ofKeyword word <;> rfl
    | none =>
      dsimp only
      cases clock.calendar? normal with
      | none => rfl
      | some outcome => cases outcome <;> rfl

/-- White space around the marks of a text makes no difference: without what is superfluous the text is the same, and
so every clock reads it as the same instant or fails for the same reason. -/
theorem padding_irrelevant {t u : Text} (h : Padded Blank Blank t u) :
    tidy u = tidy t ∧ ∀ clock : Clock, clock.read u = (clock.read t).mapError (Fault.about u) :=
  ⟨h.tidy, fun clock => clock.read_of_tidy h.tidy⟩

theorem padding_irrelevant_date : Padded Blank Blank "1/2/2021" "1 /\t2/ 2021" ∧
    tidy "1 /\t2/ 2021" = tidy "1/2/2021" ∧
    Clock.read {} "1 /\t2/ 2021" = (Clock.read {} "1/2/2021").mapError (Fault.about "1 /\t2/ 2021") := by
  have hblank {c : CodePoint} (hc : c.isBlank = true) : Blank [c] := List.forall_mem_singleton.mpr hc
  have hyear : Padded Blank Blank "2021" "2021" := .keep _ (.keep _ (.keep _ (.keep _ .nil)))
  have hpadded : Padded Blank Blank "1/2/2021" "1 /\t2/ 2021" :=
    .keep _ (.mark rfl (hblank rfl) (hblank rfl) (.keep _ (.mark rfl blank_nil (hblank rfl) hyear)))
  exact ⟨hpadded, (padding_irrelevant hpadded).1, (padding_irrelevant hpadded).2 {}⟩

end Clock

end FileSieve
