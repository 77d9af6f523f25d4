import FileSieve.Proofs.Regex.Reading
import FileSieve.Regex.CharTest

/-!
# Letters in either case

What the tests of a pattern hold of outside of the Unicode repertoire. Case folding then knows the letters of ASCII
only, so every comparison is one of two code points (`Alike`), and a range has what is like one of the code points
between its ends (`holds_range`), as long as they are no supplementary ones.
-/

namespace FileSieve

namespace CodePoint

theorem asciiLower_val (c : CodePoint) :
    c.asciiLower.val = if 0x41 ≤ c.val ∧ c.val ≤ 0x5A then c.val + 0x20 else c.val := by
  by_cases h : 0x41 ≤ c.val ∧ c.val ≤ 0x5A
  · have hlt : c.val + 0x20 < 0x110000 := by omega
    simp [asciiLower, isAsciiUpper, h, ofNat, hlt]
  · have h' : c.isAsciiUpper = false := by simpa [isAsciiUpper] using h
    simp only [asciiLower, h', if_neg h]
    simp

theorem asciiLower_asciiLower (c : CodePoint) : c.asciiLower.asciiLower = c.asciiLower := by
  refine Fin.ext ?_
  rw [asciiLower_val c.asciiLower, asciiLower_val c]
  split_ifs <;> omega

theorem isDigit_asciiLower (c : CodePoint) : c.asciiLower.isDigit = c.isDigit := by
  rw [Bool.eq_iff_iff]
  simp only [isDigit, asciiLower_val, Bool.and_eq_true, decide_eq_true_eq]
  split_ifs <;> omega

theorem isAsciiSpace_asciiLower (c : CodePoint) : c.asciiLower.isAsciiSpace = c.isAsciiSpace := by
  rw [Bool.eq_iff_iff]
  simp only [isAsciiSpace, asciiLower_val, Bool.or_eq_true, Bool.and_eq_true, decide_eq_true_eq, beq_iff_eq]
  split_ifs <;> omega

theorem isAsciiWord_asciiLower (c : CodePoint) : c.asciiLower.isAsciiWord = c.isAsciiWord := by
  rw [Bool.eq_iff_iff]
  simp only [isAsciiWord, isAsciiLetter, isAsciiUpper, isAsciiLower, isDigit, asciiLower_val, Bool.or_eq_true,
    Bool.and_eq_true, decide_eq_true_eq, beq_iff_eq]
  split_ifs <;> omega

/-- Nothing else has a newline for its lower-case form. -/
theorem asciiLower_eq_newline {c : CodePoint} : c.asciiLower = '\n' ↔ c = '\n' := by
  have hval : (('\n' : CodePoint) : Fin 0x110000).val = 0x0A := rfl
  rw [Fin.ext_iff, Fin.ext_iff, asciiLower_val, hval]
  split_ifs <;> omega

end CodePoint

namespace Regex

/-- Whether two code points are the same, or the same letter of ASCII under case folding. -/
def Alike (fold : Bool) (x c : CodePoint) : Prop :=
  if fold then x.asciiLower = c.asciiLower else x = c

instance (fold : Bool) (x c : CodePoint) : Decidable (Alike fold x c) :=
  inferInstanceAs (Decidable (if fold then x.asciiLower = c.asciiLower else x = c))

theorem alike_refl (fold : Bool) (c : CodePoint) : Alike fold c c := by
  unfold Alike
  split <;> rfl

theorem lower_of_alike {fold : Bool} {x c : CodePoint} (h : Alike fold x c) : x.asciiLower = c.asciiLower := by
  cases fold with
  | true => exact h
  | false => exact congrArg CodePoint.asciiLower h

variable {m : Mode} {x c : CodePoint}

theorem fold_eq (hm : m.unicode = false) : m.fold c = if m.ignoreCase then c.asciiLower else c := by
  simp [Mode.fold, hm]

theorem same_iff (hm : m.unicode = false) : m.same x c = true ↔ Alike m.ignoreCase x c := by
  have h : m.same x c = true ↔ m.fold x = m.fold c := by
    simp only [Mode.same, hm, Bool.and_false, Bool.false_eq_true, if_false, beq_iff_eq]
    exact eq_comm
  rw [h, fold_eq hm, fold_eq hm, Alike]
  cases m.ignoreCase <;> rfl

/-- A code point of a set is compared like one that stands alone. -/
theorem holds_point (hm : m.unicode = false) : (SetItem.point x).holds m c = true ↔ Alike m.ignoreCase x c := by
  rw [← same_iff hm]
  by_cases h : m.ignoreCase = true ∧ 0xFFFF < (m.fold x).val
  · obtain ⟨hi, hx⟩ := h
    have hfold : m.fold x = x := by
      refine Fin.ext ?_
      rw [fold_eq hm, if_pos hi, CodePoint.asciiLower_val] at hx ⊢
      split_ifs at hx ⊢
      · omega
      · rfl
    simp [SetItem.holds, hi, hfold, Mode.same, hm]
  · have h' : (m.ignoreCase && decide (0xFFFF < (m.fold x).val)) = false := by simpa using h
    simp only [SetItem.holds, h']
    simp

/-- A folded range is asked for the lower-case form and, of a letter, the upper-case form. -/
theorem inRange_folded (hm : m.unicode = false) (hi : m.ignoreCase = true) {lo up : CodePoint} (hup : up.val ≤ 0xFFFF) :
    m.inRange lo up c = true ↔ ∃ x : CodePoint, lo ≤ x ∧ x ≤ up ∧
      (x = c.asciiLower ∨ c.asciiLower.isAsciiLower = true ∧ x = CodePoint.ofNat (c.asciiLower.val - 0x20)) := by
  have hnot : ¬0xFFFF < up.val := by omega
  have hle : ∀ {x : CodePoint}, x ≤ up → x.val ≤ 0xFFFF := fun hx => Nat.le_trans hx hup
  simp only [Mode.inRange, hi, fold_eq hm, hm, if_true, hnot, decide_false, Bool.false_and, Bool.or_false,
    Bool.false_eq_true, if_false]
  by_cases hl : c.asciiLower.isAsciiLower = true
  · simp only [hl, if_true, List.any_cons, List.any_nil, Bool.or_false, Bool.or_eq_true, Bool.and_eq_true,
      decide_eq_true_eq, between, true_and]
    constructor
    · rintro (⟨-, h1, h2⟩ | ⟨-, h1, h2⟩)
      · exact ⟨_, h1, h2, .inl rfl⟩
      · exact ⟨_, h1, h2, .inr rfl⟩
    · rintro ⟨x, h1, h2, rfl | rfl⟩
      · exact .inl ⟨hle h2, h1, h2⟩
      · exact .inr ⟨hle h2, h1, h2⟩
  · rw [Bool.not_eq_true] at hl
    simp only [hl, Bool.false_eq_true, if_false, List.any_cons, List.any_nil, Bool.or_false, Bool.and_eq_true,
      decide_eq_true_eq, between, false_and, or_false]
    constructor
    · rintro ⟨-, h1, h2⟩
      exact ⟨_, h1, h2, rfl⟩
    · rintro ⟨x, h1, h2, rfl⟩
      exact ⟨hle h2, h1, h2⟩

/-- The code points with a lower-case form: the form itself and, of a letter, the upper-case form. -/
theorem asciiLower_eq_iff {d : CodePoint} (hd : d.asciiLower = d) : x.asciiLower = d ↔
    x = d ∨ d.isAsciiLower = true ∧ x = CodePoint.ofNat (d.val - 0x20) := by
  have hd' := congrArg Fin.val hd
  rw [CodePoint.asciiLower_val] at hd'
  have hlt : d.val - 0x20 < 0x110000 := by omega
  have hof : (CodePoint.ofNat (d.val - 0x20)).val = d.val - 0x20 := by simp [CodePoint.ofNat, hlt]
  simp only [Fin.ext_iff, CodePoint.asciiLower_val, hof, CodePoint.isAsciiLower, Bool.and_eq_true, decide_eq_true_eq]
  split_ifs at hd' ⊢ <;> omega

/-- A range has what is like a code point between its ends. -/
theorem holds_range (hm : m.unicode = false) {lo up : CodePoint} (hup : up.val ≤ 0xFFFF) :
    (SetItem.range lo up).holds m c = true ↔ ∃ x, lo ≤ x ∧ x ≤ up ∧ Alike m.ignoreCase x c := by
  cases hi : m.ignoreCase with
  | false => simp [SetItem.holds, Mode.inRange, hi, between, Alike]
  | true =>
    simp only [SetItem.holds, inRange_folded hm hi hup, Alike, if_true,
      asciiLower_eq_iff c.asciiLower_asciiLower]

/-- The test of a set holds of what one of its entries has, unless it is negated. -/
theorem holds_testOf (hm : m.unicode = false) (negated : Bool) (items : List SetItem) :
    (Reading.testOf negated items).holds m c = (items.any (·.holds m c) != negated) := by
  have hany : items.any (·.holds m c) = items.reverse.eraseDups.any (·.holds m c) := by
    rw [Bool.eq_iff_iff]
    simp [List.any_eq_true, List.mem_eraseDups]
  rw [hany]
  unfold Reading.testOf
  split
  · next x hx =>
    have h : (SetItem.point x).holds m c = m.same x c := by
      rw [Bool.eq_iff_iff, holds_point hm, same_iff hm]
    simp [hx, CharTest.holds, h]
  · rfl

/-! ### What folding cannot tell apart -/

section

variable (hm : m.unicode = false) (hi : m.ignoreCase = true)

include hm hi

theorem fold_asciiLower (c : CodePoint) : m.fold c.asciiLower = m.fold c := by
  rw [fold_eq hm, fold_eq hm, if_pos hi, if_pos hi, CodePoint.asciiLower_asciiLower]

theorem same_asciiLower (x c : CodePoint) : m.same x c.asciiLower = m.same x c := by
  simp only [Mode.same, hm, Bool.and_false, Bool.false_eq_true, if_false, fold_asciiLower hm hi]

theorem holds_item_asciiLower (item : SetItem) (c : CodePoint) : item.holds m c.asciiLower = item.holds m c := by
  cases item with
  | point x => simp only [SetItem.holds, fold_asciiLower hm hi, same_asciiLower hm hi]
  | range lo up => simp only [SetItem.holds, Mode.inRange, hi, if_true, fold_asciiLower hm hi]
  | category cat negated =>
    cases cat with
    | digit => simp only [SetItem.holds, Category.holds, hm, CodePoint.isDigit_asciiLower, Bool.false_eq_true, if_false]
    | space =>
      simp only [SetItem.holds, Category.holds, hm, CodePoint.isAsciiSpace_asciiLower, Bool.false_eq_true, if_false]
    | word =>
      simp only [SetItem.holds, Category.holds, hm, CodePoint.isAsciiWord_asciiLower, Bool.false_eq_true, if_false]

/-- Under case folding a test holds of a letter exactly when it holds of the letter in lower case. -/
theorem holds_asciiLower (test : CharTest) (c : CodePoint) : test.holds m c.asciiLower = test.holds m c := by
  cases test with
  | any =>
    have hnewline : (c.asciiLower != '\n') = (c != '\n') := by
      rw [Bool.eq_iff_iff, bne_iff_ne, bne_iff_ne, Ne, CodePoint.asciiLower_eq_newline]
    simp only [CharTest.holds, hnewline]
  | point negated x => simp only [CharTest.holds, same_asciiLower hm hi]
  | oneOf negated items => simp only [CharTest.holds, holds_item_asciiLower hm hi]

end

end Regex

end FileSieve
