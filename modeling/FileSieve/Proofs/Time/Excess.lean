import FileSieve.Proofs.Time.Padding
import Mathlib.Data.List.Infix

/-!
# No white space in excess

Tidying touches nothing but white space, and what it leaves of that stands at neither end, next to no mark and next to
no other white space (`tidy_tight`).

The two passes behind something, and the one before marks as the same from the other side, are one relation on texts
(`ClosedBehind`); the pass before a T, which holds white space back until it sees what follows, is another
(`ClosedBeforeT`). Either drops white space in whole runs between two other code points, so that none of the passes
brings back what an earlier one has taken away.
-/

namespace FileSieve.Spacing

variable {R S : CodePoint → CodePoint → Prop} {inRun : Bool} {held t u w : Text} {c : CodePoint}

/-! ### What the passes do, step by step -/

/-- What is left of a text when white space is dropped behind some of its code points: `drops` says of a code point
whether white space behind it may be dropped, or may stay. -/
inductive ClosedBehind (drops : CodePoint → Bool → Prop) : (dropping : Bool) → (t u : Text) → Prop
  /-- The empty text. -/
  | nil {dropping : Bool} : ClosedBehind drops dropping [] []
  /-- White space is dropped. -/
  | drop {c : CodePoint} {t u : Text} : c.isBlank = true → ClosedBehind drops true t u →
    ClosedBehind drops true (c :: t) u
  /-- Another code point stays. -/
  | keep {dropping next : Bool} {c : CodePoint} {t u : Text} : (dropping = true → c.isBlank = false) → drops c next →
    ClosedBehind drops next t u → ClosedBehind drops dropping (c :: t) (c :: u)

/-- The pass behind marks drops white space behind every mark, and behind nothing else. -/
theorem closedBehind_closeAfter (dropping : Bool) (t : Text) :
    ClosedBehind (fun c next => next = isMark c) dropping t (closeAfter dropping t) := by
  induction t generalizing dropping with
  | nil => exact .nil
  | cons c t ih =>
    rw [closeAfter]
    split_ifs with hdrop
    · obtain ⟨rfl, hblank⟩ := Bool.and_eq_true_iff.mp hdrop
      exact .drop hblank (ih true)
    · exact .keep (fun hdropping => by simpa [hdropping] using hdrop) rfl (ih _)

/-- The pass behind a T drops white space behind a T only. -/
theorem closedBehind_closeAfterT (run dropping : Bool) (t : Text) :
    ClosedBehind (fun c next => next = true → c = 'T') dropping t (closeAfterT run dropping t) := by
  induction t generalizing run dropping with
  | nil => exact .nil
  | cons c t ih =>
    rw [closeAfterT]
    split_ifs with hdrop
    · obtain ⟨rfl, hblank⟩ := Bool.and_eq_true_iff.mp hdrop
      exact .drop hblank (ih false true)
    · refine .keep (fun hdropping => by simpa [hdropping] using hdrop) (fun hnext => ?_) (ih _ _)
      exact of_decide_eq_true (Bool.and_eq_true_iff.mp hnext).2

/-- Whether a text begins with a code point of a class. -/
def leads (p : CodePoint → Bool) (t : Text) : Bool :=
  (t.head?.map p).getD false

@[simp] theorem leads_nil (p : CodePoint → Bool) : leads p [] = false := rfl

@[simp] theorem leads_cons (p : CodePoint → Bool) (c : CodePoint) (t : Text) : leads p (c :: t) = p c := rfl

/-- What the pass before a T makes of a text, by the state that it is in. -/
inductive ClosedBeforeT : (inRun : Bool) → (held t u : Text) → Prop
  /-- At the end white space is given out that has been held back. -/
  | finish {inRun : Bool} {held : Text} : Blank held → ClosedBeforeT inRun held [] held.reverse
  /-- A run goes on behind a T. -/
  | run {c : CodePoint} {t u : Text} : isRun c = true → ClosedBeforeT true [] t u →
    ClosedBeforeT true [] (c :: t) (c :: u)
  /-- White space is held back. -/
  | hold {held t u : Text} {c : CodePoint} : c.isBlank = true → ClosedBeforeT false (c :: held) t u →
    ClosedBeforeT false held (c :: t) u
  /-- White space is dropped before a T that a run stands behind. -/
  | drop {held t u : Text} : Blank held → held ≠ [] → leads isRun t = true → ClosedBeforeT true [] t u →
    ClosedBeforeT false held ('T' :: t) ('T' :: u)
  /-- Another code point stays behind what has been held back. -/
  | keep {inRun : Bool} {held t u : Text} {c : CodePoint} : Blank held → c.isBlank = false →
    (inRun = true → held = []) → (c = 'T' → held ≠ [] → leads isRun t = false) → ClosedBeforeT false [] t u →
    ClosedBeforeT inRun held (c :: t) (held.reverse ++ c :: u)

theorem closedBeforeT (hrun : inRun = true → held = []) (hheld : Blank held) (t : Text) :
    ClosedBeforeT inRun held t (closeBeforeT inRun held t) := by
  induction t generalizing inRun held with
  | nil => exact .finish hheld
  | cons c t ih =>
    rw [closeBeforeT]
    split_ifs with hc hblank hT
    · obtain ⟨rfl, hc⟩ := Bool.and_eq_true_iff.mp hc
      obtain rfl := hrun rfl
      exact .run hc (ih (fun _ => rfl) blank_nil)
    · have hout : inRun = false := by
        cases inRun with
        | false => rfl
        | true => exact absurd (by simp [isRun, hblank]) hc
      subst hout
      have hrun (h : false = true) : c :: held = [] := absurd h Bool.false_ne_true
      exact .hold hblank (ih hrun (List.forall_mem_cons.mpr ⟨hblank, hheld⟩))
    · simp only [Bool.and_eq_true, decide_eq_true_eq, Bool.not_eq_true', List.isEmpty_eq_false_iff] at hT
      obtain ⟨⟨rfl, hne⟩, hnext⟩ := hT
      have hout : inRun = false := Bool.eq_false_iff.mpr fun h => hne (hrun h)
      subst hout
      exact .drop hheld hne hnext (ih (fun _ => rfl) blank_nil)
    · refine .keep hheld (Bool.eq_false_iff.mpr hblank) hrun (fun hc hne => ?_) (ih (fun _ => rfl) blank_nil)
      simp only [Bool.and_eq_true, decide_eq_true_eq, Bool.not_eq_true', List.isEmpty_eq_false_iff, not_and] at hT
      exact Bool.eq_false_iff.mpr (hT ⟨hc, hne⟩)

/-- Where no white space comes first, the pass leaves the first code point where it is. -/
theorem ClosedBeforeT.leads_eq (h : ClosedBeforeT inRun [] t u) (ht : leads CodePoint.isBlank t = false)
    (p : CodePoint → Bool) : leads p u = leads p t := by
  cases h with
  | finish | run | keep => rfl
  | hold hblank => exact absurd hblank (by simpa using ht)
  | drop _ hne => exact absurd rfl hne

theorem ClosedBeforeT.not_leads_isRun (h : ClosedBeforeT inRun [] t u) (ht : leads isRun t = false) :
    leads isRun u = false := by
  have hblank : leads CodePoint.isBlank t = false := by
    cases t with
    | nil => rfl
    | cons c t => exact (Bool.or_eq_false_iff.mp ht).2
  rw [h.leads_eq hblank, ht]

/-! ### What is no white space stays -/

/-- What of a text is no white space. -/
def solid (t : Text) : Text :=
  t.filter fun c => !c.isBlank

theorem solid_blank (h : Blank w) : solid w = [] :=
  List.filter_eq_nil_iff.mpr fun c hc => by simp [h c hc]

@[simp] theorem solid_append (t u : Text) : solid (t ++ u) = solid t ++ solid u :=
  List.filter_append _ _

theorem solid_cons (c : CodePoint) (h : solid u = solid t) : solid (c :: u) = solid (c :: t) := by
  simp only [solid, List.filter_cons] at h ⊢
  rw [h]

theorem solid_cons_of_isBlank (h : c.isBlank = true) (t : Text) : solid (c :: t) = solid t :=
  List.filter_cons_of_neg (by simp [h])

theorem ClosedBehind.solid_eq {drops : CodePoint → Bool → Prop} {dropping : Bool}
    (h : ClosedBehind drops dropping t u) : solid u = solid t := by
  induction h with
  | nil => rfl
  | drop hblank _ ih => rw [ih, solid_cons_of_isBlank hblank]
  | keep _ _ _ ih => exact solid_cons _ ih

theorem solid_closeBefore (t : Text) : solid (closeBefore t) = solid t := by
  have hreverse (t : Text) : solid t.reverse = (solid t).reverse := List.filter_reverse
  rw [closeBefore, hreverse, (closedBehind_closeAfter false _).solid_eq, hreverse, List.reverse_reverse]

theorem ClosedBeforeT.solid_eq (h : ClosedBeforeT inRun held t u) : solid u = solid t := by
  induction h with
  | finish hheld => exact solid_blank hheld.reverse
  | run _ _ ih => exact solid_cons _ ih
  | hold hblank _ ih => rw [ih, solid_cons_of_isBlank hblank]
  | drop _ _ _ _ ih => exact solid_cons _ ih
  | keep hheld _ _ _ _ ih => rw [solid_append, solid_blank hheld.reverse, List.nil_append, solid_cons _ ih]

theorem blank_collapsed (h : Blank held) : Blank (collapsed held) := by
  match held with
  | [] | [_] => exact h
  | _ :: _ :: _ => exact List.forall_mem_singleton.mpr (by decide)

theorem solid_collapse (hheld : Blank held) (t : Text) : solid (collapse held t) = solid t := by
  induction t generalizing held with
  | nil => exact solid_blank (blank_collapsed hheld)
  | cons c t ih =>
    rw [collapse]
    split_ifs with hblank
    · rw [ih (List.forall_mem_cons.mpr ⟨hblank, hheld⟩), solid_cons_of_isBlank hblank]
    · rw [solid_append, solid_blank (blank_collapsed hheld), List.nil_append, solid_cons c (ih blank_nil)]

/-- A text after the passes around marks and behind a T. -/
def closedMarks (t : Text) : Text :=
  closeBefore (closeAfterT false false (closeAfter false t))

/-- Tidying in its parts: the passes around marks and behind a T, the one before a T, what is left of each run of white
space, and the white space at either end, which is taken away. -/
theorem exists_tidy (t : Text) : ∃ u front back, ClosedBeforeT false [] (closedMarks t) u ∧ Blank front ∧ Blank back ∧
    collapse [] u = front ++ tidy t ++ back := by
  obtain ⟨front, back, hfront, hback, hstrip⟩ :=
    exists_trim CodePoint.isBlank (collapse [] (closeBeforeT false [] (closedMarks t)))
  exact ⟨_, front, back, closedBeforeT (fun _ => rfl) blank_nil _, hfront, hback, hstrip⟩

/-- Nothing but white space is touched. -/
theorem solid_tidy (t : Text) : solid (tidy t) = solid t := by
  obtain ⟨u, front, back, hu, hfront, hback, htidy⟩ := exists_tidy t
  calc solid (tidy t) = solid (collapse [] u) := by
        rw [htidy, solid_append, solid_append, solid_blank hfront, solid_blank hback, List.nil_append, List.append_nil]
    _ = solid (closedMarks t) := by rw [solid_collapse blank_nil, hu.solid_eq]
    _ = solid t := by
        rw [closedMarks, solid_closeBefore, (closedBehind_closeAfterT false false _).solid_eq,
          (closedBehind_closeAfter false t).solid_eq]

/-! ### Neighbours

A pass that drops white space brings together two code points that are none. In what follows `w` is what a pass has
given out already. -/

theorem isChain_concat : (w ++ [c]).IsChain R ↔ w.IsChain R ∧ ∀ a ∈ w.getLast?, R a c := by
  simp [List.isChain_append]

/-- White space that is dropped behind code points that are none leaves neighbours as they were, or brings together two
code points that are no white space. -/
theorem ClosedBehind.isChain {drops : CodePoint → Bool → Prop} {dropping : Bool} (h : ClosedBehind drops dropping t u)
    (hsolid : ∀ a b : CodePoint, a.isBlank = false → b.isBlank = false → S a b)
    (hdrops : ∀ a, drops a true → a.isBlank = false) (hkeep : ∀ a b, drops a false → R a b → S a b)
    (ht : t.IsChain R) (hw : w.IsChain S) (hlast : ∀ a ∈ w.getLast?, drops a dropping)
    (hnext : dropping = false → ∀ a ∈ w.getLast?, ∀ b ∈ t.head?, R a b) : (w ++ u).IsChain S := by
  induction h generalizing w with
  | nil => rwa [List.append_nil]
  | drop _ _ ih => exact ih (List.isChain_cons.mp ht).2 hw hlast nofun
  | @keep dropping next c t u hc hnexts _ ih =>
    obtain ⟨hhead, ht⟩ := List.isChain_cons.mp ht
    rw [List.append_cons]
    refine ih ht (isChain_concat.mpr ⟨hw, fun a ha => ?_⟩) ?_ ?_
    · cases dropping with
      | true => exact hsolid a c (hdrops a (hlast a ha)) (hc rfl)
      | false => exact hkeep a c (hlast a ha) (hnext rfl a ha c rfl)
    · simpa using hnexts
    · simpa using fun _ => hhead

theorem isChain_closeAfter (hsolid : ∀ a b : CodePoint, a.isBlank = false → b.isBlank = false → S a b)
    (hkeep : ∀ a b, isMark a = false → R a b → S a b) (h : t.IsChain R) : (closeAfter false t).IsChain S :=
  (closedBehind_closeAfter false t).isChain (w := []) hsolid (fun _ ha => not_isBlank_of_isMark ha.symm)
    (fun a b ha => hkeep a b ha.symm) h .nil nofun nofun

theorem isChain_closeBefore (hsolid : ∀ a b : CodePoint, a.isBlank = false → b.isBlank = false → S a b)
    (hkeep : ∀ a b, isMark b = false → R a b → S a b) (h : t.IsChain R) : (closeBefore t).IsChain S :=
  List.isChain_reverse.mpr (isChain_closeAfter (fun a b ha hb => hsolid b a hb ha) (fun a b => hkeep b a)
    (List.isChain_reverse.mpr h))

theorem isChain_closeAfterT (hsolid : ∀ a b : CodePoint, a.isBlank = false → b.isBlank = false → R a b)
    (h : t.IsChain R) : (closeAfterT false false t).IsChain R :=
  (closedBehind_closeAfterT false false t).isChain (w := []) hsolid (fun a ha => ha rfl ▸ by decide)
    (fun _ _ _ => id) h .nil nofun nofun

/-- So does white space that is dropped before a T. -/
theorem ClosedBeforeT.isChain (h : ClosedBeforeT inRun held t u)
    (hsolid : ∀ a b : CodePoint, a.isBlank = false → b.isBlank = false → R a b)
    (hlast : inRun = false → ∀ a ∈ w.getLast?, a.isBlank = false) (hw : (w ++ (held.reverse ++ t)).IsChain R) :
    (w ++ u).IsChain R := by
  induction h generalizing w with
  | finish => simpa using hw
  | run _ _ ih =>
    rw [List.append_cons]
    exact ih nofun (by simpa using hw)
  | hold _ _ ih => exact ih hlast (by simpa using hw)
  | drop hheld hne hnext _ ih =>
    obtain ⟨hbefore, hbehind, -⟩ := List.isChain_append.mp hw
    rw [List.append_cons]
    refine ih nofun (List.isChain_append.mpr ⟨isChain_concat.mpr ⟨hbefore, fun a ha => ?_⟩, ?_, ?_⟩)
    · exact hsolid a _ (hlast rfl a ha) (by decide)
    · exact (List.isChain_cons.mp (List.isChain_append.mp hbehind).2.1).2
    · simpa using (List.isChain_cons.mp (List.isChain_append.mp hbehind).2.1).1
  | @keep inRun held t u c hheld hc hrun hT _ ih =>
    rw [← List.append_assoc, List.append_cons]
    refine ih (fun _ a ha => ?_) (by simpa using hw)
    obtain rfl : c = a := by simpa using ha
    exact hc

/-! ### Nothing in excess -/

/-- Neighbours of which a mark is not next to white space. -/
structure Clear (a b : CodePoint) : Prop where
  /-- There is no white space behind a mark. -/
  behind : isMark a = true → b.isBlank = false
  /-- There is no white space before a mark. -/
  before : isMark b = true → a.isBlank = false

/-- Neighbours of which moreover one at most is white space. -/
structure Snug (a b : CodePoint) : Prop extends Clear a b where
  /-- White space is not next to white space. -/
  single : a.isBlank = true → b.isBlank = false

/-- A text without white space at its ends, next to marks or next to white space. -/
structure Tight (t : Text) : Prop where
  /-- The neighbours may stand next to each other. -/
  neighbours : t.IsChain Snug
  /-- It does not begin with white space. -/
  head : ∀ c ∈ t.head?, c.isBlank = false
  /-- It does not end with white space. -/
  last : ∀ c ∈ t.getLast?, c.isBlank = false

theorem clear_solid (a b : CodePoint) (ha : a.isBlank = false) (hb : b.isBlank = false) : Clear a b :=
  ⟨fun _ => hb, fun _ => ha⟩

/-- The passes around marks leave no white space next to a mark. -/
theorem isChain_closedMarks (t : Text) : (closedMarks t).IsChain Clear := by
  have hany : t.IsChain fun _ _ => True := List.isChain_iff_getElem.mpr fun _ _ => trivial
  have hafter : (closeAfter false t).IsChain fun a b => isMark a = true → b.isBlank = false :=
    isChain_closeAfter (fun _ _ _ hb _ => hb) (fun a b ha _ hmark => absurd hmark (by simp [ha])) hany
  exact isChain_closeBefore clear_solid (fun a b hb hab => ⟨hab, fun hmark => absurd hmark (by simp [hb])⟩)
    (isChain_closeAfterT (fun _ _ _ hb _ => hb) hafter)

/-- One white space stands where another one does. -/
theorem Clear.before_blank {a b x : CodePoint} (h : Clear a x) (hx : x.isBlank = true) (hb : b.isBlank = true) :
    Clear a b where
  behind := fun ha => absurd hx (by simp [h.behind ha])
  before := fun hmark => absurd hmark (by simp [not_isMark_of_isBlank hb])

theorem Clear.behind_blank {a b x : CodePoint} (h : Clear x b) (hx : x.isBlank = true) (ha : a.isBlank = true) :
    Clear a b where
  behind := fun hmark => absurd hmark (by simp [not_isMark_of_isBlank ha])
  before := fun hb => absurd hx (by simp [h.before hb])

theorem exists_collapsed (hheld : Blank held) (hne : held ≠ []) : ∃ b, b.isBlank = true ∧ collapsed held = [b] := by
  match held with
  | [b] => exact ⟨b, hheld b List.mem_cons_self, rfl⟩
  | _ :: _ :: _ => exact ⟨' ', by decide, rfl⟩

/-- White space in the place of a run of it has the same neighbours. -/
theorem isChain_squeeze {b : CodePoint} {ws : Text} (hb : b.isBlank = true) (hws : Blank ws) (hne : ws ≠ [])
    (h : (w ++ (ws ++ t)).IsChain Clear) : (w ++ b :: t).IsChain Clear := by
  obtain ⟨hw, hrest, hfirst⟩ := List.isChain_append.mp h
  obtain ⟨-, ht, hlast⟩ := List.isChain_append.mp hrest
  refine List.isChain_append.mpr ⟨hw, List.isChain_cons.mpr ⟨fun c hc => ?_, ht⟩, ?_⟩
  · have hend : ws.getLast hne ∈ ws.getLast? := List.getLast?_eq_some_getLast hne
    exact (hlast _ hend c hc).behind_blank (hws _ (List.getLast_mem hne)) hb
  · rintro a ha c ⟨⟩
    obtain ⟨x, ws, rfl⟩ := List.exists_cons_of_ne_nil hne
    exact (hfirst a ha x rfl).before_blank (hws x List.mem_cons_self) hb

theorem snug_of_not_isBlank {a b : CodePoint} (h : Clear a b) (ha : a.isBlank = false) : Snug a b :=
  ⟨h, fun hblank => absurd hblank (by simp [ha])⟩

/-- What is left of white space that was held back, and what comes behind it. -/
theorem isChain_collapsed (hheld : Blank held) (hw : w.IsChain Snug) (hlast : ∀ a ∈ w.getLast?, a.isBlank = false)
    (h : (w ++ (held.reverse ++ t)).IsChain Clear) :
    (w ++ (collapsed held ++ t)).IsChain Clear ∧ (w ++ collapsed held).IsChain Snug := by
  by_cases hne : held = []
  · subst hne
    exact ⟨h, by simpa [collapsed] using hw⟩
  · obtain ⟨b, hb, hcollapsed⟩ := exists_collapsed hheld hne
    have hsqueezed := isChain_squeeze hb hheld.reverse (by simpa using hne) h
    rw [hcollapsed]
    refine ⟨hsqueezed, isChain_concat.mpr ⟨hw, fun a ha => ?_⟩⟩
    exact snug_of_not_isBlank ((List.isChain_append.mp hsqueezed).2.2 a ha b rfl) (hlast a ha)

/-- Collapsing leaves one code point of each run of white space. -/
theorem isChain_collapse (hheld : Blank held) (hw : w.IsChain Snug) (hlast : ∀ a ∈ w.getLast?, a.isBlank = false)
    (h : (w ++ (held.reverse ++ t)).IsChain Clear) : (w ++ collapse held t).IsChain Snug := by
  induction t generalizing held w with
  | nil => exact (isChain_collapsed hheld hw hlast h).2
  | cons c t ih =>
    rw [collapse]
    split_ifs with hblank
    · exact ih (List.forall_mem_cons.mpr ⟨hblank, hheld⟩) hw hlast (by simpa using h)
    · rw [Bool.not_eq_true] at hblank
      obtain ⟨hclear, hsnug⟩ := isChain_collapsed hheld hw hlast h
      rw [← List.append_assoc] at hclear ⊢
      rw [List.append_cons]
      refine ih blank_nil (isChain_concat.mpr ⟨hsnug, fun a ha => ?_⟩) (by simpa using hblank) (by simpa using hclear)
      exact ⟨(List.isChain_append.mp hclear).2.2 a ha c rfl, fun _ => hblank⟩

/-- A tidied text is the same but for white space, and it has none at its ends, next to a mark or next to other white
space. -/
theorem tidy_tight (t : Text) : solid (tidy t) = solid t ∧ Tight (tidy t) := by
  obtain ⟨u, front, back, hu, -, -, htidy⟩ := exists_tidy t
  have hclear : u.IsChain Clear := hu.isChain (w := []) clear_solid nofun (isChain_closedMarks t)
  have hsnug : (collapse [] u).IsChain Snug := isChain_collapse (w := []) blank_nil .nil nofun hclear
  refine ⟨solid_tidy t, ?_, head_trim, last_trim⟩
  exact hsnug.infix ⟨front, back, htidy.symm⟩

end FileSieve.Spacing
