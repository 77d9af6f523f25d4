import FileSieve.Proofs.Time.Excess

/-!
# Tidying again

A tidied text can have white space in front of a T. The pass before a T takes a run behind a T along with it, and white
space at the end of the run stays although another T and a run come behind it. That is where tidying a second time goes
on, and the only such place (`tidy_again`).

It is always in a run behind a T that has no white space in front of it any more (`Led`). So the second time does not
leave another such place, and there is none in a text with one T.
-/

namespace FileSieve.Spacing

variable {p q : CodePoint → Bool} {leader inLed behind inRun : Bool} {held t u w : Text} {c : CodePoint}

/-! ### A T between other code points -/

/-- A T stands between a code point of `p` and one of `q` only in a run that another T leads: one with no `p` before it,
if `leader` says that such a T leads the run behind it. `inLed` holds in a run that is led, `behind` behind a code point
of `p`. -/
inductive Led (leader : Bool) (p q : CodePoint → Bool) : (inLed behind : Bool) → Text → Prop
  /-- The empty text. -/
  | nil {inLed behind : Bool} : Led leader p q inLed behind []
  /-- A T, which may lead what is behind it. -/
  | time {inLed behind : Bool} {t : Text} : (behind = true → leads q t = true → inLed = true) →
    Led leader p q (leader && !behind) false t → Led leader p q inLed behind ('T' :: t)
  /-- Another code point; what is led goes on through a run. -/
  | other {inLed behind : Bool} {c : CodePoint} {t : Text} : c ≠ 'T' → Led leader p q (inLed && isRun c) (p c) t →
    Led leader p q inLed behind (c :: t)

/-- No T stands between a code point of `p` and one of `q`. -/
abbrev Apart (p q : CodePoint → Bool) (behind : Bool) (t : Text) : Prop :=
  Led false p q false behind t

theorem led_T (leader : Bool) (p q : CodePoint → Bool) (inLed behind : Bool) (t : Text) :
    Led leader p q inLed behind ('T' :: t) ↔
      (behind = true → leads q t = true → inLed = true) ∧ Led leader p q (leader && !behind) false t := by
  constructor
  · intro h
    cases h with
    | time hnext h => exact ⟨hnext, h⟩
    | other hne => exact absurd rfl hne
  · rintro ⟨hnext, h⟩
    exact .time hnext h

theorem led_other (hc : c ≠ 'T') (leader : Bool) (p q : CodePoint → Bool) (inLed behind : Bool) (t : Text) :
    Led leader p q inLed behind (c :: t) ↔ Led leader p q (inLed && isRun c) (p c) t := by
  constructor
  · intro h
    cases h with
    | time => exact absurd rfl hc
    | other _ h => exact h
  · intro h
    exact .other hc h

theorem apart_T (p q : CodePoint → Bool) (behind : Bool) (t : Text) :
    Apart p q behind ('T' :: t) ↔ (behind = true → leads q t = false) ∧ Apart p q false t := by
  rw [Apart, led_T]
  simp

theorem apart_other (hc : c ≠ 'T') (p q : CodePoint → Bool) (behind : Bool) (t : Text) :
    Apart p q behind (c :: t) ↔ Apart p q (p c) t := by
  rw [Apart, led_other hc, Bool.false_and]

theorem ne_T_of_isRun (h : isRun c = true) : c ≠ 'T' := by
  rintro rfl
  exact absurd h (by decide)

theorem isRun_of_isBlank (h : c.isBlank = true) : isRun c = true := by
  rw [isRun, h, Bool.or_true]

theorem led_run (hc : isRun c = true) (leader : Bool) (p q : CodePoint → Bool) (inLed behind : Bool) (t : Text) :
    Led leader p q inLed behind (c :: t) ↔ Led leader p q inLed (p c) t := by
  rw [led_other (ne_T_of_isRun hc), hc, Bool.and_true]

theorem Blank.led (h : Blank t) (leader : Bool) (p q : CodePoint → Bool) (inLed behind : Bool) :
    Led leader p q inLed behind t := by
  induction t generalizing behind with
  | nil => exact .nil
  | cons c t ih =>
    obtain ⟨hc, h⟩ := List.forall_mem_cons.mp h
    exact (led_run (isRun_of_isBlank hc) ..).mpr (ih h _)

/-- However much white space there is, what comes behind it is behind white space. -/
theorem led_held (hp : ∀ c : CodePoint, c.isBlank = true → p c = true) (hheld : Blank held) (leader : Bool)
    (q : CodePoint → Bool) (inLed behind : Bool) (t : Text) :
    Led leader p q inLed behind (held ++ t) ↔ Led leader p q inLed (behind || !held.isEmpty) t := by
  induction held generalizing behind with
  | nil => rw [List.nil_append, List.isEmpty_nil, Bool.not_true, Bool.or_false]
  | cons c held ih =>
    obtain ⟨hc, hheld⟩ := List.forall_mem_cons.mp hheld
    rw [List.cons_append, led_run (isRun_of_isBlank hc), ih hheld, hp c hc]
    simp

/-- Less is to be shown where more is led, and not behind a code point of `p`. -/
theorem Led.mono {inLed' behind' : Bool} (h : Led leader p q inLed behind t) (hled : inLed = true → inLed' = true)
    (hbehind : behind' = true → behind = true) : Led leader p q inLed' behind' t := by
  induction t generalizing inLed behind inLed' behind' with
  | nil => exact .nil
  | cons c t ih =>
    by_cases hc : c = 'T'
    · subst hc
      rw [led_T] at h ⊢
      refine ⟨fun hbehind' hq => hled (h.1 (hbehind hbehind') hq), ih h.2 ?_ id⟩
      cases leader <;> cases behind <;> cases behind' <;> simp_all
    · rw [led_other hc] at h ⊢
      exact ih h (by cases inLed <;> simp_all) id

theorem Led.of_append (h : Led leader p q inLed behind (t ++ u)) : Led leader p q inLed behind t := by
  induction t generalizing inLed behind with
  | nil => exact .nil
  | cons c t ih =>
    rw [List.cons_append] at h
    by_cases hc : c = 'T'
    · subst hc
      rw [led_T] at h ⊢
      refine ⟨fun hbehind hq => h.1 hbehind ?_, ih h.2⟩
      cases t with
      | nil => exact absurd hq Bool.false_ne_true
      | cons d t => exact hq
    · rw [led_other hc] at h ⊢
      exact ih h

theorem Apart.of_suffix (h : Apart p q behind (t ++ u)) : Apart p q false u := by
  induction t generalizing behind with
  | nil => exact h.mono id nofun
  | cons c t ih =>
    rw [List.cons_append] at h
    by_cases hc : c = 'T'
    · subst hc
      exact ih ((apart_T ..).mp h).2
    · exact ih ((apart_other hc ..).mp h)

/-! ### What the passes do with a T -/

theorem leads_closeAfterT (run : Bool) (t : Text) : leads CodePoint.isBlank (closeAfterT run true t) = false := by
  induction t generalizing run with
  | nil => rfl
  | cons c t ih =>
    rw [closeAfterT, Bool.true_and]
    split_ifs with hblank
    · exact ih false
    · exact Bool.eq_false_iff.mpr hblank

/-- The pass behind a T leaves no white space behind a T with a run before it. -/
theorem apart_closeAfterT {run dropping : Bool} (h : dropping = true → run = false) (t : Text) :
    Apart isRun CodePoint.isBlank run (closeAfterT run dropping t) := by
  induction t generalizing run dropping with
  | nil => exact .nil
  | cons c t ih =>
    rw [closeAfterT]
    split_ifs with hdrop
    · obtain ⟨rfl, -⟩ := Bool.and_eq_true_iff.mp hdrop
      rw [h rfl]
      exact ih fun _ => rfl
    · by_cases hc : c = 'T'
      · subst hc
        refine (apart_T ..).mpr ⟨fun hrun => ?_, ih fun _ => by decide⟩
        subst hrun
        exact leads_closeAfterT _ t
      · refine (apart_other hc ..).mpr (ih fun hnext => ?_)
        exact absurd (of_decide_eq_true (Bool.and_eq_true_iff.mp hnext).2) hc

/-- The pass behind marks brings no T and white space together. -/
theorem ClosedBehind.apart {dropping behind' : Bool} (h : ClosedBehind (fun c next => next = isMark c) dropping t u)
    (ht : Apart CodePoint.isBlank isRun behind t) (hbehind : behind' = true → behind = true ∧ dropping = false) :
    Apart CodePoint.isBlank isRun behind' u := by
  induction h generalizing behind behind' with
  | nil => exact .nil
  | drop hblank _ ih =>
    rw [Apart, led_run (isRun_of_isBlank hblank)] at ht
    exact ih ht fun h => absurd (hbehind h).2 nofun
  | @keep dropping next c t u hc hnext h ih =>
    by_cases hT : c = 'T'
    · subst hT
      obtain rfl : next = false := hnext
      obtain ⟨hapart, ht⟩ := (apart_T ..).mp ht
      have hleads : leads isRun u = leads isRun t := by cases h <;> rfl
      exact (apart_T ..).mpr ⟨fun h => hleads ▸ hapart (hbehind h).1, ih ht nofun⟩
    · refine (apart_other hT ..).mpr (ih ((apart_other hT ..).mp ht) fun hblank => ⟨hblank, ?_⟩)
      rw [hnext, not_isMark_of_isBlank hblank]

theorem leads_iff : leads q t = true ↔ ∃ b, q b = true ∧ [b] <+: t := by
  cases t with
  | nil => simp
  | cons c t => simp [List.cons_prefix_cons]

/-- In other words, no such three code points stand next to each other. -/
theorem apart_iff (hp : p 'T' = false) : Apart p q behind t ↔
    (behind = true → ∀ b, q b = true → ¬(['T', b] : Text) <+: t) ∧
      ∀ a b, p a = true → q b = true → ¬([a, 'T', b] : Text) <:+: t := by
  induction t generalizing behind with
  | nil => simp [Apart, Led.nil]
  | cons c t ih =>
    by_cases hc : c = 'T'
    · subst hc
      have hne (a : CodePoint) (ha : p a = true) : a ≠ 'T' := by
        rintro rfl
        exact absurd ha (by simp [hp])
      have hleads : leads q t = false ↔ ∀ b, q b = true → ¬([b] : Text) <+: t := by
        simp [← Bool.not_eq_true, leads_iff]
      rw [apart_T, ih, hleads]
      simp +contextual [List.infix_cons_iff, List.cons_prefix_cons, hne]
    · rw [apart_other hc, ih]
      simp only [List.infix_cons_iff, List.cons_prefix_cons, Ne.symm hc, false_and, not_false_eq_true, implies_true,
        true_and, not_or, forall_and]
      constructor
      · rintro ⟨hfirst, hrest⟩
        refine ⟨fun a b ha hb => ?_, hrest⟩
        rintro ⟨rfl, hprefix⟩
        exact hfirst ha b hb hprefix
      · rintro ⟨hfirst, hrest⟩
        exact ⟨fun hpc b hb hprefix => hfirst c b hpc hb ⟨rfl, hprefix⟩, hrest⟩

theorem apart_reverse (hp : p 'T' = false) (hq : q 'T' = false) : Apart q p false t.reverse ↔ Apart p q false t := by
  have hinfix (a b : CodePoint) : ([a, 'T', b] : Text).reverse <:+: t.reverse ↔ ([a, 'T', b] : Text) <:+: t :=
    List.reverse_infix
  simp only [List.reverse_cons, List.reverse_nil, List.nil_append, List.cons_append] at hinfix
  rw [apart_iff hq, apart_iff hp]
  simp only [Bool.false_eq_true, false_implies, true_and, hinfix]
  exact ⟨fun h a b ha hb => h b a hb ha, fun h a b ha hb => h b a hb ha⟩

theorem apart_closedMarks (t : Text) : Apart isRun CodePoint.isBlank false (closedMarks t) := by
  have hafterT : Apart isRun CodePoint.isBlank false (closeAfterT false false (closeAfter false t)) :=
    apart_closeAfterT (fun _ => rfl) _
  rw [closedMarks, closeBefore, apart_reverse (by decide) (by decide)]
  exact (closedBehind_closeAfter false _).apart ((apart_reverse (by decide) (by decide)).mpr hafterT)
    fun h => absurd h Bool.false_ne_true

/-- The pass before a T brings no T and white space together either. -/
theorem ClosedBeforeT.apart (h : ClosedBeforeT inRun held t u)
    (ht : Apart isRun CodePoint.isBlank behind (held.reverse ++ t)) : Apart isRun CodePoint.isBlank behind u := by
  have hrun : ∀ c : CodePoint, c.isBlank = true → isRun c = true := fun _ => isRun_of_isBlank
  induction h generalizing behind with
  | finish => simpa using ht
  | run hc _ ih =>
    have hne := ne_T_of_isRun hc
    exact (apart_other hne ..).mpr (ih ((apart_other hne ..).mp ht))
  | hold _ _ ih => exact ih (by simpa using ht)
  | drop hheld hne hnext h ih =>
    obtain ⟨hblank, ht⟩ := (apart_T ..).mp ((led_held hrun hheld.reverse ..).mp ht)
    have hnone := hblank (by simp [hne])
    exact (apart_T ..).mpr ⟨fun _ => by rw [h.leads_eq hnone, hnone], ih ht⟩
  | @keep inRun held t u c hheld hc _ _ h ih =>
    refine (led_held hrun hheld.reverse ..).mpr ?_
    replace ht := (led_held hrun hheld.reverse ..).mp ht
    by_cases hT : c = 'T'
    · subst hT
      obtain ⟨hblank, ht⟩ := (apart_T ..).mp ht
      exact (apart_T ..).mpr ⟨fun hb => by rw [h.leads_eq (hblank hb), hblank hb], ih ht⟩
    · exact (apart_other hT ..).mpr (ih ((apart_other hT ..).mp ht))

/-- White space that the pass before a T leaves there stands in a run behind a T that has none before it. -/
theorem ClosedBeforeT.led (h : ClosedBeforeT inRun held t u) (hled : inRun = true → inLed = true)
    (hbehind : inRun = false → behind = false) : Led true CodePoint.isBlank isRun inLed behind u := by
  induction h generalizing inLed behind with
  | finish hheld => exact hheld.reverse.led ..
  | run hc _ ih => exact (led_run hc ..).mpr (ih hled nofun)
  | hold _ _ ih => exact ih hled hbehind
  | drop hheld hne hnext _ ih =>
    have hrest : Led true CodePoint.isBlank isRun true false _ := ih (fun _ => rfl) nofun
    rw [hbehind rfl]
    exact (led_T ..).mpr ⟨nofun, hrest⟩
  | @keep inRun held t u c hheld hc hrun hnext h ih =>
    refine (led_held (fun _ => id) hheld.reverse ..).mpr ?_
    by_cases hT : c = 'T'
    · subst hT
      refine (led_T ..).mpr ⟨fun hb hq => ?_, ih nofun fun _ => rfl⟩
      by_cases hne : held = []
      · -- White space just before the T has been given out in a run.
        subst hne
        cases inRun with
        | false => exact absurd hb (by simp [hbehind rfl])
        | true => exact hled rfl
      · exact absurd hq (by simp [h.not_leads_isRun (hnext rfl hne)])
    · exact (led_other hT ..).mpr (ih nofun fun _ => hc)

/-- Where white space stands before a T only in runs that are led, the pass before a T leaves none there. -/
theorem ClosedBeforeT.apart_of_led (h : ClosedBeforeT inRun held t u) (hled : inRun = true → inLed = false)
    (hbehind : inRun = false → behind = false)
    (ht : Led true CodePoint.isBlank isRun inLed behind (held.reverse ++ t)) :
    Apart CodePoint.isBlank isRun behind u := by
  induction h generalizing inLed behind with
  | finish hheld => exact hheld.reverse.led ..
  | run hc _ ih => exact (apart_other (ne_T_of_isRun hc) ..).mpr (ih hled nofun ((led_run hc ..).mp ht))
  | hold _ _ ih => exact ih hled hbehind (by simpa using ht)
  | drop hheld hne hnext _ ih =>
    obtain ⟨-, ht⟩ := (led_T ..).mp ((led_held (fun _ => id) hheld.reverse ..).mp ht)
    rw [hbehind rfl]
    exact (apart_T ..).mpr ⟨nofun, ih (fun _ => by simp [hne]) nofun ht⟩
  | @keep inRun held t u c hheld hc hrun hnext h ih =>
    refine (led_held (fun _ => id) hheld.reverse ..).mpr ?_
    replace ht := (led_held (fun _ => id) hheld.reverse ..).mp ht
    by_cases hT : c = 'T'
    · subst hT
      obtain ⟨hrest, ht⟩ := (led_T ..).mp ht
      refine (apart_T ..).mpr ⟨fun hb => h.not_leads_isRun ?_, ih nofun (fun _ => rfl) ht⟩
      by_cases hne : held = []
      · -- Nothing is led in a run behind a T that white space has been dropped before.
        cases inRun with
        | false => exact absurd hb (by simp [hbehind rfl, hne])
        | true => exact Bool.eq_false_iff.mpr fun hq => absurd (hrest hb hq) (by simp [hled rfl])
      · exact hnext rfl hne
    · exact (apart_other hT ..).mpr (ih nofun (fun _ => hc) ((led_other hT ..).mp ht))

/-- Where the pass before a T leaves no white space before a T with a run behind it, it has changed nothing. -/
theorem ClosedBeforeT.eq_self (h : ClosedBeforeT inRun held t u) (hout : inRun = false)
    (ht : Apart CodePoint.isBlank isRun behind (held.reverse ++ t)) : u = held.reverse ++ t := by
  induction h generalizing behind with
  | finish => rw [List.append_nil]
  | run => exact absurd hout nofun
  | hold _ _ ih => simpa using ih rfl (by simpa using ht)
  | drop hheld hne hnext =>
    obtain ⟨hnone, -⟩ := (apart_T ..).mp ((led_held (fun _ => id) hheld.reverse ..).mp ht)
    exact absurd hnext (by simp [hnone (by simp [hne])])
  | keep _ _ _ _ _ ih =>
    rw [List.append_cons] at ht
    have hrest : Apart CodePoint.isBlank isRun false ([].reverse ++ _) := ht.of_suffix
    rw [ih rfl hrest]
    rfl

/-! ### What is left of white space -/

theorem leads_blank (hq : ∀ c : CodePoint, c.isBlank = true → q c = q ' ') (hw : Blank w) (hne : w ≠ []) (t : Text) :
    leads q (w ++ t) = q ' ' := by
  obtain ⟨c, w, rfl⟩ := List.exists_cons_of_ne_nil hne
  exact hq c (hw c List.mem_cons_self)

theorem leads_collapsed (hq : ∀ c : CodePoint, c.isBlank = true → q c = q ' ') (hheld : Blank held) (hne : held ≠ [])
    (t u : Text) : leads q (collapsed held ++ t) = leads q (held.reverse ++ u) := by
  obtain ⟨b, hb, heq⟩ := exists_collapsed hheld hne
  rw [heq, leads_blank hq hheld.reverse (by simpa using hne)]
  exact hq b hb

theorem leads_collapse (hq : ∀ c : CodePoint, c.isBlank = true → q c = q ' ') (hheld : Blank held) (t : Text) :
    leads q (collapse held t) = leads q (held.reverse ++ t) := by
  induction t generalizing held with
  | nil =>
    by_cases hne : held = []
    · subst hne
      rfl
    · simpa [collapse] using leads_collapsed hq hheld hne [] []
  | cons c t ih =>
    rw [collapse]
    split_ifs with hblank
    · rw [ih (List.forall_mem_cons.mpr ⟨hblank, hheld⟩), List.reverse_cons, List.append_assoc, List.singleton_append]
    · by_cases hne : held = []
      · subst hne
        rfl
      · exact leads_collapsed hq hheld hne _ _

theorem isEmpty_collapsed (held : Text) : (collapsed held).isEmpty = held.isEmpty := by
  match held with
  | [] | [_] | _ :: _ :: _ => rfl

/-- Collapsing makes no difference to where a T stands. -/
theorem led_collapse (hp : ∀ c : CodePoint, c.isBlank = true → p c = true)
    (hq : ∀ c : CodePoint, c.isBlank = true → q c = q ' ') (hheld : Blank held)
    (h : Led leader p q inLed behind (held.reverse ++ t)) : Led leader p q inLed behind (collapse held t) := by
  induction t generalizing held inLed behind with
  | nil => exact (blank_collapsed hheld).led ..
  | cons c t ih =>
    rw [collapse]
    split_ifs with hblank
    · exact ih (List.forall_mem_cons.mpr ⟨hblank, hheld⟩) (by simpa using h)
    · refine (led_held hp (blank_collapsed hheld) ..).mpr ?_
      replace h := (led_held hp hheld.reverse ..).mp h
      rw [List.isEmpty_reverse, ← isEmpty_collapsed] at h
      by_cases hT : c = 'T'
      · subst hT
        obtain ⟨hnext, h⟩ := (led_T ..).mp h
        exact (led_T ..).mpr ⟨by rwa [leads_collapse hq blank_nil], ih blank_nil h⟩
      · exact (led_other hT ..).mpr (ih blank_nil ((led_other hT ..).mp h))

/-- Tidying keeps to where a T stands after the pass before a T. -/
theorem led_strip {front back : Text} (hp : ∀ c : CodePoint, c.isBlank = true → p c = true)
    (hq : ∀ c : CodePoint, c.isBlank = true → q c = q ' ') (hfront : Blank front)
    (htidy : collapse [] u = front ++ t ++ back) (h : Led leader p q false false u) : Led leader p q false false t := by
  have hcollapse : Led leader p q false false (collapse [] u) := led_collapse hp hq blank_nil h
  rw [htidy] at hcollapse
  exact ((led_held hp hfront ..).mp hcollapse.of_append).mono id nofun

theorem apart_of_notMem (h : ('T' : CodePoint) ∉ t) : Apart p q behind t := by
  induction t generalizing behind with
  | nil => exact .nil
  | cons c t ih =>
    obtain ⟨hc, h⟩ := not_or.mp (mt List.mem_cons.mpr h)
    exact (apart_other (Ne.symm hc) ..).mpr (ih h)

/-- In a text with one T no T stands in a run that another one leads. -/
theorem Led.apart (h : Led leader p q false behind t) (hcount : t.count ('T' : CodePoint) ≤ 1) :
    Apart p q behind t := by
  induction t generalizing behind with
  | nil => exact .nil
  | cons c t ih =>
    by_cases hc : c = 'T'
    · subst hc
      rw [List.count_cons_self] at hcount
      have hnone : ('T' : CodePoint) ∉ t := List.count_eq_zero.mp (by omega)
      exact (apart_T ..).mpr ⟨fun hb => Bool.eq_false_iff.mpr fun hq => absurd (((led_T ..).mp h).1 hb hq) nofun,
        apart_of_notMem hnone⟩
    · rw [List.count_cons_of_ne hc] at hcount
      exact (apart_other hc ..).mpr (ih ((led_other hc ..).mp h) hcount)

theorem closeAfterT_of_apart {run dropping : Bool} (h : Apart isRun CodePoint.isBlank run t)
    (hdropping : dropping = true → leads CodePoint.isBlank t = false) : closeAfterT run dropping t = t := by
  induction t generalizing run dropping with
  | nil => rfl
  | cons c t ih =>
    have hkeep : (dropping && c.isBlank) = false := by
      cases dropping with
      | false => rfl
      | true => exact hdropping rfl
    rw [closeAfterT, hkeep, if_neg Bool.false_ne_true]
    by_cases hc : c = 'T'
    · subst hc
      obtain ⟨hblank, h⟩ := (apart_T ..).mp h
      have hrest : closeAfterT (isRun 'T') (run && decide (('T' : CodePoint) = 'T')) t = t :=
        ih h fun hnext => hblank (Bool.and_eq_true_iff.mp hnext).1
      rw [hrest]
    · rw [ih ((apart_other hc ..).mp h) fun hnext => absurd (of_decide_eq_true (Bool.and_eq_true_iff.mp hnext).2) hc]

/-- The passes around marks and behind a T find nothing to do in a text that is tight, unless there is white space
behind a T with a run before it. -/
theorem closedMarks_eq_self (h : Tight t) (hbehind : Apart isRun CodePoint.isBlank false t) : closedMarks t = t := by
  have hmark : t.IsChain fun a b : CodePoint => isMark a = true → b.isBlank = false :=
    h.neighbours.imp fun a b hab => hab.behind
  have hmark' : t.IsChain fun a b : CodePoint => isMark b = true → a.isBlank = false :=
    h.neighbours.imp fun a b hab => hab.before
  have hafter : closeAfter false t = t := closeAfter_eq_self hmark nofun
  have hafterT : closeAfterT false false t = t := closeAfterT_of_apart hbehind nofun
  rw [closedMarks, hafter, hafterT, closeBefore_eq_self hmark']

/-- A tight text is tidy if no T stands between white space on one side and a run on the other. -/
theorem tidy_of_apart (h : Tight t) (hbehind : Apart isRun CodePoint.isBlank false t)
    (hbefore : Apart CodePoint.isBlank isRun false t) : tidy t = t := by
  have hsingle : t.IsChain fun a b : CodePoint => b.isBlank = true → a.isBlank = false :=
    h.neighbours.imp fun a b hab hb => Bool.eq_false_iff.mpr fun ha => absurd hb (by simp [hab.single ha])
  have hclosed : closeBeforeT false [] t = t := (closedBeforeT (fun _ => rfl) blank_nil t).eq_self rfl hbefore
  have hnil : ([] : Text).length ≤ 1 := Nat.zero_le 1
  have hcollapse : collapse [] t = t := collapse_eq hnil hsingle (absurd rfl)
  calc tidy t = (collapse [] (closeBeforeT false [] (closedMarks t))).strip := rfl
    _ = (collapse [] t).strip := by rw [closedMarks_eq_self h hbehind, hclosed]
    _ = t.strip := by rw [hcollapse]
    _ = t := trim_eq_self h.head h.last

/-! ### Tidying again -/

theorem isRun_eq_of_isBlank (c : CodePoint) (h : c.isBlank = true) : isRun c = isRun ' ' :=
  isRun_of_isBlank h

/-- In a tidied text there is no white space behind a T with a run before it, -/
theorem apart_tidy (t : Text) : Apart isRun CodePoint.isBlank false (tidy t) := by
  obtain ⟨u, front, back, hu, hfront, -, htidy⟩ := exists_tidy t
  exact led_strip (fun _ => isRun_of_isBlank) (fun _ => id) hfront htidy (hu.apart (apart_closedMarks t))

/-- and before a T with a run behind it only in runs that are led. -/
theorem led_tidy (t : Text) : Led true CodePoint.isBlank isRun false false (tidy t) := by
  obtain ⟨u, front, back, hu, hfront, -, htidy⟩ := exists_tidy t
  exact led_strip (fun _ => id) isRun_eq_of_isBlank hfront htidy (hu.led nofun fun _ => rfl)

/-- Tidying a second time leaves no white space before a T with a run behind it. -/
theorem apart_tidy_tidy (t : Text) : Apart CodePoint.isBlank isRun false (tidy (tidy t)) := by
  obtain ⟨u, front, back, hu, hfront, -, htidy⟩ := exists_tidy (tidy t)
  rw [closedMarks_eq_self (tidy_tight t).2 (apart_tidy t)] at hu
  have hbefore : Apart CodePoint.isBlank isRun false u := hu.apart_of_led nofun (fun _ => rfl) (led_tidy t)
  exact led_strip (fun _ => id) isRun_eq_of_isBlank hfront htidy hbefore

/-- A run behind a T begins with a digit where white space behind the T has been dropped. -/
theorem apart_digit_iff (hbehind : Apart isRun CodePoint.isBlank false t) : Apart CodePoint.isBlank isRun false t ↔
    ∀ a b : CodePoint, a.isBlank = true → b.isDigit = true → ¬([a, 'T', b] : Text) <:+: t := by
  rw [apart_iff (by decide)] at hbehind ⊢
  constructor
  · intro h a b ha hb
    exact h.2 a b ha (by simp [isRun, hb])
  · intro h
    refine ⟨fun h => absurd h Bool.false_ne_true, fun a b ha hb => ?_⟩
    obtain hb | hb := Bool.or_eq_true_iff.mp hb
    · exact h a b ha hb
    · exact hbehind.2 a b (isRun_of_isBlank ha) hb

/-- Tidying a text again changes nothing exactly when no white space is left before a T with a digit behind it, as in
every text with one T, and a third time it changes nothing in any text. -/
theorem tidy_again (t : Text) :
    (tidy (tidy t) = tidy t ↔
      ∀ a b : CodePoint, a.isBlank = true → b.isDigit = true → ¬([a, 'T', b] : Text) <:+: tidy t) ∧
      (t.count ('T' : CodePoint) ≤ 1 → tidy (tidy t) = tidy t) ∧
      tidy (tidy (tidy t)) = tidy (tidy t) := by
  have htight (t : Text) : Tight (tidy t) := (tidy_tight t).2
  have hself (h : Apart CodePoint.isBlank isRun false (tidy t)) : tidy (tidy t) = tidy t :=
    tidy_of_apart (htight t) (apart_tidy t) h
  refine ⟨?_, fun hcount => hself ((led_tidy t).apart ?_), ?_⟩
  · rw [← apart_digit_iff (apart_tidy t)]
    exact ⟨fun h => h ▸ apart_tidy_tidy t, hself⟩
  · have hT (t : Text) : (solid t).count ('T' : CodePoint) = t.count ('T' : CodePoint) :=
      List.count_filter (by decide)
    rwa [← hT, solid_tidy, hT]
  · exact tidy_of_apart (htight _) (apart_tidy (tidy t)) (apart_tidy_tidy t)

/-- A date with two times behind it has two T's, and tidying it takes away the white space before the first one only. -/
theorem tidy_two_times : tidy "2021-01-01 T12 T30" = "2021-01-01T12 T30" ∧
    tidy (tidy "2021-01-01 T12 T30") = "2021-01-01T12T30" ∧
    tidy (tidy "2021-01-01 T12 T30") ≠ tidy "2021-01-01 T12 T30" := by
  decide

/-- A date with one time is tidy after the first time. -/
theorem tidy_again_one_time : (Text.ofString "2021-01-01 T 12").count ('T' : CodePoint) ≤ 1 ∧
    tidy (tidy "2021-01-01 T 12") = tidy "2021-01-01 T 12" := by
  have hcount : (Text.ofString "2021-01-01 T 12").count ('T' : CodePoint) ≤ 1 := by decide
  exact ⟨hcount, (tidy_again _).2.1 hcount⟩

end FileSieve.Spacing
