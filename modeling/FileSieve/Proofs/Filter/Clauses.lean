import FileSieve.Filter.Basic
import FileSieve.Proofs.Result
import Mathlib.Tactic.SplitIfs

/-!
# Clauses that can be asked

A comparison of sizes always gives an answer, and so does one of instants, as long as both name their offset from UTC:
every instant that a clock reads does (`isAware_of_instantOf`). So a list of clauses of sizes or of instants never
fails, and it holds exactly when each of its clauses does.
-/

namespace FileSieve

/-! ### Instants that a clock reads -/

theorem DateTime.isAware_of_ofClock {micros : Int} {offset : Offset} {d : DateTime}
    (h : ofClock? micros (some offset) = some d) : d.isAware = true := by
  simp only [ofClock?] at h
  split_ifs at h
  rw [← Option.some.inj h]
  rfl

namespace Zone.Rules

variable {rules : Rules} {d : DateTime} {instant : Int}

/-- What local clocks show is the date and time of a clock that is ahead by as much as they are at the instant. -/
theorem seen_eq_ok : rules.seen instant = .ok d ↔
    DateTime.ofClock? (instant + (Zone.local rules).ahead instant) (some ((Zone.local rules).ahead instant)) = some d := by
  rw [Zone.ahead]
  simp only [seen]
  split <;> simp [*]

/-- A naive date and time that has a place is what the clocks show at some instant. -/
theorem seen_of_place {later : Bool} {e : DateTime} (h : rules.place later e = .ok d) :
    ∃ second, rules.resolve later ((e.clock : Int) / DateTime.perSecond) = .ok second ∧
      rules.seen (e.clock - rules.ahead second * DateTime.perSecond) = .ok d := by
  obtain ⟨second, hsecond, h⟩ := bind_eq_ok.mp h
  dsimp only at h
  split at h
  · exact ⟨second, hsecond, h⟩
  · cases h

theorem place_of_shownAt (h : rules.shownAt instant = .ok d) :
    ∃ e again, rules.naive instant = .ok (e, again) ∧ rules.place again e = .ok d := by
  obtain ⟨⟨e, again⟩, hnaive, h⟩ := bind_eq_ok.mp h
  exact ⟨e, again, hnaive, h⟩

theorem isAware_of_place {later : Bool} {e : DateTime} (h : rules.place later e = .ok d) : d.isAware = true := by
  obtain ⟨second, -, hseen⟩ := seen_of_place h
  exact DateTime.isAware_of_ofClock (seen_eq_ok.mp hseen)

end Zone.Rules

namespace Clock

variable {clock : Clock} {d : DateTime}

theorem isAware_of_inZone {e : DateTime} (h : clock.inZone e = .ok d) : d.isAware = true := by
  unfold inZone at h
  split_ifs at h with haware
  · rwa [← Except.ok.inj h]
  · split at h
    · rw [← Except.ok.inj h]
      rfl
    · exact Zone.Rules.isAware_of_place h

theorem isAware_of_shownAt {instant : Int} (h : clock.shownAt instant = .ok d) : d.isAware = true := by
  unfold shownAt at h
  split at h
  · split at h
    · next hd =>
      obtain rfl := Except.ok.inj h
      exact DateTime.isAware_of_ofClock hd
    · cases h
  · obtain ⟨e, again, -, hplace⟩ := Zone.Rules.place_of_shownAt h
    exact Zone.Rules.isAware_of_place hplace

/-- What a clock shows at an instant that a number names it shows at the instant itself. -/
theorem shownAt_of_at {instant : Int} (h : clock.at? instant = some d) : clock.shownAt instant = .ok d := by
  unfold at? at h
  split at h
  · obtain ⟨-, -, h⟩ := Option.bind_eq_some_iff.mp h
    exact toOption_eq_some.mp h
  · exact toOption_eq_some.mp h

theorem at_of_ofSeconds {value : Value} (h : clock.ofSeconds value = .ok d) :
    ∃ micros, value.magnitude?.bind microseconds? = some micros ∧ clock.at? (DateTime.epoch + micros) = some d := by
  unfold ofSeconds at h
  split at h
  · next e he =>
    obtain rfl := Except.ok.inj h
    exact Option.bind_eq_some_iff.mp he
  · split at h <;> cases h

theorem isAware_of_ofSeconds {value : Value} (h : clock.ofSeconds value = .ok d) : d.isAware = true := by
  obtain ⟨micros, -, hat⟩ := at_of_ofSeconds h
  exact isAware_of_shownAt (shownAt_of_at hat)

/-- A word stands for what the clock shows or for a midnight. -/
theorem ofKeyword_cases {word : Keyword} (h : clock.ofKeyword word = .ok d) :
    ∃ now, clock.shownAt clock.now = .ok now ∧
      (d = now ∨ ∃ date, now.date.add? word.days = some date ∧ clock.inZone { date } = .ok d) := by
  obtain ⟨now, hnow, h⟩ := bind_eq_ok.mp h
  refine ⟨now, hnow, ?_⟩
  split_ifs at h
  · exact .inl (Except.ok.inj h).symm
  · split at h
    · next date hdate => exact .inr ⟨date, hdate, h⟩
    · cases h

theorem isAware_of_ofKeyword {word : Keyword} (h : clock.ofKeyword word = .ok d) : d.isAware = true := by
  obtain ⟨now, hnow, rfl | ⟨date, -, hdate⟩⟩ := ofKeyword_cases h
  · exact isAware_of_shownAt hnow
  · exact isAware_of_inZone hdate

/-- What is settled is a date and time that has been read, as an instant or beyond the calendar. -/
theorem settled_eq_some {read : Text → Option DateTime} {t : Text} {outcome : Except Misuse DateTime} :
    clock.settled? read t = some outcome ↔ ∃ e, read t = some e ∧ clock.inZone e = outcome ∧
      ((∃ d, outcome = .ok d) ∨ outcome = .error .dateOverflow) := by
  unfold settled?
  rw [Option.bind_eq_some_iff]
  refine exists_congr fun e => and_congr_right fun _ => ?_
  split
  · next d hd =>
    rw [hd, Option.some.injEq]
    exact ⟨fun h => ⟨h, .inl ⟨d, h.symm⟩⟩, And.left⟩
  · next hd =>
    rw [hd, Option.some.injEq]
    exact ⟨fun h => ⟨h, .inr h.symm⟩, And.left⟩
  · next m hother hm =>
    rw [hm]
    refine iff_of_false nofun ?_
    rintro ⟨rfl, ⟨d, hd⟩ | hd⟩
    · cases hd
    · exact hother (Except.error.inj hd)

/-- So the calendar gives what one of the ways of reading settles. -/
theorem exists_of_calendar {t : Text} {outcome : Except Misuse DateTime} (h : clock.calendar? t = some outcome) :
    ∃ read ∈ Iso.read? :: Format.all.map Format.read?, ∃ e, read t = some e ∧ clock.inZone e = outcome ∧
      ((∃ d, outcome = .ok d) ∨ outcome = .error .dateOverflow) := by
  obtain ⟨read, hread, hsettled⟩ := List.exists_of_findSome?_eq_some h
  exact ⟨read, hread, settled_eq_some.mp hsettled⟩

theorem isAware_of_calendar {t : Text} (h : clock.calendar? t = some (.ok d)) : d.isAware = true := by
  obtain ⟨read, -, e, -, hzone, -⟩ := exists_of_calendar h
  exact isAware_of_inZone hzone

theorem isAware_of_read {t : Text} (h : clock.read t = .ok d) : d.isAware = true := by
  simp only [read] at h
  split_ifs at h
  · split at h
    · exact isAware_of_ofSeconds h
    · cases h
  · split at h
    · exact isAware_of_ofKeyword (mapError_eq_ok.mp h)
    · split at h
      · next outcome hcalendar =>
        rw [mapError_eq_ok.mp h] at hcalendar
        exact isAware_of_calendar hcalendar
      · cases h

/-- Every instant that a clock makes of a value names its offset. -/
theorem isAware_of_instantOf {value : Value} (h : clock.instantOf value = .ok d) : d.isAware = true := by
  unfold instantOf at h
  split at h
  · exact isAware_of_inZone (mapError_eq_ok.mp h)
  · simp at h
  · exact isAware_of_ofSeconds h
  · exact isAware_of_ofSeconds h
  · exact isAware_of_read h
  · simp at h
  · simp at h

/-- What stands for an instant is compared as this instant. -/
theorem coerce_of_instantOf {value : Value} (h : clock.instantOf value = .ok d) :
    clock.coerce value = .ok (.datetime d) := by
  unfold coerce
  split
  · cases h
  · rw [h]
    rfl

/-- What is compared is an instant, or a date and time whose zone cannot tell it. -/
theorem coerce_cases {value instant : Value} (h : clock.coerce value = .ok instant) :
    (∃ d, clock.instantOf value = .ok d ∧ instant = .datetime d) ∨
      ∃ d zone, value = .unplaced d zone ∧ instant = .unplaced d zone := by
  unfold coerce at h
  split at h
  · exact .inr ⟨_, _, rfl, (Except.ok.inj h).symm⟩
  · obtain ⟨d, hd, hinstant⟩ := map_eq_ok.mp h
    exact .inl ⟨d, hd, hinstant.symm⟩

end Clock

/-! ### Comparisons -/

theorem Value.relate_int (a b : Int) (op : Operator) : ∃ verdict, Value.relate (.int a) op (.int b) = .ok verdict := by
  cases op <;> exact ⟨_, rfl⟩

theorem Value.relate_datetime {d e : DateTime} (hd : d.isAware = true) (he : e.isAware = true) (op : Operator) :
    ∃ verdict, Value.relate (.datetime d) op (.datetime e) = .ok verdict := by
  have horder : ∀ op, ∃ verdict, Value.order op (.datetime d) (.datetime e) = .ok verdict := fun op => by
    refine ⟨op.holds (compare d.instant e.instant), ?_⟩
    simp [Value.order, Value.scalarOrder, Value.magnitude?, Value.octets?, hd, he]
  cases op with
  | eq => exact ⟨_, rfl⟩
  | ne => exact ⟨_, rfl⟩
  | gt => exact horder .gt
  | lt => exact horder .lt
  | ge => exact horder .ge
  | le => exact horder .le

namespace Clause

/-- Clauses hold together when each of them does. -/
theorem allHold_eq_true_iff {clauses : List Clause} {candidate : Value} :
    allHold clauses candidate = .ok true ↔ ∀ clause ∈ clauses, clause.holds candidate = .ok true := by
  induction clauses with
  | nil => exact iff_of_true rfl (List.forall_mem_nil _)
  | cons clause rest ih =>
    rw [List.forall_mem_cons, ← ih, allHold]
    cases hfirst : clause.holds candidate with
    | error m => simp [bind, Except.bind]
    | ok first => cases first <;> simp [bind, Except.bind, pure, Except.pure]

/-- Clauses that all give an answer give one together: whether each of them holds. -/
theorem allHold_iff {clauses : List Clause} (candidate : Value)
    (h : ∀ clause ∈ clauses, ∃ verdict, clause.holds candidate = .ok verdict) : ∃ verdict,
    allHold clauses candidate = .ok verdict ∧
      (verdict = true ↔ ∀ clause ∈ clauses, clause.holds candidate = .ok true) := by
  have hanswer : ∃ verdict, allHold clauses candidate = .ok verdict := by
    induction clauses with
    | nil => exact ⟨true, rfl⟩
    | cons clause rest ih =>
      obtain ⟨⟨first, hfirst⟩, hrest⟩ := List.forall_mem_cons.mp h
      obtain ⟨verdict, hverdict⟩ := ih hrest
      cases first with
      | false => exact ⟨false, by simp [allHold, hfirst, bind, Except.bind, pure, Except.pure]⟩
      | true => exact ⟨verdict, by simp [allHold, hfirst, hverdict, bind, Except.bind]⟩
  obtain ⟨verdict, hverdict⟩ := hanswer
  exact ⟨verdict, hverdict, by rw [← allHold_eq_true_iff, hverdict, Except.ok.injEq]⟩

/-- A clause about sizes. -/
def OfSize (clause : Clause) : Prop :=
  ∃ n, clause.value = .int n

/-- A clause about instants. -/
def OfInstant (clause : Clause) : Prop :=
  ∃ d, clause.value = .datetime d ∧ d.isAware = true

theorem OfSize.holds {clause : Clause} (h : clause.OfSize) (size : Int) :
    ∃ verdict, clause.holds (.int size) = .ok verdict := by
  obtain ⟨n, hn⟩ := h
  rw [Clause.holds, hn]
  exact Value.relate_int size n clause.operator

theorem OfInstant.holds {clause : Clause} (h : clause.OfInstant) {d : DateTime} (hd : d.isAware = true) :
    ∃ verdict, clause.holds (.datetime d) = .ok verdict := by
  obtain ⟨e, he, haware⟩ := h
  rw [Clause.holds, he]
  exact Value.relate_datetime hd haware clause.operator

end Clause

end FileSieve
