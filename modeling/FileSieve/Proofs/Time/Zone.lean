import FileSieve.Proofs.Time.Calendar

/-!
# Places in a zone

The instant at which local clocks show a date and time is the one that they show (`Zone.Rules.instant_of_seen`). Where they
are always ahead of UTC by the same number of seconds, a naive date and time has its place unless it is on the first day
or too near to the end of the calendar: then it has none, or its instant is beyond the calendar at UTC, and this can only
be behind UTC (`Zone.Rules.place_steady`).

In every zone the instant of a number of seconds is so many seconds after the beginning of 1970 at UTC
(`Clock.instant_of_ofSeconds`), if the clocks there are always ahead by the same.
-/

namespace FileSieve

namespace Zone.Rules

variable {rules : Rules} {d : DateTime}

/-- What local clocks show at an instant is at the instant. -/
theorem instant_of_seen {instant : Int} (h : rules.seen instant = .ok d) :
    d.instant = instant ∧ d.offset = some ((Zone.local rules).ahead instant) := by
  have hshown := seen_eq_ok.mp h
  have hoffset := DateTime.offset_of_ofClock hshown
  refine ⟨?_, hoffset⟩
  rw [DateTime.instant, DateTime.clock_of_ofClock hshown, hoffset]
  exact Int.add_sub_cancel _ _

/-- A lead is how far the clocks are ahead, and they show a day of the calendar. -/
theorem lead_eq_ok {second lead : Int} : rules.lead second = .ok lead ↔
    rules.ahead second = lead ∧ 1 ≤ (second + lead) / day ∧ (second + lead) / day ≤ Date.maxDayNumber := by
  simp only [Rules.lead]
  split_ifs with hlow hhigh
  · exact iff_of_false nofun fun ⟨hlead, hmin, _⟩ => absurd (hlead ▸ hmin) (Int.not_le.mpr hlow)
  · exact iff_of_false nofun fun ⟨hlead, _, hmax⟩ => absurd (hlead ▸ hmax) (Int.not_le.mpr hhigh)
  · rw [Except.ok.injEq]
    refine ⟨fun h => ?_, And.left⟩
    subst h
    exact ⟨rfl, Int.not_lt.mp hlow, Int.not_lt.mp hhigh⟩

/-- What local clocks show at an instant as a naive date and time. -/
theorem clock_of_naive {instant : Int} {again : Bool} (h : rules.naive instant = .ok (d, again)) :
    ∃ now, rules.lead (instant / DateTime.perSecond) = .ok now ∧ (d.clock : Int) = instant + now * DateTime.perSecond := by
  obtain ⟨now, hnow, h⟩ := bind_eq_ok.mp h
  obtain ⟨before, -, h⟩ := bind_eq_ok.mp h
  obtain ⟨again', -, h⟩ := bind_eq_ok.mp h
  refine ⟨now, hnow, ?_⟩
  split at h
  · next e he =>
    obtain ⟨rfl, -⟩ := Prod.mk.inj (Except.ok.inj h)
    exact DateTime.clock_of_ofClock he
  · cases h

/-! ### Clocks that are always ahead by the same -/

section Steady

variable {n : Int} (hsteady : ∀ second, rules.ahead second = n)

include hsteady

/-- Their lead, unless they show no day of the calendar. -/
theorem lead_steady (second : Int) : rules.lead second =
    if second + n < day then .error (.dateFault (.year 0))
    else if (Date.maxDayNumber + 1) * day ≤ second + n then .error (.dateFault (.year (Date.maxYear + 1)))
    else .ok n := by
  rw [Rules.lead, hsteady]
  have hlow : (second + n) / day < 1 ↔ second + n < day := by
    unfold day
    omega
  have hhigh : (Date.maxDayNumber : Int) < (second + n) / day ↔ (Date.maxDayNumber + 1) * day ≤ second + n := by
    unfold day
    omega
  simp only [hlow, hhigh]

/-- Such clocks show a second of the calendar once, when they show that they are ahead by as much. Days before and after
are asked for, too. -/
theorem resolve_steady {second : Int} (hmin : day ≤ second) (hmax : second < (Date.maxDayNumber + 1) * day) :
    rules.resolve false second =
      if second < 2 * day then .error (.dateFault (.year 0))
      else if (Date.maxDayNumber + 1) * day ≤ second + n then .error (.dateFault (.year (Date.maxYear + 1)))
      else .ok (second - n) := by
  have hn : n.natAbs < 86400 := hsteady 0 ▸ rules.ahead_lt 0
  have hday : day = 86400 := rfl
  have hlast : ((Date.maxDayNumber : Int) + 1) * day = 3652060 * 86400 := rfl
  have hguess := lead_steady hsteady second
  have hthere : rules.lead (second - n) = .ok n := by
    rw [lead_steady hsteady, Int.sub_add_cancel, if_neg (Int.not_lt.mpr hmin), if_neg (Int.not_le.mpr hmax)]
  have hother : rules.lead (second - n - day) =
      if second < 2 * day then .error (.dateFault (.year 0)) else .ok n := by
    rw [lead_steady hsteady, show second - n - day + n = second - day by omega]
    by_cases hlow : second < 2 * day
    · rw [if_pos hlow, if_pos (by omega)]
    · rw [if_neg hlow, if_neg (by omega), if_neg (by omega)]
  by_cases hfirst : second + n < day
  · rw [if_pos hfirst] at hguess
    rw [if_pos (by omega), resolve, hguess]
    rfl
  rw [if_neg hfirst] at hguess
  by_cases hover : (Date.maxDayNumber + 1) * day ≤ second + n
  · rw [if_pos hover] at hguess
    rw [if_neg (by omega), if_pos hover, resolve, hguess]
    rfl
  · rw [if_neg hover] at hguess
    rw [if_neg hover]
    by_cases hlow : second < 2 * day <;>
      simp [resolve, hguess, hthere, hother, hlow, bind, Except.bind, pure, Except.pure]

/-- So a naive date and time has its place, unless it is on the first day or too near to the end of the calendar. Behind
UTC its instant may be beyond the calendar there. -/
theorem place_steady (hd : d.Valid) : rules.place false d =
    if (d.clock : Int) < 2 * DateTime.perDay then .error (.dateFault (.year 0))
    else if (Date.maxDayNumber + 1) * DateTime.perDay ≤ d.clock + n * DateTime.perSecond then
      .error (.dateFault (.year (Date.maxYear + 1)))
    else if (Date.maxDayNumber + 1) * DateTime.perDay ≤ d.clock - n * DateTime.perSecond then .error .dateOverflow
    else .ok { d with offset := some (n * DateTime.perSecond) } := by
  obtain ⟨hmin, hmax⟩ := DateTime.within_of_ofClock (DateTime.ofClock_clock hd)
  have hn : (n * DateTime.perSecond).natAbs < DateTime.perDay := hsteady 0 ▸ rules.ahead_micros_lt 0
  have hfirst : (d.clock : Int) < 2 * DateTime.perDay ↔ (d.clock : Int) / DateTime.perSecond < 2 * day := by
    unfold DateTime.perDay DateTime.perSecond day
    omega
  have hlast : (Date.maxDayNumber + 1) * DateTime.perDay ≤ d.clock + n * DateTime.perSecond ↔
      (Date.maxDayNumber + 1) * day ≤ (d.clock : Int) / DateTime.perSecond + n := by
    unfold DateTime.perDay DateTime.perSecond day
    omega
  have hfrom : day ≤ (d.clock : Int) / DateTime.perSecond := by
    unfold DateTime.perDay DateTime.perSecond at hmin
    unfold DateTime.perSecond day
    omega
  have huntil : (d.clock : Int) / DateTime.perSecond < (Date.maxDayNumber + 1) * day := by
    unfold DateTime.perDay DateTime.perSecond at hmax
    unfold DateTime.perSecond day
    omega
  have hresolve := resolve_steady hsteady hfrom huntil
  simp only [← hfirst, ← hlast] at hresolve
  rw [place, hresolve]
  split_ifs with hearly hlate hover
  · rfl
  · rfl
  · have hnone : DateTime.ofClock? (d.clock - n * DateTime.perSecond) (some 0) = none := by
      cases hshown : DateTime.ofClock? (d.clock - n * DateTime.perSecond) (some 0) with
      | none => rfl
      | some e => exact absurd (DateTime.within_of_ofClock hshown).2 (Int.not_lt.mpr hover)
    simp only [bind, Except.bind, hsteady, hnone]
  · have hearlier : DateTime.perDay ≤ d.clock - n * DateTime.perSecond := by omega
    obtain ⟨utc, hutc⟩ := DateTime.exists_ofClock (some 0) hearlier (Int.not_le.mp hover)
    have hvalid : ({ d with offset := some (n * DateTime.perSecond) } : DateTime).Valid :=
      { hd with offset := fun o ho => Option.some.inj ho ▸ hn }
    have hplaced : rules.seen (d.clock - n * DateTime.perSecond) =
        .ok { d with offset := some (n * DateTime.perSecond) } := by
      rw [seen_eq_ok, Zone.ahead, hsteady, Int.sub_add_cancel]
      exact DateTime.ofClock_clock hvalid
    simp only [bind, Except.bind, hsteady, hutc, hplaced]

/-- Clocks ahead of UTC show no naive date and time of an instant beyond the calendar; those behind it show the ones of
its last hours. -/
theorem place_overflow_iff (hd : d.Valid) : rules.place false d = .error .dateOverflow ↔
    (Date.maxDayNumber + 1) * DateTime.perDay ≤ d.clock - n * DateTime.perSecond := by
  obtain ⟨hmin, hmax⟩ := DateTime.within_of_ofClock (DateTime.ofClock_clock hd)
  have hn : (n * DateTime.perSecond).natAbs < DateTime.perDay := hsteady 0 ▸ rules.ahead_micros_lt 0
  have hday : (Date.maxDayNumber + 1 : Int) * DateTime.perDay = 3652060 * DateTime.perDay := rfl
  rw [place_steady hsteady hd]
  split_ifs with hearly hlate hover
  · exact iff_of_false nofun (by omega)
  · exact iff_of_false nofun (by omega)
  · exact iff_of_true rfl hover
  · exact iff_of_false nofun hover

end Steady

end Zone.Rules

/-! ### Numbers of seconds -/

/-- A zone that is always ahead of UTC by the same. -/
def Zone.Keeps : Zone → Offset → Prop
  | .fixed offset, o => offset = o
  | .local rules, o => ∀ second, rules.ahead second * DateTime.perSecond = o

theorem Zone.Keeps.bounded {zone : Zone} {o : Offset} (h : zone.Keeps o) (ho : o.natAbs < DateTime.perDay) :
    zone.Bounded := by
  cases zone with
  | fixed offset => exact h ▸ ho
  | «local» rules => trivial

namespace Clock

variable {clock : Clock} {d : DateTime}

/-- What a clock shows at an instant that a number names is at the instant, in the clock's zone. -/
theorem instant_of_at {instant : Int} (h : clock.at? instant = some d) {o : Offset} (hzone : clock.zone.Keeps o) :
    d.instant = instant ∧ d.offset = some o := by
  have hshown := shownAt_of_at h
  unfold shownAt at hshown
  cases hlocal : clock.zone with
  | fixed offset =>
    simp only [hlocal] at hshown hzone
    subst hzone
    split at hshown
    · next e he =>
      obtain rfl := Except.ok.inj hshown
      have hoffset := DateTime.offset_of_ofClock he
      refine ⟨?_, hoffset⟩
      rw [DateTime.instant, DateTime.clock_of_ofClock he, hoffset]
      exact Int.add_sub_cancel _ _
    · cases hshown
  | «local» rules =>
    simp only [hlocal] at hshown hzone
    obtain ⟨e, again, hnaive, hplace⟩ := Zone.Rules.place_of_shownAt hshown
    obtain ⟨now, hlead, hclock⟩ := Zone.Rules.clock_of_naive hnaive
    obtain ⟨second, -, hseen⟩ := Zone.Rules.seen_of_place hplace
    obtain ⟨hinstant, hoffset⟩ := Zone.Rules.instant_of_seen hseen
    rw [← (Zone.Rules.lead_eq_ok.mp hlead).1, hzone] at hclock
    rw [hzone, hclock, Int.add_sub_cancel] at hinstant
    exact ⟨hinstant, hoffset.trans (congrArg some (hzone _))⟩

/-- So a number of seconds stands for the instant so many seconds after the beginning of 1970 at UTC. -/
theorem instant_of_ofSeconds {n : Int} (h : clock.ofSeconds (.int n) = .ok d) {o : Offset}
    (hzone : clock.zone.Keeps o) : d.instant = DateTime.epoch + n * DateTime.perSecond ∧ d.offset = some o := by
  obtain ⟨micros, hmicros, hat⟩ := at_of_ofSeconds h
  obtain rfl : n * DateTime.perSecond = micros := Option.some.inj hmicros
  exact instant_of_at hat hzone

/-- A number of seconds that has an instant is not far from zero. -/
theorem lt_of_ofSeconds {n : Int} (h : clock.ofSeconds (.int n) = .ok d) : n.natAbs < Nat.pow 10 12 := by
  obtain ⟨micros, hmicros, hat⟩ := at_of_ofSeconds h
  obtain rfl : n * DateTime.perSecond = micros := Option.some.inj hmicros
  have hpow : Nat.pow 10 12 = 1000000000000 := rfl
  rw [at?] at hat
  split at hat
  · obtain ⟨utc, hutc, -⟩ := Option.bind_eq_some_iff.mp hat
    have hwithin := DateTime.within_of_ofClock hutc
    simp only [DateTime.epoch, DateTime.perDay, DateTime.perSecond, Date.maxDayNumber] at hwithin
    omega
  · next rules hlocal =>
    have hshown : clock.shownAt (DateTime.epoch + n * DateTime.perSecond) = .ok d :=
      shownAt_of_at (by rw [at?, hlocal]; exact hat)
    rw [shownAt, hlocal] at hshown
    obtain ⟨e, again, hnaive, -⟩ := Zone.Rules.place_of_shownAt hshown
    obtain ⟨now, hlead, -⟩ := Zone.Rules.clock_of_naive hnaive
    obtain ⟨rfl, hmin, hmax⟩ := Zone.Rules.lead_eq_ok.mp hlead
    have hahead := rules.ahead_lt ((DateTime.epoch + n * DateTime.perSecond) / DateTime.perSecond)
    simp only [DateTime.epoch, DateTime.perDay, DateTime.perSecond, Date.maxDayNumber, Zone.Rules.day] at hmin hmax hahead
    omega

end Clock

end FileSieve
