import FileSieve.Proofs.Filter.Rendered
import FileSieve.Proofs.Time.Seconds

/-!
# One instant, one verdict

No comparison tells two dates and times apart that name the same instant (`Value.relate_congr`), so a filter has one
verdict for all of them, in whatever form it is given the modification time: as a number of seconds, as the decimal text
of the number, as a date and time at any offset, or as the text of one (`Sieve.verdict_of_instant`). The last holds as
long as the text is read back as it was written, which it is unless the offset is less than a second and not zero.
-/

namespace FileSieve

/-! ### Dates and times that are not told apart -/

namespace DateTime

/-- Two dates and times of the same instant. -/
structure SameInstant (d e : DateTime) : Prop where
  /-- Both name an offset, or neither does. -/
  aware : d.isAware = e.isAware
  /-- The instant is the same. -/
  instant : d.instant = e.instant

/-- A date and time whose offset is read back from its text. -/
def OffsetKept (d : DateTime) : Prop :=
  ∀ o ∈ d.offset, o = 0 ∨ perSecond ≤ o.natAbs

/-- An offset that is not kept is read as UTC. -/
theorem asRead_of_not_kept {d : DateTime} (haware : d.isAware = true) (h : ¬d.OffsetKept) :
    d.asRead = { d with offset := some 0 } := by
  obtain ⟨o, ho⟩ := Option.isSome_iff_exists.mp haware
  have hless : o.natAbs < perSecond := by
    by_contra hle
    refine h fun o' ho' => .inr ?_
    obtain rfl := Option.some.inj (ho.symm.trans ho')
    exact Nat.le_of_not_lt hle
  rw [asRead, ho, Option.map_some, offsetAsRead, if_pos hless]

end DateTime

open DateTime (SameInstant)

variable {d e : DateTime}

theorem Value.equal_congr_datetime (h : SameInstant d e) (value : Value) :
    (Value.datetime d).equal value = (Value.datetime e).equal value := by
  cases value with
  | datetime c => simp [equal, scalarEqual, magnitude?, h.aware, h.instant]
  | _ => simp [equal, scalarEqual, magnitude?, octets?]

theorem Value.order_congr_datetime (h : SameInstant d e) (op : Operator) (value : Value) :
    Value.order op (.datetime d) value = Value.order op (.datetime e) value := by
  cases value with
  | datetime c => simp [order, scalarOrder, magnitude?, octets?, h.aware, h.instant]
  | _ => simp [order, scalarOrder, magnitude?, octets?, kind]

/-- No comparison tells them apart. -/
theorem Value.relate_congr (h : SameInstant d e) (op : Operator) (value : Value) :
    Value.relate (.datetime d) op value = Value.relate (.datetime e) op value := by
  have hadrift : (Value.datetime d).isAdrift value = (Value.datetime e).isAdrift value := by
    cases value <;> rfl
  unfold relate
  simp only [hadrift, equal_congr_datetime h, order_congr_datetime h]

theorem Clause.allHold_congr (h : SameInstant d e) (clauses : List Clause) :
    Clause.allHold clauses (.datetime d) = Clause.allHold clauses (.datetime e) := by
  induction clauses with
  | nil => rfl
  | cons clause rest ih => rw [allHold, allHold, Clause.holds, Clause.holds, Value.relate_congr h, ih]

namespace Sieve

variable (f : Sieve)

/-- A filter has one verdict for two modification times that stand for the same instant. -/
theorem passesTime_congr {a b : Value} (ha : f.clock.instantOf a = .ok d) (hb : f.clock.instantOf b = .ok e)
    (h : SameInstant d e) : f.passesTime a = f.passesTime b := by
  rw [passesTime, passesTime, Clock.coerce_of_instantOf ha, Clock.coerce_of_instantOf hb]
  simp only [Clause.allHold_congr h]

/-- And it has a verdict for what stands for an instant. -/
theorem exists_verdict {value : Value} (hvalue : f.clock.instantOf value = .ok d)
    (hclauses : ∀ clause ∈ f.timeClauses, clause.OfInstant) : ∃ verdict, f.passesTime value = .ok verdict := by
  obtain ⟨verdict, hverdict, -⟩ := Clause.allHold_iff (.datetime d) fun clause hclause =>
    (hclauses clause hclause).holds (Clock.isAware_of_instantOf hvalue)
  rw [passesTime, Clock.coerce_of_instantOf hvalue]
  by_cases hempty : f.timeClauses.isEmpty = true
  · exact ⟨true, if_pos hempty⟩
  · rw [if_neg hempty]
    exact ⟨verdict, mapError_eq_ok.mpr hverdict⟩

/-- The ISO form of a date and time and its form for people are read back, but for an offset of less than a second, which
is read as none. A number of seconds, if it has an instant, stands for the one so many seconds after the beginning of
1970 at UTC, and so does its decimal text. A filter has the same verdict for them and for every date and time of this
instant, at any offset, and for the ISO form of the latter if its offset is read back. -/
theorem verdict_of_instant (o : Offset) (hzone : f.clock.zone.Keeps o) (ho : o.natAbs < DateTime.perDay) :
    (∀ d : DateTime, d.Valid → d.isAware = true →
      (d.OffsetKept → f.clock.read d.iso = .ok d ∧ f.clock.read d.text = .ok d) ∧
      (¬d.OffsetKept → f.clock.read d.iso = .ok { d with offset := some 0 } ∧
        f.clock.read d.text = .ok { d with offset := some 0 })) ∧
    ∀ (n : Int) (d : DateTime), f.clock.ofSeconds (.int n) = .ok d →
      (d.Valid ∧ d.offset = some o ∧
        d.instant = DateTime.instant { date := ⟨1970, 1, 1⟩, offset := some 0 } + n * DateTime.perSecond) ∧
      (f.clock.read (Text.ofInt n) = .ok d ∧ f.clock.instantOf (.int n) = .ok d) ∧
      ((∀ clause ∈ f.timeClauses, clause.OfInstant) → ∃ verdict, f.passesTime (.int n) = .ok verdict) ∧
      f.passesTime (.text (Text.ofInt n)) = f.passesTime (.int n) ∧
      ∀ e : DateTime, e.Valid → e.isAware = true → e.instant = d.instant →
        f.passesTime (.datetime e) = f.passesTime (.int n) ∧
        (e.OffsetKept → f.passesTime (.text e.iso) = f.passesTime (.int n)) := by
  have hread (d : DateTime) (hvalid : d.Valid) (haware : d.isAware = true) :
      f.clock.read d.iso = .ok d.asRead ∧ f.clock.read d.text = .ok d.asRead :=
    ⟨Clock.read_textWith hvalid haware (by decide), Clock.read_textWith hvalid haware (by decide)⟩
  have hkept (d : DateTime) (hvalid : d.Valid) (haware : d.isAware = true) (hkept : d.OffsetKept) :
      f.clock.read d.iso = .ok d ∧ f.clock.read d.text = .ok d := by
    have hback := hread d hvalid haware
    rwa [DateTime.asRead_eq_self hkept] at hback
  refine ⟨fun d hvalid haware => ⟨hkept d hvalid haware, fun hnot => ?_⟩, fun n d hn => ?_⟩
  · rw [← DateTime.asRead_of_not_kept haware hnot]
    exact hread d hvalid haware
  · obtain ⟨hinstant, hoffset⟩ := Clock.instant_of_ofSeconds hn hzone
    have haware : d.isAware = true := Clock.isAware_of_ofSeconds hn
    have htext := Clock.read_ofInt hn
    refine ⟨⟨Clock.valid_of_ofSeconds (hzone.bounded ho) hn, hoffset, ?_⟩, ⟨htext, hn⟩, fun hclauses => ?_, ?_, ?_⟩
    · rw [← DateTime.epoch_eq, hinstant]
    · exact f.exists_verdict hn hclauses
    · exact f.passesTime_congr htext hn ⟨rfl, rfl⟩
    · intro e hvalid hawareE hsame
      have hinZone : f.clock.instantOf (.datetime e) = .ok e := by
        rw [Clock.instantOf, Clock.inZone, if_pos hawareE]
        rfl
      have hagree : SameInstant e d := ⟨hawareE.trans haware.symm, hsame⟩
      exact ⟨f.passesTime_congr hinZone hn hagree, fun hk => f.passesTime_congr (hkept e hvalid hawareE hk).1 hn hagree⟩

/-- A filter that asks for files of 1970 and later. -/
def sinceEpoch : Sieve where
  timeClauses := [⟨.ge, .datetime { date := ⟨1970, 1, 1⟩, offset := some 0 }⟩]

/-- The beginning of 1970 at UTC on a clock that is one hour ahead. -/
def anHourAhead : DateTime where
  date := ⟨1970, 1, 1⟩
  hour := 1
  offset := some 3600000000

/-- The number zero and that time on the other clock have the same verdict. -/
theorem verdict_of_instant_epoch : sinceEpoch.clock.zone.Keeps 0 ∧
    sinceEpoch.clock.read anHourAhead.iso = .ok anHourAhead ∧
    sinceEpoch.clock.read besideUtc.text = .ok { besideUtc with offset := some 0 } ∧
    sinceEpoch.clock.read (Text.ofInt 0) = .ok { date := ⟨1970, 1, 1⟩, offset := some 0 } ∧
    (∃ verdict, sinceEpoch.passesTime (.int 0) = .ok verdict) ∧
    sinceEpoch.passesTime (.datetime anHourAhead) = sinceEpoch.passesTime (.int 0) ∧
    sinceEpoch.passesTime (.text anHourAhead.iso) = sinceEpoch.passesTime (.int 0) := by
  have hzone : sinceEpoch.clock.zone.Keeps 0 := rfl
  have hvalid : anHourAhead.Valid :=
    ⟨⟨by decide, by decide, by decide⟩, by decide, by decide, by decide, by decide, by rintro o ⟨⟩; decide⟩
  have hkept : anHourAhead.OffsetKept := by
    rintro o ⟨⟩
    exact .inr (by decide)
  have hbeside : besideUtc.Valid := .midnight ⟨by decide, by decide, by decide⟩ (by rintro o ⟨⟩; decide)
  have hlost : ¬besideUtc.OffsetKept := fun h => absurd (h 500 rfl) (by decide)
  have hclauses : ∀ clause ∈ sinceEpoch.timeClauses, clause.OfInstant :=
    List.forall_mem_singleton.mpr ⟨_, rfl, rfl⟩
  have hzero : sinceEpoch.clock.ofSeconds (.int 0) = .ok { date := ⟨1970, 1, 1⟩, offset := some 0 } := by
    decide +kernel
  obtain ⟨hread, hseconds⟩ := sinceEpoch.verdict_of_instant 0 hzone (by decide)
  obtain ⟨-, ⟨htext, -⟩, hverdict, -, hsame⟩ := hseconds 0 _ hzero
  obtain ⟨hdatetime, hiso⟩ := hsame anHourAhead hvalid rfl (by decide)
  exact ⟨hzone, ((hread _ hvalid rfl).1 hkept).1, ((hread _ hbeside rfl).2 hlost).2, htext, hverdict hclauses,
    hdatetime, hiso hkept⟩

/-- The ISO form of a midnight half a millisecond ahead of UTC is not read as that midnight. -/
theorem besideUtc_iso_lost : besideUtc.Valid ∧ besideUtc.isAware = true ∧
    Clock.read {} besideUtc.iso ≠ .ok besideUtc := by
  have hvalid : besideUtc.Valid := .midnight ⟨by decide, by decide, by decide⟩ (by rintro o ⟨⟩; decide)
  have hread : Clock.read {} besideUtc.iso = .ok besideUtc.asRead := Clock.read_textWith hvalid rfl (by decide)
  refine ⟨hvalid, rfl, ?_⟩
  rw [hread]
  exact fun heq => absurd (congrArg DateTime.offset (Except.ok.inj heq)) (by decide)

end Sieve

end FileSieve
