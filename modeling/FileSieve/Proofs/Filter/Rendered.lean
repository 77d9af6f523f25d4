import FileSieve.Proofs.Filter.Atomicity
import FileSieve.Proofs.Predicate.Rendered
import FileSieve.Proofs.Size.Outcome
import FileSieve.Proofs.Time.Rendered

/-!
# Clauses read back

The clauses of a filter are shown to people, and what is shown can be given to the filter again: the texts of its
clauses with a space between them are a predicate, and setting it gives the clauses that were shown
(`clauses_read_back`). Both values are plain to the reader of predicates: a size is digits, and the text of an instant
is digits and marks around one space. The one thing that is lost is an offset of less than a second, which the reader
of ISO 8601 takes for none.
-/

namespace FileSieve

open Predicate

/-! ### The text of clauses -/

namespace Clause

/-- The texts of clauses with a space between them. -/
def textSpaced (clauses : List Clause) : Except Misuse Text := do
  return Text.join " " (← clauses.mapM text)

/-- A clause as it is read from its text. -/
def asRead (clause : Clause) : Clause :=
  match clause.value with
  | .datetime d => ⟨clause.operator, .datetime d.asRead⟩
  | _ => clause

/-- A clause whose value is written as a plain text. -/
structure Shows (clause : Clause) (v : Text) : Prop where
  /-- The text of the value. -/
  value : clause.value.plain = .ok v
  /-- The text is plain. -/
  isPlain : IsPlain v

theorem Shows.text_eq {clause : Clause} {v : Text} (h : clause.Shows v) :
    clause.text = .ok (written (clause.operator, v)) := by
  rw [text, h.value]
  rfl

/-- A predicate has one clause or two. -/
theorem length_of_parse {t : Text} {parts : List (Operator × Text)} (h : parse t = .ok parts) :
    parts.length = 1 ∨ parts.length = 2 := by
  have hdenotes : Denotes t.strip parts := by
    rcases read_cases t with ⟨clauses, hread, hdenotes⟩ | ⟨hread, -⟩
    · rw [parse, hread] at h
      exact Except.ok.inj h ▸ hdenotes
    · rw [parse, hread] at h
      cases h
  cases hdenotes with
  | two => exact .inr rfl
  | one => exact .inl rfl
  | bare => exact .inl rfl

/-- Where every clause is read back from its value, clauses are read back from their texts with a space between. -/
theorem parse_textSpaced {reader : Operator × Text → Except Failure Clause} {result : Clause → Clause}
    {clauses : List Clause} (hcount : clauses.length = 1 ∨ clauses.length = 2)
    (h : ∀ c ∈ clauses, ∃ v, c.Shows v ∧ reader (c.operator, v) = .ok (result c)) : ∃ t,
    textSpaced clauses = .ok t ∧ ∃ parts, parse t = .ok parts ∧ parts.mapM reader = .ok (clauses.map result) := by
  rcases hcount with hone | htwo
  · obtain ⟨c, rfl⟩ := List.length_eq_one_iff.mp hone
    obtain ⟨v, hv, hread⟩ := h c (by simp)
    refine ⟨written (c.operator, v), ?_, [(c.operator, v)], parse_one hv.isPlain, ?_⟩
    · rw [textSpaced, List.mapM_cons, hv.text_eq]
      rfl
    · rw [List.mapM_cons, hread]
      rfl
  · obtain ⟨c, c', rfl⟩ := List.length_eq_two.mp htwo
    obtain ⟨v, hv, hread⟩ := h c (by simp)
    obtain ⟨v', hv', hread'⟩ := h c' (by simp)
    refine ⟨written (c.operator, v) ++ ((" " : Text) ++ written (c'.operator, v')), ?_,
      [(c.operator, v), (c'.operator, v')], parse_two hv.isPlain hv'.isPlain, ?_⟩
    · rw [textSpaced, List.mapM_cons, hv.text_eq, List.mapM_cons, hv'.text_eq]
      exact congrArg Except.ok (List.append_assoc _ _ _)
    · rw [List.mapM_cons, hread, List.mapM_cons, hread']
      rfl

/-! ### Sizes -/

theorem isPlain_ofNat (n : Nat) : IsPlain (Text.ofNat n) := by
  have hdigits := Text.digits_ofNat n
  obtain ⟨d, rest, hcons⟩ := List.exists_cons_of_ne_nil (Text.ofNat_ne_nil n)
  refine ⟨⟨d, rest, hcons, hdigits d (by simp [hcons])⟩,
    fun c hc hsymbol => not_isDigit_of_symbol hsymbol (hdigits c hc),
    fun hline => absurd (hdigits _ hline) (by decide), fun c hc => ?_⟩
  exact not_isBlank_of_isDigit (hdigits c (List.mem_of_getLast? hc))

/-- A clause about a size that is in range. -/
def InRange (clause : Clause) : Prop :=
  ∃ n ≤ Size.maxSize, clause.value = .int (n : Nat)

theorem InRange.reads_back {clause : Clause} (h : clause.InRange) :
    ∃ v, clause.Shows v ∧ Sieve.sizeClause (clause.operator, v) = .ok clause := by
  obtain ⟨n, hn, hvalue⟩ := h
  refine ⟨Text.ofNat n, ⟨?_, isPlain_ofNat n⟩, ?_⟩
  · rw [hvalue, Value.plain_int, Int.digits_of_not_tooLong (Size.not_tooLong hn)]
    rfl
  · simp only [Sieve.sizeClause, Size.parse_ofNat hn]
    rw [← hvalue]

/-! ### Instants -/

/-- A clause about an instant that exists. -/
def OfValid (clause : Clause) : Prop :=
  ∃ d, clause.value = .datetime d ∧ d.Valid ∧ d.isAware = true

theorem isPlain_text {d : DateTime} (h : d.Valid) : IsPlain d.text := by
  have hpoints : ∀ c ∈ d.text, ¬(c = '<' ∨ c = '>' ∨ c = '=') ∧ c ≠ '\n' := fun c hc => by
    have hall := (Stamped.textWith ' ' d).all (p := fun c => ¬(c = '<' ∨ c = '>' ∨ c = '=') ∧ c ≠ '\n') (by decide)
      (by decide) c hc
    exact of_decide_eq_true hall
  refine ⟨?_, fun c hc => (hpoints c hc).1, fun hline => (hpoints _ hline).2 rfl, (Clock.tidied_textWith h ' ').last⟩
  obtain ⟨y₁, y₂, y₃, y₄, m₁, m₂, d₁, d₂, htext, hdigits⟩ := Iso.text_shape h.date
  refine ⟨y₁, _, (DateTime.textWith_eq " " d).trans (by rw [htext]; rfl), hdigits y₁ (by simp)⟩

theorem OfValid.reads_back {clause : Clause} (h : clause.OfValid) (clock : Clock) :
    ∃ v, clause.Shows v ∧ Sieve.timeClause clock (clause.operator, v) = .ok clause.asRead := by
  obtain ⟨d, hvalue, hvalid, haware⟩ := h
  refine ⟨d.text, ⟨by rw [hvalue]; rfl, isPlain_text hvalid⟩, ?_⟩
  have hread : clock.read d.text = .ok d.asRead := Clock.read_textWith (c := ' ') hvalid haware (by decide)
  rw [Sieve.timeClause, hread, asRead, hvalue]

theorem asRead_eq_self {clause : Clause}
    (h : ∀ d o, clause.value = .datetime d → d.offset = some o → o = 0 ∨ DateTime.perSecond ≤ o.natAbs) :
    clause.asRead = clause := by
  cases clause with
  | mk op value =>
    cases value with
    | datetime d =>
      have hd : d.asRead = d := DateTime.asRead_eq_self fun o ho => h d o rfl ho
      simp only [asRead, hd]
    | _ => rfl

end Clause

namespace Sieve

/-! ### What is set -/

variable {f g : Sieve}

theorem withSizes_text {t : Text} {parts : List (Operator × Text)} {clauses : List Clause}
    (hparts : parse t = .ok parts) (hclauses : parts.mapM sizeClause = .ok clauses) :
    (f.withSizes (.text t)).failure = none ∧ (f.withSizes (.text t)).filter = { f with sizeClauses := clauses } := by
  have hwritable := forall_of_mapM (fun _ _ => writable_of_sizeClause) hclauses
  simp only [withSizes, hparts, hclauses, withSizeClauses]
  exact ⟨failure_described _ hwritable _ _ _, filter_described _ _ _ _ _⟩

theorem withTimes_text {t : Text} {parts : List (Operator × Text)} {clauses : List Clause}
    (hparts : parse t = .ok parts) (hclauses : parts.mapM (timeClause f.clock) = .ok clauses) :
    (f.withTimes (.text t)).failure = none ∧ (f.withTimes (.text t)).filter = { f with timeClauses := clauses } := by
  have hwritable := forall_of_mapM (fun _ _ => writable_of_timeClause) hclauses
  simp only [withTimes, hparts, hclauses, withTimeClauses]
  exact ⟨failure_described _ hwritable _ _ _, filter_described _ _ _ _ _⟩

/-- A text, or a size that is in range. -/
def GivesSizes (predicate : Value) : Prop :=
  (∃ t, predicate = .text t) ∨ ∃ n ≤ Size.maxSize, predicate = .int (n : Nat)

/-- The clauses of a predicate of sizes are one or two, and about sizes that are in range. -/
theorem inRange_of_sizeClausesOf {predicate : Value} (hp : GivesSizes predicate) {clauses : List Clause}
    (h : sizeClausesOf predicate = .ok clauses) :
    (clauses.length = 1 ∨ clauses.length = 2) ∧ ∀ clause ∈ clauses, clause.InRange := by
  rcases hp with ⟨t, rfl⟩ | ⟨n, hn, rfl⟩
  · obtain ⟨parts, hparts, hmap⟩ := bind_eq_ok.mp h
    refine ⟨length_of_mapM hmap ▸ Clause.length_of_parse (mapError_eq_ok.mp hparts), ?_⟩
    refine forall_of_mapM (fun part clause hclause => ?_) hmap
    unfold sizeClause at hclause
    split at hclause
    · next n hn =>
      obtain rfl := Except.ok.inj hclause
      exact ⟨n, Size.le_of_parse hn, rfl⟩
    · simp at hclause
  · obtain rfl := Except.ok.inj h
    exact ⟨.inl rfl, List.forall_mem_singleton.mpr ⟨n, hn, rfl⟩⟩

/-- The clauses of a predicate of modification times are one or two, and about instants that exist. -/
theorem ofValid_of_timeClausesOf {clock : Clock} (hzone : clock.zone.Bounded)
    {predicate : Value} (hp : ∀ d, predicate = .datetime d → d.Valid) {clauses : List Clause}
    (h : timeClausesOf clock predicate = .ok clauses) :
    (clauses.length = 1 ∨ clauses.length = 2) ∧ ∀ clause ∈ clauses, clause.OfValid := by
  cases predicate with
  | text t =>
    obtain ⟨parts, hparts, hmap⟩ := bind_eq_ok.mp h
    refine ⟨length_of_mapM hmap ▸ Clause.length_of_parse (mapError_eq_ok.mp hparts), ?_⟩
    refine forall_of_mapM (fun part clause hclause => ?_) hmap
    unfold timeClause at hclause
    split at hclause
    · next d hd =>
      obtain rfl := Except.ok.inj hclause
      exact ⟨d, rfl, Clock.valid_of_read hzone hd, Clock.isAware_of_read hd⟩
    · simp at hclause
  | _ =>
    obtain ⟨d, hd, hclauses⟩ := bind_eq_ok.mp h
    obtain rfl := Except.ok.inj hclauses
    have hinstant := mapError_eq_ok.mp hd
    exact ⟨.inl rfl, List.forall_mem_singleton.mpr
      ⟨d, rfl, Clock.valid_of_instantOf hzone hp hinstant, Clock.isAware_of_instantOf hinstant⟩⟩

/-! ### Reading back -/

/-- Clauses about sizes in range are read back. -/
theorem withSizes_textSpaced {clauses : List Clause} (hcount : clauses.length = 1 ∨ clauses.length = 2)
    (h : ∀ clause ∈ clauses, clause.InRange) : ∃ t, Clause.textSpaced clauses = .ok t ∧
    (g.withSizes (.text t)).failure = none ∧ (g.withSizes (.text t)).filter = { g with sizeClauses := clauses } := by
  have hread : ∀ c ∈ clauses, ∃ v, c.Shows v ∧ sizeClause (c.operator, v) = .ok (id c) :=
    fun c hc => (h c hc).reads_back
  obtain ⟨t, ht, parts, hparts, hmap⟩ := Clause.parse_textSpaced hcount hread
  rw [List.map_id] at hmap
  exact ⟨t, ht, withSizes_text hparts hmap⟩

/-- Clauses about instants that exist are read back, but for offsets of less than a second. -/
theorem withTimes_textSpaced {clauses : List Clause} (hcount : clauses.length = 1 ∨ clauses.length = 2)
    (h : ∀ clause ∈ clauses, clause.OfValid) : ∃ t, Clause.textSpaced clauses = .ok t ∧
    (g.withTimes (.text t)).failure = none ∧
      (g.withTimes (.text t)).filter = { g with timeClauses := clauses.map Clause.asRead } := by
  obtain ⟨t, ht, parts, hparts, hmap⟩ := Clause.parse_textSpaced hcount fun c hc => (h c hc).reads_back g.clock
  exact ⟨t, ht, withTimes_text hparts hmap⟩

/-- Clauses that have been set are read back from their texts with a space between them: those of sizes as they are,
whether a text or a size in range was given, and those of modification times as they are but for an offset of less than
a second either way, which is read as none. -/
theorem clauses_read_back (f g : Sieve) :
    (∀ predicate, GivesSizes predicate → (f.withSizes predicate).failure = none →
      g.sizeClauses = (f.withSizes predicate).filter.sizeClauses → ∃ t, Clause.textSpaced g.sizeClauses = .ok t ∧
        (g.withSizes (.text t)).failure = none ∧ (g.withSizes (.text t)).filter = g) ∧
    (f.clock.zone.Bounded → ∀ predicate, (∀ d, predicate = .datetime d → d.Valid) →
      (f.withTimes predicate).failure = none → g.timeClauses = (f.withTimes predicate).filter.timeClauses →
      ∃ t, Clause.textSpaced g.timeClauses = .ok t ∧ (g.withTimes (.text t)).failure = none ∧
        (g.withTimes (.text t)).filter = { g with timeClauses := g.timeClauses.map Clause.asRead } ∧
        ((∀ clause ∈ g.timeClauses, ∀ d o, clause.value = .datetime d → d.offset = some o →
            o = 0 ∨ DateTime.perSecond ≤ o.natAbs) → (g.withTimes (.text t)).filter = g)) := by
  refine ⟨fun predicate hp hset hg => ?_, fun hzone predicate hp hset hg => ?_⟩
  · obtain ⟨clauses, hclauses, hfilter⟩ := withSizes_eq hset
    obtain ⟨hcount, hrange⟩ := inRange_of_sizeClausesOf hp hclauses
    obtain rfl : g.sizeClauses = clauses := by rw [hg, hfilter]
    exact withSizes_textSpaced hcount hrange
  · obtain ⟨clauses, hclauses, hfilter⟩ := withTimes_eq hset
    obtain ⟨hcount, hvalid⟩ := ofValid_of_timeClausesOf hzone hp hclauses
    obtain rfl : g.timeClauses = clauses := by rw [hg, hfilter]
    obtain ⟨t, ht, hfailure, hback⟩ := withTimes_textSpaced (g := g) hcount hvalid
    refine ⟨t, ht, hfailure, hback, fun hoffsets => ?_⟩
    have hself : g.timeClauses.map Clause.asRead = g.timeClauses :=
      (List.map_congr_left fun clause hc => Clause.asRead_eq_self (hoffsets clause hc)).trans (List.map_id' _)
    rw [hback, hself]

/-- An instant of an early year on a clock that is hours, minutes, seconds and microseconds behind UTC. -/
def earlyInstant : DateTime :=
  ⟨⟨987, 6, 5⟩, 4, 3, 2, 1, some (-12345678901)⟩

/-- A size and an early instant are read back as they are. -/
theorem size_and_instant_read_back :
    (∃ t, Clause.textSpaced [⟨.eq, .int 1024⟩] = .ok t ∧
      (withSizes { sizeClauses := [⟨.eq, .int 1024⟩] } (.text t)).filter = { sizeClauses := [⟨.eq, .int 1024⟩] }) ∧
    ∃ t, Clause.textSpaced [⟨.eq, .datetime earlyInstant⟩] = .ok t ∧
      (withTimes { timeClauses := [⟨.eq, .datetime earlyInstant⟩] } (.text t)).filter =
        { timeClauses := [⟨.eq, .datetime earlyInstant⟩] } := by
  have hsize : 1024 ≤ Size.maxSize := by decide
  have hvalid : earlyInstant.Valid :=
    ⟨⟨by decide, by decide, by decide⟩, by decide, by decide, by decide, by decide, by
      rintro o ⟨⟩
      decide⟩
  constructor
  · obtain ⟨t, ht, -, hback⟩ := (clauses_read_back {} { sizeClauses := [⟨.eq, .int 1024⟩] }).1 (.int (1024 : Nat))
      (.inr ⟨1024, hsize, rfl⟩) (failure_sizes_int _ (Size.not_tooLong hsize))
      (by rw [withSizes, withSizeClauses, filter_described]; rfl)
    exact ⟨t, ht, hback⟩
  · obtain ⟨t, ht, -, -, hback⟩ := (clauses_read_back {} { timeClauses := [⟨.eq, .datetime earlyInstant⟩] }).2
      (show Int.natAbs 0 < DateTime.perDay by decide) (.datetime earlyInstant)
      (fun d hd => Value.datetime.inj hd ▸ hvalid) rfl rfl
    refine ⟨t, ht, hback fun clause hc d o hd ho => .inr ?_⟩
    obtain rfl := List.mem_singleton.mp hc
    obtain rfl := Value.datetime.inj hd
    obtain rfl := Option.some.inj ho
    decide

/-- A midnight on a clock that is half a millisecond ahead of UTC. -/
def besideUtc : DateTime :=
  { date := ⟨2021, 1, 1⟩, offset := some 500 }

/-- Half a millisecond ahead of UTC is written, but not read back. -/
theorem besideUtc_not_read_back : besideUtc.Valid ∧ (({} : Sieve).withTimes (.datetime besideUtc)).failure = none ∧
    ∃ t, Clause.textSpaced (({} : Sieve).withTimes (.datetime besideUtc)).filter.timeClauses = .ok t ∧
      ((({} : Sieve).withTimes (.datetime besideUtc)).filter.withTimes (.text t)).filter.timeClauses =
        [⟨.eq, .datetime { besideUtc with offset := some 0 }⟩] ∧
      besideUtc.offset ≠ some 0 := by
  have hvalid : besideUtc.Valid := .midnight ⟨by decide, by decide, by decide⟩ (by rintro o ⟨⟩; decide)
  have hclauses : ∀ clause ∈ [⟨.eq, .datetime besideUtc⟩], Clause.OfValid clause :=
    List.forall_mem_singleton.mpr ⟨besideUtc, rfl, hvalid, rfl⟩
  obtain ⟨t, ht, -, hback⟩ := withTimes_textSpaced
    (g := (({} : Sieve).withTimes (.datetime besideUtc)).filter) (.inl rfl) hclauses
  exact ⟨hvalid, rfl, t, ht, by rw [hback]; rfl, by decide⟩

end Sieve

end FileSieve
