import FileSieve.Proofs.Filter.Report
import FileSieve.Proofs.Filter.Run
import FileSieve.Proofs.Size.Range

/-!
# Calls that fail

A call can be given anything. What is wrong with it is found before the filter is changed, with three exceptions: an
integer is taken for the size as it is, and a date and time for the modification time, and only their descriptions for the
log can fail; and what is reported when the filter has changed may not be logged, though what was reported before has
been. `keeps_filter_iff` says so: a call that fails leaves every filter as it was exactly when none of these can happen.
Where the call gives such an integer or date and time it fails with the new clause in place (`withSizes_tooLong`,
`withTimes_unplaced`), and even then it leaves the other criteria alone.
-/

namespace FileSieve

/-! ### Descriptions -/

/-- A clause that can be written. -/
def Clause.Writable (clause : Clause) : Prop :=
  ∃ text, clause.value.plain = .ok text

theorem Clause.writable_int {op : Operator} {n : Int} (h : ¬TooLong n) : Clause.Writable ⟨op, .int n⟩ :=
  ⟨Text.ofInt n, (Value.plain_int n).trans (Int.digits_of_not_tooLong h)⟩

theorem Clause.writable_datetime (op : Operator) (d : DateTime) : Clause.Writable ⟨op, .datetime d⟩ :=
  ⟨_, rfl⟩

theorem Clause.textAll_ok {clauses : List Clause} (h : ∀ clause ∈ clauses, clause.Writable) :
    ∃ text, Clause.textAll clauses = .ok text := by
  obtain ⟨texts, ht⟩ := (mapM_ok_iff (f := Clause.text)).mpr fun clause hc => by
    obtain ⟨text, htext⟩ := h clause hc
    exact ⟨clause.operator.symbol ++ (" " : Text) ++ text, by rw [Clause.text, htext]; rfl⟩
  exact ⟨Text.join ", " texts, by rw [Clause.textAll, ht]; rfl⟩

namespace Sieve

/-! ### Calls with any arguments -/

/-- A call that sets a criterion, whatever it is given. -/
inductive Attempt where
  /-- The globs of allowed names. -/
  | whitelist (globs separators caseFold : Value)
  /-- The globs of rejected names. -/
  | blacklist (globs separators caseFold : Value)
  /-- The pattern of names. -/
  | pattern (p : Pattern)
  /-- The regular expression of names. -/
  | names (regex : Value)
  /-- The predicate of sizes. -/
  | sizes (predicate : Value)
  /-- The predicate of modification times. -/
  | times (predicate : Value)

/-- What a call does to a filter. -/
def Attempt.apply (f : Sieve) : Attempt → Setting
  | .whitelist globs separators caseFold => f.withWhitelist globs separators caseFold
  | .blacklist globs separators caseFold => f.withBlacklist globs separators caseFold
  | .pattern p => f.withNamePattern p
  | .names regex => f.withNames regex
  | .sizes predicate => f.withSizes predicate
  | .times predicate => f.withTimes predicate

/-- The size that a call gives as an integer. -/
def Attempt.givenSize? : Attempt → Option Int
  | .sizes (.int n) => some n
  | _ => none

/-- The modification time that a call gives in a zone that cannot tell its offset. -/
def Attempt.givenUnplaced? : Attempt → Option (DateTime × Nat)
  | .times (.unplaced d zone) => some (d, zone)
  | _ => none

/-- What a call does to a filter while a board reports it. -/
def Attempt.on (b : Log.Board) (f : Sieve) (a : Attempt) : Setting :=
  ((a.apply f).reported f b).2

/-- A board takes what a call reports before it changes a filter, but not what it reports then. -/
def Attempt.RefusedLate (b : Log.Board) (a : Attempt) : Prop :=
  ∃ f : Sieve, (a.apply f).failure = none ∧ b.Takes Log.rulesLogger .debug (a.apply f).before ∧
    ¬b.Takes Log.rulesLogger .debug (a.apply f).after

/-- A setting of a filter that fails only if it changes nothing. -/
def KeptIfFailed (f : Sieve) (s : Setting) : Prop :=
  s.failure ≠ none → s.filter = f

variable (f : Sieve)

theorem kept_unchanged (failure : Failure) (entries : List Log.Entry) : f.KeptIfFailed (f.unchanged failure entries) :=
  fun _ => rfl

theorem kept_of_succeeds {s : Setting} (h : s.failure = none) : f.KeptIfFailed s :=
  fun hne => absurd h hne

/-- Describing clauses that can be written does not fail. -/
theorem failure_described {clauses : List Clause} (h : ∀ clause ∈ clauses, clause.Writable) (message : Text)
    (predicate : Value) (entries : List Log.Entry) : (f.described message predicate clauses entries).failure = none := by
  obtain ⟨text, ht⟩ := Clause.textAll_ok h
  rw [described, ht]

/-! ### What a failed call leaves behind -/

theorem kept_whitelist (globs separators caseFold : Value) :
    f.KeptIfFailed (f.withWhitelist globs separators caseFold) := by
  unfold withWhitelist
  split
  · exact f.kept_unchanged _ _
  · exact f.kept_of_succeeds rfl

theorem kept_blacklist (globs separators caseFold : Value) :
    f.KeptIfFailed (f.withBlacklist globs separators caseFold) := by
  unfold withBlacklist
  split
  · exact f.kept_unchanged _ _
  · exact f.kept_of_succeeds rfl

theorem kept_names (regex : Value) : f.KeptIfFailed (f.withNames regex) := by
  unfold withNames
  split
  · exact f.kept_unchanged _ _
  · exact f.kept_of_succeeds rfl

theorem writable_of_sizeClause {part : Operator × Text} {clause : Clause} (h : sizeClause part = .ok clause) :
    clause.Writable := by
  unfold sizeClause at h
  split at h
  · next n hn =>
    obtain rfl := Except.ok.inj h
    exact Clause.writable_int (Size.not_tooLong (Size.le_of_parse hn))
  · simp at h

theorem writable_of_timeClause {clock : Clock} {part : Operator × Text} {clause : Clause}
    (h : timeClause clock part = .ok clause) : clause.Writable := by
  unfold timeClause at h
  split at h
  · obtain rfl := Except.ok.inj h
    exact Clause.writable_datetime _ _
  · simp at h

/-- A text for the sizes is read to the end before the filter is changed, and what has been read can be written. -/
theorem kept_sizes_text (t : Text) : f.KeptIfFailed (f.withSizes (.text t)) := by
  simp only [withSizes]
  split
  · exact f.kept_unchanged _ _
  · split
    · exact f.kept_unchanged _ _
    · next clauses hclauses =>
      exact f.kept_of_succeeds (failure_described _ (forall_of_mapM (fun _ _ => writable_of_sizeClause) hclauses) _ _ _)

theorem kept_times {predicate : Value} (h : ∀ d zone, predicate ≠ .unplaced d zone) :
    f.KeptIfFailed (f.withTimes predicate) := by
  unfold withTimes
  split
  · split
    · exact f.kept_unchanged _ _
    · split
      · exact f.kept_unchanged _ _
      · next clauses hclauses =>
        exact f.kept_of_succeeds (failure_described _ (forall_of_mapM (fun _ _ => writable_of_timeClause) hclauses) _ _ _)
  · split
    · exact f.kept_unchanged _ _
    · next hinstant =>
      obtain ⟨d, -, rfl⟩ | ⟨d, zone, hunplaced, -⟩ := Clock.coerce_cases hinstant
      · refine f.kept_of_succeeds (failure_described _ ?_ _ _ _)
        exact List.forall_mem_singleton.mpr (Clause.writable_datetime _ _)
      · exact absurd hunplaced (h d zone)

/-- An integer of not too many digits is set as the size. -/
theorem failure_sizes_int {n : Int} (h : ¬TooLong n) : (f.withSizes (.int n)).failure = none := by
  have hwritable : ∀ clause ∈ [⟨.eq, .int n⟩], Clause.Writable clause :=
    List.forall_mem_singleton.mpr (Clause.writable_int h)
  rw [withSizes, withSizeClauses, failure_described _ hwritable]

/-- An integer of too many digits is in place as the size when describing it fails. -/
theorem withSizes_tooLong {n : Int} (h : TooLong n) :
    f.withSizes (.int n) =
      { filter := { f with sizeClauses := [⟨.eq, .int n⟩] }, failure := some (.misuse .tooLongToWrite) } := by
  have htext : Clause.textAll [⟨.eq, .int n⟩] = .error .tooLongToWrite := by
    simp only [Clause.textAll, List.mapM_cons, Clause.text, Value.plain_int, Int.digits_of_tooLong h, bind, Except.bind]
  simp only [withSizes, withSizeClauses, described, htext]

/-- Unless it gives one of these, a call that fails leaves the filter as it was. -/
theorem Attempt.kept_of_given {a : Attempt} (hsize : ∀ n, a.givenSize? = some n → ¬TooLong n)
    (htime : a.givenUnplaced? = none) : f.KeptIfFailed (a.apply f) := by
  cases a with
  | whitelist globs separators caseFold => exact f.kept_whitelist _ _ _
  | blacklist globs separators caseFold => exact f.kept_blacklist _ _ _
  | pattern p => exact f.kept_of_succeeds rfl
  | names regex => exact f.kept_names regex
  | times predicate => exact f.kept_times fun d zone hunplaced => by cases hunplaced ▸ htime
  | sizes predicate =>
    cases predicate with
    | int n => exact f.kept_of_succeeds (f.failure_sizes_int (hsize n rfl))
    | text t => exact f.kept_sizes_text t
    | _ => exact f.kept_unchanged _ _

/-! ### What is reported -/

theorem described_congr (f g : Sieve) (message : Text) (predicate : Value) (clauses : List Clause)
    (before : List Log.Entry) :
    (f.described message predicate clauses before).before = (g.described message predicate clauses before).before ∧
    (f.described message predicate clauses before).after = (g.described message predicate clauses before).after ∧
    (f.described message predicate clauses before).failure = (g.described message predicate clauses before).failure := by
  unfold described
  split
  · exact ⟨rfl, rfl, rfl⟩
  · exact ⟨rfl, rfl, rfl⟩

/-- What a call reports and why it fails depends on no more of a filter than its clock. -/
theorem Attempt.apply_congr (a : Attempt) {f g : Sieve} (h : f.clock = g.clock) :
    (a.apply f).before = (a.apply g).before ∧ (a.apply f).after = (a.apply g).after ∧
      (a.apply f).failure = (a.apply g).failure := by
  cases a with
  | whitelist globs separators caseFold =>
    simp only [apply, withWhitelist]
    split <;> exact ⟨rfl, rfl, rfl⟩
  | blacklist globs separators caseFold =>
    simp only [apply, withBlacklist]
    split <;> exact ⟨rfl, rfl, rfl⟩
  | pattern p => exact ⟨rfl, rfl, rfl⟩
  | names regex =>
    simp only [apply, withNames]
    split <;> exact ⟨rfl, rfl, rfl⟩
  | sizes predicate =>
    simp only [apply, withSizes]
    split
    · exact described_congr _ _ _ _ _ _
    · split
      · exact ⟨rfl, rfl, rfl⟩
      · split
        · exact ⟨rfl, rfl, rfl⟩
        · exact described_congr _ _ _ _ _ _
    · exact ⟨rfl, rfl, rfl⟩
  | times predicate =>
    simp only [apply, withTimes, h]
    split
    · split
      · exact ⟨rfl, rfl, rfl⟩
      · split
        · exact ⟨rfl, rfl, rfl⟩
        · exact described_congr _ _ _ _ _ _
    · split
      · exact ⟨rfl, rfl, rfl⟩
      · exact described_congr _ _ _ _ _ _

/-- A call that gives a criterion the same value for all filters of a clock, when it succeeds, changes the one that has
another value there. -/
theorem Attempt.exists_changed_of_given {α : Type} {a : Attempt} {f : Sieve} (criterion : Sieve → α) (put : α → Sieve)
    (hput : ∀ x, criterion (put x) = x ∧ (put x).clock = f.clock) {given : α} (hother : ∃ other, other ≠ given)
    (hgiven : ∀ g : Sieve, g.clock = f.clock → (a.apply g).failure = none → criterion (a.apply g).filter = given) :
    ∃ g : Sieve, g.clock = f.clock ∧ ((a.apply g).failure = none → (a.apply g).filter ≠ g) := by
  obtain ⟨other, hother⟩ := hother
  obtain ⟨hcriterion, hclock⟩ := hput other
  refine ⟨put other, hclock, fun hok heq => hother ?_⟩
  calc other = criterion (put other) := hcriterion.symm
    _ = criterion (a.apply (put other)).filter := congrArg criterion heq.symm
    _ = given := hgiven (put other) hclock hok

/-- Every call that succeeds changes some filter with a given clock. -/
theorem Attempt.exists_changed (a : Attempt) (f : Sieve) :
    ∃ g : Sieve, g.clock = f.clock ∧ ((a.apply g).failure = none → (a.apply g).filter ≠ g) := by
  have hclauses (clauses : List Clause) : ∃ other, other ≠ clauses := by
    cases clauses with
    | nil => exact ⟨[⟨.eq, .none⟩], nofun⟩
    | cons => exact ⟨[], nofun⟩
  have hpattern (p : Option Pattern) : ∃ other, other ≠ p := by
    cases p with
    | none => exact ⟨some { regex := [] }, nofun⟩
    | some => exact ⟨none, nofun⟩
  cases a with
  | whitelist globs separators caseFold =>
    refine exists_changed_of_given Sieve.whitelist (fun p => { f with whitelist := p }) (fun _ => ⟨rfl, rfl⟩)
      (hpattern ((patternOfGlobs globs separators caseFold).toOption.bind Prod.fst)) fun g _ hok => ?_
    rw [apply, withWhitelist] at hok ⊢
    cases hglobs : patternOfGlobs globs separators caseFold with
    | error m => simp [hglobs, unchanged] at hok
    | ok outcome => rfl
  | blacklist globs separators caseFold =>
    refine exists_changed_of_given Sieve.blacklist (fun p => { f with blacklist := p }) (fun _ => ⟨rfl, rfl⟩)
      (hpattern ((patternOfGlobs globs separators caseFold).toOption.bind Prod.fst)) fun g _ hok => ?_
    rw [apply, withBlacklist] at hok ⊢
    cases hglobs : patternOfGlobs globs separators caseFold with
    | error m => simp [hglobs, unchanged] at hok
    | ok outcome => rfl
  | pattern p =>
    exact exists_changed_of_given Sieve.nameRegex (fun q => { f with nameRegex := q }) (fun _ => ⟨rfl, rfl⟩)
      (hpattern (some p)) fun _ _ _ => rfl
  | names regex =>
    refine exists_changed_of_given Sieve.nameRegex (fun p => { f with nameRegex := p }) (fun _ => ⟨rfl, rfl⟩)
      (hpattern (Pattern.ofValue regex).toOption) fun g _ hok => ?_
    rw [apply, withNames] at hok ⊢
    cases hregex : Pattern.ofValue regex with
    | error m => simp [hregex, unchanged] at hok
    | ok p => rfl
  | sizes predicate =>
    refine exists_changed_of_given Sieve.sizeClauses (fun clauses => { f with sizeClauses := clauses })
      (fun _ => ⟨rfl, rfl⟩) (hclauses ((sizeClausesOf predicate).toOption.getD [])) fun g _ hok => ?_
    obtain ⟨clauses, hset, hfilter⟩ := withSizes_eq hok
    rw [hset]
    exact congrArg sizeClauses hfilter
  | times predicate =>
    refine exists_changed_of_given Sieve.timeClauses (fun clauses => { f with timeClauses := clauses })
      (fun _ => ⟨rfl, rfl⟩) (hclauses ((timeClausesOf f.clock predicate).toOption.getD [])) fun g hclock hok => ?_
    obtain ⟨clauses, hset, hfilter⟩ := withTimes_eq hok
    rw [← hclock, hset]
    exact congrArg timeClauses hfilter

/-- A call that fails before it reports anything comes to the same while a board reports it. -/
theorem Attempt.on_of_before (b : Log.Board) {f : Sieve} {a : Attempt} (hfailure : (a.apply f).failure ≠ none)
    (hbefore : (a.apply f).before = []) : a.on b f = a.apply f := by
  obtain ⟨heq, -⟩ | ⟨hrefused, -⟩ | ⟨hok, -⟩ := (a.apply f).reported_cases f b
  · exact heq
  · exact absurd (fun _ => by simp [hbefore]) hrefused
  · exact absurd hok hfailure

/-- An integer that cannot be written is left behind as the size by a call that fails. -/
theorem Attempt.on_tooLong (b : Log.Board) {a : Attempt} {n : Int} (hn : a.givenSize? = some n) (hlong : TooLong n)
    (f : Sieve) : (a.on b f).failure = some (.misuse .tooLongToWrite) ∧
      (a.on b f).filter = { f with sizeClauses := [⟨.eq, .int n⟩] } := by
  obtain rfl : a = .sizes (.int n) := by
    unfold givenSize? at hn
    split at hn
    · rw [Option.some.inj hn]
    · cases hn
  have heq := withSizes_tooLong f hlong
  rw [on_of_before b (by simp [apply, heq]) (by simp [apply, heq]), apply, heq]
  exact ⟨rfl, rfl⟩

/-- A date and time that cannot tell its offset is left behind as the modification time. -/
theorem Attempt.on_unplaced (b : Log.Board) {a : Attempt} {d : DateTime} {zone : Nat}
    (hgiven : a.givenUnplaced? = some (d, zone)) (f : Sieve) : (a.on b f).failure = some (.misuse .noOffset) ∧
      (a.on b f).filter = { f with timeClauses := [⟨.eq, .unplaced d zone⟩] } := by
  obtain rfl : a = .times (.unplaced d zone) := by
    unfold givenUnplaced? at hgiven
    split at hgiven
    · obtain ⟨rfl, rfl⟩ := Prod.mk.inj (Option.some.inj hgiven)
      rfl
    · cases hgiven
  rw [on_of_before b (by simp [apply, withTimes_unplaced]) rfl]
  exact ⟨rfl, rfl⟩

/-- Where the contexts have a value that cannot be written under a key of their own, setting a pattern of names is refused
late by a board on which every step is reported. -/
theorem Attempt.refusedLate_pattern {b : Log.Board} (p : Pattern) {key : Text}
    (henabled : b.isEnabled Log.rulesLogger Log.Level.debug.number = true) (hstuck : b.Stuck key) (hkey : key ≠ "pattern") :
    (Attempt.pattern p).RefusedLate b := by
  refine ⟨{}, rfl, fun _ => List.forall_mem_nil _, fun htakes => hkey ?_⟩
  exact List.mem_singleton.mp (htakes henabled _ (List.mem_singleton_self _) key hstuck)

/-- While it is reported, a call leaves every filter as it was when it fails, exactly if it does not give an integer of more
digits than can be written as the size or a date and time that cannot tell its offset as the modification time, and is not
refused late. A call that gives one of these fails for every filter and leaves it behind. -/
theorem keeps_filter_iff (a : Attempt) (b : Log.Board) :
    ((∀ f : Sieve, (a.on b f).failure ≠ none → (a.on b f).filter = f) ↔
      (∀ n, a.givenSize? = some n → ¬TooLong n) ∧ a.givenUnplaced? = none ∧ ¬a.RefusedLate b) ∧
    (∀ n, a.givenSize? = some n → TooLong n → ∀ f : Sieve,
      (a.on b f).failure = some (.misuse .tooLongToWrite) ∧
        (a.on b f).filter = { f with sizeClauses := [⟨.eq, .int n⟩] }) ∧
    (∀ d zone, a.givenUnplaced? = some (d, zone) → ∀ f : Sieve,
      (a.on b f).failure = some (.misuse .noOffset) ∧
        (a.on b f).filter = { f with timeClauses := [⟨.eq, .unplaced d zone⟩] }) := by
  refine ⟨⟨fun hkeeps => ⟨fun n hn hlong => ?_, ?_, ?_⟩, fun ⟨hshort, hplaced, hnever⟩ f hfailure => ?_⟩,
    fun n hn hlong => Attempt.on_tooLong b hn hlong, fun d zone hgiven => Attempt.on_unplaced b hgiven⟩
  · obtain ⟨hfailure, hfilter⟩ := Attempt.on_tooLong b hn hlong {}
    have hkept := hkeeps {} (by rw [hfailure]; exact Option.some_ne_none _)
    exact List.cons_ne_nil _ _ (congrArg Sieve.sizeClauses (hfilter.symm.trans hkept))
  · by_contra hgiven
    obtain ⟨⟨d, zone⟩, hgiven⟩ := Option.ne_none_iff_exists'.mp hgiven
    obtain ⟨hfailure, hfilter⟩ := Attempt.on_unplaced b hgiven {}
    have hkept := hkeeps {} (by rw [hfailure]; exact Option.some_ne_none _)
    exact List.cons_ne_nil _ _ (congrArg Sieve.timeClauses (hfilter.symm.trans hkept))
  · rintro ⟨f, hok, hbefore, hafter⟩
    obtain ⟨g, hclock, hchanged⟩ := a.exists_changed f
    obtain ⟨hb, ha, hf⟩ := a.apply_congr hclock
    rw [← hf] at hok
    obtain ⟨-, htakes⟩ | ⟨hrefused, -⟩ | ⟨-, -, -, hfilter, m, hfailure, -⟩ := (a.apply g).reported_cases g b
    · exact hafter (ha ▸ htakes hok)
    · exact hrefused (hb ▸ hbefore)
    · exact hchanged hok (hfilter ▸ hkeeps g (hfailure.trans_ne (Option.some_ne_none _)))
  · obtain ⟨heq, -⟩ | ⟨-, hkept, -⟩ | ⟨hok, hbefore, hafter, -⟩ := (a.apply f).reported_cases f b
    · rw [Attempt.on, heq] at hfailure ⊢
      exact Attempt.kept_of_given f hshort hplaced hfailure
    · exact hkept
    · exact absurd ⟨f, hok, hbefore, hafter⟩ hnever

/-- An integer that cannot be written is left behind in a new filter by a call that fails. -/
theorem left_behind {n : Int} (h : TooLong n) :
    ((Attempt.sizes (.int n)).apply {}).failure ≠ none ∧ ((Attempt.sizes (.int n)).apply {}).filter ≠ {} := by
  rw [Attempt.apply, withSizes_tooLong {} h]
  exact ⟨Option.some_ne_none _, fun heq => List.cons_ne_nil _ _ (congrArg sizeClauses heq)⟩

/-- The least integer that has too many digits is left behind. -/
theorem ten_pow_left_behind :
    ((Attempt.sizes (.int (Nat.pow 10 maxDigits : Nat))).apply {}).failure ≠ none ∧
      ((Attempt.sizes (.int (Nat.pow 10 maxDigits : Nat))).apply {}).filter ≠ {} :=
  left_behind (Int.natAbs_natCast _).ge

end Sieve

end FileSieve
