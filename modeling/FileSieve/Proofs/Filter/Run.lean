import FileSieve.Proofs.Filter.Clauses
import FileSieve.Proofs.Glob.Alternatives

/-!
# Setting up a filter

A filter is set up by calls, each of which replaces one criterion. Whatever the calls are and however often a
criterion is set, what counts in the end is the last call for each of them (`reflects_of_run`): the filter then has
the pattern of that call's globs or none when there are no globs, its name pattern, or its clauses.

`passes_iff_accepts` is the verdict of a filter that has been set up: it never fails, and it is what the globs of the
last calls say each for itself, the last name pattern, and the clauses of the last predicates. `Accepts` states this
without a filter.
-/

namespace FileSieve.Sieve

/-! ### Calls -/

/-- Globs as they are given to a filter, as one text with commas or as a sequence of texts, perhaps with separators
and case folding. -/
structure Globs where
  /-- What is given. -/
  given : Value
  /-- The globs that this lists. -/
  texts : List Text
  /-- It lists them. -/
  listed : globsOf given = .ok (texts.map .text)
  /-- The separators, where they are given. -/
  separators : Option Text := none
  /-- Whether letters match in either case, where this is given. -/
  caseFold : Option Bool := none

namespace Globs

/-- The separators that count. -/
def usedSeparators (globs : Globs) : Text :=
  globs.separators.getD Glob.defaultSeparators

/-- The case folding that counts. -/
def usedFold (globs : Globs) : Bool :=
  globs.caseFold.getD true

/-- The pattern of one glob alone. -/
def alone (globs : Globs) (t : Text) : Pattern :=
  Glob.compile t globs.usedSeparators globs.usedFold

/-- The pattern of all of them, if there are any. -/
def pattern? (globs : Globs) : Option Pattern :=
  if globs.texts = [] then none else some (Glob.compileAll globs.texts globs.usedSeparators globs.usedFold)

/-- Each of them alone is a regular expression. -/
def Valid (globs : Globs) : Prop :=
  ∀ t ∈ globs.texts, (globs.alone t).isWellFormed = .ok true

end Globs

/-- A call that sets a criterion. -/
inductive Call where
  /-- The globs of allowed names. -/
  | whitelist (globs : Globs)
  /-- The globs of rejected names. -/
  | blacklist (globs : Globs)
  /-- The pattern of names. -/
  | pattern (p : Pattern)
  /-- The regular expression of names. -/
  | regex (t : Text)
  /-- The predicate of sizes. -/
  | sizes (predicate : Value)
  /-- The predicate of modification times. -/
  | times (predicate : Value)

namespace Call

/-- What a call does to a filter. -/
def apply (f : Sieve) : Call → Setting
  | .whitelist globs =>
    f.withWhitelist globs.given ((globs.separators.map Value.text).getD .none) ((globs.caseFold.map Value.bool).getD .none)
  | .blacklist globs =>
    f.withBlacklist globs.given ((globs.separators.map Value.text).getD .none) ((globs.caseFold.map Value.bool).getD .none)
  | .pattern p => f.withNamePattern p
  | .regex t => f.withNames (.text t)
  | .sizes predicate => f.withSizes predicate
  | .times predicate => f.withTimes predicate

/-- The globs of allowed names of a call. -/
def whitelist? : Call → Option Globs
  | .whitelist globs => some globs
  | _ => none

/-- The globs of rejected names of a call. -/
def blacklist? : Call → Option Globs
  | .blacklist globs => some globs
  | _ => none

/-- The pattern of names of a call. -/
def names? : Call → Option Pattern
  | .pattern p => some p
  | .regex t => some { regex := t }
  | _ => none

/-- The predicate of sizes of a call. -/
def sizes? : Call → Option Value
  | .sizes predicate => some predicate
  | _ => none

/-- The predicate of modification times of a call. -/
def times? : Call → Option Value
  | .times predicate => some predicate
  | _ => none

/-- Globs are regular expressions each for itself, and so are patterns of names, outside of the Unicode repertoire. -/
def Valid : Call → Prop
  | .whitelist globs | .blacklist globs => globs.Valid
  | .pattern p => p.isWellFormed = .ok true ∧ p.isUnicode = false
  | .regex t => ({ regex := t } : Pattern).isWellFormed = .ok true
  | .sizes _ | .times _ => True

end Call

/-- The last thing of a kind in calls. -/
def last {α : Type} (kind : Call → Option α) (calls : List Call) : Option α :=
  (calls.filterMap kind).getLast?

@[simp] theorem last_append {α : Type} (kind : Call → Option α) (calls : List Call) (c : Call) :
    last kind (calls ++ [c]) = (kind c).or (last kind calls) := by
  cases h : kind c with
  | none => simp [last, List.filterMap_append, h]
  | some a => simp [last, List.filterMap_append, h]

theorem mem_of_last {α : Type} {kind : Call → Option α} {calls : List Call} {a : α} (h : last kind calls = some a) :
    ∃ c ∈ calls, kind c = some a := by
  obtain ⟨c, hc, hk⟩ := List.mem_filterMap.mp (List.mem_of_getLast? h)
  exact ⟨c, hc, hk⟩

/-- A filter that successful calls have set up, with the clock from the start. -/
inductive Run (clock : Clock) : List Call → Sieve → Prop where
  /-- A new filter. -/
  | fresh : Run clock [] { clock }
  /-- One more call, which does not fail. -/
  | call {calls : List Call} {f : Sieve} {c : Call} :
      Run clock calls f → (c.apply f).failure = none → Run clock (calls ++ [c]) (c.apply f).filter

/-! ### What a call leaves behind -/

/-- The clauses of a predicate of sizes. -/
def sizeClausesOf : Value → Except Failure (List Clause)
  | .int n => .ok [⟨.eq, .int n⟩]
  | .text t => do (← (Predicate.parse t).mapError Failure.predicate).mapM sizeClause
  | value => .error (.misuse (.notSizePredicate value.kind))

/-- The clauses of a predicate of modification times. -/
def timeClausesOf (clock : Clock) : Value → Except Failure (List Clause)
  | .text t => do (← (Predicate.parse t).mapError Failure.predicate).mapM (timeClause clock)
  | value => do return [⟨.eq, .datetime (← (clock.instantOf value).mapError Failure.time)⟩]

/-- The options of a call compile its globs to their pattern. -/
theorem patternOfGlobs_eq (globs : Globs) : ∃ entries,
    patternOfGlobs globs.given ((globs.separators.map Value.text).getD .none) ((globs.caseFold.map Value.bool).getD .none) =
      .ok (globs.pattern?, entries) := by
  let o : Glob.Options := ({} : Glob.Options).override ((globs.separators.map Value.text).getD .none)
    ((globs.caseFold.map Value.bool).getD .none)
  have hseparators : o.separators = .text globs.usedSeparators := by
    cases h : globs.separators <;> simp [o, h, Glob.Options.override, Globs.usedSeparators, Value.isNone]
  have hfold : o.caseFold.truth = globs.usedFold := by
    cases h : globs.caseFold <;> simp [o, h, Glob.Options.override, Globs.usedFold, Value.isNone, Value.truth]
  have hcompile := Glob.compileAll_texts hseparators globs.texts
  simp only [patternOfGlobs, globs.listed, bind, Except.bind, List.isEmpty_iff, List.map_eq_nil_iff]
  by_cases hnil : globs.texts = []
  · exact ⟨[], by simp [hnil, Globs.pattern?, pure, Except.pure]⟩
  · rw [if_neg hnil, hcompile, hfold, Globs.pattern?, if_neg hnil]
    exact ⟨_, rfl⟩

/-- Globs are always set, whether they are regular expressions or not. -/
theorem failure_globs (f : Sieve) (globs : Globs) :
    (Call.apply f (.whitelist globs)).failure = none ∧ (Call.apply f (.blacklist globs)).failure = none := by
  obtain ⟨entries, he⟩ := patternOfGlobs_eq globs
  simp [Call.apply, withWhitelist, withBlacklist, he]

theorem filter_described (f : Sieve) (message : Text) (predicate : Value) (clauses : List Clause)
    (entries : List Log.Entry) : (f.described message predicate clauses entries).filter = f := by
  unfold described
  split <;> rfl

/-- A predicate of sizes that is set leaves its clauses behind. -/
theorem withSizes_eq {f : Sieve} {predicate : Value} (h : (f.withSizes predicate).failure = none) : ∃ clauses,
    sizeClausesOf predicate = .ok clauses ∧ (f.withSizes predicate).filter = { f with sizeClauses := clauses } := by
  cases predicate with
  | int n =>
    refine ⟨[⟨.eq, .int n⟩], rfl, ?_⟩
    rw [withSizes, withSizeClauses, filter_described]
  | text t =>
    simp only [withSizes] at h ⊢
    cases hp : Predicate.parse t with
    | error e => simp [hp, unchanged] at h
    | ok parts =>
      simp only [hp] at h ⊢
      cases hc : parts.mapM sizeClause with
      | error e => simp [hc, unchanged] at h
      | ok clauses =>
        refine ⟨clauses, ?_, ?_⟩
        · simp [sizeClausesOf, hp, hc, Except.mapError, bind, Except.bind]
        · simp only [withSizeClauses, filter_described]
  | _ => simp [withSizes, unchanged] at h

/-- A time whose zone cannot tell its offset is in place as the predicate when describing it fails. -/
theorem withTimes_unplaced (f : Sieve) (d : DateTime) (zone : Nat) :
    f.withTimes (.unplaced d zone) =
      { filter := { f with timeClauses := [⟨.eq, .unplaced d zone⟩] }, failure := some (.misuse .noOffset) } := rfl

/-- A predicate of modification times that is set leaves its clauses behind. -/
theorem withTimes_eq {f : Sieve} {predicate : Value} (h : (f.withTimes predicate).failure = none) : ∃ clauses,
    timeClausesOf f.clock predicate = .ok clauses ∧
      (f.withTimes predicate).filter = { f with timeClauses := clauses } := by
  cases predicate with
  | text t =>
    simp only [withTimes] at h ⊢
    cases hp : Predicate.parse t with
    | error e => simp [hp, unchanged] at h
    | ok parts =>
      simp only [hp] at h ⊢
      cases hc : parts.mapM (timeClause f.clock) with
      | error e => simp [hc, unchanged] at h
      | ok clauses =>
        refine ⟨clauses, ?_, ?_⟩
        · simp [timeClausesOf, hp, hc, Except.mapError, bind, Except.bind]
        · simp only [withTimeClauses, filter_described]
  | unplaced d zone => cases (withTimes_unplaced f d zone ▸ h : some _ = none)
  | _ =>
    simp only [withTimes] at h ⊢
    split at h
    · simp [unchanged] at h
    · next instant hinstant =>
      obtain ⟨d, hd, rfl⟩ | ⟨d, zone, hunplaced, -⟩ := Clock.coerce_cases hinstant
      · refine ⟨[⟨.eq, .datetime d⟩], ?_, ?_⟩
        · simp [timeClausesOf, hd, Except.mapError, bind, Except.bind, pure, Except.pure]
        · rw [withTimeClauses, filter_described]
      · cases hunplaced

/-- The filter reflects calls: each criterion is what the last call for it says, or is not set. -/
structure Reflects (clock : Clock) (calls : List Call) (f : Sieve) : Prop where
  /-- The clock is the one from the start. -/
  sameClock : f.clock = clock
  /-- The pattern of the last globs of allowed names. -/
  whitelist : f.whitelist = (last Call.whitelist? calls).bind Globs.pattern?
  /-- The pattern of the last globs of rejected names. -/
  blacklist : f.blacklist = (last Call.blacklist? calls).bind Globs.pattern?
  /-- The last pattern of names. -/
  names : f.nameRegex = last Call.names? calls
  /-- The clauses of the last predicate of sizes. -/
  sizes : ((last Call.sizes? calls).map sizeClausesOf).getD (.ok []) = .ok f.sizeClauses
  /-- The clauses of the last predicate of modification times. -/
  times : ((last Call.times? calls).map (timeClausesOf clock)).getD (.ok []) = .ok f.timeClauses

/-- A call that does not fail replaces the criterion that it is about and leaves the others. -/
theorem Reflects.step {clock : Clock} {calls : List Call} {f : Sieve} (h : Reflects clock calls f) {c : Call}
    (hc : (c.apply f).failure = none) : Reflects clock (calls ++ [c]) (c.apply f).filter := by
  obtain ⟨hclock, hwhite, hblack, hnames, hsizes, htimes⟩ := h
  cases c with
  | whitelist globs =>
    obtain ⟨entries, he⟩ := patternOfGlobs_eq globs
    constructor <;> simp [Call.apply, withWhitelist, Call.whitelist?, Call.blacklist?, Call.names?, Call.sizes?,
      Call.times?, *]
  | blacklist globs =>
    obtain ⟨entries, he⟩ := patternOfGlobs_eq globs
    constructor <;> simp [Call.apply, withBlacklist, Call.whitelist?, Call.blacklist?, Call.names?, Call.sizes?,
      Call.times?, *]
  | pattern p =>
    constructor <;> simp [Call.apply, withNamePattern, Call.whitelist?, Call.blacklist?, Call.names?, Call.sizes?,
      Call.times?, *]
  | regex t =>
    constructor <;> simp [Call.apply, withNames, Pattern.ofValue, withNamePattern, Call.whitelist?, Call.blacklist?,
      Call.names?, Call.sizes?, Call.times?, *]
  | sizes predicate =>
    obtain ⟨clauses, hclauses, hf⟩ := withSizes_eq hc
    have hf' : (Call.apply f (.sizes predicate)).filter = { f with sizeClauses := clauses } := hf
    constructor <;> simp [Call.whitelist?, Call.blacklist?, Call.names?, Call.sizes?, Call.times?, *]
  | times predicate =>
    obtain ⟨clauses, hclauses, hf⟩ := withTimes_eq hc
    have hf' : (Call.apply f (.times predicate)).filter = { f with timeClauses := clauses } := hf
    rw [hclock] at hclauses
    constructor <;> simp [Call.whitelist?, Call.blacklist?, Call.names?, Call.sizes?, Call.times?, *]

/-- Whatever successful calls have set up a filter, it reflects the last call for each criterion. -/
theorem reflects_of_run {clock : Clock} {calls : List Call} {f : Sieve} (h : Run clock calls f) :
    Reflects clock calls f := by
  induction h with
  | fresh => exact ⟨rfl, rfl, rfl, rfl, rfl, rfl⟩
  | call _ hc ih => exact ih.step hc

/-! ### The verdict -/

theorem ofSize_of_sizeClausesOf {predicate : Value} {clauses : List Clause} (h : sizeClausesOf predicate = .ok clauses) :
    ∀ clause ∈ clauses, clause.OfSize := by
  cases predicate with
  | int n =>
    obtain rfl := Except.ok.inj h
    simp [Clause.OfSize]
  | text t =>
    obtain ⟨parts, -, hmap⟩ := bind_eq_ok.mp h
    refine forall_of_mapM (fun part clause hclause => ?_) hmap
    unfold sizeClause at hclause
    split at hclause
    · obtain rfl := Except.ok.inj hclause
      exact ⟨_, rfl⟩
    · simp at hclause
  | _ => simp [sizeClausesOf] at h

theorem ofInstant_of_timeClausesOf {clock : Clock} {predicate : Value} {clauses : List Clause}
    (h : timeClausesOf clock predicate = .ok clauses) : ∀ clause ∈ clauses, clause.OfInstant := by
  cases predicate with
  | text t =>
    obtain ⟨parts, -, hmap⟩ := bind_eq_ok.mp h
    refine forall_of_mapM (fun part clause hclause => ?_) hmap
    unfold timeClause at hclause
    split at hclause
    · next d hd =>
      obtain rfl := Except.ok.inj hclause
      exact ⟨d, rfl, Clock.isAware_of_read hd⟩
    · simp at hclause
  | _ =>
    obtain ⟨d, hd, hclauses⟩ := bind_eq_ok.mp h
    obtain rfl := Except.ok.inj hclauses
    simp [Clause.OfInstant, Clock.isAware_of_instantOf (mapError_eq_ok.mp hd)]

/-- What calls accept, without a filter: the last call for each criterion decides, and the globs of a call say each
for itself whether they match. -/
structure Accepts (clock : Clock) (calls : List Call) (name : Text) (size : Int) (mtime : Value) : Prop where
  /-- The last list of allowed names is empty, or one of its globs matches. -/
  whitelist : ∀ globs, last Call.whitelist? calls = some globs →
    globs.texts = [] ∨ ∃ t ∈ globs.texts, (globs.alone t).matchesText name = .ok true
  /-- No glob of the last list of rejected names matches. -/
  blacklist : ∀ globs, last Call.blacklist? calls = some globs →
    ¬∃ t ∈ globs.texts, (globs.alone t).matchesText name = .ok true
  /-- The last pattern of names matches. -/
  names : ∀ p, last Call.names? calls = some p → p.matchesText name = .ok true
  /-- Each clause of the last predicate of sizes holds. -/
  sizes : ∀ predicate, last Call.sizes? calls = some predicate →
    ∃ clauses, sizeClausesOf predicate = .ok clauses ∧ ∀ clause ∈ clauses, clause.holds (.int size) = .ok true
  /-- Each clause of the last predicate of modification times holds. -/
  times : ∀ predicate, last Call.times? calls = some predicate →
    ∃ clauses, timeClausesOf clock predicate = .ok clauses ∧ ∀ clause ∈ clauses, clause.holds mtime = .ok true

variable {clock : Clock} {calls : List Call} {f : Sieve} (name : Text)

/-- The pattern of valid globs says what any of them says alone. -/
theorem matchesName_pattern {globs : Globs} (h : globs.Valid) (otherwise : Bool) : ∃ found,
    matchesName globs.pattern? (.text name) otherwise = .ok found ∧
      (found = true ↔ if globs.texts = [] then otherwise = true else
        ∃ t ∈ globs.texts, (globs.alone t).matchesText name = .ok true) := by
  by_cases hnil : globs.texts = []
  · exact ⟨otherwise, by simp [Globs.pattern?, hnil, matchesName], by simp [hnil]⟩
  · obtain ⟨found, hf, hiff⟩ := Glob.matchesText_compileAll_iff globs.usedSeparators globs.usedFold hnil h name
    refine ⟨found, ?_, by rw [if_neg hnil]; exact hiff⟩
    rw [Globs.pattern?, if_neg hnil, matchesName]
    exact mapError_eq_ok.mpr hf

theorem whitelist_verdict (h : Reflects clock calls f) (hvalid : ∀ c ∈ calls, c.Valid) : ∃ found,
    matchesName f.whitelist (.text name) true = .ok found ∧
      (found = true ↔ ∀ globs, last Call.whitelist? calls = some globs →
        globs.texts = [] ∨ ∃ t ∈ globs.texts, (globs.alone t).matchesText name = .ok true) := by
  rw [h.whitelist]
  cases hl : last Call.whitelist? calls with
  | none => exact ⟨true, rfl, by simp⟩
  | some globs =>
    obtain ⟨c, hc, hk⟩ := mem_of_last hl
    have hglobs : globs.Valid := by
      cases c <;> simp [Call.whitelist?] at hk
      exact hk ▸ hvalid _ hc
    obtain ⟨found, hf, hiff⟩ := matchesName_pattern name hglobs true
    refine ⟨found, hf, hiff.trans ?_⟩
    by_cases hnil : globs.texts = [] <;> simp [hnil]

theorem blacklist_verdict (h : Reflects clock calls f) (hvalid : ∀ c ∈ calls, c.Valid) : ∃ found,
    matchesName f.blacklist (.text name) false = .ok found ∧
      (found = false ↔ ∀ globs, last Call.blacklist? calls = some globs →
        ¬∃ t ∈ globs.texts, (globs.alone t).matchesText name = .ok true) := by
  rw [h.blacklist]
  cases hl : last Call.blacklist? calls with
  | none => exact ⟨false, rfl, by simp⟩
  | some globs =>
    obtain ⟨c, hc, hk⟩ := mem_of_last hl
    have hglobs : globs.Valid := by
      cases c <;> simp [Call.blacklist?] at hk
      exact hk ▸ hvalid _ hc
    obtain ⟨found, hf, hiff⟩ := matchesName_pattern name hglobs false
    refine ⟨found, hf, ?_⟩
    rw [← Bool.not_eq_true, hiff]
    by_cases hnil : globs.texts = [] <;> simp [hnil]

theorem names_verdict (h : Reflects clock calls f) (hvalid : ∀ c ∈ calls, c.Valid) : ∃ found,
    matchesName f.nameRegex (.text name) true = .ok found ∧
      (found = true ↔ ∀ p, last Call.names? calls = some p → p.matchesText name = .ok true) := by
  rw [h.names]
  cases hl : last Call.names? calls with
  | none => exact ⟨true, rfl, by simp⟩
  | some p =>
    obtain ⟨c, hc, hk⟩ := mem_of_last hl
    have hp : p.isWellFormed = .ok true ∧ p.isUnicode = false := by
      cases c <;> simp [Call.names?] at hk
      · exact hk ▸ hvalid _ hc
      · have hu : ∀ t, ({ regex := t } : Pattern).isUnicode = false := fun _ =>
          show Flags.has .none .unicode = false by decide
        exact hk ▸ ⟨hvalid _ hc, hu _⟩
    obtain ⟨found, hf⟩ := Pattern.matchesText_of_isWellFormed hp.2 hp.1 name
    exact ⟨found, mapError_eq_ok.mpr hf, by simp [hf]⟩

theorem size_verdict (h : Reflects clock calls f) (size : Int) : ∃ found,
    f.passesSize (.int size) = .ok found ∧
      (found = true ↔ ∀ predicate, last Call.sizes? calls = some predicate → ∃ clauses,
        sizeClausesOf predicate = .ok clauses ∧ ∀ clause ∈ clauses, clause.holds (.int size) = .ok true) := by
  have hsizes := h.sizes
  cases hl : last Call.sizes? calls with
  | none =>
    have hnil : f.sizeClauses = [] := by simpa [hl] using hsizes
    exact ⟨true, by rw [passesSize, hnil]; rfl, by simp⟩
  | some predicate =>
    have hclauses : sizeClausesOf predicate = .ok f.sizeClauses := by simpa [hl] using hsizes
    obtain ⟨found, hf, hiff⟩ := Clause.allHold_iff (.int size) fun clause hc =>
      (ofSize_of_sizeClausesOf hclauses clause hc).holds size
    refine ⟨found, mapError_eq_ok.mpr hf, hiff.trans ?_⟩
    simp [hclauses]

theorem time_verdict (h : Reflects clock calls f) {mtime instant : Value} (hinstant : clock.coerce mtime = .ok instant) :
    f.passesTime mtime = .ok true ↔ ∀ predicate, last Call.times? calls = some predicate → ∃ clauses,
      timeClausesOf clock predicate = .ok clauses ∧ ∀ clause ∈ clauses, clause.holds instant = .ok true := by
  have htimes := h.times
  have hpasses : f.passesTime mtime = .ok true ↔ ∀ clause ∈ f.timeClauses, clause.holds instant = .ok true := by
    rw [← Clause.allHold_eq_true_iff, passesTime, h.sameClock, hinstant]
    by_cases hnil : f.timeClauses = []
    · exact iff_of_true (if_pos (List.isEmpty_iff.mpr hnil)) (by rw [hnil]; rfl)
    · rw [if_neg (mt List.isEmpty_iff.mp hnil)]
      exact mapError_eq_ok
  cases hl : last Call.times? calls with
  | none =>
    have hnil : f.timeClauses = [] := by simpa [hl] using htimes
    simp [hpasses, hnil]
  | some predicate =>
    have hclauses : timeClausesOf clock predicate = .ok f.timeClauses := by simpa [hl] using htimes
    simp [hpasses, hclauses]

/-- There is a verdict for every time that is an instant. -/
theorem exists_time_verdict (h : Reflects clock calls f) {mtime : Value} {d : DateTime}
    (hd : clock.instantOf mtime = .ok d) : ∃ verdict, f.passesTime mtime = .ok verdict := by
  have htimes := h.times
  rw [passesTime, h.sameClock, Clock.coerce_of_instantOf hd]
  by_cases hnil : f.timeClauses = []
  · exact ⟨true, if_pos (List.isEmpty_iff.mpr hnil)⟩
  · rw [if_neg (mt List.isEmpty_iff.mp hnil)]
    cases hl : last Call.times? calls with
    | none => exact absurd (by simpa [hl] using htimes) hnil
    | some predicate =>
      have hclauses : timeClausesOf clock predicate = .ok f.timeClauses := by simpa [hl] using htimes
      obtain ⟨verdict, hverdict, -⟩ := Clause.allHold_iff (.datetime d) fun clause hc =>
        (ofInstant_of_timeClausesOf hclauses clause hc).holds (Clock.isAware_of_instantOf hd)
      exact ⟨verdict, mapError_eq_ok.mpr hverdict⟩

variable {name}

/-- The verdict of the criteria, when each of them but that of times gives one. -/
theorem passes_eq {size mtime : Value} {w b n s : Bool} (hsize : size.isNone = false) (hmtime : mtime.isNone = false)
    (hw : matchesName f.whitelist (.text name) true = .ok w) (hb : matchesName f.blacklist (.text name) false = .ok b)
    (hn : matchesName f.nameRegex (.text name) true = .ok n) (hs : f.passesSize size = .ok s) :
    f.passes (.text name) size mtime = if w && !b && n && s then f.passesTime mtime else .ok false := by
  simp only [passes, passesName, hw, hb, hn, hs, hsize, hmtime, bind, Except.bind, pure, Except.pure]
  cases w <;> cases b <;> cases n <;> cases s <;> rfl

/-- A file passes a filter that valid calls have set up when they accept it. -/
theorem passes_iff (h : Reflects clock calls f) (hvalid : ∀ c ∈ calls, c.Valid) (name : Text) (size : Int)
    {mtime instant : Value} (hinstant : clock.coerce mtime = .ok instant) :
    (f.passes (.text name) (.int size) mtime = .ok true ↔ Accepts clock calls name size instant) ∧
    ((∃ verdict, f.passesTime mtime = .ok verdict) →
      ∃ verdict, f.passes (.text name) (.int size) mtime = .ok verdict) := by
  obtain ⟨w, hw, hwhite⟩ := whitelist_verdict name h hvalid
  obtain ⟨b, hb, hblack⟩ := blacklist_verdict name h hvalid
  obtain ⟨n, hn, hnames⟩ := names_verdict name h hvalid
  obtain ⟨s, hs, hsizes⟩ := size_verdict h size
  have htimes := time_verdict h hinstant
  have hmtime : mtime.isNone = false := by
    cases mtime with
    | none => cases hinstant
    | _ => rfl
  rw [passes_eq rfl hmtime hw hb hn hs]
  constructor
  · have hall : (w && !b && n && s) = true ↔ ((w = true ∧ b = false) ∧ n = true) ∧ s = true := by
      simp only [Bool.and_eq_true, Bool.not_eq_true']
    constructor
    · intro htrue
      split_ifs at htrue with hothers
      · obtain ⟨⟨⟨h1, h2⟩, h3⟩, h4⟩ := hall.mp hothers
        exact ⟨hwhite.mp h1, hblack.mp h2, hnames.mp h3, hsizes.mp h4, htimes.mp htrue⟩
      · cases htrue
    · rintro ⟨h1, h2, h3, h4, h5⟩
      rw [if_pos (hall.mpr ⟨⟨⟨hwhite.mpr h1, hblack.mpr h2⟩, hnames.mpr h3⟩, hsizes.mpr h4⟩)]
      exact htimes.mpr h5
  · rintro ⟨verdict, hverdict⟩
    split_ifs
    · exact ⟨verdict, hverdict⟩
    · exact ⟨false, rfl⟩

/-- The criteria that two lists of calls leave behind are the same. -/
def SameLast (calls calls' : List Call) : Prop :=
  last Call.whitelist? calls = last Call.whitelist? calls' ∧ last Call.blacklist? calls = last Call.blacklist? calls' ∧
    last Call.names? calls = last Call.names? calls' ∧ last Call.sizes? calls = last Call.sizes? calls' ∧
    last Call.times? calls = last Call.times? calls'

/-- Calls with the same last call for each criterion set up the same filter. -/
theorem eq_of_sameLast {calls' : List Call} {f' : Sieve} (h : Reflects clock calls f) (h' : Reflects clock calls' f')
    (hsame : SameLast calls calls') : f = f' := by
  obtain ⟨hwhite, hblack, hnames, hsizes, htimes⟩ := hsame
  have hs : f.sizeClauses = f'.sizeClauses := Except.ok.inj (by rw [← h.sizes, ← h'.sizes, hsizes])
  have ht : f.timeClauses = f'.timeClauses := Except.ok.inj (by rw [← h.times, ← h'.times, htimes])
  have hw : f.whitelist = f'.whitelist := by rw [h.whitelist, h'.whitelist, hwhite]
  have hb : f.blacklist = f'.blacklist := by rw [h.blacklist, h'.blacklist, hblack]
  have hn : f.nameRegex = f'.nameRegex := by rw [h.names, h'.names, hnames]
  have hc : f.clock = f'.clock := by rw [h.sameClock, h'.sameClock]
  cases f
  cases f'
  simp_all

/-- A filter that valid calls have set up gives a verdict for every name and size and every time that its clock reads:
it accepts what the last call for each criterion accepts, the globs of a list each for itself. Of a time whose zone cannot
tell its offset it accepts the file in the same case. Calls with the same last call for each criterion accept the same
files. -/
theorem passes_iff_accepts (clock : Clock) (calls : List Call) (f : Sieve) (hrun : Run clock calls f)
    (hvalid : ∀ c ∈ calls, c.Valid) :
    (∀ (name : Text) (size : Int) (mtime : Value) (d : DateTime), clock.instantOf mtime = .ok d → ∃ verdict,
      f.passes (.text name) (.int size) mtime = .ok verdict ∧
        (verdict = true ↔ Accepts clock calls name size (.datetime d))) ∧
    (∀ (name : Text) (size : Int) (d : DateTime) (zone : Nat),
      f.passes (.text name) (.int size) (.unplaced d zone) = .ok true ↔
        Accepts clock calls name size (.unplaced d zone)) ∧
    (∀ calls' f', Run clock calls' f' → SameLast calls calls' →
      ∀ name size mtime, f'.passes name size mtime = f.passes name size mtime) := by
  have hreflects := reflects_of_run hrun
  refine ⟨fun name size mtime d hd => ?_, fun name size d zone => (passes_iff hreflects hvalid name size rfl).1,
    fun calls' f' hrun' hsame name size mtime => ?_⟩
  · obtain ⟨haccepts, hverdict⟩ := passes_iff hreflects hvalid name size (Clock.coerce_of_instantOf hd)
    obtain ⟨verdict, hpasses⟩ := hverdict (exists_time_verdict hreflects hd)
    exact ⟨verdict, hpasses, by rw [← haccepts, hpasses, Except.ok.injEq]⟩
  · rw [eq_of_sameLast hreflects (reflects_of_run hrun') hsame]

/-- A list of allowed names that is set and then cleared keeps no name out. -/
theorem passes_after_clearing : ∃ f,
    Run {} [.whitelist ⟨.list [.text ['b']], [['b']], rfl, none, none⟩, .whitelist ⟨.none, [], rfl, none, none⟩] f ∧
      f.passes (.text ['c']) (.int 3) (.datetime { date := default, offset := some 0 }) = .ok true := by
  have hfresh : Run {} [] {} := .fresh
  have hrun := Run.call (Run.call hfresh (failure_globs _ ⟨.list [.text ['b']], [['b']], rfl, none, none⟩).1)
    (failure_globs _ ⟨.none, [], rfl, none, none⟩).1
  have hvalid : ∀ c ∈ ([] ++ [.whitelist ⟨.list [.text ['b']], [['b']], rfl, none, none⟩]) ++
      [.whitelist ⟨.none, [], rfl, none, none⟩], Call.Valid c := by
    simp only [List.nil_append, List.cons_append, List.mem_cons, List.not_mem_nil, or_false, forall_eq_or_imp, forall_eq,
      Call.Valid, Globs.Valid, Globs.alone, Glob.isWellFormed_compile]
    exact ⟨by decide, fun t ht => ht.elim⟩
  obtain ⟨verdict, hv, hiff⟩ := (passes_iff_accepts {} _ _ hrun hvalid).1 ['c'] 3
    (.datetime { date := default, offset := some 0 }) _ rfl
  have haccepts : verdict = true := by
    refine hiff.mpr ⟨?_, ?_, ?_, ?_, ?_⟩
    · rintro globs hg
      obtain rfl := Option.some.inj hg
      exact .inl rfl
    all_goals exact fun _ h => absurd h.symm (Option.some_ne_none _)
  exact ⟨_, hrun, haccepts ▸ hv⟩

end FileSieve.Sieve
