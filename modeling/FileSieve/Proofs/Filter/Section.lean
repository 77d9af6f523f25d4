import FileSieve.Filter.Section
import FileSieve.Proofs.Config.Validation
import FileSieve.Proofs.Filter.Atomicity
import FileSieve.Proofs.Predicate.Reading
import FileSieve.Proofs.Size.Outcome
import FileSieve.Proofs.Time.Outcome

/-!
# The filter of a valid section

Setting the criteria of a section asks for no more than its validation has looked at: globs are texts or a list of
texts, the regular expression and its modifiers are texts, and a predicate is a number or a text. So a valid section
gives a filter, or one of its predicates is a text that cannot be read, or a time in it is a date and time of the clock's
zone which, as an instant, is beyond the calendar (`explained_ofSection`). Only integers and digits in a row have to be as
short as they must be to be read and written.
-/

namespace FileSieve

open Config (checkFilterEntries checkFilterEntries_ok_iff field)

/-- A value that is no integer, and no text with digits in a row, of more digits than an integer may have. -/
def Value.ShortNumbers : Value → Prop
  | .int n => ¬TooLong n
  | .text t => ShortRuns t
  | _ => True

/-- What a text spells, or the texts in a list do together. -/
def Value.spelled : Value → Text
  | .text t => t
  | .list items => items.flatMap fun
    | .text t => t
    | _ => []
  | _ => []

theorem Value.flatten_of_textItems {index : Nat} {items : List Value} {texts : List Text}
    (h : textItems index items = .ok texts) : texts.flatten = (Value.list items).spelled := by
  induction items generalizing index texts with
  | nil =>
    obtain rfl := Except.ok.inj h
    rfl
  | cons item items ih =>
    cases item with
    | text t =>
      rw [textItems] at h
      obtain ⟨rest, hrest, h⟩ := bind_eq_ok.mp h
      obtain rfl : t :: rest = texts := Except.ok.inj h
      rw [List.flatten_cons, ih hrest, spelled, spelled, List.flatMap_cons]
    | _ => cases h

/-- Why a predicate cannot be read. -/
inductive Unreadable : Failure → Prop
  /-- It has not the form of a predicate. -/
  | format (e : Predicate.FormatError) : Unreadable (.predicate e)
  /-- A value is no size -/
  | size (t : Text) : Unreadable (.size (.unreadable t))
  /-- or one out of range. -/
  | sizeRange (value : Magnitude) (shown : Text) : Unreadable (.size (.outOfRange value shown))
  /-- A value is no instant -/
  | time (t : Text) : Unreadable (.time (.unreadable t))
  /-- or one outside of the calendar. -/
  | timeRange (shown : Text) : Unreadable (.time (.outOfRange shown))

/-- A text is a predicate of modification times of which the first part that is no instant by a clock is a date and time
beyond the calendar. -/
def Clock.BeyondIn (clock : Clock) (t : Text) : Prop :=
  ∃ front part back, Predicate.parse t = .ok (front ++ part :: back) ∧
    (∀ p ∈ front, ∃ d, clock.read p.2 = .ok d) ∧ clock.Beyond part.2 ∧
    clock.read part.2 = .error (.misuse .dateOverflow)

namespace Sieve

variable {f : Sieve} {entries : Entries} {key : Text} {value : Value} {t : Text} {clock : Clock} {beyond : Prop}

/-- A setting of a filter with a clock that succeeds, unless a predicate cannot be read or an instant is beyond the
calendar, for which there is a condition. -/
structure Explained (clock : Clock) (beyond : Prop) (s : Setting) : Prop where
  /-- The clock is kept. -/
  clock : s.filter.clock = clock
  /-- There are two reasons for a failure. -/
  failure : ∀ e, s.failure = some e → Unreadable e ∨ e = .time (.misuse .dateOverflow) ∧ beyond

theorem explained_of_succeeds {s : Setting} (hclock : s.filter.clock = clock) (h : s.failure = none) :
    Explained clock beyond s :=
  ⟨hclock, fun _ he => nomatch h.symm.trans he⟩

theorem explained_unchanged {e : Failure} (hclock : f.clock = clock)
    (h : Unreadable e ∨ e = .time (.misuse .dateOverflow) ∧ beyond) (entries : List Log.Entry) :
    Explained clock beyond (f.unchanged e entries) :=
  ⟨hclock, fun _ he => Option.some.inj he ▸ h⟩

theorem Explained.andThen {s : Setting} {next : Sieve → Setting} (h : Explained clock beyond s)
    (hnext : ∀ f, f.clock = clock → Explained clock beyond (next f)) : Explained clock beyond (s.andThen next) := by
  rw [Setting.andThen]
  split
  · exact h
  · exact ⟨(hnext _ h.clock).clock, (hnext _ h.clock).failure⟩

theorem Explained.mono {s : Setting} {beyond' : Prop} (h : Explained clock beyond s) (himp : beyond → beyond') :
    Explained clock beyond' s :=
  ⟨h.clock, fun e he => (h.failure e he).imp_right (And.imp_right himp)⟩

theorem failure_of_andThen {s : Setting} {next : Sieve → Setting} (h : (s.andThen next).failure = none) :
    (next s.filter).failure = none := by
  rw [Setting.andThen] at h
  split at h
  · next hfailure => exact absurd h (by rw [hfailure]; exact Option.some_ne_none _)
  · exact h

/-! ### Predicates -/

theorem clock_described (f : Sieve) (message : Text) (predicate : Value) (clauses : List Clause)
    (before : List Log.Entry) : (f.described message predicate clauses before).filter.clock = f.clock := by
  rw [filter_described]

theorem clock_withSizes_int (f : Sieve) (n : Int) : (f.withSizes (.int n)).filter.clock = f.clock := by
  rw [withSizes, withSizeClauses, clock_described]

/-- The values of a predicate begin with a digit, and have no longer runs of digits than it. -/
theorem values_of_parse {parts : List (Operator × Text)} (hshort : ShortRuns t) (h : Predicate.parse t = .ok parts) :
    ∀ part ∈ parts, ShortRuns part.2 ∧ Predicate.BeginsWithDigit part.2 := by
  have hread : Predicate.read t = .ok parts := by
    rw [← Predicate.parse_mapError, h]
    rfl
  intro part hpart
  obtain ⟨hpart, hdigit⟩ := (((Predicate.read_decides t).1 parts).mp hread).values part hpart
  exact ⟨hshort.of_isInfix (hpart.trans (trim_isInfix _ _)), hdigit⟩

theorem unreadable_of_sizeClause {part : Operator × Text} {e : Failure} (hshort : ShortRuns part.2)
    (h : sizeClause part = .error e) : Unreadable e := by
  rw [sizeClause] at h
  obtain ⟨-, hparse, -⟩ | ⟨-, -, hsettled⟩ | ⟨hwhole, hlong, -⟩ := Size.parse_outcome part.2
  · rw [hparse] at h
    obtain rfl := Except.error.inj h
    exact .size _
  · generalize Size.parse part.2 = outcome at h hsettled
    cases hsettled with
    | size => cases h
    | outOfRange =>
      obtain rfl := Except.error.inj h
      exact .sizeRange _ _
  · exact absurd (hshort _ (trim_isInfix _ _) hwhole.digits) (Nat.not_le.mpr hlong)

theorem timeClause_eq_ok {part : Operator × Text} :
    (∃ clause, timeClause clock part = .ok clause) ↔ ∃ d, clock.read part.2 = .ok d := by
  rw [timeClause]
  cases clock.read part.2 with
  | error e => exact iff_of_false nofun nofun
  | ok d => exact iff_of_true ⟨_, rfl⟩ ⟨d, rfl⟩

theorem unreadable_of_timeClause {part : Operator × Text} {e : Failure} (hshort : ShortRuns part.2)
    (hdigit : Predicate.BeginsWithDigit part.2) (h : timeClause clock part = .error e) : Unreadable e ∨
      e = .time (.misuse .dateOverflow) ∧ clock.Beyond part.2 ∧ clock.read part.2 = .error (.misuse .dateOverflow) := by
  obtain ⟨d, rest, hpart, hd⟩ := hdigit
  rw [hpart] at hshort
  rw [timeClause, hpart] at h
  obtain ⟨instant, hread⟩ | hread | ⟨shown, hread⟩ | ⟨hbeyond, hread⟩ := Clock.read_of_digit clock hd hshort
  · rw [hread] at h
    cases h
  · rw [hread] at h
    obtain rfl := Except.error.inj h
    exact .inl (.time _)
  · rw [hread] at h
    obtain rfl := Except.error.inj h
    exact .inl (.timeRange _)
  · rw [hread] at h
    obtain rfl := Except.error.inj h
    exact .inr ⟨rfl, hpart ▸ hbeyond, hpart ▸ hread⟩

/-- A text is read as clauses that are then set, unless it cannot be read. -/
theorem explained_clauses {clause : Operator × Text → Except Failure Clause}
    {set : List Clause → List Log.Entry → Setting} (hclock : f.clock = clock) (hshort : ShortRuns t)
    (herror : ∀ front part back, Predicate.parse t = .ok (front ++ part :: back) →
      (∀ p ∈ front, ∃ c, clause p = .ok c) → ShortRuns part.2 → Predicate.BeginsWithDigit part.2 →
      ∀ e, clause part = .error e → Unreadable e ∨ e = .time (.misuse .dateOverflow) ∧ beyond)
    (hset : ∀ parts clauses entries, List.mapM clause parts = .ok clauses →
      (set clauses entries).filter.clock = clock ∧ (set clauses entries).failure = none) :
    Explained clock beyond (match Predicate.parse t with
      | .error e => f.unchanged (.predicate e)
      | .ok parts =>
        match List.mapM clause parts with
        | .error e => f.unchanged e [predicateEntry t parts.length]
        | .ok clauses => set clauses [predicateEntry t parts.length]) := by
  cases hparts : Predicate.parse t with
  | error e => exact explained_unchanged hclock (.inl (.format e)) _
  | ok parts =>
    have hvalues := values_of_parse hshort hparts
    cases hclauses : parts.mapM clause with
    | error e =>
      simp only [hclauses]
      obtain ⟨front, part, back, rfl, hfront, he⟩ := mapM_eq_error_iff.mp hclauses
      obtain ⟨hpart, hdigit⟩ := hvalues part (by simp)
      exact explained_unchanged hclock (herror front part back hparts hfront hpart hdigit e he) _
    | ok clauses =>
      simp only [hclauses]
      exact explained_of_succeeds (hset parts clauses _ hclauses).1 (hset parts clauses _ hclauses).2

theorem explained_withSizes_text (hclock : f.clock = clock) (hshort : ShortRuns t) :
    Explained clock beyond (f.withSizes (.text t)) :=
  explained_clauses hclock hshort (fun _ _ _ _ _ hshort _ _ he => .inl (unreadable_of_sizeClause hshort he))
    fun _ _ _ hclauses => ⟨(clock_described _ _ _ _ _).trans hclock,
      failure_described _ (forall_of_mapM (fun _ _ => writable_of_sizeClause) hclauses) _ _ _⟩

theorem explained_withTimes_text (hclock : f.clock = clock) (hshort : ShortRuns t) :
    Explained clock (clock.BeyondIn t) (f.withTimes (.text t)) := by
  subst hclock
  refine explained_clauses rfl hshort (fun front part back hparse hfront hshort hdigit e he => ?_)
    fun _ _ _ hclauses => ⟨clock_described _ _ _ _ _,
      failure_described _ (forall_of_mapM (fun _ _ => writable_of_timeClause) hclauses) _ _ _⟩
  refine (unreadable_of_timeClause hshort hdigit he).imp_right fun ⟨hover, hbeyond, hread⟩ => ⟨hover, ?_⟩
  exact ⟨front, part, back, hparse, fun p hp => timeClause_eq_ok.mp (hfront p hp), hbeyond, hread⟩

/-- A predicate that is beyond the calendar is not set. -/
theorem failure_of_beyondIn (h : f.clock.BeyondIn t) : (f.withTimes (.text t)).failure ≠ none := by
  obtain ⟨front, part, back, hparse, hfront, -, hread⟩ := h
  have hclauses : (front ++ part :: back).mapM (timeClause f.clock) = .error (.time (.misuse .dateOverflow)) :=
    mapM_eq_error_iff.mpr
      ⟨front, part, back, rfl, fun p hp => timeClause_eq_ok.mpr (hfront p hp), by rw [timeClause, hread]⟩
  simp [withTimes, hparse, hclauses, unchanged]

/-- A number that can be written is an instant, or outside of the calendar. -/
theorem explained_withTimes_number {shown : Text} (hclock : f.clock = clock)
    (hnumber : f.clock.coerce value = (f.clock.ofSeconds value).map .datetime)
    (htext : ∀ t, value ≠ .text t) (hshown : value.plain = .ok shown) : Explained clock beyond (f.withTimes value) := by
  unfold withTimes
  split
  · exact absurd rfl (htext _)
  · rw [hnumber]
    obtain ⟨instant, hseconds⟩ | hseconds := Clock.ofSeconds_cases f.clock hshown
    · rw [hseconds]
      refine explained_of_succeeds ((clock_described _ _ _ _ _).trans hclock)
        (failure_described _ ?_ _ _ _)
      exact List.forall_mem_singleton.mpr (Clause.writable_datetime _ _)
    · rw [hseconds]
      exact explained_unchanged hclock (.inl (.timeRange _)) _

/-- A valid predicate is an integer or a text, or for times a floating-point number. -/
theorem kind_of_checkPredicate (h : Config.checkPredicate key value = .ok ()) :
    (∃ n, value = .int n) ∨ (∃ t, value = .text t) ∨ key = Key.mtime ∧ ∃ x, value = .float x := by
  cases value with
  | int n => exact .inl ⟨n, rfl⟩
  | text t => exact .inr (.inl ⟨t, rfl⟩)
  | float x =>
    simp only [Config.checkPredicate] at h
    split_ifs at h with hkey
    · exact .inr (.inr ⟨by simpa using hkey, x, rfl⟩)
    · cases h
  | _ => cases h

theorem explained_sizes (h : Config.checkPredicateOf entries Key.size = .ok ())
    (hshort : (field entries Key.size).ShortNumbers) (hclock : f.clock = clock) :
    Explained clock beyond (withValue (field entries Key.size) withSizes f) := by
  unfold Config.checkPredicateOf at h
  generalize field entries Key.size = value at h hshort
  unfold withValue
  split_ifs with hnone
  · exact explained_of_succeeds hclock rfl
  · split at h
    · exact absurd rfl hnone
    · obtain ⟨n, rfl⟩ | ⟨t, rfl⟩ | ⟨hkey, -⟩ := kind_of_checkPredicate h
      · exact explained_of_succeeds ((f.clock_withSizes_int n).trans hclock) (f.failure_sizes_int hshort)
      · exact explained_withSizes_text hclock hshort
      · exact absurd hkey (by decide)

theorem explained_times (h : Config.checkPredicateOf entries Key.mtime = .ok ())
    (hshort : (field entries Key.mtime).ShortNumbers) (hclock : f.clock = clock) :
    Explained clock (∃ t, field entries Key.mtime = .text t ∧ clock.BeyondIn t)
      (withValue (field entries Key.mtime) withTimes f) := by
  unfold Config.checkPredicateOf at h
  generalize field entries Key.mtime = value at h hshort
  unfold withValue
  split_ifs with hnone
  · exact explained_of_succeeds hclock rfl
  · split at h
    · exact absurd rfl hnone
    · obtain ⟨n, rfl⟩ | ⟨t, rfl⟩ | ⟨-, x, rfl⟩ := kind_of_checkPredicate h
      · exact explained_withTimes_number hclock rfl nofun ((Value.plain_int n).trans (Int.digits_of_not_tooLong hshort))
      · obtain ⟨hkept, hfailure⟩ := explained_withTimes_text hclock hshort
        exact ⟨hkept, fun e he => (hfailure e he).imp_right (And.imp_right fun hbeyond => ⟨t, rfl, hbeyond⟩)⟩
      · exact explained_withTimes_number hclock rfl nofun rfl

/-! ### Names -/

theorem exists_texts_of_list {items : List Value} (h : ∀ item ∈ items, item.kind = .text) :
    ∃ texts : List Text, items = texts.map .text := by
  induction items with
  | nil => exact ⟨[], rfl⟩
  | cons item items ih =>
    obtain ⟨hitem, hitems⟩ := List.forall_mem_cons.mp h
    obtain ⟨t, rfl⟩ := Value.kind_eq_text_iff.mp hitem
    obtain ⟨texts, rfl⟩ := ih hitems
    exact ⟨t :: texts, rfl⟩

/-- Valid globs are a list of texts. -/
theorem exists_texts (h : Config.checkGlobsOf entries key = .ok ()) :
    ∃ texts : List Text, globsOf (field entries key) = .ok (texts.map .text) := by
  unfold Config.checkGlobsOf at h
  generalize field entries key = value at h
  split at h
  · exact ⟨[], rfl⟩
  · have hglobs : Config.checkGlobs value = .ok () := by
      split at h
      · cases h
      · exact h
    cases value with
    | text t => exact ⟨Config.globItems t, rfl⟩
    | list items =>
      have hkinds : ∀ item ∈ items, item.kind = .text := fun item hitem => by
        have hglob := forM_eq_ok.mp hglobs item hitem
        cases item with
        | text t => rfl
        | _ => cases hglob
      obtain ⟨texts, rfl⟩ := exists_texts_of_list hkinds
      exact ⟨texts, rfl⟩
    | _ => cases hglobs

theorem exists_separators (h : Config.checkSeparatorOf entries = .ok ()) :
    ∃ separators : Option Text, field entries Key.separator = (separators.map Value.text).getD .none := by
  unfold Config.checkSeparatorOf at h
  generalize field entries Key.separator = value at h
  cases value with
  | none => exact ⟨none, rfl⟩
  | text t => exact ⟨some t, rfl⟩
  | _ => cases h

theorem exists_caseFold (h : Config.checkCaseFold entries = .ok ()) :
    ∃ fold, (entries.get? (.text Key.caseFold)).getD (.bool true) = .bool fold := by
  unfold Config.checkCaseFold at h
  split at h
  · rename_i hnone
    exact ⟨true, by rw [hnone]; rfl⟩
  · rename_i fold hfold
    exact ⟨fold, by rw [hfold]; rfl⟩
  · obtain ⟨shown, -, hrefused⟩ := bind_eq_ok.mp h
    cases hrefused

/-- Globs of valid options are set. -/
theorem explained_withGlobs {set : Sieve → Value → Setting} (h : Config.checkGlobsOf entries key = .ok ())
    (hset : ∀ f (texts : List Text), (set f (.list (texts.map .text))).filter.clock = f.clock ∧
      (set f (.list (texts.map .text))).failure = none) (hclock : f.clock = clock) :
    Explained clock beyond (withGlobs (field entries key) set f) := by
  obtain ⟨texts, htexts⟩ := exists_texts h
  rw [withGlobs, htexts]
  cases texts with
  | nil => exact explained_of_succeeds hclock rfl
  | cons t texts =>
    obtain ⟨hkept, hok⟩ := hset f (t :: texts)
    exact explained_of_succeeds (hkept.trans hclock) hok

/-- Valid modifiers are taken by the letters that they spell. -/
theorem flagsOf_ok (h : Config.checkModifiersOf entries = .ok ()) :
    flagsOf (field entries Key.nameRegexFlags) = .ok (.ofLetters (field entries Key.nameRegexFlags).spelled) := by
  unfold Config.checkModifiersOf at h
  generalize field entries Key.nameRegexFlags = value at h
  cases htruth : value.truth with
  | false =>
    have hnothing : value.spelled = [] := by
      cases value with
      | text t => simpa [Value.truth, Value.spelled] using htruth
      | list items =>
        obtain rfl : items = [] := by simpa [Value.truth] using htruth
        rfl
      | _ => rfl
    rw [flagsOf, htruth, hnothing]
    rfl
  | true =>
    rw [htruth, if_pos rfl] at h
    obtain ⟨letters, hletters, -⟩ := bind_eq_ok.mp h
    cases value with
    | text t => simp [flagsOf, htruth, Value.spelled, bind, Except.bind, pure, Except.pure]
    | list items =>
      obtain ⟨texts, htexts, -⟩ := bind_eq_ok.mp hletters
      have hitems : Value.textItems 0 items = .ok texts := mapError_eq_ok.mp htexts
      rw [← Value.flatten_of_textItems hitems]
      simp [flagsOf, htruth, Value.items, hitems, bind, Except.bind, pure, Except.pure]
    | _ => cases hletters

theorem explained_withRegexOf (hregex : Config.checkNameRegex entries = .ok ())
    (hmodifiers : Config.checkModifiersOf entries = .ok ()) (hclock : f.clock = clock) :
    Explained clock beyond (withRegexOf entries f) := by
  simp only [withRegexOf, flagsOf_ok hmodifiers]
  unfold Config.checkNameRegex at hregex
  split at hregex
  · rename_i hnone
    rw [hnone]
    exact explained_of_succeeds hclock rfl
  · rename_i c rest htext
    rw [htext]
    exact explained_of_succeeds hclock rfl
  · obtain ⟨shown, -, hrefused⟩ := bind_eq_ok.mp hregex
    cases hrefused

/-! ### The section -/

theorem shortNumbers_field (h : ∀ entry ∈ entries, entry.2.ShortNumbers) (key : Text) :
    (field entries key).ShortNumbers := by
  rw [field]
  cases hget : entries.get? (.text key) with
  | none => trivial
  | some value =>
    obtain ⟨entry, hentry, rfl⟩ := Option.map_eq_some_iff.mp hget
    exact h entry (List.mem_of_find?_eq_some hentry)

theorem clock_globs (f : Sieve) (globs separators caseFold : Value) :
    (f.withWhitelist globs separators caseFold).filter.clock = f.clock ∧
    (f.withBlacklist globs separators caseFold).filter.clock = f.clock := by
  unfold withWhitelist withBlacklist
  split <;> exact ⟨rfl, rfl⟩

/-- All criteria but the one of modification times are set, unless the one of sizes cannot be read. -/
theorem exists_withEntries (h : checkFilterEntries entries = .ok ())
    (hshort : ∀ key, (field entries key).ShortNumbers) (hclock : f.clock = clock) :
    ∃ s, f.withEntries entries = s.andThen (withValue (field entries Key.mtime) withTimes) ∧ Explained clock False s := by
  obtain ⟨-, hfields⟩ := checkFilterEntries_ok_iff.mp h
  obtain ⟨hseparator, hfold, hwhitelist, hblacklist, hregex, hmodifiers, hsize, -⟩ :=
    (Config.forall_fieldChecks (p := fun _ check => check entries = .ok ())).mp hfields
  obtain ⟨separators, hseparators⟩ := exists_separators hseparator
  obtain ⟨fold, hcaseFold⟩ := exists_caseFold hfold
  have hset (f : Sieve) (texts : List Text) :
      (f.withWhitelist (.list (texts.map .text)) ((separators.map Value.text).getD .none) (.bool fold)).failure = none ∧
      (f.withBlacklist (.list (texts.map .text)) ((separators.map Value.text).getD .none) (.bool fold)).failure = none :=
    f.failure_globs ⟨.list (texts.map .text), texts, rfl, separators, some fold⟩
  simp only [withEntries, hseparators, hcaseFold]
  refine ⟨_, rfl, .andThen (.andThen (.andThen ?_ ?_) ?_) ?_⟩
  · exact explained_withGlobs hwhitelist (fun f texts => ⟨(f.clock_globs _ _ _).1, (hset f texts).1⟩) hclock
  · exact fun f hclock =>
      explained_withGlobs hblacklist (fun f texts => ⟨(f.clock_globs _ _ _).2, (hset f texts).2⟩) hclock
  · exact fun f hclock => explained_withRegexOf hregex hmodifiers hclock
  · exact fun f hclock => explained_sizes hsize (hshort Key.size) hclock

/-- A valid section gives a filter, unless one of its predicates cannot be read or a time in it is beyond the calendar. In
the last case it never gives one. -/
theorem explained_ofSection (h : checkFilterEntries entries = .ok ())
    (hshort : ∀ entry ∈ entries, entry.2.ShortNumbers) (clock : Clock) :
    Explained clock (∃ t, field entries Key.mtime = .text t ∧ clock.BeyondIn t) (ofSection clock (.dict entries)) ∧
    ((ofSection clock (.dict entries)).failure = none → ¬∃ t, field entries Key.mtime = .text t ∧ clock.BeyondIn t) := by
  obtain ⟨-, hfields⟩ := checkFilterEntries_ok_iff.mp h
  obtain ⟨-, -, -, -, -, -, -, hmtime⟩ :=
    (Config.forall_fieldChecks (p := fun _ check => check entries = .ok ())).mp hfields
  have hshort := shortNumbers_field hshort
  rw [ofSection, Value.asEntries]
  simp only [h]
  have hclock : ({ clock } : Sieve).clock = clock := rfl
  obtain ⟨s, hs, hexplained⟩ := exists_withEntries h hshort hclock
  rw [hs]
  refine ⟨(hexplained.mono False.elim).andThen fun f hclock => explained_times hmtime (hshort Key.mtime) hclock, ?_⟩
  rintro hset ⟨t, ht, hbeyond⟩
  rw [← hexplained.clock] at hbeyond
  refine failure_of_beyondIn hbeyond ?_
  have hlast := failure_of_andThen hset
  rwa [withValue, ht, if_neg (by simp [Value.isNone])] at hlast

end Sieve

end FileSieve
