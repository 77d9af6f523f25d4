import FileSieve.Config.Session
import FileSieve.Proofs.Config.Validity
import FileSieve.Proofs.Document.Meaning
import FileSieve.Proofs.Filter.Report
import FileSieve.Proofs.Filter.Section

/-!
# What a manager can come to

A manager is made, with a file or without one and with any environment, and then it is called to load and to clear, any
number of times, whether the calls succeed or not (`Reached`). Only what is valid is taken for a layer, so each layer of
it is valid at any time (`valid_of_reached`), and what a call loads from a file or the environment is a value as it can
be, if the loader of documents gives such values. Therefore the section of the filter is valid in every manager, and a
filter can be made of it unless one of its predicates cannot be read, or names a time by the local clocks that is beyond
the calendar as an instant, or a step is reported that cannot be (`filter_of_reached`). A time beyond the calendar is no
time that cannot be read, and leaves the manager as it comes (`late_time_escapes`).
-/

namespace FileSieve.Config

/-! ### What the environment and files hold -/

theorem Environment.proper_value (t : Text) : (Environment.value t).Proper := by
  simp only [Environment.value]
  split_ifs
  · trivial
  · trivial
  · split <;> trivial

theorem Environment.proper_entriesWith {entries entries' : Entries} {setting : Text × Text}
    (hentries : Entries.Proper entries) (h : Environment.entriesWith entries setting = .ok entries') :
    Entries.Proper entries' := by
  unfold Environment.entriesWith at h
  split at h
  · rwa [← Except.ok.inj h]
  · exact hentries.assign (Environment.proper_value _) h

/-- What variables set is a dictionary as it can be. -/
theorem Environment.proper_entries {settings : List (Text × Text)} {entries : Entries}
    (h : Environment.entries settings = .ok entries) : Entries.Proper entries :=
  foldlM_keeps (fun _ _ _ hbase hnext => Environment.proper_entriesWith hbase hnext) Entries.proper_nil h

end FileSieve.Config

namespace FileSieve.Document

/-- A loader that gives values as they can be: no two keys of a dictionary are equal, and all of them can be keys. -/
def Loader.Proper (loader : Loader) : Prop :=
  ∀ t meaning, loader t = .ok meaning → meaning.value.Proper

/-- The reader of documents is one. -/
theorem proper_read : Loader.Proper read := fun _ _ => proper_of_read

end FileSieve.Document

namespace FileSieve.Config

/-- So is what is in a file. -/
theorem proper_of_readFile {loader : Document.Loader} {storage : Storage} {file : Value} {path : Text}
    {meaning : Document.Meaning} (hloader : loader.Proper)
    (h : readFile loader storage file = .ok (path, meaning)) : meaning.value.Proper := by
  obtain ⟨name, -, h⟩ := bind_eq_ok.mp h
  split at h
  · cases h
  · cases h
  · cases h
  · obtain ⟨found, hfound, h⟩ := bind_eq_ok.mp h
    split at h
    · obtain ⟨-, rfl⟩ := Prod.mk.inj (Except.ok.inj h)
      unfold fileMeaning at hfound
      split at hfound
      · cases hfound
      · split at hfound
        · cases hfound
        · cases hfound
        · rename_i hread
          obtain rfl := Except.ok.inj hfound
          exact hloader _ _ hread
    · cases h

/-- A session with nothing in it. -/
def Session.fresh : Session where
  loader := Document.read
  board := { storage := { root := "/" }, stamp := [] }

namespace Layers

variable {l l' : Layers} {source : Source}

/-! ### Calls -/

/-- A call that loads or clears. -/
inductive Call
  /-- The configuration in a file. -/
  | loadFile (loader : Document.Loader) (storage : Storage) (file : Value) (source : Source)
  /-- A configuration. -/
  | loadDict (config : Value) (source : Source) (shared : List (List Position))
  /-- One source is cleared. -/
  | clear (source : Source)
  /-- All sources are cleared. -/
  | clearAll

/-- What a call does to a manager, and what goes wrong. -/
def Call.apply (l : Layers) : Call → Layers × Option Failure
  | .loadFile loader storage file source => l.attempt ((l.loadFrom loader storage file source).map Prod.snd)
  | .loadDict config source shared => l.loadDict config source shared
  | .clear source => (l.clear source, none)
  | .clearAll => (l.clearAll, none)

/-- What a call gives is a value as it can be, or a loader of such values. -/
def Call.Proper : Call → Prop
  | .loadFile loader _ _ _ => loader.Proper
  | .loadDict config _ _ => config.Proper
  | _ => True

/-- A manager that has been made and called. -/
inductive Reached : Layers → Prop
  /-- It has been made, with a file or without one, and with an environment. -/
  | created {s s' : Session} {file : Value} {settings : List (Text × Text)} {number : Nat} :
    s.loader.Proper → s.create file settings = (s', .ok number) → Reached (s'.manager number)
  /-- It has been called, whether the call failed or not. -/
  | called {l : Layers} {call : Call} : Reached l → call.Proper → Reached (call.apply l).1

/-- A manager can be made in it without a file and without an environment. -/
theorem create_fresh : Session.fresh.create .none [] = ({ Session.fresh with managers := [{}] }, .ok 0) := rfl

theorem reached_start : Reached {} :=
  .created (s := .fresh) Document.proper_read create_fresh

/-- A session that loads a file does to the manager what the call does, whether it can be reported or not. -/
theorem manager_loadFrom {s : Session} {number : Nat} (hnumber : number < s.managers.length) (file : Value)
    (source : Source) : (s.loadFrom number file source).1.manager number =
      ((Call.loadFile s.loader s.board.storage file source).apply (s.manager number)).1 := by
  rw [Call.apply, Session.loadFrom]
  cases (s.manager number).loadFrom s.loader s.board.storage file source with
  | error e => rfl
  | ok loaded =>
    obtain ⟨path, l⟩ := loaded
    have hmanager : ((s.setManager number l).reportFile path source).1.manager number = l := by
      simp [Session.reportFile, Session.setManager, Session.manager, hnumber]
    exact hmanager

/-! ### What a call preserves -/

theorem Valid.loadValue {config : Value} {shared : List (List Position)} (h : l.Valid) (hconfig : config.Proper)
    (hload : l.loadValue config source shared = .ok l') : l'.Valid := by
  obtain ⟨hcheck, entries, rfl, rfl⟩ := load_eq_ok_iff.mp (mapError_eq_ok.mp hload)
  exact h.replace (Entries.proper_dict.mp hconfig) hcheck

theorem Valid.loadFrom {loader : Document.Loader} {storage : Storage} {file : Value} {path : Text} (h : l.Valid)
    (hloader : loader.Proper) (hload : l.loadFrom loader storage file source = .ok (path, l')) : l'.Valid := by
  obtain ⟨⟨found, meaning⟩, hread, hload⟩ := bind_eq_ok.mp hload
  obtain ⟨loaded, hvalue, hload⟩ := bind_eq_ok.mp hload
  obtain ⟨-, rfl⟩ := Prod.mk.inj (Except.ok.inj hload)
  exact h.loadValue (proper_of_readFile hloader hread) hvalue

theorem Valid.loadSettings {settings : List (Text × Text)} (h : l.Valid)
    (hload : l.loadSettings settings = .ok l') : l'.Valid := by
  obtain ⟨entries, hentries, hload⟩ := bind_eq_ok.mp hload
  split at hload
  · rwa [← Except.ok.inj hload]
  · have hproper := proper_rooted (Environment.proper_entries (mapError_eq_ok.mp hentries))
    exact h.loadValue (Entries.proper_dict.mpr hproper) hload

theorem Valid.attempt {loaded : Except Failure Layers} (h : l.Valid) (hloaded : ∀ l', loaded = .ok l' → l'.Valid) :
    (l.attempt loaded).1.Valid := by
  cases loaded with
  | ok l' => exact hloaded l' rfl
  | error e => exact h

/-- A call leaves layers valid, whether it fails or not. -/
theorem Valid.apply (h : l.Valid) {call : Call} (hcall : call.Proper) : (call.apply l).1.Valid := by
  cases call with
  | loadFile loader storage file source =>
    refine h.attempt fun l' hl' => ?_
    obtain ⟨⟨path, loaded⟩, hload, rfl⟩ := map_eq_ok.mp hl'
    exact h.loadFrom hcall hload
  | loadDict config source shared => exact h.attempt fun l' hl' => h.loadValue hcall hl'
  | clear source => exact h.without _
  | clearAll => exact h.without _

/-- What a manager begins with is what a new one has, or a file is loaded over it. -/
theorem loaded_of_begin {s s' : Session} {file : Value} (h : s.begin file = (s', .ok l)) :
    l = {} ∨ ∃ path, Layers.loadFrom {} s.loader s.board.storage file .userConfig = .ok (path, l) := by
  unfold Session.begin at h
  split_ifs at h
  · exact .inl (Except.ok.inj (Prod.mk.inj h).2).symm
  · split at h
    · cases h
    · next path loaded hloaded =>
      split at h
      · cases h
      · obtain rfl := Except.ok.inj (Prod.mk.inj h).2
        exact .inr ⟨path, hloaded⟩

/-- A manager that is made has what it begins with and then what the environment sets. -/
theorem exists_of_create {s s' : Session} {file : Value} {settings : List (Text × Text)} {number : Nat}
    (h : s.create file settings = (s', .ok number)) :
    ∃ l, (l = {} ∨ ∃ path, Layers.loadFrom {} s.loader s.board.storage file .userConfig = .ok (path, l)) ∧
      l.loadSettings settings = .ok (s'.manager number) := by
  unfold Session.create at h
  split at h
  · cases h
  · next begun l hbegin =>
    split at h
    · cases h
    · next made hmade =>
      obtain ⟨rfl, hnumber⟩ := Prod.mk.inj h
      obtain rfl := Except.ok.inj hnumber
      refine ⟨l, loaded_of_begin hbegin, hmade.trans (congrArg Except.ok ?_)⟩
      simp [Session.manager]

/-- So it has valid layers. -/
theorem valid_of_create {s s' : Session} {file : Value} {settings : List (Text × Text)} {number : Nat}
    (hloader : s.loader.Proper) (h : s.create file settings = (s', .ok number)) : (s'.manager number).Valid := by
  obtain ⟨l, hfile, hsettings⟩ := exists_of_create h
  rcases hfile with rfl | ⟨path, hloaded⟩
  · exact valid_start.loadSettings hsettings
  · exact (valid_start.loadFrom hloader hloaded).loadSettings hsettings

/-- Its layers are valid after any calls. -/
theorem valid_of_reached (h : Reached l) : l.Valid := by
  induction h with
  | created hloader h => exact valid_of_create hloader h
  | called _ hcall ih => exact ih.apply hcall

/-! ### The filter of a manager -/

/-- The predicate of modification times of a section, by local clocks at an instant, names a date and time that is beyond
the calendar. -/
def Late (entries : Entries) (rules : Zone.Rules) (now : Int) : Prop :=
  ∃ t, field entries Key.mtime = .text t ∧ Clock.BeyondIn { zone := .local rules, now } t

/-- What becomes of a filter that a valid section describes, in a session at an instant. -/
inductive Makes (entries : Entries) (s : Session) (now : Int) : Except Failure Sieve → Prop
  /-- It is made. -/
  | filter (f : Sieve) : ¬Late entries s.rules now → Makes entries s now (.ok f)
  /-- A predicate cannot be read. -/
  | unreadable {e : FileSieve.Failure} : Unreadable e → Makes entries s now (.error (.filter e))
  /-- A time is beyond the calendar. -/
  | late : Late entries s.rules now → Makes entries s now (.error (.filter (.time (.misuse .dateOverflow))))
  /-- Every step is reported, but a value of the open contexts cannot be written. -/
  | refused {m : Misuse} : s.board.Refuses Log.rulesLogger .debug m → Makes entries s now (.error (.misuse m))

theorem makes_of_explained {entries : Entries} {s : Session} {now : Int} {setting : Setting} {f : Sieve} {clock : Clock}
    (h : Sieve.Explained clock (Late entries s.rules now) setting)
    (hset : setting.failure = none → ¬Late entries s.rules now) :
    Makes entries s now (sieveOf (setting.reported f s.board).2) := by
  have hrefused {s' : Setting} (hfailure : ∃ m, s'.failure = some (.misuse m) ∧ s.board.Refuses Log.rulesLogger .debug m) :
      Makes entries s now (sieveOf s') := by
    obtain ⟨m, hfailure, hrefuses⟩ := hfailure
    rw [sieveOf, hfailure]
    exact .refused hrefuses
  obtain ⟨heq, -⟩ | ⟨-, -, hfailure⟩ | ⟨-, -, -, -, hfailure⟩ := setting.reported_cases f s.board
  · rw [heq, sieveOf]
    split
    · next hfailure => exact .filter _ (hset hfailure)
    · next e hfailure =>
      rcases h.failure e hfailure with hunreadable | ⟨rfl, hlate⟩
      · have hkept : Failure.ofFilter e = .filter e := by cases hunreadable <;> rfl
        exact hkept ▸ .unreadable hunreadable
      · exact .late hlate
  · exact hrefused hfailure
  · exact hrefused hfailure

/-- By local clocks that are always ahead of UTC by the same, or at it, no time is beyond the calendar. -/
theorem not_late_of_ahead {rules : Zone.Rules} {n : Int} (hn : 0 ≤ n) (hsteady : ∀ second, rules.ahead second = n)
    (entries : Entries) (now : Int) : ¬Late entries rules now := by
  rintro ⟨t, -, -, part, -, -, -, hbeyond, -⟩
  exact Clock.not_beyond_of_ahead hn hsteady now part.2 hbeyond

/-- However a manager has been made and called, its section of the filter is valid, and if its integers and digits in a
row are not too long, then it makes a filter in any session and at any instant, unless one of its predicates cannot be read
or names a time beyond the calendar, or a step is reported that cannot be. By local clocks that are always ahead of UTC by
the same, or at it, there is no such time. -/
theorem filter_of_reached (h : Reached l) : ∃ entries, l.filterConfig = .dict entries ∧
    checkFilterEntries entries = .ok () ∧
    ((∀ entry ∈ entries, entry.2.ShortNumbers) → ∀ (s : Session) (number : Nat), s.manager number = l →
      ∀ now, Makes entries s now (s.sieve number now).2) ∧
    ∀ (rules : Zone.Rules) (n : Int), 0 ≤ n → (∀ second, rules.ahead second = n) → ∀ now, ¬Late entries rules now := by
  have hvalid := (valid_of_reached h).filterConfig
  obtain ⟨entries, hentries⟩ := Value.exists_dict (kind_of_checkFilter hvalid)
  rw [hentries] at hvalid
  refine ⟨entries, hentries, hvalid, fun hshort s number hmanager now => ?_,
    fun rules n hn hsteady => not_late_of_ahead hn hsteady entries⟩
  obtain ⟨hexplained, hset⟩ := Sieve.explained_ofSection hvalid hshort { zone := .local s.rules, now }
  rw [Session.sieve, hmanager, setting, hentries]
  exact makes_of_explained hexplained hset

/-- A manager without a file and an environment that has been given a predicate. -/
def withPredicate (key : Text) (predicate : Text) : Layers :=
  ((Call.loadDict (.dict (rooted [(.text Key.filter, .dict [(.text key, .text predicate)])])) .runtime []).apply {}).1

theorem reached_withPredicate (key predicate : Text) : Reached (withPredicate key predicate) :=
  reached_start.called (by simp [Call.Proper, rooted, Entries.Proper, Value.Proper, Entries.get?_nil])

/-- The section of the filter with predicates of sizes and of modification times. -/
def sectionOf (size mtime : Value) : Entries :=
  [(.text Key.separator, .text "/"), (.text Key.caseFold, .bool true), (.text Key.whitelist, .list []),
    (.text Key.blacklist, .list []), (.text Key.nameRegex, .none), (.text Key.nameRegexFlags, .list []),
    (.text Key.size, size), (.text Key.mtime, mtime)]

theorem shortNumbers_sectionOf {size mtime : Value} (hsize : size.ShortNumbers) (hmtime : mtime.ShortNumbers) :
    ∀ entry ∈ sectionOf size mtime, entry.2.ShortNumbers := by
  simp only [sectionOf, List.forall_mem_cons, List.not_mem_nil, IsEmpty.forall_iff, implies_true, and_true,
    Value.ShortNumbers, true_and]
  exact ⟨shortRuns_of_length (by decide), hsize, hmtime⟩

/-- A session with one manager and local clocks, where nothing has been logged. -/
def sessionOf (rules : Zone.Rules) (l : Layers) : Session :=
  { Session.fresh with rules, managers := [l] }

/-- A predicate of sizes makes a filter, or it cannot be read. -/
theorem filter_of_reached_sized : Reached (withPredicate Key.size "> 1MB") ∧
    (withPredicate Key.size "> 1MB").filterConfig = .dict (sectionOf (.text "> 1MB") .none) ∧
    (∀ entry ∈ sectionOf (.text "> 1MB") .none, entry.2.ShortNumbers) ∧
    checkFilterEntries (sectionOf (.text "> 1MB") .none) = .ok () ∧
    (∀ now, Makes (sectionOf (.text "> 1MB") .none) (sessionOf .utc (withPredicate Key.size "> 1MB")) now
      ((sessionOf .utc (withPredicate Key.size "> 1MB")).sieve 0 now).2) ∧
    ∀ now, ¬Late (sectionOf (.text "> 1MB") .none) .utc now := by
  have hreached := reached_withPredicate Key.size "> 1MB"
  have hconfig : (withPredicate Key.size "> 1MB").filterConfig = .dict (sectionOf (.text "> 1MB") .none) := by
    with_unfolding_all rfl
  have hshort : ∀ entry ∈ sectionOf (.text "> 1MB") .none, entry.2.ShortNumbers :=
    shortNumbers_sectionOf (shortRuns_of_length (by decide)) trivial
  obtain ⟨entries, hentries, hvalid, hmakes, hahead⟩ := filter_of_reached hreached
  obtain rfl := Value.dict.inj (hconfig.symm.trans hentries)
  exact ⟨hreached, hconfig, hshort, hvalid, hmakes hshort _ 0 rfl, hahead .utc 0 le_rfl fun _ => rfl⟩

/-- Local clocks that are five hours behind UTC. -/
def behind : Zone.Rules where
  ahead _ := -18000
  ahead_lt _ := by decide

/-- There a time in the last hours of the calendar is valid in a section, but no filter can be made of it, and not because
it cannot be read. -/
theorem late_time_escapes : Reached (withPredicate Key.mtime ">= 9999-12-31 23:00") ∧
    (withPredicate Key.mtime ">= 9999-12-31 23:00").filterConfig =
      .dict (sectionOf .none (.text ">= 9999-12-31 23:00")) ∧
    (∀ entry ∈ sectionOf .none (.text ">= 9999-12-31 23:00"), entry.2.ShortNumbers) ∧
    ¬((∃ f, ((sessionOf behind (withPredicate Key.mtime ">= 9999-12-31 23:00")).sieve 0 0).2 = .ok f) ∨
      ∃ e, ((sessionOf behind (withPredicate Key.mtime ">= 9999-12-31 23:00")).sieve 0 0).2 = .error (.filter e) ∧
        Unreadable e) := by
  have hconfig : (withPredicate Key.mtime ">= 9999-12-31 23:00").filterConfig =
      .dict (sectionOf .none (.text ">= 9999-12-31 23:00")) := by
    with_unfolding_all rfl
  have hfailure : (Sieve.ofSection { zone := .local behind, now := 0 }
      (.dict (sectionOf .none (.text ">= 9999-12-31 23:00")))).failure = some (.time (.misuse .dateOverflow)) := by
    decide +kernel
  have hsieve : ((sessionOf behind (withPredicate Key.mtime ">= 9999-12-31 23:00")).sieve 0 0).2 =
      .error (.filter (.time (.misuse .dateOverflow))) := by
    have hmanager : (sessionOf behind (withPredicate Key.mtime ">= 9999-12-31 23:00")).manager 0 =
        withPredicate Key.mtime ">= 9999-12-31 23:00" := rfl
    have hquiet (m : Misuse) : ¬Session.fresh.board.Refuses Log.rulesLogger .debug m := fun h => absurd h.1 (by decide)
    rw [Session.sieve, hmanager, setting, hconfig]
    obtain ⟨heq, -⟩ | ⟨-, -, m, -, hrefuses⟩ | ⟨hok, -⟩ := (Sieve.ofSection { zone := .local behind, now := 0 }
      (.dict (sectionOf .none (.text ">= 9999-12-31 23:00")))).reported_cases
        { clock := { zone := .local behind, now := 0 } } Session.fresh.board
    · exact (congrArg sieveOf heq).trans (by rw [sieveOf, hfailure]; rfl)
    · exact absurd hrefuses (hquiet m)
    · cases hfailure.symm.trans hok
  refine ⟨reached_withPredicate _ _, hconfig, shortNumbers_sectionOf trivial (shortRuns_of_length (by decide)), ?_⟩
  rw [hsieve]
  rintro (⟨f, hf⟩ | ⟨e, he, hunreadable⟩)
  · cases hf
  · cases he
    cases hunreadable

end Layers

end FileSieve.Config
