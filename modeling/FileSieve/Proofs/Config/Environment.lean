import FileSieve.Document.Reading
import FileSieve.Proofs.Config.Loading
import FileSieve.Proofs.Config.Position
import FileSieve.Proofs.Config.Root
import FileSieve.Proofs.Number.Reading

/-!
# Variables that do not go together

The variables of the environment are put into one dictionary, one after the other, each at the path in its name. This
fails where the path of a variable goes on beyond that of an earlier one, since that one has put a value there which is
no dictionary, and nowhere else (`entries_ok_iff`). The other order of the two does not fail: the later value takes the
place of the whole dictionary.

What has been put together is then loaded as any configuration is. It has texts for keys and no sequences in it, so that
every fault of it has a reason. So a manager is made, or the environment is refused with a reason, unless two of its
variables clash in this way (`create_environment`); and then the failure is none of a configuration.
-/

namespace FileSieve

/-! ### A value at the end of a path -/

namespace Entries

variable {entries after : Entries} {value : Value} {path q : List Text}

/-- A path goes on beyond another one. -/
def Beyond (p q : List Text) : Prop :=
  p <+: q ∧ p ≠ q

theorem beyond_nil (p : List Text) : ¬Beyond p [] := by
  rintro ⟨hbegins, hne⟩
  exact hne (List.prefix_nil.mp hbegins)

theorem beyond_cons_iff {k t : Text} {p q : List Text} : Beyond (k :: p) (t :: q) ↔ k = t ∧ Beyond p q := by
  simp only [Beyond, List.cons_prefix_cons, ne_eq, List.cons.injEq, not_and]
  tauto

theorem beyond_singleton_iff {k t : Text} {q : List Text} : Beyond [k] (t :: q) ↔ k = t ∧ q ≠ [] := by
  rw [beyond_cons_iff, Beyond]
  simp [eq_comm]

/-- One step on the way to the end of a path: another value stands in the way, or the way goes on in a dictionary, in which
the same paths are blocked. It is an empty one if there was nothing. -/
theorem assign_step (value : Value) (key next : Text) (path : List Text) (entries : Entries) :
    (∃ other left, other.kind ≠ .dict ∧ (∀ k q, (Value.dict entries).mention (.text key :: k :: q) = .blocked) ∧
      entries.assign value (key :: next :: path) = .error (blocked other left)) ∨
    ∃ inner : Entries,
      (∀ q, (Value.dict entries).mention (.text key :: q) = .blocked ↔ (Value.dict inner).mention q = .blocked) ∧
      entries.assign value (key :: next :: path) =
        (assign value (next :: path) inner).map fun made => entries.insert (.text key) (.dict made) := by
  rw [assign]
  cases hget : entries.get? (.text key) with
  | none =>
    refine .inr ⟨[], fun q => ?_, ?_⟩
    · rw [Value.mention, hget]
      cases q <;> simp [Value.mention, get?_nil]
    · cases assign value (next :: path) [] <;> rfl
  | some inner =>
    by_cases hkind : inner.kind = .dict
    · obtain ⟨inner, rfl⟩ := Value.exists_dict hkind
      refine .inr ⟨inner, fun q => by rw [Value.mention, hget], ?_⟩
      show (assign value (next :: path) inner >>= _) = _
      cases assign value (next :: path) inner <;> rfl
    · refine .inl ⟨inner, path.length + 1, hkind, fun k q => ?_, ?_⟩
      · rw [Value.mention, hget]
        exact Value.mention_blocked hkind
      · cases inner with
        | dict inner => exact absurd rfl hkind
        | _ => rfl

theorem mention_singleton_ne_blocked (key : Value) : (Value.dict entries).mention [key] ≠ .blocked := by
  rw [Value.mention]
  cases entries.get? key <;> simp [Value.mention]

/-- A value can be put at the end of a path unless another value stands in the way. -/
theorem assign_cases (value : Value) (path : List Text) (entries : Entries) :
    ((Value.dict entries).mention (path.map .text) ≠ .blocked ∧ ∃ after, entries.assign value path = .ok after) ∨
      ((Value.dict entries).mention (path.map .text) = .blocked ∧
        ∃ other left, other.kind ≠ .dict ∧ entries.assign value path = .error (blocked other left)) := by
  induction path generalizing entries with
  | nil => exact .inl ⟨nofun, entries, rfl⟩
  | cons key path ih =>
    cases path with
    | nil => exact .inl ⟨mention_singleton_ne_blocked _, _, rfl⟩
    | cons next path =>
      rcases assign_step value key next path entries with ⟨other, left, hother, hblocked, hassign⟩ | ⟨inner, hsame, hassign⟩
      · exact .inr ⟨hblocked _ _, other, left, hother, hassign⟩
      · rw [hassign, List.map_cons, ne_eq, hsame]
        rcases ih inner with ⟨hfree, made, hmade⟩ | ⟨hblocked, other, left, hother, hmade⟩
        · exact .inl ⟨hfree, _, by rw [hmade]; rfl⟩
        · exact .inr ⟨hblocked, other, left, hother, by rw [hmade]; rfl⟩

/-- Where a value has been put that is no dictionary, the paths are blocked that go on beyond it, and those that were. -/
theorem mention_assign_blocked_iff (hvalue : value.kind ≠ .dict) (hpath : path ≠ [])
    (h : entries.assign value path = .ok after) (q : List Text) :
    (Value.dict after).mention (q.map .text) = .blocked ↔
      Beyond path q ∨ (Value.dict entries).mention (q.map .text) = .blocked := by
  induction path generalizing entries after q with
  | nil => exact absurd rfl hpath
  | cons key path ih =>
    cases q with
    | nil => simp [Value.mention, beyond_nil]
    | cons t q =>
      rw [List.map_cons]
      cases path with
      | nil =>
        obtain rfl := Except.ok.inj h
        rw [beyond_singleton_iff]
        by_cases ht : t = key
        · subst ht
          rw [mention_insert_self]
          cases q with
          | nil => simp [Value.mention.eq_1, mention_singleton_ne_blocked]
          | cons t' q => simp [Value.mention_blocked hvalue]
        · rw [mention_insert_of_ne ht]
          simp [Ne.symm ht]
      | cons next path =>
        rw [beyond_cons_iff]
        rcases assign_step value key next path entries with ⟨other, left, -, -, hassign⟩ | ⟨inner, hsame, hassign⟩
        · rw [hassign] at h
          cases h
        · rw [hassign] at h
          obtain ⟨made, hmade, rfl⟩ := map_eq_ok.mp h
          by_cases ht : t = key
          · subst ht
            rw [mention_insert_self, hsame, ih (List.cons_ne_nil _ _) hmade]
            simp
          · rw [mention_insert_of_ne ht]
            simp [Ne.symm ht]

end Entries

namespace Config.Environment

open Entries (Beyond)

variable {entries after : Entries} {before : List (List Text)} {settings : List (Text × Text)} {t : Text}

/-! ### Variables one after the other -/

/-- The paths of variables, in the order of the variables. -/
def paths (settings : List (Text × Text)) : List (List Text) :=
  settings.filterMap fun setting => path? setting.1

/-- Of two paths the later one goes on beyond the earlier one. -/
def Clash (paths : List (List Text)) : Prop :=
  ∃ p q, [p, q].Sublist paths ∧ Beyond p q

theorem not_clash_iff {paths : List (List Text)} : ¬Clash paths ↔ paths.Pairwise fun p q => ¬Beyond p q := by
  rw [List.pairwise_iff_forall_sublist, Clash]
  simp only [not_exists, not_and]

theorem kind_value (t : Text) : (value t).kind ≠ .dict := by
  simp only [value]
  split_ifs
  · nofun
  · nofun
  · split <;> nofun

theorem splitWalk_ne_nil (sep t part : Text) (skip : Nat) : Text.splitWalk sep t part skip ≠ [] := by
  induction t generalizing part skip with
  | nil => simp [Text.splitWalk]
  | cons c t ih =>
    cases skip with
    | succ skip => exact ih part skip
    | zero =>
      rw [Text.splitWalk]
      split_ifs
      · exact List.cons_ne_nil _ _
      · exact ih _ _

theorem path_ne_nil {name : Text} {path : List Text} (h : path? name = some path) : path ≠ [] := by
  unfold path? at h
  split_ifs at h
  rw [← Option.some.inj h]
  exact splitWalk_ne_nil _ _ _ _

theorem entriesWith_of_none {setting : Text × Text} (h : path? setting.1 = none) (entries : Entries) :
    entriesWith entries setting = .ok entries := by
  rw [entriesWith, h]

theorem entriesWith_of_some {setting : Text × Text} {path : List Text} (h : path? setting.1 = some path)
    (entries : Entries) : entriesWith entries setting = entries.assign (value setting.2) path := by
  rw [entriesWith, h]

/-- Dictionaries in which those paths are blocked that go on beyond one of the paths of variables. -/
def BlockedBeyond (paths : List (List Text)) (entries : Entries) : Prop :=
  ∀ q : List Text, (Value.dict entries).mention (q.map .text) = .blocked ↔ ∃ p ∈ paths, Beyond p q

theorem blockedBeyond_nil : BlockedBeyond [] [] := by
  intro q
  cases q <;> simp [Value.mention, Entries.get?_nil]

/-- Putting variables together succeeds exactly as long as none of them goes on beyond one of those before it. -/
theorem foldlM_ok_iff (h : BlockedBeyond before entries) (hbefore : before.Pairwise fun p q => ¬Beyond p q)
    (settings : List (Text × Text)) : (∃ after, settings.foldlM entriesWith entries = .ok after) ↔
      (before ++ paths settings).Pairwise fun p q => ¬Beyond p q := by
  induction settings generalizing entries before with
  | nil => simpa [paths] using ⟨fun _ => hbefore, fun _ => ⟨entries, rfl⟩⟩
  | cons setting settings ih =>
    rw [List.foldlM_cons]
    cases hpath : path? setting.1 with
    | none =>
      have hpaths : paths (setting :: settings) = paths settings := List.filterMap_cons_none hpath
      rw [entriesWith_of_none hpath, hpaths]
      exact ih h hbefore
    | some path =>
      have hpaths : paths (setting :: settings) = path :: paths settings := List.filterMap_cons_some hpath
      rw [entriesWith_of_some hpath, hpaths]
      rcases entries.assign_cases (value setting.2) path with ⟨hfree, made, hmade⟩ | ⟨hblocked, other, left, -, hmade⟩
      · rw [hmade, List.append_cons]
        rw [ne_eq, h path, not_exists] at hfree
        refine ih (fun q => ?_) ?_
        · rw [Entries.mention_assign_blocked_iff (kind_value _) (path_ne_nil hpath) hmade, h q]
          simp [or_comm]
        · rw [List.pairwise_append]
          exact ⟨hbefore, List.pairwise_singleton _ _, by simpa using hfree⟩
      · rw [hmade]
        obtain ⟨p, hp, hbeyond⟩ := (h path).mp hblocked
        refine iff_of_false (by rintro ⟨after, hafter⟩; cases hafter) fun hall => ?_
        exact (List.pairwise_append.mp hall).2.2 p hp path List.mem_cons_self hbeyond

theorem entries_ok_iff (settings : List (Text × Text)) :
    (∃ after, Environment.entries settings = .ok after) ↔ ¬Clash (paths settings) := by
  rw [not_clash_iff]
  exact foldlM_ok_iff blockedBeyond_nil .nil settings

/-- It fails only because a value that is no dictionary stands in the way. -/
theorem foldlM_error {m : Misuse} (h : settings.foldlM entriesWith entries = .error m) :
    ∃ other left, other.kind ≠ .dict ∧ m = Entries.blocked other left := by
  induction settings generalizing entries with
  | nil => cases h
  | cons setting settings ih =>
    rw [List.foldlM_cons] at h
    cases hpath : path? setting.1 with
    | none =>
      rw [entriesWith_of_none hpath] at h
      exact ih h
    | some path =>
      rw [entriesWith_of_some hpath] at h
      rcases entries.assign_cases (value setting.2) path with ⟨-, made, hmade⟩ | ⟨-, other, left, hother, hmade⟩
      · rw [hmade] at h
        exact ih h
      · rw [hmade] at h
        exact ⟨other, left, hother, (Except.error.inj h).symm⟩

end Config.Environment

/-! ### What variables can set -/

mutual

/-- A value that variables can set: texts, truth values, numbers that can be written, and dictionaries of them with texts
for keys. -/
def Value.Settable : Value → Prop
  | .int n => ¬TooLong n
  | .bool _ | .float _ | .text _ => True
  | .dict entries => Entries.Settable entries
  | _ => False

/-- Entries with texts for keys, with such values. -/
def Entries.Settable : List (Value × Value) → Prop
  | [] => True
  | (key, value) :: entries => key.kind = .text ∧ value.Settable ∧ Entries.Settable entries

end

namespace Entries

variable {entries after : Entries} {value key : Value} {path : List Text}

theorem settable_nil : Entries.Settable [] := by
  rw [Entries.Settable]
  trivial

theorem settable_cons_iff : Entries.Settable ((key, value) :: entries) ↔
    key.kind = .text ∧ value.Settable ∧ Entries.Settable entries := by
  rw [Entries.Settable]

theorem settable_dict_iff : (Value.dict entries).Settable ↔ Entries.Settable entries := by
  rw [Value.Settable]

theorem Settable.of_get? (h : Entries.Settable entries) (hget : entries.get? key = some value) : value.Settable := by
  induction entries with
  | nil => cases hget
  | cons entry entries ih =>
    obtain ⟨-, hvalue, hrest⟩ := settable_cons_iff.mp h
    rw [get?_cons] at hget
    split_ifs at hget
    · rwa [← Option.some.inj hget]
    · exact ih hrest hget

theorem Settable.insert (h : Entries.Settable entries) (hkey : key.kind = .text) (hvalue : value.Settable) :
    Entries.Settable (entries.insert key value) := by
  induction entries with
  | nil => exact settable_cons_iff.mpr ⟨hkey, hvalue, h⟩
  | cons entry entries ih =>
    obtain ⟨hfirst, hheld, hrest⟩ := settable_cons_iff.mp h
    rw [Entries.insert]
    split_ifs
    · exact settable_cons_iff.mpr ⟨hfirst, hvalue, hrest⟩
    · exact settable_cons_iff.mpr ⟨hfirst, hheld, ih hrest⟩

theorem Settable.assign (h : Entries.Settable entries) (hvalue : value.Settable)
    (hassign : entries.assign value path = .ok after) : Entries.Settable after :=
  assign_keeps settable_nil (fun _ h => h.insert rfl hvalue) (fun _ h hinner => h.insert rfl (settable_dict_iff.mpr hinner))
    (fun h hget => settable_dict_iff.mp (h.of_get? hget)) h hassign

theorem Settable.kind_key (h : Entries.Settable entries) : ∀ entry ∈ entries, entry.1.kind = .text := by
  induction entries with
  | nil => simp
  | cons entry entries ih =>
    obtain ⟨hkey, -, hrest⟩ := settable_cons_iff.mp h
    exact List.forall_mem_cons.mpr ⟨hkey, ih hrest⟩

end Entries

mutual

theorem Value.Settable.writable {value : Value} (h : value.Settable) : value.Writable := by
  match value with
  | .int n => rwa [Value.Settable] at h
  | .dict entries =>
    rw [Value.Settable] at h
    exact Entries.Settable.writable h
  | .bool _ | .float _ | .text _ => trivial

theorem Entries.Settable.writable {entries : Entries} (h : Entries.Settable entries) :
    Value.WritableEntries entries := by
  match entries with
  | [] => trivial
  | (key, value) :: entries =>
    obtain ⟨hkey, hvalue, hrest⟩ := Entries.settable_cons_iff.mp h
    obtain ⟨t, rfl⟩ := Value.kind_eq_text_iff.mp hkey
    exact ⟨trivial, Value.Settable.writable hvalue, Entries.Settable.writable hrest⟩

end

namespace Config

namespace Environment

variable {entries : Entries} {settings : List (Text × Text)}

theorem settable_value (t : Text) : (value t).Settable := by
  simp only [value]
  split_ifs
  · trivial
  · trivial
  · split
    · rename_i n hn
      exact not_tooLong_of_toInt hn
    · trivial
    · trivial

theorem settable_entriesWith {after : Entries} {setting : Text × Text} (hentries : Entries.Settable entries)
    (h : entriesWith entries setting = .ok after) : Entries.Settable after := by
  unfold entriesWith at h
  split at h
  · rwa [← Except.ok.inj h]
  · exact hentries.assign (settable_value _) h

theorem settable_entries (h : Environment.entries settings = .ok entries) : Entries.Settable entries :=
  foldlM_keeps (fun _ _ _ hbase hnext => settable_entriesWith hbase hnext) Entries.settable_nil h

/-- The section of the filter that variables set has no keys and no modifiers that are no texts. -/
theorem not_unjoinableIn (h : Entries.Settable entries) : ¬UnjoinableIn (.dict (rooted entries)) := by
  rintro ⟨outer, inner, filter, houter, hinner, hfilter, hunjoinable⟩
  obtain rfl := Value.dict.inj houter
  rw [sections_rooted] at hinner
  obtain rfl := Value.dict.inj hinner
  have hsection := Entries.settable_dict_iff.mp (h.of_get? hfilter)
  cases hunjoinable with
  | key hentry hkind => exact hkind (hsection.kind_key _ hentry)
  | modifier _ _ hlist _ _ =>
    rw [field] at hlist
    cases hget : Entries.get? filter (.text Key.nameRegexFlags) with
    | none => simp [hget] at hlist
    | some value =>
      have hvalue := hsection.of_get? hget
      rw [hget, Option.getD_some] at hlist
      rw [hlist] at hvalue
      exact hvalue

end Environment

/-! ### Making a manager -/

namespace Layers

variable {settings : List (Text × Text)}

/-- What variables set is loaded, or refused with a reason. -/
theorem loadValue_settable {entries : Entries} (h : Entries.Settable entries) (l : Layers) :
    (∃ l', l.loadValue (.dict (rooted entries)) .environment = .ok l') ∨
      ∃ reason, l.loadValue (.dict (rooted entries)) .environment = .error (.invalid reason) := by
  have hwritable : (Value.dict (rooted entries)).Writable := ⟨trivial, h.writable, trivial⟩
  cases hcheck : check (.dict (rooted entries)) with
  | ok => exact .inl ⟨_, by rw [loadValue, load_eq_ok_iff.mpr ⟨hcheck, _, rfl, rfl⟩]; rfl⟩
  | error e =>
    cases e with
    | invalid reason => exact .inr ⟨reason, by rw [loadValue, load, hcheck]; rfl⟩
    | misuse m => exact absurd ((check_misuse_iff hwritable).mp ⟨m, hcheck⟩) (Environment.not_unjoinableIn h)

/-- Variables that do not clash are loaded or refused with a reason; those that clash fail without one. -/
theorem loadSettings_cases (l : Layers) (settings : List (Text × Text)) :
    (¬Environment.Clash (Environment.paths (Environment.ofList settings)) ∧
      ((∃ l', l.loadSettings settings = .ok l') ∨ ∃ reason, l.loadSettings settings = .error (.invalid reason))) ∨
    (Environment.Clash (Environment.paths (Environment.ofList settings)) ∧ ∃ other left, other.kind ≠ .dict ∧
      l.loadSettings settings = .error (.misuse (Entries.blocked other left))) := by
  cases hentries : Environment.entries (Environment.ofList settings) with
  | ok entries =>
    refine .inl ⟨(Environment.entries_ok_iff _).mp ⟨_, hentries⟩, ?_⟩
    rw [loadSettings, hentries]
    cases entries with
    | nil => exact .inl ⟨l, rfl⟩
    | cons entry entries => exact loadValue_settable (Environment.settable_entries hentries) l
  | error m =>
    obtain ⟨other, left, hother, rfl⟩ := Environment.foldlM_error hentries
    refine .inr ⟨?_, other, left, hother, by rw [loadSettings, hentries]; rfl⟩
    by_contra hfree
    obtain ⟨entries, hok⟩ := (Environment.entries_ok_iff _).mpr hfree
    rw [hentries] at hok
    cases hok

/-- A manager is made of an environment, or the environment is refused with a reason, exactly as long as no variable has
a path that goes on beyond the path of an earlier one. Otherwise the failure is that of working with a value which is no
dictionary as with one. -/
theorem create_environment (s : Session) (settings : List (Text × Text)) :
    (¬Environment.Clash (Environment.paths (Environment.ofList settings)) →
      (∃ l, s.create .none settings = ({ s with managers := s.managers ++ [l] }, .ok s.managers.length)) ∨
      ∃ reason, s.create .none settings = (s, .error (.invalid reason))) ∧
    (Environment.Clash (Environment.paths (Environment.ofList settings)) →
      ∃ other left, other.kind ≠ .dict ∧
        s.create .none settings = (s, .error (.misuse (Entries.blocked other left)))) := by
  rcases loadSettings_cases {} settings with ⟨hfree, hloaded⟩ | ⟨hclash, other, left, hother, hfailed⟩
  · refine ⟨fun _ => ?_, fun hclash => absurd hclash hfree⟩
    rcases hloaded with ⟨l, hloaded⟩ | ⟨reason, hrefused⟩
    · exact .inl ⟨l, by simp [Session.create, Session.begin, Value.truth, hloaded]⟩
    · exact .inr ⟨reason, by simp [Session.create, Session.begin, Value.truth, hrefused]⟩
  · refine ⟨fun hfree => absurd hclash hfree, fun _ => ⟨other, left, hother, ?_⟩⟩
    simp [Session.create, Session.begin, Value.truth, hfailed]

/-- A value for a whole section is refused with a reason behind a value for one of its keys, but in front of it another
failure leaves the manager unmade. -/
theorem section_before_key :
    (Session.create { loader := Document.read, board := { storage := { root := "/" }, stamp := [] } } .none
      [("FILEFILTER_FILTER__SIZE", "1"), ("FILEFILTER_FILTER", "x")]).2 = .error (.invalid .filterNotDict) ∧
    (Session.create { loader := Document.read, board := { storage := { root := "/" }, stamp := [] } } .none
      [("FILEFILTER_FILTER", "x"), ("FILEFILTER_FILTER__SIZE", "1")]).2 = .error (.misuse (.notAssignable .text)) :=
  ⟨by decide +kernel, by decide +kernel⟩

end Layers

end Config

end FileSieve
