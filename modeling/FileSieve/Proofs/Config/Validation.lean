import FileSieve.Proofs.Config.Merge
import FileSieve.Proofs.Config.Sorted

/-!
# What is valid, and what cannot be looked at

The section of the filter is looked at by one check after the other, and but for the first each of them looks at one key
(`checkFilterEntries_eq`). A check refuses a value of any kind with a reason, with two exceptions, both of them where
texts are joined: the keys that are not known, for the reason itself, and the modifiers that are given as a list
(`Unjoinable`). So a configuration that can be written is judged unless its section of the filter has such a key or such
a list, and the latter is come to (`check_misuse_iff`).
-/

namespace FileSieve.Config

variable {entries base upper : Entries} {key : Text} {value : Value} {v : Verdict} {vs before after : List Verdict}

/-! ### Verdicts -/

/-- Success, or a reason. -/
def Judged (v : Verdict) : Prop :=
  ∀ m, v ≠ .error (.misuse m)

theorem judged_ok : Judged (.ok ()) := fun _ => nofun

theorem judged_refuse (reason : Invalid) : Judged (refuse reason) := fun _ => nofun

/-- Checks one after the other, as long as they succeed. -/
def inTurn : List Verdict → Verdict
  | [] => .ok ()
  | v :: rest => v >>= fun _ => inTurn rest

theorem inTurn_ok_iff : inTurn vs = .ok () ↔ ∀ v ∈ vs, v = .ok () := by
  induction vs with
  | nil => exact ⟨fun _ => List.forall_mem_nil _, fun _ => rfl⟩
  | cons v vs ih =>
    rw [inTurn, bind_eq_ok, List.forall_mem_cons, ← ih]
    exact ⟨fun ⟨⟨⟩, hv, hvs⟩ => ⟨hv, hvs⟩, fun ⟨hv, hvs⟩ => ⟨(), hv, hvs⟩⟩

/-- Checks that give a verdict give one together, -/
theorem judged_inTurn (h : ∀ v ∈ vs, Judged v) : Judged (inTurn vs) := by
  induction vs with
  | nil => exact judged_ok
  | cons v vs ih =>
    obtain ⟨hv, hvs⟩ := List.forall_mem_cons.mp h
    cases v with
    | ok => exact ih hvs
    | error e => exact hv

/-- one in front of them can fail otherwise, -/
theorem inTurn_cons_misuse_iff (hafter : ∀ v ∈ after, Judged v) {m : Misuse} :
    inTurn (v :: after) = .error (.misuse m) ↔ v = .error (.misuse m) := by
  cases v with
  | ok => exact ⟨fun h => absurd h (judged_inTurn hafter m), nofun⟩
  | error e => exact Iff.rfl

/-- and one between them if those before it succeed. -/
theorem inTurn_misuse_iff (hbefore : ∀ v ∈ before, Judged v) (hafter : ∀ v ∈ after, Judged v) {m : Misuse} :
    inTurn (before ++ v :: after) = .error (.misuse m) ↔ (∀ u ∈ before, u = .ok ()) ∧ v = .error (.misuse m) := by
  induction before with
  | nil =>
    rw [List.nil_append, inTurn_cons_misuse_iff hafter]
    exact ⟨fun h => ⟨List.forall_mem_nil _, h⟩, fun h => h.2⟩
  | cons u before ih =>
    obtain ⟨hu, hbefore⟩ := List.forall_mem_cons.mp hbefore
    rw [List.forall_mem_cons, and_assoc, ← ih hbefore]
    cases u with
    | ok => exact ⟨fun h => ⟨rfl, h⟩, fun h => h.2⟩
    | error e => exact ⟨fun h => absurd h (hu m), fun h => nomatch h.1⟩

/-! ### Single keys -/

/-- The separators are valid, if they are there. -/
def checkSeparatorOf (entries : Entries) : Verdict :=
  match field entries Key.separator with
  | .none => .ok ()
  | value => checkSeparator value

/-- The modifiers are valid, if there are any. -/
def checkModifiersOf (entries : Entries) : Verdict :=
  if (field entries Key.nameRegexFlags).truth then checkModifiers (field entries Key.nameRegexFlags) else .ok ()

/-- The checks of keys up to the regular expression of names, with the keys that they look at. -/
def firstChecks : List (Text × (Entries → Verdict)) :=
  [(Key.separator, checkSeparatorOf), (Key.caseFold, checkCaseFold), (Key.whitelist, (checkGlobsOf · Key.whitelist)),
    (Key.blacklist, (checkGlobsOf · Key.blacklist)), (Key.nameRegex, checkNameRegex)]

/-- The checks of the predicates. -/
def lastChecks : List (Text × (Entries → Verdict)) :=
  [(Key.size, (checkPredicateOf · Key.size)), (Key.mtime, (checkPredicateOf · Key.mtime))]

/-- The checks of single keys. -/
def fieldChecks : List (Text × (Entries → Verdict)) :=
  firstChecks ++ (Key.nameRegexFlags, checkModifiersOf) :: lastChecks

/-- What holds of each check of a key holds of all. -/
theorem forall_fieldChecks {p : Text → (Entries → Verdict) → Prop} : (∀ c ∈ fieldChecks, p c.1 c.2) ↔
    p Key.separator checkSeparatorOf ∧ p Key.caseFold checkCaseFold ∧ p Key.whitelist (checkGlobsOf · Key.whitelist) ∧
      p Key.blacklist (checkGlobsOf · Key.blacklist) ∧ p Key.nameRegex checkNameRegex ∧
      p Key.nameRegexFlags checkModifiersOf ∧ p Key.size (checkPredicateOf · Key.size) ∧
      p Key.mtime (checkPredicateOf · Key.mtime) := by
  simp only [fieldChecks, firstChecks, lastChecks, List.cons_append, List.nil_append, List.forall_mem_cons,
    List.not_mem_nil, IsEmpty.forall_iff, implies_true, and_true]

theorem bind_ok_unit (v : Verdict) : (v >>= fun _ => .ok ()) = v := by
  cases v <;> rfl

theorem checkFilterEntries_eq (entries : Entries) :
    checkFilterEntries entries = inTurn (checkKeys entries :: fieldChecks.map fun c => c.2 entries) := by
  unfold checkFilterEntries
  simp only [fieldChecks, firstChecks, lastChecks, List.map_cons, List.map_nil, List.cons_append, List.nil_append, inTurn,
    bind_ok_unit, checkSeparatorOf, checkModifiersOf]
  refine bind_congr fun _ => ?_
  cases (field entries Key.nameRegexFlags).truth <;> cases field entries Key.separator <;> rfl

theorem checkFilterEntries_ok_iff : checkFilterEntries entries = .ok () ↔
    checkKeys entries = .ok () ∧ ∀ c ∈ fieldChecks, c.2 entries = .ok () := by
  rw [checkFilterEntries_eq, inTurn_ok_iff, List.forall_mem_cons, List.forall_mem_map]

/-! ### What the checks say -/

theorem judged_checkGlob (value : Value) : Judged (checkGlob value) := by
  cases value with
  | text t =>
    rw [checkGlob]
    split_ifs
    · exact judged_refuse _
    · exact judged_refuse _
    · exact judged_refuse _
    · exact judged_ok
  | _ => exact judged_refuse _

theorem judged_forM {α : Type} {check : α → Verdict} (h : ∀ a, Judged (check a)) (items : List α) :
    Judged (items.forM check) := by
  induction items with
  | nil => exact judged_ok
  | cons a items ih =>
    rw [List.forM]
    have ha := h a
    cases hverdict : check a with
    | ok => exact ih
    | error e =>
      rw [hverdict] at ha
      exact ha

theorem judged_checkGlobs (value : Value) : Judged (checkGlobs value) := by
  cases value with
  | text t => exact judged_forM (fun glob => judged_checkGlob _) _
  | list globs => exact judged_forM judged_checkGlob globs
  | _ => exact judged_refuse _

theorem judged_checkGlobsOf (entries : Entries) (key : Text) : Judged (checkGlobsOf entries key) := by
  rw [checkGlobsOf]
  split
  · exact judged_ok
  · split
    · exact judged_refuse _
    · exact judged_checkGlobs _

theorem judged_checkSeparator (value : Value) : Judged (checkSeparator value) := by
  cases value with
  | text t =>
    rw [checkSeparator]
    split_ifs
    · exact judged_refuse _
    · exact judged_ok
  | _ => exact judged_refuse _

theorem judged_checkSeparatorOf (entries : Entries) : Judged (checkSeparatorOf entries) := by
  rw [checkSeparatorOf]
  split
  · exact judged_ok
  · exact judged_checkSeparator _

theorem judged_checkPredicate (name : Text) (value : Value) : Judged (checkPredicate name value) := by
  cases value with
  | int n => exact judged_ok
  | float x =>
    simp only [checkPredicate]
    split_ifs
    · exact judged_ok
    · exact judged_refuse _
  | text t =>
    simp only [checkPredicate]
    split_ifs
    · exact judged_refuse _
    · exact judged_ok
  | _ => exact judged_refuse _

theorem judged_checkPredicateOf (entries : Entries) (key : Text) : Judged (checkPredicateOf entries key) := by
  rw [checkPredicateOf]
  split
  · exact judged_ok
  · exact judged_checkPredicate _ _

theorem writable_field (h : Value.WritableEntries entries) (key : Text) : (field entries key).Writable := by
  rw [field]
  cases hget : entries.get? (.text key) with
  | none => trivial
  | some value => exact h.of_get? hget

theorem judged_checkCaseFold (h : Value.WritableEntries entries) : Judged (checkCaseFold entries) := by
  rw [checkCaseFold]
  split
  · exact judged_ok
  · exact judged_ok
  · rename_i value hvalue
    obtain ⟨t, ht⟩ := (h.of_get? hvalue).plain_ok
    rw [ht]
    exact judged_refuse _

theorem judged_checkNameRegex (h : Value.WritableEntries entries) : Judged (checkNameRegex entries) := by
  rw [checkNameRegex]
  split
  · exact judged_ok
  · exact judged_ok
  · obtain ⟨t, ht⟩ := (writable_field h Key.nameRegex).shown_ok
    rw [ht]
    exact judged_refuse _

theorem judged_checkLogging (h : value.Writable) : Judged (checkLogging value) := by
  cases value with
  | dict entries =>
    rw [checkLogging]
    split
    · exact judged_ok
    · obtain ⟨t, ht⟩ := (writable_field h Key.level).plain_ok
      rw [ht]
      simp only [look, Except.mapError, bind, Except.bind]
      split_ifs
      · exact judged_ok
      · exact judged_refuse _
  | _ => exact judged_refuse _

/-! ### Where texts are joined -/

theorem mem_unknownKeys : value ∈ unknownKeys entries ↔
    (∃ entry ∈ entries, entry.1 = value) ∧ ∀ known ∈ Key.filterKeys, value ≠ .text known := by
  simp only [unknownKeys, List.mem_filter, List.mem_map, Bool.not_eq_true', List.any_eq_false, Value.equal_text_iff, ne_eq]

theorem checkKeys_ok_iff :
    checkKeys entries = .ok () ↔ ∀ entry ∈ entries, ∃ known ∈ Key.filterKeys, entry.1 = .text known := by
  have hnone : checkKeys entries = .ok () ↔ unknownKeys entries = [] := by
    rw [checkKeys]
    split
    · rename_i hnil
      exact ⟨fun _ => hnil, fun _ => rfl⟩
    · rename_i hnil
      refine ⟨fun h => ?_, fun h => absurd h hnil⟩
      obtain ⟨values, -, h⟩ := bind_eq_ok.mp h
      obtain ⟨names, -, h⟩ := bind_eq_ok.mp h
      cases h
  rw [hnone, List.eq_nil_iff_forall_not_mem]
  constructor
  · intro h entry hentry
    by_contra hunknown
    exact h entry.1 (mem_unknownKeys.mpr ⟨⟨entry, hentry, rfl⟩, fun known hknown heq => hunknown ⟨known, hknown, heq⟩⟩)
  · intro h key hkey
    obtain ⟨⟨entry, hentry, rfl⟩, hunknown⟩ := mem_unknownKeys.mp hkey
    obtain ⟨known, hknown, heq⟩ := h entry hentry
    exact hunknown known hknown heq

/-- Keys that are not known are named, unless one of them is no text. -/
theorem checkKeys_misuse_iff :
    (∃ m, checkKeys entries = .error (.misuse m)) ↔ ∃ entry ∈ entries, entry.1.kind ≠ .text := by
  have htexts : (∀ key ∈ unknownKeys entries, key.kind = .text) ↔ ∀ entry ∈ entries, entry.1.kind = .text := by
    constructor
    · intro h entry hentry
      by_contra hkind
      refine hkind (h _ (mem_unknownKeys.mpr ⟨⟨entry, hentry, rfl⟩, fun known _ heq => hkind ?_⟩))
      rw [heq]
      rfl
    · intro h key hkey
      obtain ⟨⟨entry, hentry, rfl⟩, -⟩ := mem_unknownKeys.mp hkey
      exact h entry hentry
  have hfails : (∃ m, checkKeys entries = .error (.misuse m)) ↔ ¬∀ key ∈ unknownKeys entries, key.kind = .text := by
    rw [← joined_ok_iff, checkKeys]
    cases hkeys : unknownKeys entries with
    | nil => simp [sorted, Value.textItems, bind, Except.bind]
    | cons key rest =>
      cases hsorted : sorted (key :: rest) with
      | error m => simp [look, Except.mapError, bind, Except.bind, hsorted]
      | ok values =>
        cases hnames : Value.textItems 0 values with
        | error m => simp [look, Except.mapError, bind, Except.bind, hsorted, hnames]
        | ok names => simp [look, Except.mapError, bind, Except.bind, hsorted, hnames, refuse]
  rw [hfails, htexts]
  simp only [not_forall, exists_prop, ne_eq]

theorem judged_checkModifiers_of_letters {letters : Text} (h : lettersOf value = .ok letters) :
    Judged (checkModifiers value) := by
  rw [checkModifiers, h]
  simp only [bind, Except.bind]
  split
  · exact judged_ok
  · exact judged_refuse _

/-- Modifiers are judged, unless they are a list with an item that is no text. -/
theorem checkModifiers_misuse_iff : (∃ m, checkModifiers value = .error (.misuse m)) ↔
    ∃ items, value = .list items ∧ ∃ item ∈ items, item.kind ≠ .text := by
  cases value with
  | list items =>
    have htexts : (∃ ts, Value.textItems 0 items = .ok ts) ↔ ¬∃ item ∈ items, item.kind ≠ .text := by
      rw [Value.textItems_ok_iff]
      push Not
      rfl
    cases hitems : Value.textItems 0 items with
    | ok ts =>
      have hletters : lettersOf (.list items) = .ok ts.flatten := by
        rw [lettersOf, hitems]
        rfl
      refine ⟨fun ⟨m, hm⟩ => absurd hm (judged_checkModifiers_of_letters hletters m), ?_⟩
      rintro ⟨items', ⟨⟩, hitem⟩
      exact absurd hitem (htexts.mp ⟨ts, hitems⟩)
    | error m =>
      have hletters : checkModifiers (.list items) = .error (.misuse m) := by
        rw [checkModifiers, lettersOf, hitems]
        rfl
      refine ⟨fun _ => ⟨items, rfl, ?_⟩, fun _ => ⟨m, hletters⟩⟩
      by_contra hnone
      obtain ⟨ts, hts⟩ := htexts.mpr hnone
      rw [hitems] at hts
      cases hts
  | text t =>
    have hletters : lettersOf (.text t) = .ok t := rfl
    exact ⟨fun ⟨m, hm⟩ => absurd hm (judged_checkModifiers_of_letters hletters m), fun ⟨_, h, _⟩ => nomatch h⟩
  | _ => exact ⟨fun ⟨m, hm⟩ => absurd hm (judged_refuse _ m), fun ⟨_, h, _⟩ => nomatch h⟩

theorem checkModifiersOf_misuse_iff : (∃ m, checkModifiersOf entries = .error (.misuse m)) ↔
    ∃ items, field entries Key.nameRegexFlags = .list items ∧ ∃ item ∈ items, item.kind ≠ .text := by
  rw [checkModifiersOf]
  split_ifs with htruth
  · exact checkModifiers_misuse_iff
  · refine ⟨nofun, ?_⟩
    rintro ⟨items, hlist, item, hitem, -⟩
    rw [hlist] at htruth
    cases items with
    | nil => cases hitem
    | cons first rest => exact absurd rfl htruth

/-- What the check of the filter's section cannot look at: keys, or modifiers in a list, that are no texts. -/
inductive Unjoinable (entries : Entries) : Prop
  /-- A key is no text. -/
  | key {entry : Value × Value} : entry ∈ entries → entry.1.kind ≠ .text → Unjoinable entries
  /-- A modifier in a list is no text, and everything that is looked at before is valid. -/
  | modifier {items : List Value} {item : Value} : checkKeys entries = .ok () →
    (∀ c ∈ firstChecks, c.2 entries = .ok ()) → field entries Key.nameRegexFlags = .list items → item ∈ items →
    item.kind ≠ .text → Unjoinable entries

theorem judged_firstChecks (h : Value.WritableEntries entries) : ∀ c ∈ firstChecks, Judged (c.2 entries) := by
  simp only [firstChecks, List.forall_mem_cons, List.not_mem_nil, IsEmpty.forall_iff, implies_true, and_true]
  exact ⟨judged_checkSeparatorOf entries, judged_checkCaseFold h, judged_checkGlobsOf entries _,
    judged_checkGlobsOf entries _, judged_checkNameRegex h⟩

theorem judged_lastChecks (entries : Entries) : ∀ c ∈ lastChecks, Judged (c.2 entries) := by
  simp only [lastChecks, List.forall_mem_cons, List.not_mem_nil, IsEmpty.forall_iff, implies_true, and_true]
  exact ⟨judged_checkPredicateOf entries _, judged_checkPredicateOf entries _⟩

theorem checkFilterEntries_misuse_iff (h : Value.WritableEntries entries) :
    (∃ m, checkFilterEntries entries = .error (.misuse m)) ↔ Unjoinable entries := by
  have hlast : ∀ v ∈ lastChecks.map fun c => c.2 entries, Judged v := List.forall_mem_map.mpr (judged_lastChecks entries)
  have hfirst : ∀ v ∈ firstChecks.map fun c => c.2 entries, Judged v := List.forall_mem_map.mpr (judged_firstChecks h)
  have hfields : (fieldChecks.map fun c => c.2 entries) = (firstChecks.map fun c => c.2 entries) ++
      checkModifiersOf entries :: lastChecks.map fun c => c.2 entries := List.map_append
  rw [checkFilterEntries_eq, hfields]
  by_cases hkeys : ∃ entry ∈ entries, entry.1.kind ≠ .text
  · obtain ⟨m, hm⟩ := checkKeys_misuse_iff.mpr hkeys
    obtain ⟨entry, hentry, hkind⟩ := hkeys
    exact ⟨fun _ => .key hentry hkind, fun _ => ⟨m, by rw [inTurn, hm]; rfl⟩⟩
  · have hjudged : Judged (checkKeys entries) := fun m hm => hkeys (checkKeys_misuse_iff.mp ⟨m, hm⟩)
    have hbefore := List.forall_mem_cons.mpr ⟨hjudged, hfirst⟩
    constructor
    · rintro ⟨m, hm⟩
      obtain ⟨hok, hmodifiers⟩ := (inTurn_misuse_iff hbefore hlast).mp hm
      obtain ⟨hkeysOk, hfirstOk⟩ := List.forall_mem_cons.mp hok
      obtain ⟨items, hfield, item, hitem, hkind⟩ := checkModifiersOf_misuse_iff.mp ⟨m, hmodifiers⟩
      exact .modifier hkeysOk (List.forall_mem_map.mp hfirstOk) hfield hitem hkind
    · intro hunjoinable
      cases hunjoinable with
      | key hentry hkind => exact absurd ⟨_, hentry, hkind⟩ hkeys
      | modifier hkeysOk hfirstOk hfield hitem hkind =>
        obtain ⟨m, hm⟩ := checkModifiersOf_misuse_iff.mpr ⟨_, hfield, _, hitem, hkind⟩
        exact ⟨m, (inTurn_misuse_iff hbefore hlast).mpr
          ⟨List.forall_mem_cons.mpr ⟨hkeysOk, List.forall_mem_map.mpr hfirstOk⟩, hm⟩⟩

/-! ### Sections -/

variable {config : Value} {inner : Entries}

/-- The sections of a configuration are valid as they are, wherever they are. -/
theorem check_of_sections (h : sections entries = .dict inner) : check (.dict entries) =
    inTurn [checkSection inner Key.filter checkFilter, checkSection inner Key.logging checkLogging] := by
  rw [check, h]
  simp only [inTurn, bind_ok_unit]

theorem check_of_sections_ok_iff (h : sections entries = .dict inner) : check (.dict entries) = .ok () ↔
    checkSection inner Key.filter checkFilter = .ok () ∧ checkSection inner Key.logging checkLogging = .ok () := by
  rw [check_of_sections h, inTurn_ok_iff, List.forall_mem_cons, List.forall_mem_singleton]

/-- A configuration has sections, or is refused at once. -/
theorem check_cases (config : Value) : (∃ entries inner, config = .dict entries ∧ sections entries = .dict inner) ∨
    ∃ reason, check config = refuse reason := by
  cases config with
  | dict entries =>
    by_cases hkind : (sections entries).kind = .dict
    · obtain ⟨inner, hinner⟩ := Value.exists_dict hkind
      exact .inl ⟨entries, inner, rfl, hinner⟩
    · refine .inr ⟨.rootNotDict, ?_⟩
      rw [check]
      split
      · rename_i inner hinner
        rw [hinner] at hkind
        exact absurd rfl hkind
      · rfl
  | _ => exact .inr ⟨.notDict, rfl⟩

theorem checkSection_of_get? {check : Value → Verdict} (h : checkSection entries key check = .ok ())
    (hvalue : entries.get? (.text key) = some value) : check value = .ok () := by
  rwa [checkSection, hvalue] at h

/-- The section of the filter is there and cannot be looked at. -/
def UnjoinableIn (config : Value) : Prop :=
  ∃ entries inner filter, config = .dict entries ∧ sections entries = .dict inner ∧
    Entries.get? inner (.text Key.filter) = some (.dict filter) ∧ Unjoinable filter

theorem checkSection_filter_misuse_iff (h : Value.WritableEntries inner) :
    (∃ m, checkSection inner Key.filter checkFilter = .error (.misuse m)) ↔
      ∃ filter, inner.get? (.text Key.filter) = some (.dict filter) ∧ Unjoinable filter := by
  rw [checkSection]
  cases hget : inner.get? (.text Key.filter) with
  | none =>
    constructor
    · rintro ⟨m, hm⟩
      exact absurd hm (judged_ok m)
    · rintro ⟨_, ⟨⟩, _⟩
  | some value =>
    cases value with
    | dict filter =>
      have hfilter : Value.WritableEntries filter := h.of_get? hget
      simp only [checkFilter, Option.some.injEq, Value.dict.injEq, exists_eq_left', checkFilterEntries_misuse_iff hfilter]
    | _ =>
      constructor
      · rintro ⟨m, hm⟩
        exact absurd hm (judged_refuse _ m)
      · rintro ⟨_, ⟨⟩, _⟩

theorem judged_checkSection_logging (h : Value.WritableEntries inner) :
    Judged (checkSection inner Key.logging checkLogging) := by
  rw [checkSection]
  cases hget : inner.get? (.text Key.logging) with
  | none => exact judged_ok
  | some value => exact judged_checkLogging (h.of_get? hget)

theorem writable_sections (h : Value.WritableEntries entries) : (sections entries).Writable := by
  rw [sections]
  cases hroot : entries.get? (.text Key.root) with
  | none => exact h
  | some value => exact h.of_get? hroot

/-- A configuration that can be written is judged, unless its section of the filter cannot be looked at. -/
theorem check_misuse_iff (h : config.Writable) :
    (∃ m, check config = .error (.misuse m)) ↔ UnjoinableIn config := by
  by_cases hsections : ∃ entries inner, config = .dict entries ∧ sections entries = .dict inner
  · obtain ⟨entries, inner, rfl, hinner⟩ := hsections
    have hwritable : (Value.dict inner).Writable := hinner ▸ writable_sections h
    have hlogging := List.forall_mem_singleton.mpr (judged_checkSection_logging hwritable)
    simp only [check_of_sections hinner, inTurn_cons_misuse_iff hlogging, checkSection_filter_misuse_iff hwritable]
    constructor
    · rintro ⟨filter, hfilter, hunjoinable⟩
      exact ⟨entries, inner, filter, rfl, hinner, hfilter, hunjoinable⟩
    · rintro ⟨_, inner', filter, ⟨⟩, hinner', hfilter, hunjoinable⟩
      obtain rfl := Value.dict.inj (hinner.symm.trans hinner')
      exact ⟨filter, hfilter, hunjoinable⟩
  · obtain ⟨reason, hrefused⟩ := (check_cases config).resolve_left hsections
    rw [hrefused]
    constructor
    · exact fun ⟨m, hm⟩ => absurd hm (judged_refuse _ m)
    · rintro ⟨entries, inner, filter, hconfig, hinner, -⟩
      exact absurd ⟨entries, inner, hconfig, hinner⟩ hsections

end FileSieve.Config
