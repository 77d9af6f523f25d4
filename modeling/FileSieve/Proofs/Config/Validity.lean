import FileSieve.Proofs.Config.Position
import FileSieve.Proofs.Config.Root

/-!
# Valid layers make a valid configuration

Each layer of a configuration is looked at alone, and the filter is made of all of them. Since each check of a section
looks at one key, and is passed under this key by no dictionary that is not empty, merging two sections that pass gives
one that passes (`valid_laidOver`): under every key there is what one of them has there. A section with such a check
(`SectionCheck`) is valid in all layers together when each layer is valid for itself (`Valid.get_section`), and so is
that of the filter (`Valid.filterConfig`).
-/

namespace FileSieve.Config

variable {entries base upper inner : Entries} {key : Text} {value : Value}

/-! ### Merging valid sections -/

theorem field_congr (h : base.get? (.text key) = upper.get? (.text key)) : field base key = field upper key := by
  rw [field, field, h]

theorem field_of_get? (h : entries.get? (.text key) = some value) : field entries key = value := by
  rw [field, h]
  rfl

/-- A check of a key looks at nothing else. -/
theorem fieldCheck_congr : ∀ c ∈ fieldChecks, base.get? (.text c.1) = upper.get? (.text c.1) → c.2 base = c.2 upper := by
  refine (forall_fieldChecks (p := fun key check => base.get? (.text key) = upper.get? (.text key) →
    check base = check upper)).mpr ⟨?_, ?_, ?_, ?_, ?_, ?_, ?_, ?_⟩ <;> intro h
  · rw [checkSeparatorOf, checkSeparatorOf, field_congr h]
  · rw [checkCaseFold, checkCaseFold, h]
  · simp only [checkGlobsOf, field_congr h]
  · simp only [checkGlobsOf, field_congr h]
  · rw [checkNameRegex, checkNameRegex, field_congr h]
  · rw [checkModifiersOf, checkModifiersOf, field_congr h]
  · simp only [checkPredicateOf, field_congr h]
  · simp only [checkPredicateOf, field_congr h]

/-- A dictionary is valid under no key, but for an empty one in place of modifiers. -/
theorem fieldCheck_dict : ∀ c ∈ fieldChecks, entries.get? (.text c.1) = some (.dict inner) → c.2 entries = .ok () →
    inner = [] := by
  refine (forall_fieldChecks (p := fun key check => entries.get? (.text key) = some (.dict inner) →
    check entries = .ok () → inner = [])).mpr ⟨?_, ?_, ?_, ?_, ?_, ?_, ?_, ?_⟩ <;> intro h hok
  · rw [checkSeparatorOf, field_of_get? h] at hok
    cases hok
  · rw [checkCaseFold, h] at hok
    obtain ⟨t, -, hrefused⟩ := bind_eq_ok.mp hok
    cases hrefused
  · simp only [checkGlobsOf, field_of_get? h] at hok
    cases hok
  · simp only [checkGlobsOf, field_of_get? h] at hok
    cases hok
  · rw [checkNameRegex, field_of_get? h] at hok
    obtain ⟨t, -, hrefused⟩ := bind_eq_ok.mp hok
    cases hrefused
  · rw [checkModifiersOf, field_of_get? h] at hok
    split_ifs at hok with htruth
    · cases hok
    · simpa [Value.truth] using htruth
  · simp only [checkPredicateOf, field_of_get? h] at hok
    cases hok
  · simp only [checkPredicateOf, field_of_get? h] at hok
    cases hok

theorem mem_insert {entry : Value × Value} {k : Value} (h : entry ∈ entries.insert k value) :
    entry.1 = k ∨ ∃ e ∈ entries, e.1 = entry.1 := by
  induction entries with
  | nil => exact .inl (congrArg Prod.fst (List.mem_singleton.mp h))
  | cons first entries ih =>
    rw [Entries.insert] at h
    split_ifs at h
    · rcases List.mem_cons.mp h with rfl | h
      · exact .inr ⟨first, List.mem_cons_self, rfl⟩
      · exact .inr ⟨entry, .tail _ h, rfl⟩
    · rcases List.mem_cons.mp h with rfl | h
      · exact .inr ⟨_, List.mem_cons_self, rfl⟩
      · rcases ih h with hkey | ⟨e, he, hkey⟩
        · exact .inl hkey
        · exact .inr ⟨e, .tail _ he, hkey⟩

/-- Which keys there are does not depend on the value that is put under one. -/
theorem map_fst_insert (k value value' : Value) :
    (entries.insert k value).map Prod.fst = (entries.insert k value').map Prod.fst := by
  induction entries with
  | nil => rfl
  | cons entry entries ih =>
    rw [Entries.insert, Entries.insert]
    split_ifs
    · rfl
    · rw [List.map_cons, List.map_cons, ih]

/-- Values that the checks of a key judge alike can stand for each other under it. -/
theorem checkFilterEntries_insert {value' : Value}
    (h : ∀ c ∈ fieldChecks, c.1 = key → c.2 (entries.insert (.text key) value) = c.2 (entries.insert (.text key) value')) :
    checkFilterEntries (entries.insert (.text key) value) = checkFilterEntries (entries.insert (.text key) value') := by
  have hkeys : checkKeys (entries.insert (.text key) value) = checkKeys (entries.insert (.text key) value') := by
    rw [checkKeys, checkKeys, unknownKeys, unknownKeys, map_fst_insert]
  have hfields : ∀ c ∈ fieldChecks, c.2 (entries.insert (.text key) value) = c.2 (entries.insert (.text key) value') := by
    intro c hc
    by_cases hkey : c.1 = key
    · exact h c hc hkey
    · apply fieldCheck_congr c hc
      rw [Entries.get?_insert_of_ne hkey, Entries.get?_insert_of_ne hkey]
  rw [checkFilterEntries_eq, checkFilterEntries_eq, hkeys, List.map_congr_left hfields]

/-- Merging adds no keys. -/
theorem mem_laidOver {entry : Value × Value} (h : entry ∈ Entries.laidOver base upper) :
    (∃ e ∈ base, e.1 = entry.1) ∨ ∃ e ∈ upper, e.1 = entry.1 := by
  induction upper generalizing base with
  | nil =>
    rw [Entries.laidOver] at h
    exact .inl ⟨entry, h, rfl⟩
  | cons first upper ih =>
    rw [Entries.laidOver] at h
    rcases ih h with ⟨e, he, hkey⟩ | ⟨e, he, hkey⟩
    · rcases mem_insert he with hfirst | ⟨e', he', hkey'⟩
      · exact .inr ⟨first, List.mem_cons_self, hfirst.symm.trans hkey⟩
      · exact .inl ⟨e', he', hkey'.trans hkey⟩
    · exact .inr ⟨e, .tail _ he, hkey⟩

/-- Under a key there is after merging what one of the two has there, unless the upper one has a dictionary that is not
empty. -/
theorem get?_laidOver_cases (hbase : Entries.Keyed base) (hupper : Entries.Proper upper)
    (hdict : ∀ inner, upper.get? (.text key) = some (.dict inner) → inner = []) :
    (Entries.laidOver base upper).get? (.text key) = base.get? (.text key) ∨
      (Entries.laidOver base upper).get? (.text key) = upper.get? (.text key) := by
  rw [Entries.get?_laidOver hbase hupper (Value.isKey_text key)]
  cases hget : upper.get? (.text key) with
  | none => exact .inl rfl
  | some value =>
    by_cases hkind : value.kind = .dict
    · obtain ⟨inner, rfl⟩ := Value.exists_dict hkind
      obtain rfl := hdict inner hget
      by_cases hunder : ∃ entries, base.get? (.text key) = some (.dict entries)
      · obtain ⟨entries, hunder⟩ := hunder
        refine .inl ?_
        rw [Option.elim_some, hunder, Value.laidOver, Entries.laidOver]
      · refine .inr ?_
        rw [Option.elim_some, Value.laidOver_dict fun entries heq => hunder ⟨entries, heq⟩]
    · exact .inr (congrArg some (Value.laidOver_of_kind hkind _))

/-- Sections that are valid give a valid one when they are merged. -/
theorem valid_laidOver (hbase : Entries.Keyed base) (hupper : Entries.Proper upper)
    (hvalidBase : checkFilterEntries base = .ok ()) (hvalidUpper : checkFilterEntries upper = .ok ()) :
    checkFilterEntries (Entries.laidOver base upper) = .ok () := by
  obtain ⟨hkeysBase, hfieldsBase⟩ := checkFilterEntries_ok_iff.mp hvalidBase
  obtain ⟨hkeysUpper, hfieldsUpper⟩ := checkFilterEntries_ok_iff.mp hvalidUpper
  refine checkFilterEntries_ok_iff.mpr ⟨checkKeys_ok_iff.mpr fun entry hentry => ?_, fun c hc => ?_⟩
  · rcases mem_laidOver hentry with ⟨e, he, hkey⟩ | ⟨e, he, hkey⟩
    · exact hkey ▸ checkKeys_ok_iff.mp hkeysBase e he
    · exact hkey ▸ checkKeys_ok_iff.mp hkeysUpper e he
  · have hdict (inner : Entries) (h : upper.get? (.text c.1) = some (.dict inner)) : inner = [] :=
      fieldCheck_dict c hc h (hfieldsUpper c hc)
    rcases get?_laidOver_cases hbase hupper hdict with hget | hget
    · rw [fieldCheck_congr c hc hget]
      exact hfieldsBase c hc
    · rw [fieldCheck_congr c hc hget]
      exact hfieldsUpper c hc

/-- A check of a section: what passes it are dictionaries, and two of them pass it together. -/
structure SectionCheck (check : Value → Verdict) : Prop where
  /-- What passes it is a dictionary. -/
  kind : ∀ {value : Value}, check value = .ok () → value.kind = .dict
  /-- Dictionaries that pass it pass it when they are merged. -/
  merge : ∀ {base upper : Entries}, Entries.Proper base → Entries.Proper upper → check (.dict base) = .ok () →
    check (.dict upper) = .ok () → check (.dict (Entries.laidOver base upper)) = .ok ()

theorem sectionCheck_filter : SectionCheck checkFilter where
  kind := kind_of_checkFilter
  merge hbase hupper := valid_laidOver hbase.keyed hupper

/-- A section as it can be, which passes a check. -/
def ValidSection (check : Value → Verdict) (value : Value) : Prop :=
  value.Proper ∧ check value = .ok ()

theorem ValidSection.laidOver {check : Value → Verdict} {under : Option Value} (hcheck : SectionCheck check)
    (hunder : ∀ u, under = some u → ValidSection check u) (h : ValidSection check value) :
    ValidSection check (Value.laidOver under value) := by
  obtain ⟨hproper, hvalid⟩ := h
  refine ⟨hproper.laidOver fun u hu => (hunder u hu).1, ?_⟩
  obtain ⟨upper, rfl⟩ := Value.exists_dict (hcheck.kind hvalid)
  by_cases hdict : ∃ base, under = some (.dict base)
  · obtain ⟨base, rfl⟩ := hdict
    obtain ⟨hbase, hvalidBase⟩ := hunder _ rfl
    rw [Value.laidOver]
    exact hcheck.merge (Entries.proper_dict.mp hbase) (Entries.proper_dict.mp hproper) hvalidBase hvalid
  · rw [Value.laidOver_dict fun base heq => hdict ⟨base, heq⟩]
    exact hvalid

/-! ### Valid layers -/

namespace Layers

variable {l : Layers} {source : Source}

/-- Layers that hold dictionaries as they can be, each of which is valid. -/
structure Valid (l : Layers) : Prop where
  /-- They hold dictionaries as they can be. -/
  proper : l.Proper
  /-- Each of them is valid. -/
  checked : ∀ source, check (.dict (l.layer source)) = .ok ()

theorem Valid.replace {shared : List (List Position)} (h : l.Valid) (hentries : Entries.Proper entries)
    (hcheck : check (.dict entries) = .ok ()) : (l.replace source entries shared).Valid := by
  refine ⟨h.proper.replace hentries, fun other => ?_⟩
  rw [layer_replace]
  split_ifs
  · exact hcheck
  · exact h.checked other

theorem check_nil : check (.dict []) = .ok () := by decide +kernel

/-- What holds where nothing is configured is valid. -/
theorem valid_start : ({} : Layers).Valid := by
  refine ⟨proper_start, fun source => ?_⟩
  cases source with
  | compiledDefaults =>
    have hdefaults : check (.dict Key.defaults) = .ok () := by decide +kernel
    exact hdefaults
  | userConfig | environment | runtime => exact check_nil

/-- Layers stay valid when sources are cleared. -/
theorem Valid.without (h : l.Valid) (gone : Source → Bool) : (l.without gone).Valid := by
  refine ⟨h.proper.without gone, fun source => ?_⟩
  rw [layer_without]
  split_ifs
  · exact check_nil
  · exact h.checked source

/-- A valid layer says nothing of a section that its validation checks, or has a valid one. -/
theorem Valid.mention_section {check : Value → Verdict} (h : l.Valid)
    (hsection : ∀ {config inner}, sections config = .dict inner → Config.check (.dict config) = .ok () →
      checkSection inner key check = .ok ()) (source : Source) :
    l.mention source [.text Key.root, .text key] = .absent ∨
      ∃ value, l.mention source [.text Key.root, .text key] = .held value ∧ ValidSection check value := by
  have hproper := h.proper source
  have hchecked := h.checked source
  rw [mention, Value.mention]
  cases hroot : Entries.get? (l.layer source) (.text Key.root) with
  | none => exact .inl rfl
  | some root =>
    obtain ⟨_, inner, ⟨⟩, hinner⟩ | ⟨reason, hrefused⟩ := check_cases (.dict (l.layer source))
    · have hdict : root = .dict inner := by
        rw [sections, hroot] at hinner
        exact hinner
      subst hdict
      dsimp only
      rw [Value.mention]
      cases hget : Entries.get? inner (.text key) with
      | none => exact .inl rfl
      | some value =>
        have hvalue := (Entries.proper_dict.mp (hproper.of_get? hroot)).of_get? hget
        exact .inr ⟨value, Value.mention.eq_1 value, hvalue, checkSection_of_get? (hsection hinner hchecked) hget⟩
    · rw [hrefused] at hchecked
      cases hchecked

/-- A section that valid layers have together is valid. -/
theorem Valid.get_section {check : Value → Verdict} {path : Text} (h : l.Valid) (hcheck : SectionCheck check)
    (hsection : ∀ {config inner}, sections config = .dict inner → Config.check (.dict config) = .ok () →
      checkSection inner key check = .ok ())
    (hpath : keyPath path = [.text Key.root, .text key]) (hempty : check (.dict []) = .ok ()) :
    check (l.get path (.dict [])) = .ok () := by
  have hkeys : ∀ k ∈ [Value.text Key.root, .text key], k.IsKey := by simp
  have hfold (sources : List Source) {under : Option Value} (hunder : ∀ u, under = some u → ValidSection check u) :
      ∀ u, sources.foldl (fun under source => (l.mention source [.text Key.root, .text key]).over under) under =
        some u → ValidSection check u := by
    induction sources generalizing under with
    | nil => exact hunder
    | cons source sources ih =>
      rw [List.foldl_cons]
      refine ih fun u hu => ?_
      obtain habsent | ⟨value, hheld, hvalue⟩ := h.mention_section hsection source
      · rw [habsent] at hu
        exact hunder u hu
      · rw [hheld] at hu
        obtain rfl := Option.some.inj hu
        exact hvalue.laidOver hcheck hunder
  rw [get_eq, hpath, find?_merged h.proper hkeys (by simp)]
  cases hfind : Source.all.foldl
      (fun under source => (l.mention source [.text Key.root, .text key]).over under) none with
  | none => exact hempty
  | some value =>
    obtain ⟨-, hvalid⟩ := hfold Source.all (by simp) value hfind
    obtain ⟨entries, rfl⟩ := Value.exists_dict (hcheck.kind hvalid)
    exact hvalid

/-- The section of the filter that valid layers have together is valid. -/
theorem Valid.filterConfig (h : l.Valid) : checkFilter l.filterConfig = .ok () :=
  h.get_section sectionCheck_filter (fun hinner hok => ((check_of_sections_ok_iff hinner).mp hok).1) keyPath_filter rfl

end Layers

end FileSieve.Config
