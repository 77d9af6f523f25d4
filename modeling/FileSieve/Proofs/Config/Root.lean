import FileSieve.Config.Session
import FileSieve.Proofs.Config.Precedence
import FileSieve.Proofs.Config.Validation

/-!
# Configurations without the section that holds everything

A configuration is valid with the section that holds everything exactly when it is without it (`check_rooted`), but its
sections are looked up in that section only. So loading a configuration without it has the effect on them that loading
an empty one has (`bare_ignored`), and is the same as loading it with it in all cases exactly when the configuration has
none of the sections.
-/

namespace FileSieve.Config

variable {entries : Entries} {key : Text}

/-- A configuration within the section that holds everything. -/
def rooted (entries : Entries) : Entries :=
  [(.text Key.root, .dict entries)]

/-- A section of the filter that is valid is a dictionary -/
theorem kind_of_checkFilter {value : Value} (h : checkFilter value = .ok ()) : value.kind = .dict := by
  cases value with
  | dict entries => rfl
  | _ => exact nomatch h

/-- and so is one of the log. -/
theorem kind_of_checkLogging {value : Value} (h : checkLogging value = .ok ()) : value.kind = .dict := by
  cases value with
  | dict entries => rfl
  | _ => exact nomatch h

theorem sections_rooted : sections (rooted entries) = .dict entries := by
  rw [sections, rooted, Entries.get?_cons, if_pos (by simp)]
  rfl

theorem sections_bare (h : entries.get? (.text Key.root) = none) : sections entries = .dict entries := by
  rw [sections, h]
  rfl

/-- A configuration that has no such section is valid within it when it is so by itself. -/
theorem check_rooted (h : entries.get? (.text Key.root) = none) :
    check (.dict (rooted entries)) = .ok () ↔ check (.dict entries) = .ok () := by
  rw [check_of_sections_ok_iff sections_rooted, check_of_sections_ok_iff (sections_bare h)]

theorem proper_rooted (h : Entries.Proper entries) : Entries.Proper (rooted entries) :=
  Entries.proper_cons.mpr ⟨Value.isKey_text _, rfl, Entries.proper_dict.mpr h, Entries.proper_nil⟩

namespace Layers

variable {l : Layers} {source : Source} {shared : List (List Position)} {path : Text}

/-- States of which the sections are the same, and the filters that they describe. -/
structure SameSections (l l' : Layers) : Prop where
  /-- The section of the filter. -/
  filter : l.filterConfig = l'.filterConfig
  /-- The section of the log. -/
  logging : l.loggingConfig = l'.loggingConfig
  /-- At every instant and by all local clocks the filter, or why there is none, and what is reported. -/
  setting : ∀ rules now, l.setting rules now = l'.setting rules now

theorem SameSections.of_sections {l l' : Layers} (hfilter : l.filterConfig = l'.filterConfig)
    (hlogging : l.loggingConfig = l'.loggingConfig) : SameSections l l' :=
  ⟨hfilter, hlogging, fun rules now => by rw [Layers.setting, Layers.setting, hfilter]⟩

/-- The paths of the sections. -/
theorem keyPath_filter : keyPath (Text.join "." [Key.root, Key.filter]) = [.text Key.root, .text Key.filter] :=
  congrArg (List.map Value.text) (by decide : keys (Text.join "." [Key.root, Key.filter]) = [Key.root, Key.filter])

theorem keyPath_logging : keyPath (Text.join "." [Key.root, Key.logging]) = [.text Key.root, .text Key.logging] :=
  congrArg (List.map Value.text) (by decide : keys (Text.join "." [Key.root, Key.logging]) = [Key.root, Key.logging])

theorem mention_replace (other : Source) (path : List Value) : (l.replace source entries shared).mention other path =
    if other = source then (Value.dict entries).mention path else l.mention other path := by
  rw [mention, layer_replace]
  split_ifs <;> rfl

/-- A layer that says nothing of a path is there as good as an empty one. -/
theorem get_replace_absent (h : l.Proper) (hentries : Entries.Proper entries)
    (habsent : (Value.dict entries).mention (keyPath path) = .absent) (default : Value) :
    (l.replace source entries shared).get path default = (l.replace source []).get path default := by
  refine get_congr (h.replace Entries.proper_nil) (h.replace hentries) (fun other => ?_) default
  rw [mention_replace, mention_replace]
  split_ifs
  · obtain ⟨key, rest, hpath⟩ := List.exists_cons_of_ne_nil (keyPath_ne_nil path)
    rw [habsent, hpath]
    rfl
  · rfl

theorem mention_bare (h : entries.get? (.text Key.root) = none) :
    (Value.dict entries).mention [.text Key.root, .text key] = .absent := by
  rw [Value.mention, h]

theorem mention_rooted : (Value.dict (rooted entries)).mention [.text Key.root, .text key] =
    (Value.dict entries).mention [.text key] := by
  rw [Value.mention, rooted, Entries.get?_cons, if_pos (by simp)]

/-- Sections that are no dictionaries, which the running program covers. -/
def numbered : Layers :=
  ({} : Layers).replace .userConfig (rooted [(.text Key.filter, .int 5), (.text Key.logging, .int 5)])

theorem numbered_proper : numbered.Proper :=
  proper_start.replace (by simp +decide [rooted, Entries.Proper, Value.Proper, Entries.get?_nil, Entries.get?_cons])

theorem mention_numbered (h : key = Key.filter ∨ key = Key.logging) :
    numbered.mention .userConfig [.text Key.root, .text key] = .held (.int 5) := by
  have hlayer : numbered.layer .userConfig = rooted [(.text Key.filter, .int 5), (.text Key.logging, .int 5)] := rfl
  rw [mention, hlayer, mention_rooted]
  rcases h with rfl | rfl <;> simp +decide [Value.mention, Entries.get?_cons]

/-- There a configuration without the section that holds everything covers nothing, -/
theorem get_numbered_bare (hentries : Entries.Proper entries) (hroot : entries.get? (.text Key.root) = none)
    (hpath : keyPath path = [.text Key.root, .text key]) (hkey : key = Key.filter ∨ key = Key.logging)
    (shared : List (List Position)) (default : Value) :
    (numbered.replace .runtime entries shared).get path default = .int 5 := by
  have hmention : (numbered.replace .runtime entries shared).mention .userConfig (keyPath path) = .held (.int 5) := by
    rw [mention_replace, if_neg (by decide), hpath, mention_numbered hkey]
  have hdecides : (numbered.replace .runtime entries shared).Decides (keyPath path) .userConfig := by
    refine ⟨fun habsent => Mention.noConfusion (hmention.symm.trans habsent), fun other hweight hmentions => hmentions ?_⟩
    rw [mention_replace, hpath]
    cases other with
    | runtime => exact mention_bare hroot
    | environment => rfl
    | _ => simp [Source.weight] at hweight
  obtain ⟨under, hget⟩ := get_of_decides (numbered_proper.replace hentries) hdecides hmention (by simp) default
  rw [hget, Value.laidOver_of_kind (by decide)]

/-- and within it a section that is a dictionary does. -/
theorem get_numbered_rooted (hentries : Entries.Proper entries) (hpath : keyPath path = [.text Key.root, .text key])
    {value : Value} (hsection : entries.get? (.text key) = some value) (hkind : value.kind = .dict)
    (shared : List (List Position)) (default : Value) :
    ((numbered.replace .runtime (rooted entries) shared).get path default).kind = .dict := by
  obtain ⟨upper, rfl⟩ := Value.exists_dict hkind
  have hmention : (numbered.replace .runtime (rooted entries) shared).mention .runtime (keyPath path) =
      .held (.dict upper) := by
    rw [mention_replace, if_pos rfl, hpath, mention_rooted, Value.mention, hsection]
    exact Value.mention.eq_1 _
  obtain ⟨under, hget⟩ := get_of_decides (numbered_proper.replace (proper_rooted hentries)) (decides_runtime hmention)
    hmention (by simp) default
  obtain ⟨merged, hmerged⟩ := Value.exists_laidOver under upper
  rw [hget, hmerged]
  rfl

theorem get_numbered_ne (hentries : Entries.Proper entries) (hroot : entries.get? (.text Key.root) = none)
    (hpath : keyPath path = [.text Key.root, .text key]) (hkey : key = Key.filter ∨ key = Key.logging)
    {value : Value} (hsection : entries.get? (.text key) = some value) (hkind : value.kind = .dict)
    (shared : List (List Position)) (default : Value) :
    (numbered.replace .runtime entries shared).get path default ≠
      (numbered.replace .runtime (rooted entries) shared).get path default := by
  intro hsame
  have hrooted := get_numbered_rooted hentries hpath hsection hkind shared default
  rw [← hsame, get_numbered_bare hentries hroot hpath hkey] at hrooted
  exact Kind.noConfusion hrooted

/-- Loading a valid configuration without the section that holds everything succeeds as it does with it, but has the
effect of loading an empty one on the sections and on the filter. The two ways are the same in all states exactly when
the configuration has no sections. -/
theorem bare_ignored {entries : Entries} (hentries : Entries.Proper entries)
    (hroot : entries.get? (.text Key.root) = none) (hvalid : check (.dict entries) = .ok ())
    (shared : List (List Position)) :
    (∀ (l : Layers) (source : Source), l.Proper →
      l.load (.dict entries) source shared = .ok (l.replace source entries shared) ∧
      l.load (.dict (rooted entries)) source shared = .ok (l.replace source (rooted entries) shared) ∧
      SameSections (l.replace source entries shared) (l.replace source [])) ∧
    ((∀ (l : Layers) (source : Source), l.Proper →
      SameSections (l.replace source entries shared) (l.replace source (rooted entries) shared)) ↔
      entries.get? (.text Key.filter) = none ∧ entries.get? (.text Key.logging) = none) := by
  have hbare (l : Layers) (source : Source) (hl : l.Proper) :
      SameSections (l.replace source entries shared) (l.replace source []) :=
    .of_sections (get_replace_absent hl hentries (keyPath_filter ▸ mention_bare hroot) _)
      (get_replace_absent hl hentries (keyPath_logging ▸ mention_bare hroot) _)
  refine ⟨fun l source hl => ⟨load_eq_ok_iff.mpr ⟨hvalid, entries, rfl, rfl⟩,
    load_eq_ok_iff.mpr ⟨(check_rooted hroot).mpr hvalid, _, rfl, rfl⟩, hbare l source hl⟩, ?_⟩
  obtain ⟨hfilter, hlogging⟩ := (check_of_sections_ok_iff (sections_bare hroot)).mp hvalid
  constructor
  · intro hsame
    obtain ⟨hsameFilter, hsameLogging, -⟩ := hsame numbered .runtime numbered_proper
    constructor
    · by_contra hsome
      obtain ⟨value, hvalue⟩ := Option.ne_none_iff_exists'.mp hsome
      exact get_numbered_ne hentries hroot keyPath_filter (.inl rfl) hvalue
        (kind_of_checkFilter (checkSection_of_get? hfilter hvalue)) shared _ hsameFilter
    · by_contra hsome
      obtain ⟨value, hvalue⟩ := Option.ne_none_iff_exists'.mp hsome
      exact get_numbered_ne hentries hroot keyPath_logging (.inr rfl) hvalue
        (kind_of_checkLogging (checkSection_of_get? hlogging hvalue)) shared _ hsameLogging
  · rintro ⟨hnoFilter, hnoLogging⟩ l source hl
    have habsent {key : Text} (h : entries.get? (.text key) = none) :
        (Value.dict (rooted entries)).mention [.text Key.root, .text key] = .absent := by
      rw [mention_rooted, Value.mention, h]
    have hrooted := proper_rooted hentries
    exact .of_sections
      ((hbare l source hl).filter.trans
        (get_replace_absent hl hrooted (keyPath_filter ▸ habsent hnoFilter) _).symm)
      ((hbare l source hl).logging.trans
        (get_replace_absent hl hrooted (keyPath_logging ▸ habsent hnoLogging) _).symm)

/-- A rejected name, given without the section that holds everything. -/
def bareBlacklist : Entries :=
  [(.text Key.filter, .dict [(.text Key.blacklist, .list [.text "*.exe"])])]

/-- Loaded so, it is as if nothing was loaded, and that is not what it is in all states within that section. -/
theorem bare_ignored_blacklist : Entries.Proper bareBlacklist ∧ bareBlacklist.get? (.text Key.root) = none ∧
    check (.dict bareBlacklist) = .ok () ∧
    SameSections (({} : Layers).replace .runtime bareBlacklist) (({} : Layers).replace .runtime []) ∧
    ¬∀ (l : Layers) (source : Source), l.Proper →
      SameSections (l.replace source bareBlacklist) (l.replace source (rooted bareBlacklist)) := by
  have hproper : Entries.Proper bareBlacklist := by
    simp [bareBlacklist, Entries.Proper, Value.Proper, Entries.get?_nil]
  have hroot : bareBlacklist.get? (.text Key.root) = none := by decide +kernel
  have hvalid : check (.dict bareBlacklist) = .ok () := by decide +kernel
  obtain ⟨hignored, hsame⟩ := bare_ignored hproper hroot hvalid []
  refine ⟨hproper, hroot, hvalid, (hignored {} .runtime proper_start).2.2, fun hall => ?_⟩
  obtain ⟨hnone, -⟩ := hsame.mp hall
  simp [bareBlacklist, Entries.get?_cons] at hnone

/-- In a new manager the name is rejected within the section that holds everything, and not without it. -/
theorem bare_blacklist_lost : ∃ bare full, ({} : Layers).load (.dict bareBlacklist) .runtime = .ok bare ∧
    ({} : Layers).load (.dict (rooted bareBlacklist)) .runtime = .ok full ∧
    bare.filterConfig.equal full.filterConfig = false ∧ (bare.get "filefilter.filter.blacklist").equal (.list []) = true ∧
    (full.get "filefilter.filter.blacklist").equal (.list [.text "*.exe"]) = true := by
  have hvalid : check (.dict bareBlacklist) = .ok () := by decide +kernel
  have hroot : bareBlacklist.get? (.text Key.root) = none := by decide +kernel
  exact ⟨_, _, load_eq_ok_iff.mpr ⟨hvalid, _, rfl, rfl⟩,
    load_eq_ok_iff.mpr ⟨(check_rooted hroot).mpr hvalid, _, rfl, rfl⟩, by decide +kernel, by decide +kernel,
    by decide +kernel⟩

end Layers

end FileSieve.Config
