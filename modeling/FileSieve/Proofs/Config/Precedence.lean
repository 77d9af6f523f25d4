import FileSieve.Proofs.Config.Merge
import FileSieve.Proofs.Config.Store

/-!
# Which source decides

The source with the most weight among those that mention a path decides what the configuration has there (`Ruled`):
nothing where it blocks the path, its value where that is no dictionary, and otherwise a dictionary, whose entries are
decided in the same way at the longer paths. `get_precedence` says that looking a path up follows this rule, whatever
the four sources hold, and that a source which does not mention the path could as well hold anything else that does not.

Merging works the other way round, from the source with the least weight on. What carries the argument over is the law
of merging along a path: a source that mentions the path covers what is below it, but for a dictionary over a
dictionary, and one that does not leaves it alone.
-/

namespace FileSieve

theorem Text.splitAtPoint_ne_nil (sep : CodePoint) (t : Text) : splitAtPoint sep t ≠ [] := by
  cases t with
  | nil => simp [splitAtPoint]
  | cons c rest =>
    rw [splitAtPoint]
    split_ifs
    · exact List.cons_ne_nil _ _
    · split <;> exact List.cons_ne_nil _ _

namespace Config.Layers

/-! ### The rule -/

/-- What a source says about a path of keys. -/
def mention (l : Layers) (source : Source) (path : List Value) : Mention :=
  (Value.dict (l.layer source)).mention path

/-- A source mentions a path: it has an entry there, or a value that is no dictionary on the way. -/
def Mentions (l : Layers) (path : List Value) (source : Source) : Prop :=
  l.mention source path ≠ .absent

/-- The source with the most weight among those that mention a path. -/
structure Decides (l : Layers) (path : List Value) (source : Source) : Prop where
  /-- It mentions the path. -/
  mentions : l.Mentions path source
  /-- No source of more weight does. -/
  greatest : ∀ other, source.weight < other.weight → ¬l.Mentions path other

/-- What there is at a path by the rule of precedence. -/
inductive Ruled (l : Layers) : (path : List Value) → Option Value → Prop
  /-- Nothing where no source mentions the path. -/
  | unmentioned {path : List Value} : (∀ source, ¬l.Mentions path source) → Ruled l path none
  /-- Nothing where the source that decides blocks the path. -/
  | blocked {path : List Value} {source : Source} : l.Decides path source → l.mention source path = .blocked →
    Ruled l path none
  /-- The value of the source that decides, if that is no dictionary. -/
  | held {path : List Value} {source : Source} {value : Value} : l.Decides path source →
    l.mention source path = .held value → value.kind ≠ .dict → Ruled l path (some value)
  /-- Where it is a dictionary, one with the entries that there are by the rule at the longer paths. -/
  | dict {path : List Value} {source : Source} {upper entries : Entries} : l.Decides path source →
    l.mention source path = .held (.dict upper) → Entries.Proper entries →
    (∀ key : Value, key.IsKey → Ruled l (path ++ [key]) (Entries.get? entries key)) →
    Ruled l path (some (.dict entries))

variable {l : Layers} {path : List Value} {source : Source}

/-! ### Layers as they can be -/

/-- Sources that hold dictionaries as they can be. -/
def Proper (l : Layers) : Prop :=
  ∀ source, Entries.Proper (l.layer source)

theorem layer_replace (l : Layers) (source : Source) (entries : Entries) (shared : List (List Position))
    (other : Source) :
    (l.replace source entries shared).layer other = if other = source then entries else l.layer other := by
  rw [layer, replace, Store.layer?_put]
  split_ifs <;> rfl

theorem layer_without (l : Layers) (gone : Source → Bool) (source : Source) :
    (l.without gone).layer source = if gone source then [] else l.layer source := by
  rw [layer, without, Store.layer?_without]
  split_ifs <;> rfl

theorem Proper.replace {entries : Entries} {shared : List (List Position)} (h : l.Proper)
    (hentries : Entries.Proper entries) : (l.replace source entries shared).Proper := by
  intro other
  rw [layer_replace]
  split_ifs
  · exact hentries
  · exact h other

/-- A source says what its layer does, or nothing. -/
theorem proper_of_store (h : ∀ layer ∈ l.store.layers, Entries.Proper layer.2) : l.Proper := by
  intro source
  rw [layer]
  cases hlayer : l.store.layer? source with
  | none =>
    rw [Option.getD_none, Entries.Proper]
    trivial
  | some entries => exact h _ (Store.layer?_eq_some_iff.mp hlayer)

/-- What holds where nothing is configured is a dictionary as it can be. -/
theorem proper_start : ({} : Layers).Proper := by
  refine proper_of_store (List.forall_mem_singleton.mpr ?_)
  simp +decide [Key.defaults, Entries.Proper, Value.Proper, Entries.get?_nil, Entries.get?_cons]

/-- What is loaded is a valid dictionary, and it takes the place of what the source said. -/
theorem load_eq_ok_iff {l' : Layers} {config : Value} {shared : List (List Position)} :
    l.load config source shared = .ok l' ↔
      check config = .ok () ∧ ∃ entries, config = .dict entries ∧ l' = l.replace source entries shared := by
  unfold load
  rw [bind_eq_ok]
  constructor
  · rintro ⟨⟨⟩, hcheck, hload⟩
    cases config with
    | dict entries => exact ⟨hcheck, entries, rfl, (Except.ok.inj hload).symm⟩
    | _ => exact nomatch hload
  · rintro ⟨hcheck, entries, rfl, rfl⟩
    exact ⟨(), hcheck, rfl⟩

/-- The layers stay so when sources are cleared. -/
theorem Proper.without (h : l.Proper) (gone : Source → Bool) : (l.without gone).Proper := by
  intro source
  rw [layer_without]
  split_ifs
  · rw [Entries.Proper]
    trivial
  · exact h source

/-! ### The merged configuration along a path -/

/-- What there is at a path when sources are laid over entries one after the other. -/
theorem find?_foldl (h : l.Proper) (hpath : ∀ key ∈ path, key.IsKey) (sources : List Source) {base : Entries}
    (hbase : Entries.Proper base) :
    (Value.dict (sources.foldl (fun entries source => Entries.laidOver entries (l.layer source)) base)).find? path =
      sources.foldl (fun under source => (l.mention source path).over under) ((Value.dict base).find? path) := by
  induction sources generalizing base with
  | nil => rfl
  | cons source sources ih =>
    have hunder : ∀ u, some (Value.dict base) = some u → u.Proper := by
      rintro u ⟨⟩
      exact Entries.proper_dict.mpr hbase
    have hstep := Value.find?_laidOver hunder (Entries.proper_dict.mpr (h source)) hpath
    rw [Value.laidOver] at hstep
    rw [List.foldl_cons, ih (hbase.laidOver (h source)), hstep]
    rfl

theorem merged_proper (h : l.Proper) : Entries.Proper l.merged := by
  have hall (sources : List Source) {base : Entries} (hbase : Entries.Proper base) :
      Entries.Proper (sources.foldl (fun entries source => Entries.laidOver entries (l.layer source)) base) := by
    induction sources generalizing base with
    | nil => exact hbase
    | cons source sources ih => exact ih (hbase.laidOver (h source))
  rw [merged_eq]
  exact hall _ (by rw [Entries.Proper]; trivial)

theorem find?_merged (h : l.Proper) (hpath : ∀ key ∈ path, key.IsKey) (hne : path ≠ []) :
    (Value.dict l.merged).find? path =
      Source.all.foldl (fun under source => (l.mention source path).over under) none := by
  rw [merged_eq, find?_foldl h hpath _ (by rw [Entries.Proper]; trivial)]
  obtain ⟨key, rest, rfl⟩ := List.exists_cons_of_ne_nil hne
  rfl

/-- Where no source mentions a path, there is nothing. -/
theorem foldl_unmentioned (h : ∀ source, ¬l.Mentions path source) (under : Option Value) (sources : List Source) :
    sources.foldl (fun under source => (l.mention source path).over under) under = under := by
  induction sources with
  | nil => rfl
  | cons source sources ih =>
    rw [List.foldl_cons, not_not.mp (h source)]
    exact ih

/-- What is at a path is what the source that decides says, laid over something. -/
theorem Decides.foldl (h : l.Decides path source) : ∃ under,
    Source.all.foldl (fun under source => (l.mention source path).over under) none =
      (l.mention source path).over under := by
  have habsent (other : Source) (hweight : source.weight < other.weight) : l.mention other path = .absent :=
    not_not.mp (h.greatest other hweight)
  cases source with
  | runtime => exact ⟨_, rfl⟩
  | environment =>
    refine ⟨((l.mention .userConfig path).over ((l.mention .compiledDefaults path).over none)), ?_⟩
    simp only [Source.all, List.foldl_cons, List.foldl_nil, habsent .runtime (by decide), Mention.over]
  | userConfig =>
    refine ⟨((l.mention .compiledDefaults path).over none), ?_⟩
    simp only [Source.all, List.foldl_cons, List.foldl_nil, habsent .runtime (by decide),
      habsent .environment (by decide), Mention.over]
  | compiledDefaults =>
    refine ⟨none, ?_⟩
    simp only [Source.all, List.foldl_cons, List.foldl_nil, habsent .runtime (by decide),
      habsent .environment (by decide), habsent .userConfig (by decide), Mention.over]

/-- Some source decides a path that is mentioned. -/
theorem exists_decides (h : ∃ source, l.Mentions path source) : ∃ source, l.Decides path source := by
  by_contra hnone
  -- Climbing from a source that mentions the path to one of more weight never ends.
  have hclimb : ∀ weight source, 4 - source.weight = weight → ¬l.Mentions path source := by
    intro weight
    induction weight using Nat.strongRecOn with
    | ind weight ih =>
      intro source hweight hmentions
      refine hnone ⟨source, hmentions, fun other hlt => ?_⟩
      have hle : other.weight ≤ 4 := by cases other <;> decide
      exact ih (4 - other.weight) (by omega) other rfl
  obtain ⟨source, hmentions⟩ := h
  exact hclimb _ source rfl hmentions

/-! ### The rule holds -/

/-- A value in a dictionary is smaller than the dictionary. -/
theorem sizeOf_get?_lt (entries : Entries) (key : Value) :
    sizeOf (Entries.get? entries key) < sizeOf (some (Value.dict entries)) := by
  have hdict : sizeOf (some (Value.dict entries)) = 2 + sizeOf entries := by simp; omega
  cases h : Entries.get? entries key with
  | none =>
    have hnone : sizeOf (none : Option Value) = 1 := rfl
    omega
  | some value =>
    obtain ⟨entry, hentry, rfl⟩ := Option.map_eq_some_iff.mp h
    have hlt := List.sizeOf_lt_of_mem (List.mem_of_find?_eq_some hentry)
    have hpair : sizeOf entry = 1 + sizeOf entry.1 + sizeOf entry.2 := rfl
    have hsome : sizeOf (some entry.2) = 1 + sizeOf entry.2 := rfl
    omega

/-- The merged configuration has at every path what there is by the rule. -/
theorem ruled_merged (h : l.Proper) {path : List Value} (hpath : ∀ key ∈ path, key.IsKey) (hne : path ≠ []) :
    l.Ruled path ((Value.dict l.merged).find? path) := by
  -- A dictionary refers to the rule at longer paths, where the values are smaller ones.
  induction hsize : sizeOf ((Value.dict l.merged).find? path) using Nat.strongRecOn generalizing path with
  | ind size ih =>
    by_cases hmentioned : ∃ source, l.Mentions path source
    · obtain ⟨source, hdecides⟩ := exists_decides hmentioned
      obtain ⟨under, hunder⟩ := hdecides.foldl
      have hfind := (find?_merged h hpath hne).trans hunder
      cases hmention : l.mention source path with
      | absent => exact absurd hmention hdecides.mentions
      | blocked =>
        rw [hfind, hmention]
        exact .blocked hdecides hmention
      | held value =>
        rw [hmention, Mention.over] at hfind
        by_cases hkind : value.kind = .dict
        · obtain ⟨upper, rfl⟩ := Value.exists_dict hkind
          obtain ⟨entries, hentries⟩ := Value.exists_laidOver under upper
          rw [hentries] at hfind
          have hproper := Entries.proper_dict.mpr (merged_proper h) |>.of_find? hfind
          rw [hfind]
          refine .dict hdecides hmention (Entries.proper_dict.mp hproper) fun key hkey => ?_
          have hlonger : (Value.dict l.merged).find? (path ++ [key]) = Entries.get? entries key := by
            rw [Value.find?_concat, hfind]
            exact Option.bind_fun_some _
          have hkeys : ∀ k ∈ path ++ [key], k.IsKey := by
            rw [List.forall_mem_append]
            exact ⟨hpath, List.forall_mem_singleton.mpr hkey⟩
          have hlt := sizeOf_get?_lt entries key
          rw [← hfind, ← hlonger, hsize] at hlt
          rw [← hlonger]
          exact ih _ hlt hkeys (by simp) rfl
        · rw [hfind, Value.laidOver_of_kind hkind]
          exact .held hdecides hmention hkind
    · have hnone (source : Source) : ¬l.Mentions path source := fun hm => hmentioned ⟨source, hm⟩
      rw [find?_merged h hpath hne, foldl_unmentioned hnone]
      exact .unmentioned hnone

/-! ### Looking up -/

/-- The path of keys that a written path stands for. -/
def keyPath (path : Text) : List Value :=
  (keys path).map .text

theorem isKey_of_mem_keyPath {path : Text} {key : Value} (h : key ∈ keyPath path) : key.IsKey := by
  obtain ⟨text, -, rfl⟩ := List.mem_map.mp h
  exact Value.isKey_text text

theorem keyPath_ne_nil (path : Text) : keyPath path ≠ [] := by
  rw [keyPath, ne_eq, List.map_eq_nil_iff]
  exact Text.splitAtPoint_ne_nil '.' path

theorem get_eq (l : Layers) (path : Text) (default : Value) :
    l.get path default = match (Value.dict l.merged).find? (keyPath path) with
      | none | some .none => default
      | some value => value := by
  rw [get, Entries.at?_eq_find?]
  rfl

/-- A path that the source that decides holds leads to its value, laid over something. -/
theorem get_of_decides (h : l.Proper) {path : Text} {value : Value} (hdecides : l.Decides (keyPath path) source)
    (hmention : l.mention source (keyPath path) = .held value) (hnone : value ≠ .none) (default : Value) :
    ∃ under, l.get path default = Value.laidOver under value := by
  obtain ⟨under, hunder⟩ := hdecides.foldl
  refine ⟨under, ?_⟩
  rw [hmention, Mention.over] at hunder
  rw [get_eq, find?_merged h (fun key => isKey_of_mem_keyPath) (keyPath_ne_nil path), hunder]
  by_cases hkind : value.kind = .dict
  · obtain ⟨upper, rfl⟩ := Value.exists_dict hkind
    obtain ⟨entries, hentries⟩ := Value.exists_laidOver under upper
    rw [hentries]
  · rw [Value.laidOver_of_kind hkind]
    cases value with
    | none => exact absurd rfl hnone
    | _ => rfl

/-- The running program decides what it holds. -/
theorem decides_runtime {value : Value} (h : l.mention .runtime path = .held value) : l.Decides path .runtime := by
  refine ⟨fun habsent => Mention.noConfusion (h.symm.trans habsent), fun other hweight => ?_⟩
  cases other <;> simp [Source.weight] at hweight

/-- Where two states say the same about a path, looking it up gives the same. -/
theorem get_congr {l' : Layers} (h : l.Proper) (h' : l'.Proper) {path : Text}
    (hmention : ∀ source, l'.mention source (keyPath path) = l.mention source (keyPath path)) (default : Value) :
    l'.get path default = l.get path default := by
  have hkeys : ∀ key ∈ keyPath path, key.IsKey := fun key => isKey_of_mem_keyPath
  rw [get_eq, get_eq, find?_merged h' hkeys (keyPath_ne_nil path), find?_merged h hkeys (keyPath_ne_nil path)]
  simp only [hmention]

/-- Looking a path up gives what there is by the rule of precedence, with the default for nothing and for a none, and
what the sources hold that do not mention the path has no part in it. -/
theorem get_precedence (l : Layers) (h : l.Proper) (path : Text) (default : Value) :
    (∃ ruled, l.Ruled (keyPath path) ruled ∧ l.get path default = match ruled with
      | none | some .none => default
      | some value => value) ∧
    ∀ l' : Layers, l'.Proper →
      (∀ source, l'.layer source = l.layer source ∨
        ¬l.Mentions (keyPath path) source ∧ ¬l'.Mentions (keyPath path) source) →
      l'.get path default = l.get path default := by
  have hkeys : ∀ key ∈ keyPath path, key.IsKey := fun key => isKey_of_mem_keyPath
  have hne := keyPath_ne_nil path
  refine ⟨⟨_, ruled_merged h hkeys hne, get_eq l path default⟩, fun l' h' hsame => ?_⟩
  have hmention (source : Source) : l'.mention source (keyPath path) = l.mention source (keyPath path) := by
    obtain hlayer | ⟨hnot, hnot'⟩ := hsame source
    · rw [mention, mention, hlayer]
    · rw [not_not.mp hnot, not_not.mp hnot']
  rw [get_eq, get_eq, find?_merged h' hkeys hne, find?_merged h hkeys hne]
  simp only [hmention]

/-- Sources in which a number stands between two dictionaries. -/
def between : Layers where
  store :=
    { layers :=
        [(.compiledDefaults, [(.text "a", .dict [(.text "b", .int 1), (.text "c", .int 2)])]),
          (.environment, [(.text "a", .dict [(.text "c", .none), (.text "d", .int 3)])]),
          (.userConfig, [(.text "a", .int 5)])]
      distinct := by decide }

/-- There the environment decides what is at the key, and the number keeps out what is below it. -/
theorem get_precedence_between : between.Proper ∧
    (∃ ruled, between.Ruled (keyPath "a") ruled ∧ between.get "a" (.int 0) = match ruled with
      | none | some .none => .int 0
      | some value => value) ∧
    (between.replace .runtime [(.text "b", .int 4)]).get "a" (.int 0) = between.get "a" (.int 0) ∧
    between.get "a" (.int 0) = .dict [(.text "c", .none), (.text "d", .int 3)] := by
  have hproper : between.Proper := by
    refine proper_of_store ?_
    simp +decide [between, Entries.Proper, Value.Proper, Entries.get?_nil, Entries.get?_cons]
  have hother : Entries.Proper [(.text "b", .int 4)] := by simp [Entries.Proper, Value.Proper, Entries.get?_nil]
  have hpath : keyPath "a" = [.text "a"] := rfl
  have hruntime : between.layer .runtime = [] := rfl
  obtain ⟨hruled, hsame⟩ := get_precedence between hproper "a" (.int 0)
  refine ⟨hproper, hruled, hsame _ (hproper.replace hother) fun source => ?_, ?_⟩
  · by_cases hsource : source = .runtime
    · subst hsource
      refine .inr ⟨not_not.mpr ?_, not_not.mpr ?_⟩
      · rw [mention, hruntime, hpath, Value.mention, Entries.get?_nil]
      · rw [mention, layer_replace, if_pos rfl, hpath]
        simp +decide [Value.mention, Entries.get?_nil, Entries.get?_cons]
    · rw [layer_replace, if_neg hsource]
      exact .inl rfl
  · have hdefaults : between.layer .compiledDefaults = [(.text "a", .dict [(.text "b", .int 1), (.text "c", .int 2)])] :=
      rfl
    have huser : between.layer .userConfig = [(.text "a", .int 5)] := rfl
    have henvironment : between.layer .environment = [(.text "a", .dict [(.text "c", .none), (.text "d", .int 3)])] := rfl
    rw [get_eq, hpath, merged_eq]
    simp +decide [Source.all, hdefaults, huser, henvironment, hruntime, Entries.laidOver, Value.laidOver, Value.find?,
      Entries.insert, Entries.get?_nil, Entries.get?_cons]

end Config.Layers

end FileSieve
