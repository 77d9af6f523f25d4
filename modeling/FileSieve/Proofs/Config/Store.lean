import FileSieve.Config.Layers
import Mathlib.Data.List.Nodup
import Mathlib.Data.List.Perm.Basic
import Mathlib.Data.List.Sort

/-!
# The order of layers

A store keeps its layers in the order in which they were made, and this differs between runs that do the same to each
source. Laying the layers over each other goes by their weight. There is one order of a set of sources by their weight
(`byWeight_eq`), so the merged configuration depends on what each source says and on nothing else (`merged_eq`).
-/

namespace FileSieve.Config

namespace Store

variable {s : Store} {source other : Source} {entries : Entries} {layer : Source × Entries}
  {layers : List (Source × Entries)}

/-! ### The layer of a source -/

theorem find?_putLayer (source other : Source) (entries : Entries) (layers : List (Source × Entries)) :
    (putLayer source entries layers).find? (fun layer => layer.1 = other) =
      if other = source then some (source, entries) else layers.find? fun layer => layer.1 = other := by
  induction layers with
  | nil => by_cases h : other = source <;> simp [putLayer, h, Ne.symm]
  | cons layer layers ih =>
    rw [putLayer]
    by_cases hfirst : layer.1 = source
    · by_cases h : other = source
      · simp [hfirst, h]
      · simp [hfirst, h, Ne.symm h]
    · by_cases h : other = source
      · rw [if_neg hfirst, List.find?_cons, ih, if_pos h]
        simp [h, hfirst]
      · rw [if_neg hfirst, if_neg h, List.find?_cons, List.find?_cons, ih, if_neg h]

theorem layer?_put (s : Store) (source other : Source) (entries : Entries) :
    (s.put source entries).layer? other = if other = source then some entries else s.layer? other := by
  rw [layer?, put, find?_putLayer]
  split_ifs <;> rfl

theorem layer?_without (s : Store) (gone : Source → Bool) (source : Source) :
    (s.without gone).layer? source = if gone source then none else s.layer? source := by
  rw [layer?, without, List.find?_filter]
  split_ifs with h
  · rw [Option.map_eq_none_iff, List.find?_eq_none]
    intro layer _ hfound
    simp only [decide_eq_true_eq] at hfound
    rw [hfound.2, h] at hfound
    exact absurd hfound.1 (by decide)
  · refine congrArg _ (congrArg (s.layers.find? ·) (funext fun layer => ?_))
    by_cases hlayer : layer.1 = source
    · simp [hlayer, h]
    · simp [hlayer]

theorem layer?_eq_some_iff : s.layer? source = some entries ↔ (source, entries) ∈ s.layers := by
  rw [layer?, Option.map_eq_some_iff]
  constructor
  · rintro ⟨layer, hfound, rfl⟩
    have hsource : layer.1 = source := by simpa using List.find?_some hfound
    rw [← hsource]
    exact List.mem_of_find?_eq_some hfound
  · intro hmem
    cases hfound : s.layers.find? fun layer => layer.1 = source with
    | none => simpa using List.find?_eq_none.mp hfound _ hmem
    | some layer =>
      have hsource : layer.1 = source := by simpa using List.find?_some hfound
      have hsame := List.inj_on_of_nodup_map s.distinct (List.mem_of_find?_eq_some hfound) hmem hsource
      exact ⟨layer, rfl, congrArg Prod.snd hsame⟩

/-! ### The order by weight -/

theorem insertByWeight_perm (layer : Source × Entries) (layers : List (Source × Entries)) :
    (insertByWeight layer layers).Perm (layer :: layers) := by
  induction layers with
  | nil => exact .refl _
  | cons first rest ih =>
    rw [insertByWeight]
    split_ifs
    · exact .refl _
    · exact (ih.cons first).trans (.swap layer first rest)

/-- Layers of which none has more weight than one behind it. -/
def Ordered (layers : List (Source × Entries)) : Prop :=
  layers.Pairwise fun a b => a.1.weight ≤ b.1.weight

theorem Ordered.insertByWeight (h : Ordered layers) (layer : Source × Entries) :
    Ordered (insertByWeight layer layers) := by
  induction layers with
  | nil => exact List.pairwise_singleton _ _
  | cons first rest ih =>
    obtain ⟨hfirst, hrest⟩ := List.pairwise_cons.mp h
    rw [Store.insertByWeight]
    split_ifs with hless
    · refine List.pairwise_cons.mpr ⟨List.forall_mem_cons.mpr ⟨hless.le, fun other hother => ?_⟩, h⟩
      exact hless.le.trans (hfirst other hother)
    · refine List.pairwise_cons.mpr ⟨fun other hother => ?_, ih hrest⟩
      rcases List.mem_cons.mp ((insertByWeight_perm layer rest).mem_iff.mp hother) with rfl | hother
      · exact not_lt.mp hless
      · exact hfirst other hother

theorem foldl_insertByWeight (layers : List (Source × Entries)) {sorted : List (Source × Entries)}
    (h : Ordered sorted) :
    (layers.foldl (fun sorted layer => insertByWeight layer sorted) sorted).Perm (sorted ++ layers) ∧
      Ordered (layers.foldl (fun sorted layer => insertByWeight layer sorted) sorted) := by
  induction layers generalizing sorted with
  | nil => exact ⟨by simp, h⟩
  | cons layer layers ih =>
    obtain ⟨hperm, hordered⟩ := ih (h.insertByWeight layer)
    refine ⟨hperm.trans (((insertByWeight_perm layer sorted).append_right layers).trans ?_), hordered⟩
    exact List.perm_middle.symm

theorem weight_injective {a b : Source} (h : a.weight = b.weight) : a = b := by
  cases a <;> cases b <;> simp [Source.weight] at h ⊢

/-- The layers by their weight are those that there are, source by source. -/
theorem byWeight_eq (s : Store) :
    s.byWeight = Source.all.filterMap fun source => (s.layer? source).map (Prod.mk source) := by
  have hnil : Ordered [] := .nil
  obtain ⟨hperm, hordered⟩ := foldl_insertByWeight s.layers hnil
  rw [List.nil_append] at hperm
  have hmem (layer : Source × Entries) :
      layer ∈ Source.all.filterMap (fun source => (s.layer? source).map (Prod.mk source)) ↔ layer ∈ s.layers := by
    rw [List.mem_filterMap]
    constructor
    · rintro ⟨source, -, hlayer⟩
      obtain ⟨entries, hentries, rfl⟩ := Option.map_eq_some_iff.mp hlayer
      exact layer?_eq_some_iff.mp hentries
    · intro hlayer
      refine ⟨layer.1, by cases layer.1 <;> simp [Source.all], ?_⟩
      rw [layer?_eq_some_iff.mpr hlayer]
      rfl
  have hstrict : (Source.all.filterMap fun source => (s.layer? source).map (Prod.mk source)).Pairwise
      fun a b => a.1.weight < b.1.weight := by
    have hall : Source.all.Pairwise fun a b => a.weight < b.weight := by decide
    refine List.pairwise_filterMap.mpr (hall.imp fun hless a ha b hb => ?_)
    obtain ⟨_, -, rfl⟩ := Option.map_eq_some_iff.mp ha
    obtain ⟨_, -, rfl⟩ := Option.map_eq_some_iff.mp hb
    exact hless
  refine List.Perm.eq_of_pairwise (fun a b ha hb hab hba => ?_) hordered (hstrict.imp fun hless => hless.le) ?_
  · exact List.inj_on_of_nodup_map s.distinct (hperm.mem_iff.mp ha) ((hmem b).mp hb)
      (weight_injective (le_antisymm hab hba))
  · refine hperm.trans ((List.perm_ext_iff_of_nodup (s.distinct.of_map _) ?_).mpr fun layer => (hmem layer).symm)
    exact hstrict.imp fun hless hsame => absurd hless (by rw [hsame]; exact lt_irrefl _)

end Store

namespace Layers

/-- The merged configuration is what the sources say, laid over each other. -/
theorem merged_eq (l : Layers) :
    l.merged = Source.all.foldl (fun entries source => Entries.laidOver entries (l.layer source)) [] := by
  rw [merged, Store.byWeight_eq, List.foldl_filterMap]
  refine congrArg (fun step => Source.all.foldl step []) (funext fun entries => funext fun source => ?_)
  rw [layer]
  cases l.store.layer? source with
  | none => rw [Option.getD_none, Entries.laidOver]; rfl
  | some said => rfl

end Layers

end FileSieve.Config
