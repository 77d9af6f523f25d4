import FileSieve.Config.Session
import FileSieve.Proofs.Config.Precedence
import FileSieve.Proofs.Config.Validation
import FileSieve.Proofs.Size.Range

/-!
# Loading a configuration

A configuration is looked at before anything is changed. So loading it replaces what one source says, or refuses it with
a reason and changes nothing (`loadDict_outcome`). Only a section of the filter with keys or modifiers that are no texts
is neither loaded nor refused: naming them fails itself, and that is not caught.
-/

namespace FileSieve.Config

/-- What can become of a configuration that is loaded. -/
inductive Loads (l : Layers) (config : Value) (source : Source) : Layers × Option Failure → Prop
  /-- It takes the place of what the source said, and of nothing else. -/
  | replaced {l' : Layers} {entries : Entries} : config = .dict entries →
    (∀ other, l'.layer other = if other = source then entries else l.layer other) → Loads l config source (l', none)
  /-- It is refused with a reason, and nothing changes. -/
  | refused (reason : Invalid) : Loads l config source (l, some (.invalid reason))

namespace Layers

variable {l : Layers} {config : Value} {source : Source} {shared : List (List Position)}

theorem loadDict_of_ok {entries : Entries} (h : check (.dict entries) = .ok ()) (l : Layers) (source : Source)
    (shared : List (List Position)) :
    l.loadDict (.dict entries) source shared = (l.replace source entries shared, none) := by
  rw [loadDict, loadValue, load_eq_ok_iff.mpr ⟨h, entries, rfl, rfl⟩]
  rfl

theorem loadDict_of_error {e : Refusal} (h : check config = .error e) (l : Layers) (source : Source)
    (shared : List (List Position)) : l.loadDict config source shared = (l, some (Failure.ofRefusal e)) := by
  have hload : l.load config source shared = .error e := by
    unfold load
    rw [h]
    rfl
  rw [loadDict, loadValue, hload]
  rfl

/-- A valid configuration is a dictionary. -/
theorem exists_dict_of_check (h : check config = .ok ()) : ∃ entries, config = .dict entries := by
  obtain ⟨entries, inner, rfl, -⟩ | ⟨reason, hrefused⟩ := check_cases config
  · exact ⟨entries, rfl⟩
  · rw [h] at hrefused
    cases hrefused

/-- What becomes of a configuration does not depend on the layers: it replaces what its source says in all of them, or
it changes none of them. -/
theorem loadDict_uniform (config : Value) (source : Source) (shared : List (List Position)) :
    (∃ entries, ∀ l : Layers, l.loadDict config source shared = (l.replace source entries shared, none)) ∨
      ∃ f, ∀ l : Layers, l.loadDict config source shared = (l, some f) := by
  cases hcheck : check config with
  | ok =>
    obtain ⟨entries, rfl⟩ := exists_dict_of_check hcheck
    exact .inl ⟨entries, fun l => loadDict_of_ok hcheck l source shared⟩
  | error e => exact .inr ⟨_, fun l => loadDict_of_error hcheck l source shared⟩

/-- A configuration is loaded or refused if it is judged, and otherwise nothing changes either. -/
theorem loadDict_cases (l : Layers) (config : Value) (source : Source) (shared : List (List Position)) :
    ((∀ m, check config ≠ .error (.misuse m)) ∧ Loads l config source (l.loadDict config source shared)) ∨
      ∃ m, check config = .error (.misuse m) ∧ l.loadDict config source shared = (l, some (.misuse m)) := by
  cases hcheck : check config with
  | ok =>
    obtain ⟨entries, rfl⟩ := exists_dict_of_check hcheck
    rw [loadDict_of_ok hcheck]
    exact .inl ⟨nofun, .replaced rfl (layer_replace l source entries shared)⟩
  | error e =>
    rw [loadDict_of_error hcheck]
    cases e with
    | invalid reason => exact .inl ⟨nofun, .refused reason⟩
    | misuse m => exact .inr ⟨m, rfl, rfl⟩

/-- A configuration that can be written is loaded or refused exactly when its section of the filter can be looked at.
Otherwise loading it fails without a reason, and changes nothing either. -/
theorem loadDict_outcome (l : Layers) (config : Value) (hconfig : config.Writable) (source : Source)
    (shared : List (List Position)) :
    (¬UnjoinableIn config → Loads l config source (l.loadDict config source shared)) ∧
    (UnjoinableIn config → ∃ m, l.loadDict config source shared = (l, some (.misuse m))) := by
  rw [← check_misuse_iff hconfig]
  obtain ⟨hjudged, hloads⟩ | ⟨m, hcheck, hfailed⟩ := loadDict_cases l config source shared
  · exact ⟨fun _ => hloads, fun ⟨m, hm⟩ => absurd hm (hjudged m)⟩
  · exact ⟨fun hjudged => absurd ⟨m, hcheck⟩ hjudged, fun _ => ⟨m, hfailed⟩⟩

/-- A section of the filter within a configuration. -/
def withFilter (filter : Entries) : Value :=
  .dict [(.text Key.root, .dict [(.text Key.filter, .dict filter)])]

/-- A key that is not known is refused if it is a text, and not if it is a number. -/
theorem loadDict_outcome_unknown :
    (withFilter [(.text "1", .int 2)]).Writable ∧ (withFilter [(.int 1, .int 2)]).Writable ∧
    Loads {} (withFilter [(.text "1", .int 2)]) .runtime
      (({} : Layers).loadDict (withFilter [(.text "1", .int 2)]) .runtime) ∧
    ∃ m, ({} : Layers).loadDict (withFilter [(.int 1, .int 2)]) .runtime = ({}, some (.misuse m)) := by
  have hone : ¬TooLong 1 := Size.not_tooLong (n := 1) (by decide)
  have htwo : ¬TooLong 2 := Size.not_tooLong (n := 2) (by decide)
  have htext : (withFilter [(.text "1", .int 2)]).Writable := by
    simpa only [withFilter, Value.Writable, Value.WritableEntries, and_true, true_and] using htwo
  have hint : (withFilter [(.int 1, .int 2)]).Writable := by
    simpa only [withFilter, Value.Writable, Value.WritableEntries, and_true, true_and] using ⟨hone, htwo⟩
  have hunknown : check (withFilter [(.text "1", .int 2)]) = .error (.invalid (.unknownKeys ["1"])) := by
    decide +kernel
  have hsections : sections [(.text Key.root, .dict [(.text Key.filter, .dict [(.int 1, .int 2)])])] =
      .dict [(.text Key.filter, .dict [(.int 1, .int 2)])] := by
    rw [sections, Entries.get?_cons, if_pos (by simp), Option.getD_some]
  have hfilter : Entries.get? [(.text Key.filter, .dict [(.int 1, .int 2)])] (.text Key.filter) =
      some (.dict [(.int 1, .int 2)]) := by
    rw [Entries.get?_cons, if_pos (by simp)]
  refine ⟨htext, hint, (loadDict_outcome {} _ htext .runtime []).1 fun h => ?_,
    (loadDict_outcome {} _ hint .runtime []).2 ?_⟩
  · obtain ⟨m, hm⟩ := (check_misuse_iff htext).mpr h
    rw [hunknown] at hm
    cases hm
  · exact ⟨_, _, _, rfl, hsections, hfilter, .key (List.mem_singleton_self _) (by decide)⟩

/-- The number is no text that the reason could name. -/
theorem number_key_unnamed : ¬Loads {} (withFilter [(.int 1, .int 2)]) .runtime
    (({} : Layers).loadDict (withFilter [(.int 1, .int 2)]) .runtime) := by
  have hfailed : (({} : Layers).loadDict (withFilter [(.int 1, .int 2)]) .runtime).2 =
      some (.misuse (.itemNotText 0 .int)) := by decide +kernel
  intro h
  generalize ({} : Layers).loadDict (withFilter [(.int 1, .int 2)]) .runtime = outcome at h hfailed
  cases h with
  | replaced => cases hfailed
  | refused => cases hfailed

end Layers

end FileSieve.Config
