import FileSieve.Proofs.Config.Manager
import FileSieve.Proofs.Config.Parts

/-!
# Sources that do not know of each other

A change of a manager loads, sets or clears what one source says, or clears them all, and what becomes of the part of
this source depends on nothing but this part (`SameAt.apply`). So what a source says after a run of changes depends on
those changes only that the source sees, in their order (`sameAt_run`), and two runs in which every source sees the same
end with the same configuration, however the changes of different sources are interleaved (`changes_interleave`).

This holds as long as no value of the program is given to two sources. What is set is not copied: a dictionary that is
given twice stands in both layers, and what one source sets in it the other one says, too (`given_twice`).

What holds where nothing is configured sees no clearing at all. Unless something is loaded or set there, clearing all
sources leaves exactly what it said at the beginning.
-/

namespace FileSieve.Config.Layers

variable {l l' : Layers} {source target : Source} {part : Holder → Source}

/-! ### Changes -/

/-- A call that changes what sources say. -/
inductive Change
  /-- What is given is loaded into a source. -/
  | load (given : Given) (source : Source)
  /-- What is given is set at a path of a source. -/
  | set (path : Text) (given : Given) (source : Source)
  /-- A source is cleared. -/
  | clear (source : Source)
  /-- All sources are cleared. -/
  | clearAll

namespace Change

/-- The layers after a change, and what went wrong. -/
def apply (l : Layers) : Change → Layers × Option Failure
  | .load given source => l.loadGiven given source
  | .set path given source => ((l.set path given source).1, (l.set path given source).2.map .misuse)
  | .clear source => (l.clear source, none)
  | .clearAll => (l.clearAll, none)

/-- What a source sees of a change. Clearing all sources clears each but for what holds where nothing is configured. -/
def seenBy? (source : Source) : Change → Option Change
  | .load given target => if target = source then some (.load given target) else none
  | .set path given target => if target = source then some (.set path given target) else none
  | .clear target => if target = source then some (.clear target) else none
  | .clearAll => if source = .compiledDefaults then none else some (.clear source)

/-- A change gives a source something to say. -/
def Writes (source : Source) : Change → Prop
  | .load _ target | .set _ _ target => target = source
  | .clear _ | .clearAll => False

/-- What a change gives belongs to the part of the source that it is given to. -/
def Within (part : Holder → Source) : Change → Prop
  | .load given source | .set _ given source => given.Within part (part (.layer source))
  | .clear _ | .clearAll => True

/-- A change that a source sees within its part is within its part. -/
theorem within_of_seenBy {change seen : Change} (h : change.Within part) (hseen : change.seenBy? source = some seen) :
    seen.Within part := by
  cases change with
  | load given target | set path given target =>
    simp only [seenBy?, Option.ite_none_right_eq_some, Option.some.injEq] at hseen
    exact hseen.2 ▸ h
  | clear target =>
    simp only [seenBy?, Option.ite_none_right_eq_some, Option.some.injEq] at hseen
    exact hseen.2 ▸ trivial
  | clearAll =>
    simp only [seenBy?, Option.ite_none_left_eq_some, Option.some.injEq] at hseen
    exact hseen.2 ▸ trivial

/-- Runs in which every source sees the same are within parts together. -/
theorem within_of_seen {first second : List Change}
    (hsame : ∀ source, first.filterMap (seenBy? source) = second.filterMap (seenBy? source))
    (h : ∀ change ∈ first, change.Within part) : ∀ change ∈ second, change.Within part := by
  -- What is loaded or set is seen, by the source that it is given to.
  have hseen {change : Change} (hchange : change ∈ second) {target : Source} (hself : change.seenBy? target = some change) :
      change.Within part := by
    have hmem : change ∈ first.filterMap (seenBy? target) :=
      hsame target ▸ List.mem_filterMap.mpr ⟨change, hchange, hself⟩
    obtain ⟨earlier, hearlier, hsees⟩ := List.mem_filterMap.mp hmem
    exact within_of_seenBy (h earlier hearlier) hsees
  intro change hchange
  cases change with
  | load given target => exact hseen hchange (if_pos rfl)
  | set path given target => exact hseen hchange (if_pos rfl)
  | clear target => trivial
  | clearAll => trivial

end Change

/-- The layers after changes, each of which may fail. -/
def run (l : Layers) (changes : List Change) : Layers :=
  changes.foldl (fun l change => (change.apply l).1) l

theorem run_cons (l : Layers) (change : Change) (changes : List Change) :
    l.run (change :: changes) = (change.apply l).1.run changes := rfl

/-! ### What changes look at -/

/-- Changes within parts leave them divided. -/
theorem Divided.apply {change : Change} (h : Divided part l) (hwithin : change.Within part) :
    Divided part (change.apply l).1 := by
  cases change with
  | load given target =>
    rw [Change.apply, loadGiven]
    obtain ⟨entries, hload⟩ | ⟨f, hload⟩ := loadDict_uniform (l.value given) target (l.sharedWithin given)
    · rw [hload]
      exact h.replace target entries _
    · rwa [hload]
  | set path given target => exact (h.opened target).setFrom hwithin _ _ _
  | clear target => exact h.without _
  | clearAll => exact h.without _

/-- The part of a source stays as it is in a change that the source does not see. -/
theorem sameAt_apply_of_unseen {change : Change} (h : Divided part l) (halone : Alone part source)
    (hwithin : change.Within part) (hseen : change.seenBy? source = none) : SameAt part source (change.apply l).1 l := by
  cases change with
  | load given target =>
    have hne : target ≠ source := fun heq => by simp [Change.seenBy?, heq] at hseen
    rw [Change.apply, loadGiven]
    obtain ⟨entries, hload⟩ | ⟨f, hload⟩ := loadDict_uniform (l.value given) target (l.sharedWithin given)
    · rw [hload]
      exact sameAt_replace_of_ne (fun heq => hne (halone target heq)) h halone _ _
    · rw [hload]
      exact .refl part source l
  | set path given target =>
    have hne : target ≠ source := fun heq => by simp [Change.seenBy?, heq] at hseen
    exact (sameAt_setFrom_of_ne (fun heq => hne (halone target heq)) (h.opened target) hwithin _ _ _).trans
      (sameAt_opened part source target l)
  | clear target =>
    have hne : target ≠ source := fun heq => by simp [Change.seenBy?, heq] at hseen
    exact sameAt_without h halone (by simp [hne.symm])
  | clearAll =>
    have hdefaults : source = .compiledDefaults := by
      by_contra hother
      simp [Change.seenBy?, hother] at hseen
    exact sameAt_without h halone (by simp [hdefaults])

/-- What becomes of the part of a source in a change that the source sees does not depend on the others. -/
theorem SameAt.apply {change seen : Change} (hsame : SameAt part source l l') (h : Divided part l)
    (halone : Alone part source) (hwithin : change.Within part) (hseen : change.seenBy? source = some seen) :
    SameAt part source (change.apply l).1 (seen.apply l').1 := by
  cases change with
  | load given target =>
    simp only [Change.seenBy?, Option.ite_none_right_eq_some, Option.some.injEq] at hseen
    obtain ⟨rfl, rfl⟩ := hseen
    rw [Change.apply, Change.apply, loadGiven, loadGiven, ← hsame.value_eq hwithin, ← hsame.sharedWithin hwithin]
    obtain ⟨entries, hload⟩ | ⟨f, hload⟩ := loadDict_uniform (l.value given) target (l.sharedWithin given)
    · rw [hload, hload]
      exact hsame.replace h halone _ _
    · rwa [hload, hload]
  | set path given target =>
    simp only [Change.seenBy?, Option.ite_none_right_eq_some, Option.some.injEq] at hseen
    obtain ⟨rfl, rfl⟩ := hseen
    have hopened : SameAt part target (l.opened target) (l'.opened target) :=
      (sameAt_opened part target target l).trans (hsame.trans (sameAt_opened part target target l').symm)
    rw [Change.apply, Change.apply, Layers.set, Layers.set, hsame.layer]
    exact hopened.setFrom (h.opened target) hwithin _ _ _
  | clear target =>
    simp only [Change.seenBy?, Option.ite_none_right_eq_some, Option.some.injEq] at hseen
    obtain ⟨rfl, rfl⟩ := hseen
    exact hsame.without h halone rfl
  | clearAll =>
    simp only [Change.seenBy?, Option.ite_none_left_eq_some, Option.some.injEq] at hseen
    obtain ⟨hother, rfl⟩ := hseen
    exact hsame.without h halone (by simp [hother])

/-! ### Runs -/

/-- After a run of changes a source says what it says after those that it sees. -/
theorem sameAt_run (hsame : SameAt part source l l') (h : Divided part l) (halone : Alone part source)
    {changes : List Change} (hwithin : ∀ change ∈ changes, change.Within part) :
    SameAt part source (l.run changes) (l'.run (changes.filterMap (Change.seenBy? source))) := by
  induction changes generalizing l l' with
  | nil => exact hsame
  | cons change changes ih =>
    obtain ⟨hchange, hchanges⟩ := List.forall_mem_cons.mp hwithin
    rw [run_cons]
    cases hseen : change.seenBy? source with
    | none =>
      rw [List.filterMap_cons_none hseen]
      exact ih ((sameAt_apply_of_unseen h halone hchange hseen).trans hsame) (h.apply hchange) hchanges
    | some seen =>
      rw [List.filterMap_cons_some hseen, run_cons]
      exact ih (hsame.apply h halone hchange hseen) (h.apply hchange) hchanges

/-- Runs in which every source sees the same changes, in the same order, end with the same configuration if each source
has a part of its own. -/
theorem merged_run_congr (h : Divided part l) (halone : ∀ source, Alone part source) {first second : List Change}
    (hwithin : ∀ change ∈ first, change.Within part)
    (hsame : ∀ source, first.filterMap (Change.seenBy? source) = second.filterMap (Change.seenBy? source)) :
    (l.run first).merged = (l.run second).merged := by
  have hwithin' := Change.within_of_seen hsame hwithin
  have hlayer (source : Source) : (l.run first).layer source = (l.run second).layer source := by
    have hfirst := sameAt_run (.refl part source l) h (halone source) hwithin
    have hsecond := sameAt_run (.refl part source l) h (halone source) hwithin'
    rw [hfirst.layer, hsame source, ← hsecond.layer]
  rw [merged_eq, merged_eq]
  simp only [hlayer]

/-! ### What holds where nothing is configured -/

/-- The part of what holds where nothing is configured, and that of everything else. -/
def defaultsApart (holder : Holder) : Source :=
  if holder = .layer .compiledDefaults then .compiledDefaults else .runtime

theorem alone_defaults : Alone defaultsApart .compiledDefaults := by
  intro other h
  cases other <;> simp [defaultsApart] at h ⊢

/-- A change that does not write there is not seen there, or clears nothing. -/
theorem sameAt_apply_of_not_writes {change : Change} (h : Divided defaultsApart l)
    (hwrites : ¬change.Writes .compiledDefaults) :
    change.Within defaultsApart ∧ SameAt defaultsApart .compiledDefaults (change.apply l).1 l := by
  have hkept {given : Given} {target : Source} (hne : target ≠ .compiledDefaults) :
      given.Within defaultsApart (defaultsApart (.layer target)) := by
    rintro number -
    rw [defaultsApart, defaultsApart, if_neg nofun, if_neg fun heq => hne (Holder.layer.inj heq)]
  cases change with
  | load given target =>
    have hne : target ≠ .compiledDefaults := hwrites
    exact ⟨hkept hne, sameAt_apply_of_unseen h alone_defaults (hkept hne) (if_neg hne)⟩
  | set path given target =>
    have hne : target ≠ .compiledDefaults := hwrites
    exact ⟨hkept hne, sameAt_apply_of_unseen h alone_defaults (hkept hne) (if_neg hne)⟩
  | clear target => exact ⟨trivial, sameAt_without h alone_defaults (by simp)⟩
  | clearAll => exact ⟨trivial, sameAt_without h alone_defaults (by simp)⟩

/-- So it stays in runs of such changes. -/
theorem defaults_of_run {changes : List Change} (h : Divided defaultsApart l)
    (hwrites : ∀ change ∈ changes, ¬change.Writes .compiledDefaults) :
    (l.run changes).layer .compiledDefaults = l.layer .compiledDefaults := by
  induction changes generalizing l with
  | nil => rfl
  | cons change changes ih =>
    obtain ⟨hchange, hchanges⟩ := List.forall_mem_cons.mp hwrites
    obtain ⟨hwithin, hsame⟩ := sameAt_apply_of_not_writes h hchange
    rw [run_cons, ih (h.apply hwithin) hchanges, hsame.layer]

/-- Clearing what holds where nothing is configured changes nothing. -/
theorem clear_defaults (l : Layers) : l.clear .compiledDefaults = l := by
  have hnone : (fun other => decide (other = Source.compiledDefaults) && decide (other ≠ .compiledDefaults)) =
      fun _ => false := by
    funext other
    simp
  rw [clear, hnone, without_none]

/-- With all sources cleared there is what holds where nothing is configured. -/
theorem merged_clearAll (h : l.layer .compiledDefaults = Key.defaults) : l.clearAll.merged = Key.defaults := by
  have hcleared (source : Source) : l.clearAll.layer source =
      if source = .compiledDefaults then Key.defaults else [] := by
    rw [clearAll, layer_without]
    by_cases hsource : source = .compiledDefaults
    · simp [hsource, h]
    · simp [hsource]
  rw [merged_eq, Source.all]
  simp only [List.foldl_cons, List.foldl_nil, hcleared]
  rfl

/-! ### Managers that have been made -/

/-- What the layers of a new manager say where nothing is configured, and where dictionaries stand twice in them. -/
structure Fresh (l : Layers) : Prop where
  /-- What holds where nothing is configured. -/
  defaults : l.layer .compiledDefaults = Key.defaults
  /-- Dictionaries stand twice in the layer of a file only. -/
  shared : ∀ group ∈ l.shared, ∀ p ∈ group, p.holder = .layer .userConfig

theorem Fresh.loadValue {config : Value} {shared : List (List Position)} (h : l.Fresh)
    (hne : source ≠ .compiledDefaults) (hshared : source = .userConfig ∨ shared = [])
    (hload : l.loadValue config source shared = .ok l') : l'.Fresh := by
  obtain ⟨-, entries, -, rfl⟩ := load_eq_ok_iff.mp (mapError_eq_ok.mp hload)
  refine ⟨by rw [layer_replace, if_neg hne.symm, h.defaults], List.forall_mem_append.mpr ⟨?_, ?_⟩⟩
  · intro group hgroup p hp
    obtain ⟨old, hold, rfl⟩ := List.mem_map.mp hgroup
    exact h.shared old hold p (List.mem_of_mem_filter hp)
  · rcases hshared with rfl | rfl
    · intro group hgroup p hp
      obtain ⟨positions, -, rfl⟩ := List.mem_map.mp hgroup
      obtain ⟨position, -, rfl⟩ := List.mem_map.mp hp
      rfl
    · exact nofun

theorem fresh_of_create {s s' : Session} {file : Value} {settings : List (Text × Text)} {number : Nat}
    (h : s.create file settings = (s', .ok number)) : (s'.manager number).Fresh := by
  obtain ⟨l, hfile, hset⟩ := exists_of_create h
  have hl : l.Fresh := by
    have hstart : ({} : Layers).Fresh := ⟨rfl, nofun⟩
    rcases hfile with rfl | ⟨path, hloaded⟩
    · exact hstart
    · obtain ⟨⟨found, meaning⟩, -, hloaded⟩ := bind_eq_ok.mp hloaded
      obtain ⟨loaded, hload, hloaded⟩ := bind_eq_ok.mp hloaded
      obtain ⟨-, rfl⟩ := Prod.mk.inj (Except.ok.inj hloaded)
      exact hstart.loadValue (by decide) (.inl rfl) hload
  obtain ⟨entries, -, hset⟩ := bind_eq_ok.mp hset
  split at hset
  · exact Except.ok.inj hset ▸ hl
  · exact hl.loadValue (by decide) (.inr rfl) hset

/-- The layers when the program keeps values, some dictionaries of which may be the same. -/
def keeping (l : Layers) (values : List Value) (links : List (List Site)) : Layers :=
  { l with kept := values, shared := l.shared ++ links }

theorem Fresh.divided (h : l.Fresh) {links : List (List Site)} (hlinks : ∀ group ∈ links, Site.Together part group)
    (values : List Value) : Divided part (l.keeping values links) := by
  refine List.forall_mem_append.mpr ⟨fun group hgroup p hp q hq => ?_, hlinks⟩
  rw [h.shared group hgroup p hp, h.shared group hgroup q hq]

/-! ### The result -/

/-- The parts of sources to which the values of the program belong, each to one of them. -/
def ownedBy (owner : Nat → Source) : Holder → Source
  | .layer source => source
  | .kept number => owner number

/-- Take a manager that has been made, and a program that keeps any values, between some of which dictionaries are shared.
If each value belongs to one source, and no dictionary is shared between those of two sources, then two runs of changes
in which every source is given its values only and sees the same in the same order give the same configuration, however
they interleave the sources, and whether changes fail or not. Whomever values are given to, after a run that does not
write what holds where nothing is configured, clearing that changes nothing, and clearing all sources leaves exactly it. -/
theorem changes_interleave {s s' : Session} {file : Value} {settings : List (Text × Text)} {number : Nat}
    (hmade : s.create file settings = (s', .ok number)) (values : List Value) (links : List (List Site))
    (hlinks : ∀ group ∈ links, ∀ p ∈ group, ∃ n, p.holder = .kept n) :
    (∀ owner : Nat → Source, (∀ group ∈ links, Site.Together (ownedBy owner) group) →
      ∀ first second : List Change, (∀ change ∈ first, change.Within (ownedBy owner)) →
      (∀ source, first.filterMap (Change.seenBy? source) = second.filterMap (Change.seenBy? source)) →
      (((s'.manager number).keeping values links).run first).merged =
        (((s'.manager number).keeping values links).run second).merged) ∧
    (∀ changes : List Change, (∀ change ∈ changes, ¬change.Writes .compiledDefaults) →
      (((s'.manager number).keeping values links).run changes).clear .compiledDefaults =
        ((s'.manager number).keeping values links).run changes ∧
      (((s'.manager number).keeping values links).run changes).clearAll.merged = Key.defaults) := by
  have hfresh := fresh_of_create hmade
  refine ⟨fun owner howned first second hwithin hsame =>
    merged_run_congr (hfresh.divided howned values) (fun source other h => h) hwithin hsame,
    fun changes hchanges => ⟨clear_defaults _, merged_clearAll ?_⟩⟩
  have hdivided : Divided defaultsApart ((s'.manager number).keeping values links) := by
    refine hfresh.divided (fun group hgroup p hp q hq => ?_) values
    obtain ⟨m, hm⟩ := hlinks group hgroup p hp
    obtain ⟨n, hn⟩ := hlinks group hgroup q hq
    rw [hm, hn, defaultsApart, defaultsApart, if_neg nofun, if_neg nofun]
  rw [defaults_of_run hdivided hchanges]
  exact hfresh.defaults

/-- Changes of two sources that take turns, one of which fails, with all sources cleared in between. One of them is given
a dictionary twice, and then something is set in it. -/
def alternating : List Change :=
  [.set "filefilter.filter.size" (.new (.int 1)) .userConfig, .set "a" (.kept 0) .runtime,
    .set "filefilter.filter.size.unit" (.new (.int 3)) .userConfig, .set "b" (.kept 0) .runtime, .clearAll,
    .set "b" (.kept 0) .runtime, .set "filefilter.filter.size" (.new (.int 5)) .userConfig,
    .set "b.c" (.new (.int 4)) .runtime]

/-- What each source sees of them, one source after the other. -/
def bySource : List Change :=
  [.set "a" (.kept 0) .runtime, .set "b" (.kept 0) .runtime, .clear .runtime, .set "b" (.kept 0) .runtime,
    .set "b.c" (.new (.int 4)) .runtime, .clear .environment, .set "filefilter.filter.size" (.new (.int 1)) .userConfig,
    .set "filefilter.filter.size.unit" (.new (.int 3)) .userConfig, .clear .userConfig,
    .set "filefilter.filter.size" (.new (.int 5)) .userConfig]

/-- They give the same configuration, and clearing leaves nothing of it. -/
theorem changes_interleave_alternating :
    Session.fresh.create .none [] = ({ Session.fresh with managers := [{}] }, .ok 0) ∧
    (∀ group ∈ ([] : List (List Site)), ∀ p ∈ group, ∃ n, p.holder = .kept n) ∧
    (∀ group ∈ ([] : List (List Site)), Site.Together (ownedBy fun _ => .runtime) group) ∧
    (∀ change ∈ alternating, change.Within (ownedBy fun _ => .runtime)) ∧
    (∀ source, alternating.filterMap (Change.seenBy? source) = bySource.filterMap (Change.seenBy? source)) ∧
    ((({} : Layers).keeping [.dict []] []).run alternating).merged =
      ((({} : Layers).keeping [.dict []] []).run bySource).merged ∧
    (∀ change ∈ bySource, ¬change.Writes .compiledDefaults) ∧
    ((({} : Layers).keeping [.dict []] []).run bySource).clearAll.merged = Key.defaults := by
  have hsame (source : Source) :
      alternating.filterMap (Change.seenBy? source) = bySource.filterMap (Change.seenBy? source) := by
    cases source <;> simp [alternating, bySource, Change.seenBy?]
  have hwithin : ∀ change ∈ alternating, change.Within (ownedBy fun _ => .runtime) := by
    simp [alternating, Change.Within, Given.Within, ownedBy]
  have hwrites : ∀ change ∈ bySource, ¬change.Writes .compiledDefaults := by
    simp [bySource, Change.Writes]
  obtain ⟨hinterleave, hclear⟩ := changes_interleave create_fresh [.dict []] [] nofun
  exact ⟨create_fresh, nofun, nofun, hwithin, hsame,
    hinterleave (fun _ => .runtime) nofun alternating bySource hwithin hsame, hwrites, (hclear bySource hwrites).2⟩

/-- Changes that give a dictionary to two sources, and then set something in it from both. -/
def twice (first second : Change) : List Change :=
  [.set "a" (.kept 0) .userConfig, .set "a" (.kept 0) .runtime, first, second]

/-- It matters which of them is the last, though each source sees the same. -/
theorem given_twice : Session.fresh.create .none [] = ({ Session.fresh with managers := [{}] }, .ok 0) ∧
    ∃ user runtime : Change,
      (∀ source, (twice user runtime).filterMap (Change.seenBy? source) =
        (twice runtime user).filterMap (Change.seenBy? source)) ∧
      (((({} : Layers).keeping [.dict []] []).run (twice user runtime)).get "a.b").equal (.int 2) = true ∧
      (((({} : Layers).keeping [.dict []] []).run (twice runtime user)).get "a.b").equal (.int 1) = true ∧
      ((({} : Layers).keeping [.dict []] []).run (twice user runtime)).merged ≠
        ((({} : Layers).keeping [.dict []] []).run (twice runtime user)).merged := by
  refine ⟨create_fresh, .set "a.b" (.new (.int 1)) .userConfig, .set "a.b" (.new (.int 2)) .runtime, fun source => ?_, ?_⟩
  · cases source <;> simp [twice, Change.seenBy?]
  · have hlast : (((({} : Layers).keeping [.dict []] []).run (twice (.set "a.b" (.new (.int 1)) .userConfig)
        (.set "a.b" (.new (.int 2)) .runtime))).get "a.b").equal (.int 2) = true := by decide +kernel
    have hother : (((({} : Layers).keeping [.dict []] []).run (twice (.set "a.b" (.new (.int 2)) .runtime)
        (.set "a.b" (.new (.int 1)) .userConfig))).get "a.b").equal (.int 2) = false := by decide +kernel
    refine ⟨hlast, by decide +kernel, fun hmerged => ?_⟩
    rw [get, hmerged] at hlast
    exact Bool.noConfusion (hlast.symm.trans hother)

end FileSieve.Config.Layers
