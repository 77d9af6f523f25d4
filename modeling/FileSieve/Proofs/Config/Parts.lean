import FileSieve.Proofs.Config.Loading
import FileSieve.Proofs.Config.Setting

/-!
# Parts that share nothing

What holds dictionaries, the sources and the values of the program, can be divided into parts. As long as no dictionary
stands in two of them (`Divided`), a change within one part leaves the others as they are, and depends on what this part
was like and on nothing else (`SameAt.setFrom`, `sameAt_setFrom_of_ne`). It is the values of the program that can join
parts, so a change stays within its part when what it is given belongs there (`Given.Within`).
-/

namespace FileSieve.Config

variable {part : Holder → Source} {a : Source}

/-! ### Groups of places -/

/-- Whether one of the places is in a part. -/
def Site.touches (part : Holder → Source) (a : Source) (group : List Site) : Bool :=
  group.any fun place => part place.holder = a

/-- Places of one part. -/
def Site.Together (part : Holder → Source) (group : List Site) : Prop :=
  ∀ p ∈ group, ∀ q ∈ group, part p.holder = part q.holder

namespace Site

variable {groups groups' : List (List Site)} {group places : List Site} {keep keep' : Site → Bool}

theorem touches_iff : touches part a group = true ↔ ∃ p ∈ group, part p.holder = a := by
  simp [touches]

theorem part_of_touches (h : Together part group) (htouches : touches part a group = true) :
    ∀ p ∈ group, part p.holder = a := by
  obtain ⟨q, hq, rfl⟩ := touches_iff.mp htouches
  exact fun p hp => h p hp q hq

/-- The groups of a part when places go away depend on its groups before, and on which of its places go away. -/
theorem filter_map_filter (hsame : groups.filter (touches part a) = groups'.filter (touches part a))
    (hkeep : ∀ group ∈ groups, touches part a group = true → ∀ p ∈ group, keep p = keep' p) :
    (groups.map (·.filter keep)).filter (touches part a) = (groups'.map (·.filter keep')).filter (touches part a) := by
  have hfirst (keep : Site → Bool) (groups : List (List Site)) :
      (groups.map (·.filter keep)).filter (touches part a) =
        ((groups.filter (touches part a)).map (·.filter keep)).filter (touches part a) := by
    rw [List.filter_map, List.filter_map, List.filter_filter]
    refine congrArg _ (List.filter_congr fun group _ => ?_)
    rw [Function.comp_apply, Bool.eq_self_and]
    rw [touches_iff, touches_iff]
    rintro ⟨p, hp, hpart⟩
    exact ⟨p, List.mem_of_mem_filter hp, hpart⟩
  rw [hfirst keep, hfirst keep', ← hsame]
  refine congrArg _ (List.map_congr_left fun group hgroup => List.filter_congr ?_)
  obtain ⟨hgroup, htouches⟩ := List.mem_filter.mp hgroup
  exact hkeep group hgroup htouches

theorem holder_of_same {p q : Site} (h : p.same q = true) : p.holder = q.holder := by
  rw [same, Bool.and_eq_true, beq_iff_eq] at h
  exact h.1

/-- A group that has a place in common with places of one part is in this part. -/
theorem part_of_meeting (h : Together part group) (hplaces : ∀ p ∈ places, part p.holder = a)
    (hmeeting : (group.any fun place => places.any place.same) = true) : ∀ p ∈ group, part p.holder = a := by
  obtain ⟨q, hq, hsame⟩ := List.any_eq_true.mp hmeeting
  obtain ⟨r, hr, hsame⟩ := List.any_eq_true.mp hsame
  intro p hp
  rw [h p hp q hq, holder_of_same hsame, hplaces r hr]

/-- The places of one dictionary and those that are joined with them are in one part. -/
theorem part_of_joined (hgroups : ∀ group ∈ groups, Together part group) (hplaces : ∀ p ∈ places, part p.holder = a) :
    ∀ p ∈ places ++ ((groups.filter fun group => group.any fun place => places.any place.same).flatten.filter
      fun place => !places.any place.same), part p.holder = a := by
  intro p hp
  rcases List.mem_append.mp hp with hp | hp
  · exact hplaces p hp
  · obtain ⟨group, hgroup, hp⟩ := List.mem_flatten.mp (List.mem_of_mem_filter hp)
    obtain ⟨hgroup, hmeeting⟩ := List.mem_filter.mp hgroup
    exact part_of_meeting (hgroups group hgroup) hplaces hmeeting p hp

theorem together_joined (hgroups : ∀ group ∈ groups, Together part group) (hplaces : ∀ p ∈ places, part p.holder = a) :
    ∀ group ∈ joined places groups, Together part group := by
  refine List.forall_mem_cons.mpr ⟨fun p hp q hq => ?_, fun group hgroup => hgroups group (List.mem_of_mem_filter hgroup)⟩
  rw [part_of_joined hgroups hplaces p hp, part_of_joined hgroups hplaces q hq]

/-- Joining places of another part leaves the groups of a part as they are. -/
theorem filter_joined_of_ne {b : Source} (hgroups : ∀ group ∈ groups, Together part group)
    (hplaces : ∀ p ∈ places, part p.holder = b) (hne : b ≠ a) :
    (joined places groups).filter (touches part a) = groups.filter (touches part a) := by
  have hhead : touches part a (places ++ ((groups.filter fun group => group.any fun place =>
      places.any place.same).flatten.filter fun place => !places.any place.same)) = false := by
    rw [← Bool.not_eq_true, touches_iff]
    rintro ⟨p, hp, hpart⟩
    exact hne ((part_of_joined hgroups hplaces p hp).symm.trans hpart)
  rw [joined, List.filter_cons_of_neg (by rw [hhead]; exact Bool.noConfusion), List.filter_filter]
  refine List.filter_congr fun group hgroup => ?_
  rw [Bool.and_eq_left_iff_imp]
  intro htouches
  rw [Bool.not_eq_true', ← Bool.not_eq_true]
  intro hmeeting
  obtain ⟨p, hp, hpart⟩ := touches_iff.mp htouches
  exact hne ((part_of_meeting (hgroups group hgroup) hplaces hmeeting p hp).symm.trans hpart)

/-- Joining places of a part depends on the groups of this part. -/
theorem filter_joined (hplaces : ∀ p ∈ places, part p.holder = a)
    (hsame : groups.filter (touches part a) = groups'.filter (touches part a)) :
    (joined places groups).filter (touches part a) = (joined places groups').filter (touches part a) := by
  -- A group that has a place in common with the places is among those of the part.
  have hmeeting (group : List Site) (h : (group.any fun place => places.any place.same) = true) :
      touches part a group = true := by
    obtain ⟨q, hq, hsame⟩ := List.any_eq_true.mp h
    obtain ⟨r, hr, hsame⟩ := List.any_eq_true.mp hsame
    exact touches_iff.mpr ⟨q, hq, holder_of_same hsame ▸ hplaces r hr⟩
  have hmet (groups : List (List Site)) : (groups.filter fun group => group.any fun place => places.any place.same) =
      (groups.filter (touches part a)).filter fun group => group.any fun place => places.any place.same := by
    rw [List.filter_filter]
    refine List.filter_congr fun group _ => ?_
    rw [Bool.eq_self_and]
    exact hmeeting group
  have hrest (groups : List (List Site)) : (groups.filter fun group => !group.any fun place =>
      places.any place.same).filter (touches part a) = (groups.filter (touches part a)).filter fun group =>
        !group.any fun place => places.any place.same := by
    rw [List.filter_filter, List.filter_filter]
    exact List.filter_congr fun group _ => Bool.and_comm _ _
  rw [joined, joined, hmet groups, hmet groups', hsame, List.filter_cons, List.filter_cons, hrest, hrest, hsame]

end Site

/-! ### Changes of a part -/

/-- What is given belongs to a part, if the program keeps it. -/
def Given.Within (part : Holder → Source) (a : Source) (given : Given) : Prop :=
  ∀ number, given = .kept number → part (.kept number) = a

theorem Given.within_new (value : Value) : Given.Within part a (.new value) := nofun

namespace Given

variable {given : Given} {places : List Site} {groups groups' : List (List Site)}

/-- What is given and put at places of a part stands at places of this part. -/
theorem Within.part_of_places (h : given.Within part a) (hplaces : ∀ p ∈ places, part p.holder = a)
    (position : Position) : ∀ p ∈ given.places position ++ places.map (·.below position), part p.holder = a := by
  intro p hp
  rcases List.mem_append.mp hp with hp | hp
  · cases given with
    | new value => cases hp
    | kept number =>
      obtain rfl := List.mem_singleton.mp hp
      exact h number rfl
  · obtain ⟨q, hq, rfl⟩ := List.mem_map.mp hp
    exact hplaces q hq

theorem Within.together_joined (h : given.Within part a) (hplaces : ∀ p ∈ places, part p.holder = a)
    (positions : List Position) (hgroups : ∀ group ∈ groups, Site.Together part group) :
    ∀ group ∈ given.joined places positions groups, Site.Together part group := by
  induction positions generalizing groups with
  | nil => exact hgroups
  | cons position positions ih => exact ih (Site.together_joined hgroups (h.part_of_places hplaces position))

/-- It leaves the groups of other parts as they are, -/
theorem Within.filter_joined_of_ne {b : Source} (h : given.Within part b) (hplaces : ∀ p ∈ places, part p.holder = b)
    (hne : b ≠ a) (positions : List Position) (hgroups : ∀ group ∈ groups, Site.Together part group) :
    (given.joined places positions groups).filter (Site.touches part a) = groups.filter (Site.touches part a) := by
  induction positions generalizing groups with
  | nil => rfl
  | cons position positions ih =>
    have hmade := h.part_of_places hplaces position
    exact (ih (Site.together_joined hgroups hmade)).trans (Site.filter_joined_of_ne hgroups hmade hne)

/-- and those of its part become what they become, whatever the others are. -/
theorem Within.filter_joined (h : given.Within part a) (hplaces : ∀ p ∈ places, part p.holder = a)
    (positions : List Position) (hsame : groups.filter (Site.touches part a) = groups'.filter (Site.touches part a)) :
    (given.joined places positions groups).filter (Site.touches part a) =
      (given.joined places positions groups').filter (Site.touches part a) := by
  induction positions generalizing groups groups' with
  | nil => exact hsame
  | cons position positions ih => exact ih (Site.filter_joined (h.part_of_places hplaces position) hsame)

end Given

namespace Layers

variable {l l' : Layers} {source target : Source} {path passed left : List Text} {key : Text} {given : Given}
  {value current : Value} {p : Site}

/-- No dictionary stands in two parts. -/
def Divided (part : Holder → Source) (l : Layers) : Prop :=
  ∀ group ∈ l.shared, Site.Together part group

/-- Two states that are the same in the part of a source. -/
structure SameAt (part : Holder → Source) (source : Source) (l l' : Layers) : Prop where
  /-- The source says the same. -/
  layer : l.layer source = l'.layer source
  /-- The program keeps the same there. -/
  kept : ∀ number, part (.kept number) = part (.layer source) →
    l.kept.getD number .none = l'.kept.getD number .none
  /-- The same dictionaries stand at several places. -/
  shared : l.shared.filter (Site.touches part (part (.layer source))) =
    l'.shared.filter (Site.touches part (part (.layer source)))

theorem SameAt.refl (part : Holder → Source) (source : Source) (l : Layers) : SameAt part source l l :=
  ⟨rfl, fun _ _ => rfl, rfl⟩

theorem SameAt.symm (h : SameAt part source l l') : SameAt part source l' l :=
  ⟨h.layer.symm, fun number hnumber => (h.kept number hnumber).symm, h.shared.symm⟩

theorem SameAt.trans {l'' : Layers} (h : SameAt part source l l') (h' : SameAt part source l' l'') :
    SameAt part source l l'' :=
  ⟨h.layer.trans h'.layer, fun number hnumber => (h.kept number hnumber).trans (h'.kept number hnumber),
    h.shared.trans h'.shared⟩

theorem SameAt.value_eq (h : SameAt part source l l') (hgiven : given.Within part (part (.layer source))) :
    l.value given = l'.value given := by
  cases given with
  | new value => rfl
  | kept number => exact h.kept number (hgiven number rfl)

/-- The other places of a dictionary are in its part, -/
theorem part_of_mem_others (h : Divided part l) (hp : p ∈ l.others (.ofKeys source path)) :
    part p.holder = part (.layer source) := by
  obtain ⟨⟨group, hgroup, hself, hp⟩, -⟩ := mem_others.mp hp
  exact h group hgroup p hp _ hself

/-- and they depend on this part. -/
theorem SameAt.others (h : SameAt part source l l') (path : List Text) :
    l.others (.ofKeys source path) = l'.others (.ofKeys source path) := by
  have hgroups (l : Layers) : (l.shared.filter fun group => group.any (Site.ofKeys source path).same) =
      (l.shared.filter (Site.touches part (part (.layer source)))).filter fun group =>
        group.any (Site.ofKeys source path).same := by
    rw [List.filter_filter]
    refine List.filter_congr fun group _ => ?_
    rw [Bool.eq_self_and]
    intro hmem
    obtain ⟨q, hq, hsame⟩ := List.any_eq_true.mp hmem
    exact Site.touches_iff.mpr ⟨q, hq, by rw [← Site.holder_of_same hsame]; rfl⟩
  rw [Layers.others, Layers.others, hgroups l, hgroups l', h.shared]

/-! #### Values at places -/

theorem sameAt_putAt_of_ne (h : part p.holder ≠ part (.layer source)) (key : Text) (value : Value) (l : Layers) :
    SameAt part source (l.putAt key value p) l := by
  refine ⟨?_, fun number hnumber => ?_, ?_⟩
  · rw [layer_putAt, if_neg fun hholder => h (congrArg part hholder)]
  · rw [kept_putAt, if_neg fun hholder => h ((congrArg part hholder).trans hnumber)]
  · obtain ⟨holder, position⟩ := p
    cases holder <;> rfl

theorem SameAt.putAt (h : SameAt part source l l') (key : Text) (value : Value) (p : Site) :
    SameAt part source (l.putAt key value p) (l'.putAt key value p) := by
  refine ⟨?_, fun number hnumber => ?_, ?_⟩
  · rw [layer_putAt, layer_putAt, h.layer]
  · rw [kept_putAt, kept_putAt, h.kept number hnumber]
  · have hshared (l : Layers) : (l.putAt key value p).shared = l.shared := by
      obtain ⟨holder, position⟩ := p
      cases holder <;> rfl
    rw [hshared, hshared, h.shared]

theorem SameAt.foldl_putAt (h : SameAt part source l l') (key : Text) (value : Value) (places : List Site) :
    SameAt part source (places.foldl (fun l place => l.putAt key value place) l)
      (places.foldl (fun l place => l.putAt key value place) l') := by
  induction places generalizing l l' with
  | nil => exact h
  | cons p places ih => exact ih (h.putAt key value p)

theorem sameAt_foldl_putAt_of_ne {places : List Site} (h : ∀ p ∈ places, part p.holder ≠ part (.layer source))
    (key : Text) (value : Value) (l : Layers) :
    SameAt part source (places.foldl (fun l place => l.putAt key value place) l) l := by
  induction places generalizing l with
  | nil => exact .refl part source l
  | cons p places ih =>
    obtain ⟨hp, hplaces⟩ := List.forall_mem_cons.mp h
    exact (ih hplaces _).trans (sameAt_putAt_of_ne hp key value l)

/-! #### What is set -/

theorem part_of_mem_places (h : Divided part l) : ∀ p ∈ l.places source path, part p.holder = part (.layer source) :=
  List.forall_mem_cons.mpr ⟨rfl, fun _ => part_of_mem_others h⟩

theorem part_of_mem_placesUnder (h : Divided part l) :
    ∀ p ∈ l.placesUnder source path key, part p.holder = part (.layer source) := by
  intro p hp
  obtain ⟨q, hq, rfl⟩ := List.mem_map.mp hp
  exact part_of_mem_places h q hq

/-- Only places of its part go away when something is put into a dictionary. -/
theorem not_within_of_ne (h : Divided part l) (hne : part p.holder ≠ part (.layer source)) :
    (l.placesUnder source path key).any p.within = false := by
  rw [List.any_eq_false]
  intro q hq hwithin
  rw [Site.within, Bool.and_eq_true, beq_iff_eq] at hwithin
  exact hne (hwithin.1 ▸ part_of_mem_placesUnder h q hq)

theorem together_sharedBut (h : Divided part l) (gone : Site → Bool) :
    ∀ group ∈ l.sharedBut gone, Site.Together part group := by
  intro group hgroup
  obtain ⟨old, hold, rfl⟩ := List.mem_map.mp hgroup
  exact fun p hp q hq => h old hold p (List.mem_of_mem_filter hp) q (List.mem_of_mem_filter hq)

/-- What is put into a dictionary of a source and belongs to its part leaves the parts divided -/
theorem Divided.put (h : Divided part l) (hgiven : given.Within part (part (.layer source))) (path : List Text)
    (key : Text) : Divided part (l.put source path key given) :=
  hgiven.together_joined (part_of_mem_placesUnder h) _ (together_sharedBut h _)

/-- and the other parts as they are. -/
theorem sameAt_put_of_ne (hne : part (.layer target) ≠ part (.layer source)) (h : Divided part l)
    (hgiven : given.Within part (part (.layer target))) (path : List Text) (key : Text) :
    SameAt part source (l.put target path key given) l := by
  have hothers : ∀ p ∈ l.places target path, part p.holder ≠ part (.layer source) :=
    fun p hp => (part_of_mem_places h p hp).symm ▸ hne
  have hplaces := sameAt_foldl_putAt_of_ne hothers key (l.value given) l
  refine ⟨hplaces.layer, hplaces.kept, (hgiven.filter_joined_of_ne (part_of_mem_placesUnder h) hne _
    (together_sharedBut h _)).trans ?_⟩
  have hnone : l.sharedBut (fun _ => false) = l.shared := by simp [sharedBut]
  rw [← hnone]
  refine Site.filter_map_filter rfl fun group hgroup htouches p hp => congrArg _ (not_within_of_ne h ?_)
  rw [Site.part_of_touches (h group hgroup) htouches p hp]
  exact Ne.symm hne

/-- What is put into a dictionary of a source has an effect on its part that depends on this part. -/
theorem SameAt.put (hsame : SameAt part source l l') (h : Divided part l)
    (hgiven : given.Within part (part (.layer source))) (path : List Text) (key : Text) :
    SameAt part source (l.put source path key given) (l'.put source path key given) := by
  have hplaces := hsame.foldl_putAt key (l.value given) (l.places source path)
  have hunder : l'.placesUnder source path key = l.placesUnder source path key := by
    rw [placesUnder, placesUnder, places, places, hsame.others]
  unfold Layers.put
  rw [hunder, ← hsame.value_eq hgiven, show l'.places source path = l.places source path by
    rw [places, places, hsame.others]]
  exact ⟨hplaces.layer, hplaces.kept, hgiven.filter_joined (part_of_mem_placesUnder h) _
    (Site.filter_map_filter hsame.shared fun _ _ _ _ _ => rfl)⟩

theorem sameAt_opened (part : Holder → Source) (source target : Source) (l : Layers) :
    SameAt part source (l.opened target) l := by
  refine ⟨layer_opened l target source, fun number _ => ?_, by rw [shared_opened]⟩
  exact value_opened l target (.kept number)

theorem Divided.opened (h : Divided part l) (source : Source) : Divided part (l.opened source) := by
  rwa [Divided, shared_opened]

/-- Setting a value that belongs to the part of a source leaves the parts divided -/
theorem Divided.setFrom (h : Divided part l) (hgiven : given.Within part (part (.layer source))) (current : Value)
    (passed left : List Text) : Divided part (setFrom source given current passed left l).1 := by
  induction left generalizing current passed l with
  | nil => rwa [Layers.setFrom]
  | cons key left ih =>
    by_cases hkind : current.kind = .dict
    · obtain ⟨entries, rfl⟩ := Value.exists_dict hkind
      cases left with
      | nil => exact h.put hgiven passed key
      | cons next left =>
        rw [Layers.setFrom]
        cases Entries.get? entries (.text key) with
        | none => exact ih (h.put (Given.within_new _) passed key) _ _
        | some inner => exact ih h _ _
    · rwa [setFrom_blocked hkind]

/-- and the other parts as they are, -/
theorem sameAt_setFrom_of_ne (hne : part (.layer target) ≠ part (.layer source)) (h : Divided part l)
    (hgiven : given.Within part (part (.layer target))) (current : Value) (passed left : List Text) :
    SameAt part source (setFrom target given current passed left l).1 l := by
  induction left generalizing current passed l with
  | nil => rw [setFrom]; exact .refl part source l
  | cons key left ih =>
    by_cases hkind : current.kind = .dict
    · obtain ⟨entries, rfl⟩ := Value.exists_dict hkind
      cases left with
      | nil => exact sameAt_put_of_ne hne h hgiven passed key
      | cons next left =>
        rw [setFrom]
        cases Entries.get? entries (.text key) with
        | none =>
          exact (ih (h.put (Given.within_new _) passed key) _ _).trans
            (sameAt_put_of_ne hne h (Given.within_new _) passed key)
        | some inner => exact ih h _ _
    · rw [setFrom_blocked hkind]
      exact .refl part source l

/-- and has an effect on this part that depends on it. -/
theorem SameAt.setFrom (hsame : SameAt part source l l') (h : Divided part l)
    (hgiven : given.Within part (part (.layer source))) (current : Value) (passed left : List Text) :
    SameAt part source (setFrom source given current passed left l).1 (setFrom source given current passed left l').1 := by
  induction left generalizing current passed l l' with
  | nil => rwa [Layers.setFrom, Layers.setFrom]
  | cons key left ih =>
    by_cases hkind : current.kind = .dict
    · obtain ⟨entries, rfl⟩ := Value.exists_dict hkind
      cases left with
      | nil => exact hsame.put h hgiven passed key
      | cons next left =>
        rw [Layers.setFrom, Layers.setFrom]
        cases Entries.get? entries (.text key) with
        | none =>
          exact ih (hsame.put h (Given.within_new _) passed key) (h.put (Given.within_new _) passed key) _ _
        | some inner => exact ih hsame h _ _
    · rwa [setFrom_blocked hkind, setFrom_blocked hkind]

/-! #### What is loaded and cleared -/

/-- A source has a part without another source. -/
def Alone (part : Holder → Source) (source : Source) : Prop :=
  ∀ other, part (.layer other) = part (.layer source) → other = source

/-- Which places of its part go away with layers of sources depends on whether its source is among them. -/
theorem inLayer_of_alone (halone : Alone part source) (hp : part p.holder = part (.layer source))
    {gone gone' : Source → Bool} (hgone : gone source = gone' source) : p.inLayer gone = p.inLayer gone' := by
  obtain ⟨holder, position⟩ := p
  cases holder with
  | layer other =>
    obtain rfl := halone other hp
    exact hgone
  | kept number => rfl

theorem SameAt.sharedBut (hsame : SameAt part source l l') (h : Divided part l) (halone : Alone part source)
    {gone gone' : Source → Bool} (hgone : gone source = gone' source) :
    (l.sharedBut (·.inLayer gone)).filter (Site.touches part (part (.layer source))) =
      (l'.sharedBut (·.inLayer gone')).filter (Site.touches part (part (.layer source))) :=
  Site.filter_map_filter hsame.shared fun group hgroup htouches p hp =>
    congrArg _ (inLayer_of_alone halone (Site.part_of_touches (h group hgroup) htouches p hp) hgone)

theorem Divided.without (h : Divided part l) (gone : Source → Bool) : Divided part (l.without gone) :=
  together_sharedBut h _

/-- Without layers of sources a part is what it is, whatever other sources are among them. -/
theorem SameAt.without (hsame : SameAt part source l l') (h : Divided part l) (halone : Alone part source)
    {gone gone' : Source → Bool} (hgone : gone source = gone' source) :
    SameAt part source (l.without gone) (l'.without gone') := by
  refine ⟨?_, hsame.kept, hsame.sharedBut h halone hgone⟩
  rw [layer_without, layer_without, hgone, hsame.layer]

theorem without_none (l : Layers) : l.without (fun _ => false) = l := by
  have hplace (p : Site) : p.inLayer (fun _ => false) = false := by
    obtain ⟨holder, position⟩ := p
    cases holder <;> rfl
  simp [Layers.without, Store.without, Layers.sharedBut, hplace]

/-- So it stays as it is if its source is not among them. -/
theorem sameAt_without (h : Divided part l) (halone : Alone part source) {gone : Source → Bool}
    (hgone : gone source = false) : SameAt part source (l.without gone) l := by
  have hsame : SameAt part source (l.without gone) (l.without fun _ => false) :=
    (SameAt.refl part source l).without h halone hgone
  rwa [without_none] at hsame

theorem Divided.replace (h : Divided part l) (source : Source) (entries : Entries) (shared : List (List Position)) :
    Divided part (l.replace source entries shared) := by
  refine List.forall_mem_append.mpr ⟨together_sharedBut h _, fun group hgroup => ?_⟩
  obtain ⟨positions, -, rfl⟩ := List.mem_map.mp hgroup
  intro p hp q hq
  obtain ⟨-, -, rfl⟩ := List.mem_map.mp hp
  obtain ⟨-, -, rfl⟩ := List.mem_map.mp hq
  rfl

/-- What a source says is replaced with an effect on its part that depends on this part, -/
theorem SameAt.replace (hsame : SameAt part source l l') (h : Divided part l) (halone : Alone part source)
    (entries : Entries) (shared : List (List Position)) :
    SameAt part source (l.replace source entries shared) (l'.replace source entries shared) := by
  refine ⟨?_, hsame.kept, ?_⟩
  · rw [layer_replace, layer_replace, if_pos rfl, if_pos rfl]
  · rw [Layers.replace, Layers.replace, List.filter_append, List.filter_append, hsame.sharedBut h halone rfl]

/-- and the other parts stay as they are. -/
theorem sameAt_replace_of_ne (hne : part (.layer target) ≠ part (.layer source)) (h : Divided part l)
    (halone : Alone part source) (entries : Entries) (shared : List (List Position)) :
    SameAt part source (l.replace target entries shared) l := by
  have hother : source ≠ target := fun heq => hne (congrArg _ (congrArg _ heq.symm))
  refine ⟨?_, fun _ _ => rfl, ?_⟩
  · rw [layer_replace, if_neg hother]
  · have hmade : (shared.map fun positions => positions.map (Site.mk (.layer target))).filter
        (Site.touches part (part (.layer source))) = [] := by
      refine List.filter_eq_nil_iff.mpr fun group hgroup htouches => ?_
      obtain ⟨positions, -, rfl⟩ := List.mem_map.mp hgroup
      obtain ⟨p, hp, htouched⟩ := Site.touches_iff.mp htouches
      obtain ⟨position, -, rfl⟩ := List.mem_map.mp hp
      exact hne htouched
    have hkept : SameAt part source (l.without (· = target)) l := sameAt_without h halone (by simpa using hother)
    rw [Layers.replace, List.filter_append, hmade, List.append_nil]
    exact hkept.shared

/-- What is loaded of what is given is in its part. -/
theorem SameAt.sharedWithin (hsame : SameAt part source l l') (hgiven : given.Within part (part (.layer source))) :
    l.sharedWithin given = l'.sharedWithin given := by
  cases given with
  | new value => rfl
  | kept number =>
    have hgroups (l : Layers) : (l.shared.filter fun group => group.any fun place => place.holder = .kept number) =
        (l.shared.filter (Site.touches part (part (.layer source)))).filter fun group =>
          group.any fun place => place.holder = .kept number := by
      rw [List.filter_filter]
      refine List.filter_congr fun group _ => ?_
      rw [Bool.eq_self_and, List.any_eq_true]
      rintro ⟨p, hp, hholder⟩
      exact Site.touches_iff.mpr ⟨p, hp, of_decide_eq_true hholder ▸ hgiven number rfl⟩
    rw [Layers.sharedWithin, Layers.sharedWithin, hgroups l, hgroups l', hsame.shared]

end Layers

end FileSieve.Config
