import FileSieve.Document.Reading
import FileSieve.Proofs.Config.Position
import FileSieve.Proofs.Config.Precedence

/-!
# What setting a value changes

Setting a value at a path of keys walks down the dictionaries of one source. It fails only where another value blocks
the way, and a way that had to be made is never blocked, so that nothing has changed by then (`setFrom_error`). When it
succeeds, the change begins under one key of a dictionary that was there (`Begins`), and every path leads to what it led
to before that is apart from this place and from the others at which the same dictionary stands (`mention_setFrom`).

A dictionary stands at several places where a document has an alias for it, or where the program has given it more than
once, to one source or to several. What is set through one of them shows at the others, however far apart the paths are
(`alias_follows`).
-/

namespace FileSieve.Config

/-! ### Places -/

namespace Site

variable {p q : Site} {source : Source} {path : List Text} {key : Text}

@[simp] theorem holder_ofKeys (source : Source) (path : List Text) : (ofKeys source path).holder = .layer source := rfl

@[simp] theorem holder_below (p : Site) (position : Position) : (p.below position).holder = p.holder := rfl

@[simp] theorem position_below (p : Site) (position : Position) :
    (p.below position).position = p.position ++ position := rfl

theorem below_ofKeys (source : Source) (path : List Text) (key : Text) :
    (ofKeys source path).below [.key (.text key)] = ofKeys source (path ++ [key]) :=
  congrArg (Site.mk _) (Position.ofKeys_append path [key]).symm

theorem within_of_same (h : p.same q = true) : p.within q = true := by
  rw [same, Position.same, Bool.and_eq_true, Bool.and_eq_true] at h
  rw [within, Bool.and_eq_true]
  exact ⟨h.1, h.2.1⟩

theorem ofKeys_within_self (source : Source) (path : List Text) : (ofKeys source path).within (ofKeys source path) := by
  rw [within, beq_self_eq_true, Bool.true_and]
  exact Position.within_ofKeys.mpr List.prefix_rfl

theorem same_ofKeys_iff : (ofKeys source path).same p = true ↔ p = ofKeys source path := by
  obtain ⟨holder, position⟩ := p
  rw [same, Bool.and_eq_true, beq_iff_eq, ofKeys, Position.same_iff, Site.mk.injEq, eq_comm (a := Holder.layer source)]

theorem meets_ofKeys (source : Source) (path : List Text) : (ofKeys source path).meets (ofKeys source path) = true := by
  rw [meets, beq_self_eq_true, Bool.true_and]
  exact Position.meets_ofKeys_iff.mpr (.inl List.prefix_rfl)

end Site

namespace Layers

variable {l : Layers} {source other : Source} {before passed left path q : List Text} {key : Text} {given : Given}
  {value current : Value} {entries : Entries} {p : Site}

/-! ### One change -/

theorem mem_others : p ∈ l.others (.ofKeys source path) ↔
    (∃ group ∈ l.shared, .ofKeys source path ∈ group ∧ p ∈ group) ∧ (Site.ofKeys source path).meets p = false := by
  have hgroup (group : List Site) :
      group.any (Site.same (.ofKeys source path)) = true ↔ .ofKeys source path ∈ group := by
    simp only [List.any_eq_true, Site.same_ofKeys_iff, exists_eq_right]
  simp only [others, List.mem_filter, List.mem_flatten, hgroup, Bool.not_eq_true', and_assoc]

theorem layer_putAt (l : Layers) (key : Text) (value : Value) (p : Site) (other : Source) :
    (l.putAt key value p).layer other =
      if p.holder = .layer other then (l.layer other).putAt key value p.position else l.layer other := by
  obtain ⟨holder, position⟩ := p
  cases holder with
  | layer source =>
    rw [layer, putAt, Store.layer?_put]
    by_cases hsource : other = source
    · rw [if_pos hsource, if_pos (congrArg _ hsource.symm), hsource]
      rfl
    · rw [if_neg hsource, if_neg fun h => hsource (Holder.layer.inj h).symm]
      rfl
  | kept number => rw [if_neg Holder.noConfusion]; rfl

/-- What is put at one place leaves a path alone that is apart from it. -/
theorem mention_putAt
    (h : p.holder = .layer other → (Position.ofKeys q).meets (p.position ++ [.key (.text key)]) = false) :
    (l.putAt key value p).mention other (q.map .text) = l.mention other (q.map .text) := by
  rw [mention, layer_putAt]
  split_ifs with hholder
  · rw [← Value.putAt_dict, Value.mention_putAt (h hholder)]
    rfl
  · rfl

/-- What is put at several places leaves a path alone that is apart from all of them. -/
theorem mention_foldl {places : List Site}
    (h : ∀ p ∈ places, p.holder = .layer other → (Position.ofKeys q).meets (p.position ++ [.key (.text key)]) = false) :
    (places.foldl (fun l place => l.putAt key value place) l).mention other (q.map .text) =
      l.mention other (q.map .text) := by
  induction places generalizing l with
  | nil => rfl
  | cons p places ih =>
    obtain ⟨hp, hplaces⟩ := List.forall_mem_cons.mp h
    rw [List.foldl_cons, ih hplaces, mention_putAt hp]

theorem mention_put_eq (l : Layers) (given : Given) (path : List Value) :
    (l.put source before key given).mention other path =
      ((l.places source before).foldl (fun l' place => l'.putAt key (l.value given) place) l).mention other path := rfl

/-- A path is left alone that is apart from the changed entry, wherever its dictionary stands. -/
theorem mention_put (hself : other = source → (Position.ofKeys q).meets (.ofKeys (before ++ [key])) = false)
    (hothers : ∀ p ∈ l.others (.ofKeys source before), p.holder = .layer other →
      (Position.ofKeys q).meets (p.position ++ [.key (.text key)]) = false) :
    (l.put source before key given).mention other (q.map .text) = l.mention other (q.map .text) := by
  rw [mention_put_eq]
  refine mention_foldl (List.forall_mem_cons.mpr ⟨fun hsource => ?_, hothers⟩)
  rw [Position.ofKeys_append] at hself
  exact hself (Holder.layer.inj hsource).symm

/-- What is put under a key of a dictionary is there. -/
theorem mention_put_self (h : l.mention source (before.map .text) = .held (.dict entries)) :
    (l.put source before key given).mention source ((before ++ [key]).map .text) = .held (l.value given) := by
  have hothers : ∀ p ∈ l.others (.ofKeys source before), p.holder = .layer source →
      (Position.ofKeys (before ++ [key])).meets (p.position ++ [.key (.text key)]) = false := by
    intro p hp hholder
    have hapart := (mem_others.mp hp).2
    rw [Site.meets, Site.holder_ofKeys, hholder, beq_self_eq_true, Bool.true_and] at hapart
    exact Position.apart_append hapart [key] [.key (.text key)]
  rw [mention_put_eq, places, List.foldl_cons, mention_foldl hothers, mention, layer_putAt,
    if_pos (Site.holder_ofKeys _ _), ← Value.putAt_dict]
  exact Value.mention_putAt_self h

/-- An empty dictionary under a key that was missing says as little as nothing about what is further on. -/
theorem mention_put_missing (h : l.mention source (before.map .text) = .held (.dict entries))
    (hmissing : entries.get? (.text key) = none) (next : Text) (left : List Text) :
    (l.put source before key (.new (.dict []))).mention source ((before ++ key :: next :: left).map .text) =
      l.mention source ((before ++ key :: next :: left).map .text) := by
  have hafter : (l.put source before key (.new (.dict []))).mention source ((before ++ key :: next :: left).map .text) =
      .absent := by
    rw [List.append_cons, List.map_append, mention, Value.mention_append (mention_put_self h)]
    rfl
  have hbefore : l.mention source ((before ++ key :: next :: left).map .text) = .absent := by
    rw [List.map_append, mention, Value.mention_append h, List.map_cons, Value.mention, hmissing]
  rw [hafter, hbefore]

/-- So a dictionary can be made on the way to a path, and every path is left alone that is apart from this one and from
the other places of the dictionary it is put in. -/
theorem mention_make (h : l.mention source (before.map .text) = .held (.dict entries))
    (hmissing : entries.get? (.text key) = none) {next : Text}
    (hpath : other = source → (Position.ofKeys q).meets (.ofKeys (before ++ key :: next :: left)) = false)
    (hothers : ∀ p ∈ l.others (.ofKeys source before), p.holder = .layer other →
      (Position.ofKeys q).meets (p.position ++ [.key (.text key)]) = false) :
    (l.put source before key (.new (.dict []))).mention other (q.map .text) = l.mention other (q.map .text) := by
  by_cases hapart : other = source → (Position.ofKeys q).meets (.ofKeys (before ++ [key])) = false
  · exact mention_put hapart hothers
  · -- The path goes on where the new dictionary is put, but not to the path on the way to which it is.
    obtain ⟨rfl, hmeets⟩ := Classical.not_imp.mp hapart
    have hpath := hpath rfl
    rw [Bool.not_eq_false] at hmeets
    rw [← Bool.not_eq_true, Position.meets_ofKeys_iff, not_or] at hpath
    rcases Position.meets_ofKeys_iff.mp hmeets with hbeyond | hwithin
    · obtain ⟨rest, rfl⟩ := hbeyond
      cases rest with
      | nil => exact absurd ⟨next :: left, by simp⟩ hpath.2
      | cons first rest =>
        rw [← List.append_cons]
        exact mention_put_missing h hmissing first rest
    · exact absurd (hwithin.trans ⟨next :: left, by simp⟩) hpath.2

theorem shared_make (l : Layers) (source : Source) (before : List Text) (key : Text) :
    (l.put source before key (.new (.dict []))).shared = Site.joined (l.placesUnder source before key)
      (l.sharedBut fun place => (l.placesUnder source before key).any place.within) := by
  have hbelow (p : Site) : p.below [] = p := congrArg (Site.mk p.holder) (List.append_nil _)
  have hmap (places : List Site) : places.map (·.below []) = places :=
    (List.map_congr_left fun p _ => hbelow p).trans (List.map_id places)
  have hput : (l.put source before key (.new (.dict []))).shared =
      Site.joined ((l.placesUnder source before key).map (·.below []))
        (l.sharedBut fun place => (l.placesUnder source before key).any place.within) := rfl
  rw [hput, hmap]

/-- A dictionary that is made stands at the places only that the one it is in has. -/
theorem mem_others_make
    (h : p ∈ (l.put source before key (.new (.dict []))).others (.ofKeys source (before ++ [key]))) :
    ∃ outer ∈ l.others (.ofKeys source before), p = outer.below [.key (.text key)] := by
  obtain ⟨⟨group, hgroup, hself, hp⟩, hapart⟩ := mem_others.mp h
  rw [shared_make] at hgroup
  generalize hplaces : l.placesUnder source before key = places at hgroup
  -- No place that is kept is one of those of the dictionary that is made.
  have hkept {group : List Site} (hgroup : group ∈ l.sharedBut fun place => places.any place.within) :
      ∀ r ∈ group, ∀ made ∈ places, r.within made = false := by
    obtain ⟨old, -, rfl⟩ := List.mem_map.mp hgroup
    intro r hr made hmade
    have hout := (List.mem_filter.mp hr).2
    rw [Bool.not_eq_true', List.any_eq_false] at hout
    exact Bool.not_eq_true _ ▸ hout made hmade
  have hmade : Site.ofKeys source (before ++ [key]) ∈ places := by
    rw [← hplaces, placesUnder, Layers.places, List.map_cons, Site.below_ofKeys]
    exact List.mem_cons_self
  rcases List.mem_cons.mp hgroup with rfl | hrest
  · rcases List.mem_append.mp hp with hp | hp
    · rw [← hplaces] at hp
      obtain ⟨outer, houter, rfl⟩ := List.mem_map.mp hp
      rcases List.mem_cons.mp houter with rfl | houter
      · rw [Site.below_ofKeys, Site.meets_ofKeys] at hapart
        cases hapart
      · exact ⟨outer, houter, rfl⟩
    · obtain ⟨hmore, -⟩ := List.mem_filter.mp hp
      obtain ⟨old, hold, -⟩ := List.mem_flatten.mp hmore
      obtain ⟨hold, hmeeting⟩ := List.mem_filter.mp hold
      obtain ⟨r, hr, hsame⟩ := List.any_eq_true.mp hmeeting
      obtain ⟨made, hmade, hsame⟩ := List.any_eq_true.mp hsame
      exact absurd (Site.within_of_same hsame) (by rw [hkept hold r hr made hmade]; exact Bool.noConfusion)
  · have hold := (List.mem_filter.mp hrest).1
    exact absurd (Site.ofKeys_within_self source (before ++ [key]))
      (by rw [hkept hold _ hself _ hmade]; exact Bool.noConfusion)

/-! ### The way -/

/-- Where a change at a path of keys begins. -/
inductive Begins (l : Layers) (source : Source) : (path before : List Text) → (key : Text) → Prop
  /-- Under the last key, if all dictionaries on the way are there. -/
  | last {before : List Text} {key : Text} {entries : Entries} :
    l.mention source (before.map .text) = .held (.dict entries) → Begins l source (before ++ [key]) before key
  /-- Under the first key that is missing. -/
  | missing {before after : List Text} {key : Text} {entries : Entries} :
    l.mention source (before.map .text) = .held (.dict entries) → entries.get? (.text key) = none →
    Begins l source (before ++ key :: after) before key

theorem mention_inner {inner : Value} (h : l.mention source (passed.map .text) = .held (.dict entries))
    (hget : entries.get? (.text key) = some inner) : l.mention source ((passed ++ [key]).map .text) = .held inner := by
  rw [List.map_append, mention, Value.mention_append h, List.map_singleton, Value.mention, hget]
  exact Value.mention.eq_1 inner

/-- A way through dictionaries that are made is never blocked. -/
theorem setFrom_made (passed left : List Text) (l : Layers) :
    (setFrom source given (.dict []) passed left l).2 = none := by
  induction left generalizing passed l with
  | nil => rfl
  | cons key left ih =>
    cases left with
    | nil => rfl
    | cons next left =>
      rw [setFrom, Entries.get?_nil]
      exact ih _ _

theorem setFrom_blocked (h : current.kind ≠ .dict) (passed : List Text) (key : Text) (left : List Text) (l : Layers) :
    setFrom source given current passed (key :: left) l = (l, some (Entries.blocked current (left.length + 1))) := by
  rw [setFrom]
  · rfl
  · exact nofun
  · rintro entries key rfl
    exact absurd rfl h
  · rintro entries key next left rfl
    exact absurd rfl h

/-- Nothing has changed where the way is blocked. -/
theorem setFrom_error {m : Misuse} (h : (setFrom source given current passed left l).2 = some m) :
    (setFrom source given current passed left l).1 = l := by
  induction left generalizing passed current with
  | nil => cases h
  | cons key left ih =>
    by_cases hkind : current.kind = .dict
    · obtain ⟨entries, rfl⟩ := Value.exists_dict hkind
      cases left with
      | nil => cases h
      | cons next left =>
        rw [setFrom] at h ⊢
        cases hget : Entries.get? entries (.text key) with
        | none =>
          simp only [hget, setFrom_made, reduceCtorEq] at h
        | some inner =>
          simp only [hget] at h ⊢
          exact ih h
    · rw [setFrom_blocked hkind]

/-- What happens on a way that is made leaves every path alone that is apart from its end and from the other places of
the dictionary in which it begins. -/
theorem mention_setFrom_made (h : l.mention source (passed.map .text) = .held (.dict []))
    (hpath : other = source → (Position.ofKeys q).meets (.ofKeys (passed ++ left)) = false)
    (hothers : ∀ p ∈ l.others (.ofKeys source passed), p.holder = .layer other →
      (Position.ofKeys q).meets p.position = false) :
    (setFrom source given (.dict []) passed left l).1.mention other (q.map .text) = l.mention other (q.map .text) := by
  induction left generalizing passed l with
  | nil => rfl
  | cons key left ih =>
    have hbelow : ∀ p ∈ l.others (.ofKeys source passed), p.holder = .layer other →
        (Position.ofKeys q).meets (p.position ++ [.key (.text key)]) = false := by
      intro p hp hholder
      rw [← List.append_nil q]
      exact Position.apart_append (hothers p hp hholder) [] _
    cases left with
    | nil => exact mention_put hpath hbelow
    | cons next left =>
      rw [setFrom, Entries.get?_nil]
      refine Eq.trans (ih (mention_put_self h) (by rwa [← List.append_cons]) fun p hp hholder => ?_)
        (mention_make h rfl hpath hbelow)
      obtain ⟨outer, houter, rfl⟩ := mem_others_make hp
      exact hbelow outer houter hholder

/-- Every path leads to what it led to that is apart from the one that changes and from the other places of the dictionary
in which the change begins. -/
theorem mention_setFrom (h : l.mention source (passed.map .text) = .held current)
    (hpath : other = source → (Position.ofKeys q).meets (.ofKeys (passed ++ left)) = false)
    (hothers : ∀ before key, l.Begins source (passed ++ left) before key →
      ∀ p ∈ l.others (.ofKeys source before), p.holder = .layer other →
        (Position.ofKeys q).meets (p.position ++ [.key (.text key)]) = false) :
    (setFrom source given current passed left l).1.mention other (q.map .text) = l.mention other (q.map .text) := by
  induction left generalizing passed current with
  | nil => rw [setFrom]
  | cons key left ih =>
    by_cases hkind : current.kind = .dict
    · obtain ⟨entries, rfl⟩ := Value.exists_dict hkind
      cases left with
      | nil => exact mention_put hpath (hothers passed key (.last h))
      | cons next left =>
        rw [setFrom]
        cases hget : Entries.get? entries (.text key) with
        | none =>
          have hbelow := hothers passed key (.missing h hget)
          refine Eq.trans (mention_setFrom_made (mention_put_self h) (by rwa [← List.append_cons])
            fun p hp hholder => ?_) (mention_make h hget hpath hbelow)
          obtain ⟨outer, houter, rfl⟩ := mem_others_make hp
          exact hbelow outer houter hholder
        | some inner =>
          rw [List.append_cons] at hpath hothers
          exact ih (mention_inner h hget) hpath hothers
    · rw [setFrom_blocked hkind]

/-! ### What is given -/

/-- The dictionary at a place stands within a value that the program keeps and gives. Put into it, this value would stand
within itself. -/
def Contains (l : Layers) (given : Given) (place : Site) : Prop :=
  ∃ number, given = .kept number ∧ ∃ p ∈ l.others place, p.holder = .kept number

theorem kept_putAt (l : Layers) (key : Text) (item : Value) (p : Site) (number : Nat) :
    (l.putAt key item p).kept.getD number .none =
      if p.holder = .kept number then Value.putAt key item p.position (l.kept.getD number .none)
      else l.kept.getD number .none := by
  obtain ⟨holder, position⟩ := p
  cases holder with
  | layer source => rw [if_neg nofun]; rfl
  | kept changed =>
    rw [putAt, List.getD_eq_getElem?_getD, List.getElem?_modify, List.getD_eq_getElem?_getD]
    by_cases hnumber : changed = number
    · rw [if_pos (congrArg _ hnumber), hnumber]
      cases l.kept[number]? with
      | none => simp [Value.putAt_none]
      | some value => simp
    · rw [if_neg fun h => hnumber (Holder.kept.inj h)]
      cases l.kept[number]? <;> simp [hnumber]

theorem kept_foldl {places : List Site} {number : Nat} (h : ∀ p ∈ places, p.holder ≠ .kept number) :
    (places.foldl (fun l place => l.putAt key value place) l).kept.getD number .none = l.kept.getD number .none := by
  induction places generalizing l with
  | nil => rfl
  | cons p places ih =>
    obtain ⟨hp, hplaces⟩ := List.forall_mem_cons.mp h
    rw [List.foldl_cons, ih hplaces, kept_putAt, if_neg hp]

/-- What is given stays what it is while something else is put into a dictionary that it does not contain. -/
theorem value_put (h : ¬l.Contains given (.ofKeys source before)) (item : Given) :
    (l.put source before key item).value given = l.value given := by
  cases given with
  | new value => rfl
  | kept number =>
    refine kept_foldl (List.forall_mem_cons.mpr ⟨nofun, fun p hp hholder => h ⟨number, rfl, p, hp, hholder⟩⟩)

/-- A dictionary that is made is in no value that the one it is in is not in. -/
theorem not_contains_make (h : ¬l.Contains given (.ofKeys source before)) :
    ¬(l.put source before key (.new (.dict []))).Contains given (.ofKeys source (before ++ [key])) := by
  rintro ⟨number, rfl, p, hp, hholder⟩
  obtain ⟨outer, houter, rfl⟩ := mem_others_make hp
  exact h ⟨number, rfl, outer, houter, hholder⟩

/-- What is set is there at the end of a way that is made -/
theorem mention_setFrom_made_self (h : l.mention source (passed.map .text) = .held (.dict [])) (hleft : left ≠ [])
    (hgiven : ¬l.Contains given (.ofKeys source passed)) :
    (setFrom source given (.dict []) passed left l).1.mention source ((passed ++ left).map .text) =
      .held (l.value given) := by
  induction left generalizing passed l with
  | nil => exact absurd rfl hleft
  | cons key left ih =>
    cases left with
    | nil => exact mention_put_self h
    | cons next left =>
      rw [setFrom, Entries.get?_nil, List.append_cons passed key (next :: left), ← value_put hgiven (.new (.dict []))]
      exact ih (mention_put_self h) (List.cons_ne_nil _ _) (not_contains_make hgiven)

/-- and of every way that is not blocked. -/
theorem mention_setFrom_self (h : l.mention source (passed.map .text) = .held current) (hleft : left ≠ [])
    (hgiven : ∀ before key, l.Begins source (passed ++ left) before key → ¬l.Contains given (.ofKeys source before))
    (hset : (setFrom source given current passed left l).2 = none) :
    (setFrom source given current passed left l).1.mention source ((passed ++ left).map .text) =
      .held (l.value given) := by
  induction left generalizing passed current with
  | nil => exact absurd rfl hleft
  | cons key left ih =>
    by_cases hkind : current.kind = .dict
    · obtain ⟨entries, rfl⟩ := Value.exists_dict hkind
      cases left with
      | nil => exact mention_put_self h
      | cons next left =>
        rw [setFrom] at hset ⊢
        cases hget : Entries.get? entries (.text key) with
        | none =>
          have houtside := hgiven passed key (.missing h hget)
          rw [List.append_cons passed key (next :: left), ← value_put houtside (.new (.dict []))]
          exact mention_setFrom_made_self (mention_put_self h) (List.cons_ne_nil _ _) (not_contains_make houtside)
        | some inner =>
          rw [List.append_cons passed key (next :: left)] at hgiven ⊢
          simp only [hget] at hset ⊢
          exact ih (mention_inner h hget) (List.cons_ne_nil _ _) hgiven hset
    · rw [setFrom_blocked hkind] at hset
      cases hset

/-! ### Values as they can be -/

theorem Proper.putAt (h : l.Proper) (hvalue : value.Proper) (key : Text) (p : Site) : (l.putAt key value p).Proper := by
  intro other
  rw [layer_putAt]
  split_ifs
  · exact (h other).putAt hvalue
  · exact h other

theorem Proper.put (h : l.Proper) (hgiven : (l.value given).Proper) (key : Text) :
    (l.put source before key given).Proper := by
  have hfold (places : List Site) {l' : Layers} (hl' : l'.Proper) :
      (places.foldl (fun l' place => l'.putAt key (l.value given) place) l').Proper := by
    induction places generalizing l' with
    | nil => exact hl'
    | cons p places ih => exact ih (hl'.putAt hgiven key p)
  exact hfold (l.places source before) h

/-- What the program keeps stays a value as it can be when such a value is put into it. -/
theorem proper_value_put {item : Given} (hgiven : (l.value given).Proper) (hitem : (l.value item).Proper) (key : Text) :
    ((l.put source before key item).value given).Proper := by
  have hfold (number : Nat) (places : List Site) {l' : Layers} (hl' : (l'.kept.getD number .none).Proper) :
      ((places.foldl (fun l' place => l'.putAt key (l.value item) place) l').kept.getD number .none).Proper := by
    induction places generalizing l' with
    | nil => exact hl'
    | cons p places ih =>
      refine ih ?_
      rw [kept_putAt]
      split_ifs
      · exact hl'.putAt hitem
      · exact hl'
  cases given with
  | new value => exact hgiven
  | kept number => exact hfold number (l.places source before) hgiven

/-- The layers stay as they can be. -/
theorem Proper.setFrom (h : l.Proper) (hgiven : (l.value given).Proper) :
    (setFrom source given current passed left l).1.Proper := by
  have hempty : (l.value (.new (.dict []))).Proper := Entries.proper_dict.mpr Entries.proper_nil
  induction left generalizing passed current l with
  | nil => rwa [Layers.setFrom]
  | cons key left ih =>
    by_cases hkind : current.kind = .dict
    · obtain ⟨entries, rfl⟩ := Value.exists_dict hkind
      cases left with
      | nil => exact h.put hgiven key
      | cons next left =>
        rw [Layers.setFrom]
        cases Entries.get? entries (.text key) with
        | none => exact ih (h.put hempty key) (proper_value_put hgiven hempty key) hempty
        | some inner => exact ih h hgiven hempty
    · rwa [setFrom_blocked hkind]

/-! ### Setting and looking up -/

/-- An empty layer says as little as none. -/
theorem layer_opened (l : Layers) (source other : Source) : (l.opened source).layer other = l.layer other := by
  unfold opened
  split_ifs with hsome
  · rfl
  · rw [layer, Store.layer?_put, layer]
    split_ifs with hsource
    · rw [hsource, Option.not_isSome_iff_eq_none.mp hsome]
      rfl
    · rfl

theorem mention_opened (l : Layers) (source other : Source) (path : List Value) :
    (l.opened source).mention other path = l.mention other path := by
  rw [mention, layer_opened, mention]

theorem shared_opened (l : Layers) (source : Source) : (l.opened source).shared = l.shared := by
  unfold opened
  split_ifs <;> rfl

theorem others_opened (l : Layers) (source : Source) (p : Site) : (l.opened source).others p = l.others p := by
  rw [others, shared_opened, others]

theorem value_opened (l : Layers) (source : Source) (given : Given) : (l.opened source).value given = l.value given := by
  unfold opened
  split_ifs <;> rfl

theorem begins_of_opened (h : (l.opened source).Begins source path before key) : l.Begins source path before key := by
  cases h with
  | last hheld => exact .last (mention_opened l source source _ ▸ hheld)
  | missing hheld hmissing => exact .missing (mention_opened l source source _ ▸ hheld) hmissing

theorem mention_root (l : Layers) (source : Source) :
    (l.opened source).mention source (([] : List Text).map .text) = .held (.dict (l.layer source)) := by
  rw [mention_opened]
  exact Value.mention.eq_1 _

/-- Where setting fails there was a layer, and nothing has changed. -/
theorem set_error {path : Text} {m : Misuse} (h : (l.set path given source).2 = some m) :
    (l.set path given source).1 = l := by
  have hopened : l.opened source = l := by
    unfold opened
    split_ifs with hsome
    · rfl
    · have hempty : l.layer source = [] := by
        rw [layer, Option.not_isSome_iff_eq_none.mp hsome]
        rfl
      rw [set, hempty, setFrom_made] at h
      cases h
  rw [set, setFrom_error h, hopened]

/-- Setting a value that fails changes nothing. If it succeeds, then looking up gives what it gave at every path that is
apart from the one that is set, unless it leads to another place of the dictionary in which the change begins, in the
layer of any source; and what the running program sets is found, but for nothing and for dictionaries, which are merged,
and for what would contain itself. -/
theorem set_precise (l : Layers) (hl : l.Proper) (path : Text) (given : Given) (hgiven : (l.value given).Proper)
    (source : Source) :
    (∀ m, (l.set path given source).2 = some m → (l.set path given source).1 = l) ∧
    ((l.set path given source).2 = none →
      (∀ q : Text, ¬keys path <+: keys q → ¬keys q <+: keys path →
        (∀ before key, l.Begins source (keys path) before key → ∀ p ∈ l.others (.ofKeys source before),
          ∀ other, p.holder = .layer other → (Position.ofKeys (keys q)).meets (p.position ++ [.key (.text key)]) = false) →
        ∀ default, (l.set path given source).1.get q default = l.get q default) ∧
      (source = .runtime → l.value given ≠ .none → (l.value given).kind ≠ .dict →
        (∀ before key, l.Begins source (keys path) before key → ¬l.Contains given (.ofKeys source before)) →
        ∀ default, (l.set path given source).1.get path default = l.value given)) := by
  have hopened : (l.opened source).Proper := fun other => layer_opened l source other ▸ hl other
  have hproper : (l.set path given source).1.Proper := hopened.setFrom (value_opened l source given ▸ hgiven)
  refine ⟨fun m => set_error, fun hset => ⟨fun q hbeyond hwithin hothers => ?_, ?_⟩⟩
  · have hapart : (Position.ofKeys (keys q)).meets (.ofKeys (keys path)) = false := by
      rw [← Bool.not_eq_true, Position.meets_ofKeys_iff, not_or]
      exact ⟨hbeyond, hwithin⟩
    refine get_congr hl hproper fun other => ?_
    refine (mention_setFrom (mention_root l source) (fun _ => hapart) fun before key hbegins p hp hholder => ?_).trans
      (mention_opened l source other _)
    rw [others_opened] at hp
    exact hothers before key (begins_of_opened hbegins) p hp other hholder
  · rintro rfl hnone hkind houtside
    intro default
    have hcontains (before : List Text) (key : Text) (hbegins : (l.opened .runtime).Begins .runtime ([] ++ keys path)
        before key) : ¬(l.opened .runtime).Contains given (.ofKeys .runtime before) := by
      rw [Contains, others_opened]
      exact houtside before key (begins_of_opened hbegins)
    have hmention := mention_setFrom_self (mention_root l .runtime) (Text.splitAtPoint_ne_nil '.' path) hcontains hset
    rw [value_opened] at hmention
    obtain ⟨under, hget⟩ := get_of_decides hproper (decides_runtime hmention) hmention hnone default
    rw [hget, Value.laidOver_of_kind hkind]

/-- Layers in one of which a dictionary stands at two places, and in another one of which it stands as well, since the
program keeps it and has given it there. -/
def aliased : Layers where
  store :=
    { layers :=
        [(.compiledDefaults, Key.defaults),
          (.runtime, [(.text "d", .dict [(.text "k", .int 1)])]),
          (.userConfig, [(.text "a", .dict [(.text "k", .int 1)]), (.text "b", .dict [(.text "k", .int 1)]),
            (.text "c", .dict [(.text "k", .int 3)])])]
      distinct := by decide }
  kept := [.dict [(.text "k", .int 1)]]
  shared := [[.ofKeys .userConfig ["a"], .ofKeys .userConfig ["b"], .ofKeys .runtime ["d"], ⟨.kept 0, []⟩]]

/-- There, what is set at the first place leaves a third dictionary alone. -/
theorem set_precise_aliased : aliased.Proper ∧ (aliased.value (.new (.int 2))).Proper ∧
    (aliased.set "a.k" (.new (.int 2)) .userConfig).2 = none ∧
    (aliased.set "a.k" (.new (.int 2)) .userConfig).1.get "c.k" = aliased.get "c.k" ∧
    (aliased.set "a.k" (.new (.int 2)) .runtime).1.get "a.k" = .int 2 := by
  have hproper : aliased.Proper := by
    refine proper_of_store ?_
    simp +decide [aliased, Key.defaults, Entries.Proper, Value.Proper, Entries.get?_nil, Entries.get?_cons]
  have hdone : (aliased.set "a.k" (.new (.int 2)) .userConfig).2 = none := by decide +kernel
  have hdone' : (aliased.set "a.k" (.new (.int 2)) .runtime).2 = none := by decide +kernel
  obtain ⟨-, hset⟩ := set_precise aliased hproper "a.k" (.new (.int 2)) trivial .userConfig
  obtain ⟨-, hruntime⟩ := set_precise aliased hproper "a.k" (.new (.int 2)) trivial .runtime
  refine ⟨hproper, trivial, hdone,
    (hset hdone).1 "c.k" (by decide) (by decide) (fun before key _ p hp other hholder => ?_) .none,
    (hruntime hdone').2 rfl (by simp [value]) (by decide)
      (fun before key _ => by rintro ⟨number, hnew, -⟩; cases hnew) .none⟩
  obtain ⟨⟨group, hgroup, -, hp⟩, -⟩ := mem_others.mp hp
  obtain rfl := List.mem_singleton.mp hgroup
  have hkeys : keys "c.k" = (["c", "k"] : List Text) := by decide
  rw [hkeys, ← Bool.not_eq_true]
  simp only [List.mem_cons, List.not_mem_nil, or_false] at hp
  rcases hp with rfl | rfl | rfl | rfl
  · exact fun h => absurd (Position.meets_cons_iff.mp h).1 (by simp +decide)
  · exact fun h => absurd (Position.meets_cons_iff.mp h).1 (by simp +decide)
  · exact fun h => absurd (Position.meets_cons_iff.mp h).1 (by simp +decide)
  · cases hholder

/-- What is set at the dictionary of an anchor shows at its alias, though neither path begins with the other. -/
theorem alias_follows : ∃ meaning, Document.read "a: &x {k: 1}\nb: *x\n" = .ok meaning ∧
    ∃ l, ({} : Layers).load meaning.value .userConfig meaning.shared = .ok l ∧
      (l.set "a.k" (.new (.int 2)) .userConfig).2 = none ∧ ¬keys "a.k" <+: keys "b.k" ∧ ¬keys "b.k" <+: keys "a.k" ∧
      (l.get "b.k").equal (.int 1) = true ∧
      ((l.set "a.k" (.new (.int 2)) .userConfig).1.get "b.k").equal (.int 2) = true := by
  have hrun : (Document.read "a: &x {k: 1}\nb: *x\n").toOption.any (fun meaning =>
      (({} : Layers).load meaning.value .userConfig meaning.shared).toOption.any fun l =>
        (l.set "a.k" (.new (.int 2)) .userConfig).2.isNone && (l.get "b.k").equal (.int 1) &&
          ((l.set "a.k" (.new (.int 2)) .userConfig).1.get "b.k").equal (.int 2)) = true := by
    decide +kernel
  obtain ⟨meaning, hread, hload⟩ := exists_ok_of_any hrun
  obtain ⟨l, hload, hset⟩ := exists_ok_of_any hload
  rw [Bool.and_eq_true, Bool.and_eq_true, Option.isNone_iff_eq_none] at hset
  exact ⟨meaning, hread, l, hload, hset.1.1, by decide, by decide, hset.1.2, hset.2⟩

end Layers

end FileSieve.Config
