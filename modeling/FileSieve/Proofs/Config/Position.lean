import FileSieve.Proofs.Config.Merge
import FileSieve.Value.Position
import Mathlib.Data.List.Infix

/-!
# Changes at a position

What is put under a key of the dictionary at a position is found there (`Value.mention_putAt_self`), and a path of keys
that is apart from the changed entry, so that neither lies within what is at the other, leads to what it led to before
(`Value.mention_putAt`). The keys of such paths are texts, and a text is the same key as no other value, so that steps
can be compared as they are written.
-/

namespace FileSieve

/-! ### Texts as keys -/

namespace Entries

variable {entries : Entries} {key t : Text} {k value : Value} {change : Value → Value}

theorem get?_insert_self : get? (insert (.text key) value entries) (.text key) = some value := by
  induction entries with
  | nil => rw [insert, get?_cons, if_pos (Value.equal_text_iff.mpr rfl)]
  | cons entry entries ih =>
    rw [insert]
    split_ifs with hsame
    · rw [get?_cons, if_pos hsame]
    · rw [get?_cons, if_neg hsame, ih]

theorem get?_insert_of_ne (h : t ≠ key) : get? (insert (.text key) value entries) (.text t) = entries.get? (.text t) := by
  have hother : ¬(Value.text t).equal (.text key) = true := by simpa using h
  induction entries with
  | nil => rw [insert, get?_cons, if_neg hother]
  | cons entry entries ih =>
    rw [insert]
    split_ifs with hsame
    · obtain hkey := Value.text_equal_iff.mp hsame
      rw [get?_cons, get?_cons, hkey, if_neg hother, if_neg hother]
    · rw [get?_cons, get?_cons, ih]

/-- What is said about a path that begins with the key is what the new value says about the rest, -/
theorem mention_insert_self (key : Text) (item : Value) (entries : Entries) (q : List Value) :
    (Value.dict (entries.insert (.text key) item)).mention (.text key :: q) = item.mention q := by
  rw [Value.mention, get?_insert_self]

/-- and of other paths there is said what there was. -/
theorem mention_insert_of_ne {key t : Text} (h : t ≠ key) (item : Value) (entries : Entries) (q : List Value) :
    (Value.dict (entries.insert (.text key) item)).mention (.text t :: q) =
      (Value.dict entries).mention (.text t :: q) := by
  rw [Value.mention, Value.mention, get?_insert_of_ne h]

/-- A text finds the changed value if it is the key, and what it found otherwise. -/
theorem get?_modify : get? (modify k change entries) (.text t) =
    if k.equal (.text t) then (entries.get? (.text t)).map change else entries.get? (.text t) := by
  induction entries with
  | nil => simp [modify, get?_nil]
  | cons entry entries ih =>
    rw [modify]
    by_cases hfound : (Value.text t).equal entry.1 = true
    · obtain hentry := Value.text_equal_iff.mp hfound
      rw [get?_cons, if_pos hfound, hentry]
      split_ifs
      · exact (get?_cons _ _ _ _).trans (if_pos (hentry ▸ hfound))
      · exact (get?_cons _ _ _ _).trans (if_pos (hentry ▸ hfound))
    · have hkey (h : k.equal entry.1 = true) : ¬k.equal (.text t) = true := fun hsame => by
        rw [Value.equal_text_iff.mp hsame, Value.text_equal_iff] at h
        exact hfound (Value.text_equal_iff.mpr h)
      rw [get?_cons, if_neg hfound]
      split_ifs with hchanged hsame hsame
      · exact absurd hsame (hkey hchanged)
      · exact (get?_cons _ _ _ _).trans (if_neg hfound)
      · rw [get?_cons, if_neg hfound, ih, if_pos hsame]
      · rw [get?_cons, if_neg hfound, ih, if_neg hsame]

theorem get?_modify_eq_none {k' : Value} (h : entries.get? k' = none) : (modify k change entries).get? k' = none := by
  induction entries with
  | nil => rfl
  | cons entry entries ih =>
    rw [get?_cons] at h
    split_ifs at h with hfound
    rw [modify]
    split_ifs
    · rw [get?_cons, if_neg hfound, h]
    · rw [get?_cons, if_neg hfound, ih h]

theorem Proper.modify (h : Proper entries) (hchange : ∀ v : Value, v.Proper → (change v).Proper) :
    Proper (modify k change entries) := by
  induction entries with
  | nil => exact h
  | cons entry entries ih =>
    obtain ⟨hkey, hfresh, hvalue, hrest⟩ := proper_cons.mp h
    rw [Entries.modify]
    split_ifs
    · exact proper_cons.mpr ⟨hkey, hfresh, hchange _ hvalue, hrest⟩
    · exact proper_cons.mpr ⟨hkey, get?_modify_eq_none hfresh, hvalue, ih hrest⟩

end Entries

/-! ### Positions -/

namespace Position

variable {p q r : Position} {path before after : List Text} {key : Text} {step : Step}

theorem same_text_iff {t : Text} : Step.same (.key (.text t)) step = true ↔ step = .key (.text t) := by
  cases step with
  | key k => rw [Step.same, Value.text_equal_iff, Step.key.injEq]
  | item n => simp [Step.same]

theorem text_same_iff {t : Text} : Step.same step (.key (.text t)) = true ↔ step = .key (.text t) := by
  cases step with
  | key k => rw [Step.same, Value.equal_text_iff, Step.key.injEq]
  | item n => simp [Step.same]

theorem ofKeys_append (before after : List Text) : ofKeys (before ++ after) = ofKeys before ++ ofKeys after :=
  List.map_append

theorem within_ofKeys : p.within (ofKeys path) = true ↔ ofKeys path <+: p := by
  induction path generalizing p with
  | nil => simp [ofKeys, within]
  | cons key path ih =>
    cases p with
    | nil => simp [ofKeys, within]
    | cons step p =>
      rw [ofKeys, List.map_cons, within, Bool.and_eq_true, text_same_iff, List.cons_prefix_cons, ← ofKeys, ih, eq_comm]

theorem ofKeys_within : (ofKeys path).within p = true ↔ p <+: ofKeys path := by
  induction p generalizing path with
  | nil => cases path <;> simp [ofKeys, within]
  | cons step p ih =>
    cases path with
    | nil => simp [ofKeys, within]
    | cons key path =>
      rw [ofKeys, List.map_cons, within, Bool.and_eq_true, same_text_iff, List.cons_prefix_cons, ← ofKeys, ih]

/-- A path meets a position when one of them begins with the other. -/
theorem meets_iff : (ofKeys path).meets p = true ↔ p <+: ofKeys path ∨ ofKeys path <+: p := by
  rw [meets, Bool.or_eq_true, ofKeys_within, within_ofKeys]

theorem nil_meets (p : Position) : (ofKeys []).meets p = true :=
  meets_iff.mpr (.inr List.nil_prefix)

theorem same_iff : (ofKeys path).same p = true ↔ p = ofKeys path := by
  rw [same, Bool.and_eq_true, ofKeys_within, within_ofKeys]
  refine ⟨fun h => h.1.eq_of_length_le h.2.length_le, ?_⟩
  rintro rfl
  exact ⟨List.prefix_rfl, List.prefix_rfl⟩

theorem ofKeys_prefix_iff : ofKeys before <+: ofKeys after ↔ before <+: after := by
  induction before generalizing after with
  | nil => simp [ofKeys]
  | cons key before ih =>
    cases after with
    | nil => simp [ofKeys]
    | cons key' after =>
      rw [ofKeys, ofKeys, List.map_cons, List.map_cons, List.cons_prefix_cons, List.cons_prefix_cons, ← ofKeys, ← ofKeys,
        ih, Step.key.injEq, Value.text.injEq]

/-- Two paths meet when one of them begins with the other. -/
theorem meets_ofKeys_iff : (ofKeys before).meets (ofKeys after) = true ↔ after <+: before ∨ before <+: after := by
  rw [meets_iff, ofKeys_prefix_iff, ofKeys_prefix_iff]

/-- What is apart stays so further on. -/
theorem apart_append (h : (ofKeys path).meets p = false) (rest : List Text) (q : Position) :
    (ofKeys (path ++ rest)).meets (p ++ q) = false := by
  rw [← Bool.not_eq_true, meets_iff] at h ⊢
  rw [ofKeys_append]
  rintro (hmeets | hmeets)
  · exact h (List.prefix_or_prefix_of_prefix ((List.prefix_append p q).trans hmeets) (List.prefix_append _ _))
  · exact h (List.prefix_or_prefix_of_prefix (List.prefix_append p q) ((List.prefix_append _ _).trans hmeets))

theorem meets_cons_iff : (ofKeys (key :: path)).meets (step :: p) = true ↔
    step = .key (.text key) ∧ (ofKeys path).meets p = true := by
  rw [meets_iff, meets_iff, ofKeys, List.map_cons, List.cons_prefix_cons, List.cons_prefix_cons, ← ofKeys, eq_comm]
  tauto

end Position

/-! ### What is put at a position -/

namespace Value

variable {key : Text} {item value : Value} {position : Position} {path : List Text}

theorem putAt_dict (entries : Entries) :
    putAt key item position (dict entries) = .dict (Entries.putAt key item position entries) := by
  cases position with
  | nil => rfl
  | cons step position => cases step <;> rfl

theorem putAt_none : putAt key item position none = none := by
  rw [putAt] <;> simp

theorem kind_putAt (value : Value) : (putAt key item position value).kind = value.kind := by
  cases value with
  | dict entries => rw [putAt_dict, kind, kind]
  | list items => cases position with
    | nil => rfl
    | cons step position => cases step <;> rfl
  | tuple items => cases position with
    | nil => rfl
    | cons step position => cases step <;> rfl
  | _ => rw [putAt] <;> simp

/-- A path that is apart from the entry that changes leads to what it led to. -/
theorem mention_putAt (h : (Position.ofKeys path).meets (position ++ [.key (.text key)]) = false) (value : Value) :
    (putAt key item position value).mention (path.map .text) = value.mention (path.map .text) := by
  induction path generalizing position value with
  | nil => exact absurd (Position.nil_meets _) (by rw [h]; exact Bool.noConfusion)
  | cons t path ih =>
    by_cases hkind : value.kind = .dict
    · obtain ⟨entries, rfl⟩ := exists_dict hkind
      cases position with
      | nil =>
        rw [List.nil_append, ← Bool.not_eq_true, Position.meets_cons_iff, not_and] at h
        have hne : t ≠ key := fun heq => h (by rw [heq]) (Position.meets_iff.mpr (.inl List.nil_prefix))
        rw [putAt, List.map_cons, mention, mention, Entries.get?_insert_of_ne hne]
      | cons step position =>
        rw [List.cons_append, ← Bool.not_eq_true, Position.meets_cons_iff, not_and, Bool.not_eq_true] at h
        cases step with
        | item n => rfl
        | key k =>
          rw [putAt, List.map_cons, mention, mention, Entries.get?_modify]
          split_ifs with hkey
          · cases Entries.get? entries (.text t) with
            | none => rfl
            | some inner => exact ih (h (congrArg Step.key (equal_text_iff.mp hkey))) inner
          · rfl
    · rw [List.map_cons, mention_blocked hkind, mention_blocked (by rwa [kind_putAt])]

/-- What a value says about a path is what the value on the way says about the rest. -/
theorem mention_append {before : List Value} {found : Value} (h : value.mention before = .held found)
    (after : List Value) : value.mention (before ++ after) = found.mention after := by
  induction before generalizing value with
  | nil => rw [List.nil_append, Mention.held.inj h]
  | cons k before ih =>
    cases value with
    | dict entries =>
      rw [mention] at h
      rw [List.cons_append, mention]
      cases hget : Entries.get? entries k with
      | none => simp [hget] at h
      | some inner =>
        simp only [hget] at h
        exact ih h
    | _ => simp [mention] at h

/-- What is put under a key of the dictionary at the end of a path is there. -/
theorem mention_putAt_self {entries : Entries} (h : value.mention (path.map .text) = .held (.dict entries)) :
    (putAt key item (.ofKeys path) value).mention ((path ++ [key]).map .text) = .held item := by
  induction path generalizing value with
  | nil =>
    obtain rfl : value = .dict entries := Mention.held.inj h
    rw [Position.ofKeys, List.map_nil, putAt, List.nil_append, List.map_singleton, mention, Entries.get?_insert_self]
    exact mention.eq_1 item
  | cons t path ih =>
    cases value with
    | dict outer =>
      rw [List.map_cons, mention] at h
      rw [Position.ofKeys, List.map_cons, putAt, List.cons_append, List.map_cons, mention, Entries.get?_modify,
        if_pos (equal_text_iff.mpr rfl)]
      cases hget : Entries.get? outer (.text t) with
      | none => simp [hget] at h
      | some inner =>
        simp only [hget] at h
        exact ih h
    | _ => simp [mention] at h

theorem proper_of_kind (h : value.kind ≠ .dict) : value.Proper := by
  cases value with
  | dict entries => exact absurd rfl h
  | _ => trivial

theorem Proper.putAt (h : value.Proper) (hitem : item.Proper) : (putAt key item position value).Proper := by
  induction position generalizing value with
  | nil =>
    cases value with
    | dict entries => exact Entries.proper_dict.mpr ((Entries.proper_dict.mp h).insert (isKey_text key) hitem)
    | _ => exact h
  | cons step position ih =>
    cases value with
    | dict entries =>
      cases step with
      | key k => exact Entries.proper_dict.mpr ((Entries.proper_dict.mp h).modify fun v hv => ih hv)
      | item n => exact h
    | _ => exact proper_of_kind (by rw [kind_putAt]; exact nofun)

end Value

theorem Entries.Proper.putAt {entries : Entries} {key : Text} {item : Value} {position : Position}
    (h : Entries.Proper entries) (hitem : item.Proper) : Entries.Proper (entries.putAt key item position) := by
  rw [← Entries.proper_dict, ← Value.putAt_dict]
  exact (Entries.proper_dict.mpr h).putAt hitem

end FileSieve
