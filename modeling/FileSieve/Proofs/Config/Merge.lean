import FileSieve.Config.Layers
import FileSieve.Proofs.Result
import FileSieve.Proofs.Value.Equality

/-!
# Merging along a path

A dictionary says one of three things about a path of keys (`Mention`): nothing, that a value which is no dictionary
blocks the way, or which value stands at its end. Laying a dictionary over another one can be read off path by path
(`Value.find?_laidOver`): where the upper one says nothing, the lower one decides; where the way is blocked, there is
nothing; and a value at the end is laid over what the lower one has there.

The law asks for dictionaries as they can be (`Entries.Proper`), with keys that can be keys and no key twice, at every
depth. Merging such dictionaries gives one again (`Proper.laidOver`).
-/

namespace FileSieve

/-! ### Dictionaries as they can be -/

mutual

/-- A value in which every dictionary within dictionaries is one as it can be. -/
def Value.Proper : Value → Prop
  | .dict entries => Entries.Proper entries
  | _ => True

/-- Entries under different keys, each of which can be one. -/
def Entries.Proper : List (Value × Value) → Prop
  | [] => True
  | (key, value) :: rest => key.IsKey ∧ Entries.get? rest key = none ∧ value.Proper ∧ Entries.Proper rest

end

namespace Entries

variable {entries base upper : Entries} {key k value : Value}

theorem proper_nil : Proper [] := by
  rw [Proper]
  trivial

theorem proper_cons : Proper ((key, value) :: entries) ↔
    key.IsKey ∧ entries.get? key = none ∧ value.Proper ∧ Proper entries := by
  rw [Proper]

theorem proper_dict : (Value.dict entries).Proper ↔ Proper entries := by
  rw [Value.Proper]

theorem Proper.keyed (h : Proper entries) : Keyed entries := by
  induction entries with
  | nil => exact List.forall_mem_nil _
  | cons entry entries ih =>
    obtain ⟨hkey, -, -, hrest⟩ := proper_cons.mp h
    exact List.forall_mem_cons.mpr ⟨hkey, ih hrest⟩

theorem Proper.of_get? (h : Proper entries) (hvalue : entries.get? k = some value) : value.Proper := by
  induction entries with
  | nil => simp [get?] at hvalue
  | cons entry entries ih =>
    obtain ⟨-, -, hentry, hrest⟩ := proper_cons.mp h
    rw [get?_cons] at hvalue
    split_ifs at hvalue
    · rwa [← Option.some.inj hvalue]
    · exact ih hrest hvalue

theorem Proper.insert (h : Proper entries) (hkey : key.IsKey) (hvalue : value.Proper) :
    Proper (Entries.insert key value entries) := by
  induction entries with
  | nil => exact proper_cons.mpr ⟨hkey, rfl, hvalue, h⟩
  | cons entry entries ih =>
    obtain ⟨hentry, hfresh, hitem, hrest⟩ := proper_cons.mp h
    rw [Entries.insert]
    split_ifs with hsame
    · exact proper_cons.mpr ⟨hentry, hfresh, hvalue, hrest⟩
    · refine proper_cons.mpr ⟨hentry, ?_, hitem, ih hrest⟩
      have hother : ¬entry.1.equal key = true := fun heq => hsame (Value.equal_symm hentry hkey heq)
      rw [get?_insert hrest.keyed hkey hentry, if_neg hother, hfresh]

/-- Putting a value at the end of a path keeps what putting it, and dictionaries on the way, under single keys keeps. -/
theorem assign_keeps {P : Entries → Prop} (hnil : P [])
    (hvalue : ∀ {entries : Entries} (key : Text), P entries → P (entries.insert (.text key) value))
    (hdict : ∀ {entries inner : Entries} (key : Text), P entries → P inner →
      P (entries.insert (.text key) (.dict inner)))
    (hinner : ∀ {entries inner : Entries} {key : Text}, P entries → entries.get? (.text key) = some (.dict inner) →
      P inner) {path : List Text} {assigned : Entries} (h : P entries)
    (hassign : entries.assign value path = .ok assigned) : P assigned := by
  induction path generalizing entries assigned with
  | nil =>
    obtain rfl : entries = assigned := Except.ok.inj hassign
    exact h
  | cons key path ih =>
    cases path with
    | nil =>
      obtain rfl : entries.insert (.text key) value = assigned := Except.ok.inj hassign
      exact hvalue key h
    | cons next path =>
      rw [Entries.assign] at hassign
      split at hassign
      · obtain ⟨inner, hmade, heq⟩ := bind_eq_ok.mp hassign
        obtain rfl := Except.ok.inj heq
        exact hdict key h (ih hnil hmade)
      · rename_i old hold
        obtain ⟨inner, hmade, heq⟩ := bind_eq_ok.mp hassign
        obtain rfl := Except.ok.inj heq
        exact hdict key h (ih (hinner h hold) hmade)
      · cases hassign

theorem Proper.assign {path : List Text} {assigned : Entries} (h : Proper entries) (hvalue : value.Proper)
    (hassign : entries.assign value path = .ok assigned) : Proper assigned :=
  assign_keeps proper_nil (fun key h => h.insert (Value.isKey_text key) hvalue)
    (fun key h hinner => h.insert (Value.isKey_text key) (proper_dict.mpr hinner))
    (fun h hget => proper_dict.mp (h.of_get? hget)) h hassign

end Entries

/-! ### One key -/

namespace Entries

variable {base upper : Entries}

/-- Under a key the merged dictionary has what the upper one says laid over what the lower one has. -/
theorem get?_laidOver (hbase : Keyed base) (hupper : Proper upper) {k : Value} (hk : k.IsKey) :
    (laidOver base upper).get? k =
      (upper.get? k).elim (base.get? k) fun value => some (Value.laidOver (base.get? k) value) := by
  induction upper generalizing base with
  | nil => rw [laidOver]; rfl
  | cons entry upper ih =>
    obtain ⟨hkey, hfresh, -, hrest⟩ := proper_cons.mp hupper
    rw [laidOver, ih (hbase.insert hkey _) hrest, get?_insert hbase hkey hk, get?_cons]
    split_ifs with hsame
    · have hnone : get? upper k = none := (get?_congr hk hkey hsame).trans hfresh
      rw [hnone, get?_congr hk hkey hsame]
      rfl
    · rfl

end Entries

mutual

theorem Value.Proper.laidOver {under : Option Value} {value : Value} (hunder : ∀ u, under = some u → u.Proper)
    (h : value.Proper) : (Value.laidOver under value).Proper := by
  cases value with
  | dict upper =>
    cases under with
    | none =>
      rw [Value.laidOver]
      · exact h
      · exact nofun
    | some u =>
      cases u with
      | dict base =>
        rw [Value.laidOver]
        exact Entries.proper_dict.mpr
          (Entries.Proper.laidOver (Entries.proper_dict.mp (hunder _ rfl)) (Entries.proper_dict.mp h))
      | _ =>
        rw [Value.laidOver]
        · exact h
        · exact nofun
  | _ =>
    rw [Value.laidOver]
    · trivial
    · exact nofun

/-- Merging dictionaries as they can be gives one. -/
theorem Entries.Proper.laidOver {base upper : Entries} (hbase : Entries.Proper base)
    (hupper : Entries.Proper upper) : Entries.Proper (Entries.laidOver base upper) := by
  match upper with
  | [] => rwa [Entries.laidOver]
  | (key, value) :: upper =>
    obtain ⟨hkey, -, hvalue, hrest⟩ := Entries.proper_cons.mp hupper
    rw [Entries.laidOver]
    exact Entries.Proper.laidOver (hbase.insert hkey (hvalue.laidOver fun u hu => hbase.of_get? hu)) hrest

end

/-! ### Paths -/

/-- What a value says about what stands at the end of a path of keys. -/
inductive Mention
  /-- Nothing: a key is missing. -/
  | absent
  /-- A value that is no dictionary stands in the way. -/
  | blocked
  /-- A value stands at the end. -/
  | held (value : Value)

/-- What is at the end of a path when what is said of it is laid over what was there. -/
def Mention.over (under : Option Value) : Mention → Option Value
  | .absent => under
  | .blocked => none
  | .held value => some (Value.laidOver under value)

namespace Value

/-- What a value says about a path of keys. -/
def mention : (value : Value) → (path : List Value) → Mention
  | value, [] => .held value
  | .dict entries, key :: path =>
    match Entries.get? entries key with
    | Option.none => .absent
    | some value => mention value path
  | _, _ :: _ => .blocked

/-- The value at the end of a path of keys. -/
def find? : (value : Value) → (path : List Value) → Option Value
  | value, [] => some value
  | .dict entries, key :: path => (Entries.get? entries key).bind fun value => find? value path
  | _, _ :: _ => Option.none

variable {value under : Value} {entries : Entries} {key : Value} {path : List Value}

theorem exists_dict (h : value.kind = .dict) : ∃ entries, value = .dict entries := by
  cases value with
  | dict entries => exact ⟨entries, rfl⟩
  | _ => simp [kind] at h

theorem mention_blocked (h : value.kind ≠ .dict) : value.mention (key :: path) = .blocked := by
  cases value with
  | dict entries => exact absurd rfl h
  | _ => rfl

theorem find?_blocked (h : value.kind ≠ .dict) : value.find? (key :: path) = Option.none := by
  cases value with
  | dict entries => exact absurd rfl h
  | _ => rfl

theorem Proper.of_find? {inner : Value} (h : value.Proper) (hfind : value.find? path = some inner) : inner.Proper := by
  induction path generalizing value with
  | nil =>
    obtain rfl : value = inner := Option.some.inj hfind
    exact h
  | cons key path ih =>
    cases value with
    | dict entries =>
      obtain ⟨next, hnext, hfind⟩ := Option.bind_eq_some_iff.mp hfind
      exact ih ((Entries.proper_dict.mp h).of_get? hnext) hfind
    | _ => simp [find?] at hfind

theorem find?_concat (path : List Value) (key : Value) :
    value.find? (path ++ [key]) = (value.find? path).bind fun inner => inner.find? [key] := by
  induction path generalizing value with
  | nil => rfl
  | cons first path ih =>
    cases value with
    | dict entries =>
      rw [List.cons_append, find?, find?, Option.bind_assoc]
      exact Option.bind_congr fun inner _ => ih
    | _ => rfl

theorem laidOver_of_kind (h : value.kind ≠ .dict) (under : Option Value) : laidOver under value = value := by
  cases value with
  | dict entries => exact absurd rfl h
  | _ =>
    rw [laidOver]
    exact nofun

theorem laidOver_dict {under : Option Value} (h : ∀ base, under ≠ some (.dict base)) (upper : Entries) :
    laidOver under (.dict upper) = .dict upper := by
  rw [laidOver]
  exact fun base => h base

/-- Laying a dictionary over anything gives a dictionary. -/
theorem exists_laidOver (under : Option Value) (upper : Entries) :
    ∃ entries, laidOver under (.dict upper) = .dict entries := by
  by_cases h : ∃ base, under = some (.dict base)
  · obtain ⟨base, rfl⟩ := h
    exact ⟨_, by rw [laidOver]⟩
  · exact ⟨upper, laidOver_dict (fun base heq => h ⟨base, heq⟩) upper⟩

/-- Over nothing, what is at the end of a path is what is found there. -/
theorem over_none (path : List Value) : (value.mention path).over Option.none = value.find? path := by
  induction path generalizing value with
  | nil =>
    cases value with
    | dict entries => exact congrArg some (laidOver_dict (by simp) entries)
    | _ => exact congrArg some (laidOver_of_kind (by simp [kind]) _)
  | cons key path ih =>
    cases value with
    | dict entries =>
      rw [mention, find?]
      cases Entries.get? entries key with
      | none => rfl
      | some inner => exact ih
    | _ => rfl

/-- At the end of a path a merged value has what the upper value says of it laid over what the lower one has there. -/
theorem find?_laidOver {under : Option Value} {upper : Value} (hunder : ∀ u, under = some u → u.Proper)
    (hupper : upper.Proper) (hpath : ∀ key ∈ path, key.IsKey) :
    (laidOver under upper).find? path = (upper.mention path).over (under.bind fun u => u.find? path) := by
  induction path generalizing under upper with
  | nil =>
    have hself : (under.bind fun u => u.find? []) = under := Option.bind_fun_some under
    rw [mention, Mention.over, hself, find?]
  | cons key path ih =>
    obtain ⟨hkey, hpath⟩ := List.forall_mem_cons.mp hpath
    by_cases hkind : upper.kind = .dict
    · obtain ⟨upper, rfl⟩ := exists_dict hkind
      by_cases hdict : ∃ base, under = some (.dict base)
      · obtain ⟨base, rfl⟩ := hdict
        have hproper := Entries.proper_dict.mp hupper
        have hbase := Entries.proper_dict.mp (hunder _ rfl)
        rw [laidOver, find?, Entries.get?_laidOver hbase.keyed hproper hkey, mention]
        cases hget : Entries.get? upper key with
        | none => rfl
        | some value => exact ih (fun u hu => hbase.of_get? hu) (hproper.of_get? hget) hpath
      · have hnone : (under.bind fun u => u.find? (key :: path)) = Option.none := by
          refine Option.bind_eq_none_iff.mpr fun u hu => find?_blocked fun hkind => hdict ?_
          obtain ⟨base, rfl⟩ := exists_dict hkind
          exact ⟨base, hu⟩
        rw [laidOver_dict (fun base heq => hdict ⟨base, heq⟩), hnone, over_none]
    · rw [laidOver_of_kind hkind, mention_blocked hkind, find?_blocked hkind]
      rfl

end Value

theorem Entries.at?_eq_find? (entries : Entries) (path : List Text) :
    entries.at? path = (Value.dict entries).find? (path.map .text) := by
  induction path generalizing entries with
  | nil => rfl
  | cons key path ih =>
    rw [List.map_cons, Value.find?]
    cases path with
    | nil =>
      rw [at?, List.map_nil]
      exact (Option.bind_fun_some _).symm
    | cons next path =>
      rw [at?]
      · cases Entries.get? entries (.text key) with
        | none => rfl
        | some value =>
          cases value with
          | dict inner => exact ih inner
          | _ => rfl
      · exact nofun

end FileSieve
