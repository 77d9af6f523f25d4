import FileSieve.Pattern.Substitution
import FileSieve.Proofs.Regex.Escaped
import Mathlib.Data.List.Sort

/-!
# What replacing keys comes to

A text is walked once from the left. Where one or more keys of the table begin, the longest of them is
replaced and the walk goes on behind it; what is put in its place is not looked at again.

A table without an empty key is applied by a regular expression, which comes to this walk (`apply_eq_walk`): its
alternatives are tried in their order, so the first key that begins at a place is the longest one there
(`find?_sortedKeys`).
-/

namespace FileSieve.Substitution

/-- Of the keys that `t` begins with the longest, with its replacement; of equal keys the first. -/
def longest? (table : Substitution) (t : Text) : Option (Text × Text) :=
  table.foldl (fun best entry =>
    if entry.1.isPrefixOf t then
      match best with
      | some other => if other.1.length < entry.1.length then some entry else best
      | none => some entry
    else best) none

/-- Walks a text; `skip` counts what is left of a key that was replaced. -/
def walk (table : Substitution) : (t : Text) → (skip : Nat) → Text
  | [], _ => []
  | _ :: rest, skip + 1 => walk table rest skip
  | c :: rest, 0 =>
    match table.longest? (c :: rest) with
    | some (key, new) => new ++ walk table rest (key.length - 1)
    | none => c :: walk table rest 0

variable {table : Substitution} {t : Text}

theorem walk_skip (table : Substitution) (key rest : Text) :
    walk table (key ++ rest) key.length = walk table rest 0 := by
  induction key with
  | nil => rfl
  | cons c key ih => simpa [walk] using ih

theorem walk_key {c : CodePoint} (key : Text) {rest new : Text}
    (h : table.longest? (c :: (key ++ rest)) = some (c :: key, new)) :
    walk table (c :: (key ++ rest)) 0 = new ++ walk table rest 0 := by
  rw [walk, h]
  simp [walk_skip]

/-- Behind a key that is replaced the walk goes on. -/
theorem walk_found {key rest new : Text} (hne : key ≠ []) (h : table.longest? (key ++ rest) = some (key, new)) :
    walk table (key ++ rest) 0 = new ++ walk table rest 0 := by
  obtain ⟨c, key, rfl⟩ := List.exists_cons_of_ne_nil hne
  exact walk_key key h

theorem walk_copy {c : CodePoint} {rest : Text} (h : table.longest? (c :: rest) = none) :
    walk table (c :: rest) 0 = c :: walk table rest 0 := by
  rw [walk, h]

/-- Where there are no keys the text is kept. -/
theorem walk_empty (t : Text) : walk [] t 0 = t := by
  induction t with
  | nil => rfl
  | cons c t ih => rw [walk_copy rfl, ih]

/-! ### The longest key -/

theorem longest?_append_singleton (table : Substitution) (entry : Text × Text) (t : Text) :
    longest? (table ++ [entry]) t =
      if entry.1.isPrefixOf t then
        match table.longest? t with
        | some other => if other.1.length < entry.1.length then some entry else some other
        | none => some entry
      else table.longest? t := by
  simp only [longest?, List.foldl_append, List.foldl_cons, List.foldl_nil]
  split_ifs
  · split <;> simp_all
  · rfl

theorem longest?_eq_none_iff : table.longest? t = none ↔ ∀ entry ∈ table, ¬entry.1 <+: t := by
  induction table using List.reverseRecOn with
  | nil => simp [longest?]
  | append_singleton table entry ih =>
    rw [longest?_append_singleton]
    by_cases hentry : entry.1 <+: t
    · have hsome : ¬∀ e ∈ table ++ [entry], ¬e.1 <+: t := fun h => h entry (by simp) hentry
      simp only [List.isPrefixOf_iff_prefix, hentry, if_true, hsome, iff_false]
      split
      · split_ifs <;> simp
      · simp
    · simp [List.isPrefixOf_iff_prefix, hentry, ih, or_imp, forall_and]

/-- An entry whose key a text begins with, as the table is looked up, and no longer key begins there. -/
structure IsLongest (table : Substitution) (t : Text) (entry : Text × Text) : Prop where
  /-- It is the first entry of its key. -/
  lookup : table.lookup entry.1 = some entry.2
  /-- Its key begins the text. -/
  begins : entry.1 <+: t
  /-- Other keys that begin the text are not longer. -/
  longest : ∀ other ∈ table, other.1 <+: t → other.1.length ≤ entry.1.length

theorem IsLongest.mem {entry : Text × Text} (h : table.IsLongest t entry) : entry ∈ table := by
  obtain ⟨early, late, rfl, -⟩ := List.lookup_eq_some_iff.mp h.lookup
  exact List.mem_append_right early (.head late)

/-- An entry stays the longest when one that is not longer is put behind the table. -/
theorem IsLongest.append_old {entry last : Text × Text} (h : table.IsLongest t entry)
    (hlast : last.1 <+: t → last.1.length ≤ entry.1.length) : IsLongest (table ++ [last]) t entry where
  lookup := by simp [List.lookup_append, h.lookup]
  begins := h.begins
  longest other hother := by
    obtain hother | rfl := (List.mem_append.mp hother).imp_right List.mem_singleton.mp
    · exact h.longest other hother
    · exact hlast

/-- An entry behind a table becomes the longest when it is longer than all of the table. -/
theorem IsLongest.append_new {last : Text × Text} (hlast : last.1 <+: t)
    (h : ∀ other ∈ table, other.1 <+: t → other.1.length < last.1.length) : IsLongest (table ++ [last]) t last where
  lookup := by
    have hnone : table.lookup last.1 = none := by
      refine List.lookup_eq_none_iff.mpr fun other hother => ?_
      have hne : last.1 ≠ other.1 := fun heq => absurd (h other hother (heq ▸ hlast)) (by simp [heq])
      simpa using hne
    rw [List.lookup_append, hnone, Option.none_or]
    exact List.lookup_cons_self
  begins := hlast
  longest other hother hbegins := by
    obtain hother | rfl := (List.mem_append.mp hother).imp_right List.mem_singleton.mp
    · exact (h other hother hbegins).le
    · exact Nat.le_refl _

theorem isLongest_of_longest? {entry : Text × Text} (h : table.longest? t = some entry) : table.IsLongest t entry := by
  induction table using List.reverseRecOn generalizing entry with
  | nil => simp [longest?] at h
  | append_singleton table last ih =>
    rw [longest?_append_singleton] at h
    split_ifs at h with hlast
    · rw [List.isPrefixOf_iff_prefix] at hlast
      split at h
      · next other hother =>
        split_ifs at h with hlonger
        · obtain rfl : last = entry := Option.some.inj h
          exact .append_new hlast fun e he hp => ((ih hother).longest e he hp).trans_lt hlonger
        · obtain rfl : other = entry := Option.some.inj h
          exact (ih hother).append_old fun _ => Nat.le_of_not_lt hlonger
      · next hnone =>
        obtain rfl : last = entry := Option.some.inj h
        exact .append_new hlast fun e he hp => absurd hp (longest?_eq_none_iff.mp hnone e he)
    · exact (ih h).append_old fun hp => absurd (List.isPrefixOf_iff_prefix.mpr hp) hlast

/-! ### The keys in their order -/

theorem sortedKeys_eq (table : Substitution) :
    table.sortedKeys = (table.map Prod.fst).insertionSort (fun key other => other.length ≤ key.length) := by
  have hinsert (key : Text) (keys : List Text) :
      insertKey key keys = keys.orderedInsert (fun key other => other.length ≤ key.length) key := by
    induction keys with
    | nil => rfl
    | cons other keys ih => rw [insertKey, List.orderedInsert_cons, ih]
  induction table with
  | nil => rfl
  | cons entry table ih =>
    rw [sortedKeys, List.foldr_cons, ← sortedKeys, ih, hinsert]
    rfl

theorem mem_sortedKeys_iff {key : Text} : key ∈ table.sortedKeys ↔ ∃ entry ∈ table, entry.1 = key := by
  rw [sortedKeys_eq, List.mem_insertionSort, List.mem_map]

/-- No key stands behind a shorter one. -/
theorem pairwise_sortedKeys (table : Substitution) :
    table.sortedKeys.Pairwise fun key other => other.length ≤ key.length := by
  rw [sortedKeys_eq]
  have : Std.Total fun key other : Text => other.length ≤ key.length := ⟨fun _ _ => Nat.le_total _ _⟩
  have : IsTrans Text fun key other : Text => other.length ≤ key.length := ⟨fun _ _ _ h h' => h'.trans h⟩
  exact List.pairwise_insertionSort _ _

/-- The first of the sorted keys that a text begins with is the longest one. -/
theorem find?_sortedKeys (table : Substitution) (t : Text) :
    table.sortedKeys.find? (·.isPrefixOf t) = (table.longest? t).map Prod.fst := by
  cases hlongest : table.longest? t with
  | none =>
    rw [Option.map_none, List.find?_eq_none]
    intro key hkey
    obtain ⟨entry, hentry, rfl⟩ := mem_sortedKeys_iff.mp hkey
    rw [List.isPrefixOf_iff_prefix]
    exact longest?_eq_none_iff.mp hlongest entry hentry
  | some entry =>
    have h := isLongest_of_longest? hlongest
    have hmem : entry.1 ∈ table.sortedKeys := mem_sortedKeys_iff.mpr ⟨entry, h.mem, rfl⟩
    have hbegins : entry.1.isPrefixOf t = true := List.isPrefixOf_iff_prefix.mpr h.begins
    have hsome : (table.sortedKeys.find? (·.isPrefixOf t)).isSome = true :=
      List.find?_isSome.mpr ⟨entry.1, hmem, hbegins⟩
    obtain ⟨key, hfind⟩ := Option.isSome_iff_exists.mp hsome
    obtain ⟨hkey, early, late, hsplit, hearly⟩ := List.find?_eq_some_iff_append.mp hfind
    rw [List.isPrefixOf_iff_prefix] at hkey
    obtain ⟨other, hother, rfl⟩ := mem_sortedKeys_iff.mp (List.mem_of_find?_eq_some hfind)
    -- the longest key is not among those before the key that is found, which do not begin the text
    have hlate : entry.1 = other.1 ∨ entry.1 ∈ late := by
      rw [hsplit] at hmem
      obtain hmem | hmem := List.mem_append.mp hmem
      · have hb := hearly _ hmem
        simp [hbegins] at hb
      · exact List.mem_cons.mp hmem
    have hle : entry.1.length ≤ other.1.length := by
      obtain heq | hlate := hlate
      · exact (congrArg List.length heq).le
      · have hsorted := hsplit ▸ pairwise_sortedKeys table
        exact (List.pairwise_cons.mp (List.pairwise_append.mp hsorted).2.1).1 _ hlate
    have heq : other.1 = entry.1 :=
      (List.prefix_of_prefix_length_le hkey h.begins (h.longest other hother hkey)).eq_of_length_le hle
    rw [hfind, heq]
    rfl

/-! ### Applying a table -/

/-- A table without an empty key. -/
def Proper (table : Substitution) : Prop :=
  ∀ entry ∈ table, entry.1 ≠ []

/-- The regular expression of the keys, which has no fault. -/
theorem parse_alternation (table : Substitution) : Regex.parse table.alternation { unicode := true } =
    .ok { node := .ofTexts table.sortedKeys, groups := 0, mode := { unicode := true } } :=
  Regex.parse_escaped _ rfl rfl rfl

/-- Induction over a text as it is walked: what is behind a key that is replaced comes before the text. -/
@[elab_as_elim]
theorem walk_induction {motive : Text → Prop} (h : table.Proper) (nil : motive [])
    (copy : ∀ (c : CodePoint) rest, table.longest? (c :: rest) = none → motive rest → motive (c :: rest))
    (found : ∀ key new rest, key ≠ [] → table.longest? (key ++ rest) = some (key, new) → motive rest →
      motive (key ++ rest)) (t : Text) : motive t := by
  induction hn : t.length using Nat.strongRecOn generalizing t with
  | ind n ih =>
  subst hn
  cases t with
  | nil => exact nil
  | cons c rest =>
    cases hlongest : table.longest? (c :: rest) with
    | none => exact copy c rest hlongest (ih rest.length (Nat.lt_succ_self _) rest rfl)
    | some entry =>
      have hentry := isLongest_of_longest? hlongest
      obtain ⟨key, new⟩ := entry
      have hne : key ≠ [] := h _ hentry.mem
      have hpos := List.length_pos_of_ne_nil hne
      obtain ⟨left, hleft⟩ : key <+: c :: rest := hentry.begins
      have hshorter : left.length < (c :: rest).length := by
        rw [← hleft, List.length_append]
        omega
      rw [← hleft] at hlongest ⊢
      exact found key new left hne hlongest (ih left.length hshorter left rfl)

/-- What the regular expression matches at a place is the longest key there. -/
theorem matchAt_sortedKeys (hne : table.sortedKeys ≠ []) {text before left : Text} (htext : text = before ++ left) :
    Regex.Parsed.matchAt? { node := .ofTexts table.sortedKeys, groups := 0, mode := { unicode := true } } text.toArray
        before.length =
      (table.longest? left).map fun entry => ⟨before.length, before.length + entry.1.length, []⟩ := by
  rw [Regex.matchAt_ofTexts _ rfl hne htext, find?_sortedKeys, Option.map_map]
  rfl

/-- Replacing from a place on comes to the walk from there. -/
theorem replaceFrom_eq_walk (hne : table.sortedKeys ≠ []) (h : table.Proper) {text before left : Text} {fuel : Nat}
    (hfuel : left.length ≤ fuel) (htext : text = before ++ left) :
    Regex.Parsed.replaceFrom { node := .ofTexts table.sortedKeys, groups := 0, mode := { unicode := true } }
      table.replacement text.toArray fuel before.length = walk table left 0 := by
  induction left using walk_induction h generalizing before fuel with
  | nil =>
    have hnone : table.longest? [] = none := longest?_eq_none_iff.mpr fun entry hentry hbegins =>
      h entry hentry (List.prefix_nil.mp hbegins)
    have hat := matchAt_sortedKeys hne htext
    obtain rfl : text = before := by simpa using htext
    exact Regex.Parsed.replaceFrom_end fuel (by simpa [hnone] using hat)
  | copy c rest hlongest ih =>
    obtain ⟨fuel, rfl⟩ : ∃ n, fuel = n + 1 := Nat.exists_eq_add_one_of_ne_zero (by simp at hfuel; omega)
    have hat := matchAt_sortedKeys hne htext
    rw [hlongest] at hat
    rw [Regex.Parsed.replaceFrom_kept fuel htext hat, walk_copy hlongest,
      ih (Nat.le_of_succ_le hfuel) (by simpa using htext)]
  | found key new rest hkey hlongest ih =>
    have hpos := List.length_pos_of_ne_nil hkey
    rw [List.length_append] at hfuel
    obtain ⟨fuel, rfl⟩ : ∃ n, fuel = n + 1 := Nat.exists_eq_add_one_of_ne_zero (by omega)
    have hnew : table.replacement key = new := by
      rw [replacement, (isLongest_of_longest? hlongest).lookup]
      rfl
    have hat := matchAt_sortedKeys hne htext
    rw [hlongest] at hat
    rw [Regex.Parsed.replaceFrom_found fuel key htext hat, hnew, ih (by omega) (by simpa using htext),
      walk_found hkey hlongest]

/-- A table without an empty key is applied by one walk. -/
theorem apply_eq_walk (h : table.Proper) (t : Text) : table.apply t = walk table t 0 := by
  unfold apply
  split_ifs with hempty
  · rw [List.isEmpty_iff.mp hempty]
    exact (walk_empty t).symm
  · have hne : table.sortedKeys ≠ [] := by
      rw [sortedKeys_eq, ← List.length_pos_iff, List.length_insertionSort, List.length_map]
      exact List.length_pos_iff.mpr fun hnil => hempty (List.isEmpty_iff.mpr hnil)
    rw [parse_alternation]
    exact replaceFrom_eq_walk hne h (Nat.le_refl _) (List.nil_append t).symm

end FileSieve.Substitution
