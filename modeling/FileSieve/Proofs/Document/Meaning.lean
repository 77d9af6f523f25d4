import FileSieve.Document.Reading
import FileSieve.Proofs.Config.Merge

/-!
# Documents mean values as they can be

A dictionary that a document means has keys that can be keys, and no key twice, at every depth (`proper_of_read`).
Only scalars are taken for keys, and of equal keys one is kept; this holds as well of entries that a mapping takes over
from others.
-/

namespace FileSieve

theorem Entries.proper_ofList {entries : List (Value × Value)} (h : ∀ entry ∈ entries, entry.1.IsKey ∧ entry.2.Proper) :
    Proper (ofList entries) := by
  have hfold (rest : List (Value × Value)) {base : Entries} (hbase : Proper base)
      (hrest : ∀ entry ∈ rest, entry.1.IsKey ∧ entry.2.Proper) :
      Proper (rest.foldl (fun dict entry => insert entry.1 entry.2 dict) base) := by
    induction rest generalizing base with
    | nil => exact hbase
    | cons entry rest ih =>
      obtain ⟨⟨hkey, hvalue⟩, hrest⟩ := List.forall_mem_cons.mp hrest
      exact ih (hbase.insert hkey hvalue) hrest
  exact hfold entries proper_nil h

namespace Document

variable {depth : Nat} {tag : Tag} {t : Text} {m : Meaning}

/-! ### Scalars -/

/-- A value that can be a key, with no dictionary in it that would have to be looked at. -/
def Scalar (value : Value) : Prop :=
  value.IsKey ∧ value.Proper

theorem scalar_of_instantOf {value : Value} (h : instantOf t = .ok value) : Scalar value := by
  unfold instantOf at h
  split at h
  · cases h
  · split at h
    · obtain ⟨d, -, rfl⟩ := map_eq_ok.mp h
      exact ⟨rfl, trivial⟩
    · obtain ⟨offset, -, h⟩ := bind_eq_ok.mp h
      obtain ⟨date, -, h⟩ := bind_eq_ok.mp h
      obtain ⟨d, -, h⟩ := bind_eq_ok.mp h
      obtain rfl := Except.ok.inj h
      exact ⟨rfl, trivial⟩

theorem scalar_of_octetsOf {value : Value} (h : octetsOf t = .ok value) : Scalar value := by
  unfold octetsOf at h
  split at h
  · split at h
    · obtain rfl := Except.ok.inj h
      exact ⟨rfl, trivial⟩
    · cases h
  · cases h

/-- What a text with a tag of scalars means can be a key. -/
theorem scalar_of_scalarValue {value : Value} (h : scalarValue tag t = .ok value) : Scalar value := by
  unfold scalarValue at h
  split at h
  · obtain rfl := Except.ok.inj h
    exact ⟨rfl, trivial⟩
  · obtain ⟨b, -, rfl⟩ := map_eq_ok.mp (mapError_eq_ok.mp h)
    exact ⟨rfl, trivial⟩
  · obtain ⟨n, -, rfl⟩ := map_eq_ok.mp (mapError_eq_ok.mp h)
    exact ⟨rfl, trivial⟩
  · obtain ⟨x, -, rfl⟩ := map_eq_ok.mp (mapError_eq_ok.mp h)
    exact ⟨rfl, trivial⟩
  · exact scalar_of_octetsOf h
  · exact scalar_of_instantOf (mapError_eq_ok.mp h)
  · obtain rfl := Except.ok.inj h
    exact ⟨rfl, trivial⟩
  · cases h

theorem scalar_of_scalarMeaning (h : scalarMeaning depth tag t = .ok m) : Scalar m.value := by
  unfold scalarMeaning at h
  split at h
  · rename_i value hvalue
    obtain rfl := Except.ok.inj h
    exact scalar_of_scalarValue hvalue
  · cases h

/-- A node whose tag is none of collections means a scalar. -/
theorem scalar_of_meaning (node : Node) (htag : ¬node.tag.isCollection = true) (h : meaning depth node = .ok m) :
    Scalar m.value := by
  unfold meaning at h
  split at h
  · rename_i tag t
    replace htag : ¬tag.isCollection = true := htag
    rw [if_neg htag] at h
    exact scalar_of_scalarMeaning h
  · split at h
    · exact absurd rfl htag
    · exact absurd rfl htag
    · exact absurd rfl htag
    · cases h
  · rename_i tag number entries
    replace htag : ¬tag.isCollection = true := htag
    split at h
    · exact absurd rfl htag
    · exact absurd rfl htag
    · rw [if_neg htag] at h
      split at h
      · cases h
      · split_ifs at h
        exact scalar_of_scalarMeaning h

/-! ### Collections -/

/-- What a key and its value mean, if they mean anything, can be a key and a value. -/
def ProperPair (pair : Outcome × Outcome) : Prop :=
  (∀ k, pair.1 = .ok k → k.value.IsKey) ∧ ∀ v, pair.2 = .ok v → v.value.Proper

theorem properPair_of_allPairs {outcomes : List (Outcome × Outcome)} {pairs : List (Meaning × Meaning)}
    (h : ∀ pair ∈ outcomes, ProperPair pair) (hpairs : allPairs outcomes = .ok pairs) :
    ∀ pair ∈ pairs, pair.1.value.IsKey ∧ pair.2.value.Proper := by
  unfold allPairs at hpairs
  split at hpairs
  · cases hpairs
  · obtain rfl := Except.ok.inj hpairs
    intro pair hpair
    obtain ⟨⟨k, v⟩, hmem, hpair⟩ := List.mem_filterMap.mp hpair
    obtain ⟨hkey, hvalue⟩ := h _ hmem
    obtain ⟨key, hk, hpair⟩ := Option.bind_eq_some_iff.mp hpair
    obtain ⟨value, hv, rfl⟩ := Option.map_eq_some_iff.mp hpair
    exact ⟨hkey key (toOption_eq_some.mp hk), hvalue value (toOption_eq_some.mp hv)⟩

theorem proper_dict {number : Nat} {outcomes : List (Outcome × Outcome)} {pairs : List (Meaning × Meaning)}
    (h : ∀ pair ∈ outcomes, ProperPair pair) (hpairs : allPairs outcomes = .ok pairs) :
    (Meaning.dict number pairs).value.Proper :=
  Entries.proper_dict.mpr (Entries.proper_ofList (List.forall_mem_map.mpr (properPair_of_allPairs h hpairs)))

mutual

/-- A node means a value as it can be. -/
theorem proper_of_meaning (depth : Nat) (node : Node) {m : Meaning} (h : meaning depth node = .ok m) :
    m.value.Proper := by
  match node with
  | .scalar tag t =>
    rw [meaning] at h
    split_ifs at h
    exact (scalar_of_scalarMeaning h).2
  | .sequence tag items =>
    unfold meaning at h
    split at h
    · obtain ⟨ms, -, rfl⟩ := map_eq_ok.mp h
      trivial
    · obtain ⟨pairs, -, rfl⟩ := map_eq_ok.mp h
      trivial
    · obtain ⟨pairs, -, rfl⟩ := map_eq_ok.mp h
      trivial
    · cases h
  | .mapping tag number entries =>
    by_cases htag : tag.isCollection = true
    · have hentries {taken : Taken} (h : takeEntries (depth + 1) entries = .ok taken) :
          ∀ pair ∈ taken.all, ProperPair pair := properPairs_of_takeEntries (depth + 1) entries h
      unfold meaning at h
      split at h
      · obtain ⟨taken, htaken, h⟩ := bind_eq_ok.mp h
        obtain ⟨pairs, hpairs, h⟩ := bind_eq_ok.mp h
        obtain rfl := Except.ok.inj h
        exact proper_dict (hentries (mapError_eq_ok.mp htaken)) hpairs
      · obtain ⟨taken, htaken, h⟩ := bind_eq_ok.mp h
        obtain ⟨pairs, hpairs, h⟩ := bind_eq_ok.mp h
        obtain rfl := Except.ok.inj h
        trivial
      · rw [if_pos htag] at h
        cases h
    · exact (scalar_of_meaning (.mapping tag number entries) htag h).2

/-- The entries of a mapping are keys with values as they can be, -/
theorem properPairs_of_takeEntries (depth : Nat) (entries : List (Node × Node)) {taken : Taken}
    (h : takeEntries depth entries = .ok taken) : ∀ pair ∈ taken.all, ProperPair pair := by
  match entries with
  | [] =>
    rw [takeEntries] at h
    obtain rfl := Except.ok.inj h
    exact List.forall_mem_nil _
  | (k, v) :: entries =>
    have hrest {rest : Taken} (h : takeEntries depth entries = .ok rest) : ∀ pair ∈ rest.all, ProperPair pair :=
      properPairs_of_takeEntries depth entries h
    unfold takeEntries at h
    split at h
    · -- The entries under a merge key come before those that are taken from elsewhere.
      split at h
      · rename_i others
        obtain ⟨first, hfirst, h⟩ := bind_eq_ok.mp h
        obtain ⟨rest, hresult, h⟩ := bind_eq_ok.mp h
        obtain rfl := Except.ok.inj h
        rw [Taken.all, List.append_assoc, List.forall_mem_append]
        exact ⟨properPairs_of_takeEntries depth others hfirst, hrest hresult⟩
      · rename_i nodes
        obtain ⟨first, hfirst, h⟩ := bind_eq_ok.mp h
        obtain ⟨rest, hresult, h⟩ := bind_eq_ok.mp h
        obtain rfl := Except.ok.inj h
        rw [Taken.all, List.append_assoc, List.forall_mem_append]
        exact ⟨properPairs_of_takeMappings depth nodes hfirst, hrest hresult⟩
      · cases h
    · obtain ⟨rest, hresult, h⟩ := bind_eq_ok.mp h
      obtain rfl := Except.ok.inj h
      have hpair := hrest hresult
      rw [Taken.all, List.forall_mem_append] at hpair ⊢
      refine ⟨hpair.1, List.forall_mem_cons.mpr ⟨⟨fun key hkey => ?_, fun m hm => ?_⟩, hpair.2⟩⟩
      · dsimp only at hkey
        split_ifs at hkey with htag
        · split at hkey
          · obtain rfl := Except.ok.inj hkey
            exact Value.isKey_text _
          · cases hkey
        · exact (scalar_of_meaning k htag hkey).1
      · exact proper_of_meaning depth v hm

/-- and so are those of several mappings. -/
theorem properPairs_of_takeMappings (depth : Nat) (nodes : List Node) {pairs : List (Outcome × Outcome)}
    (h : takeMappings depth nodes = .ok pairs) : ∀ pair ∈ pairs, ProperPair pair := by
  match nodes with
  | [] =>
    rw [takeMappings] at h
    obtain rfl := Except.ok.inj h
    exact List.forall_mem_nil _
  | .mapping tag number entries :: nodes =>
    rw [takeMappings] at h
    obtain ⟨first, hfirst, h⟩ := bind_eq_ok.mp h
    obtain ⟨rest, hrest, h⟩ := bind_eq_ok.mp h
    obtain rfl := Except.ok.inj h
    rw [List.forall_mem_append]
    exact ⟨properPairs_of_takeMappings depth nodes hrest, properPairs_of_takeEntries depth entries hfirst⟩
  | .scalar _ _ :: _ | .sequence _ _ :: _ =>
    rw [takeMappings] at h
    · cases h
    · exact nofun

end

/-- A document means a value as it can be. -/
theorem proper_of_read (h : read t = .ok m) : m.value.Proper := by
  unfold read at h
  split at h
  · cases h
  · split at h
    · cases h
    · obtain rfl := Except.ok.inj h
      trivial
    · exact proper_of_meaning 0 _ (mapError_eq_ok.mp h)

end Document

end FileSieve
