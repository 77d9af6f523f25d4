import FileSieve.Config.Validation
import FileSieve.Proofs.Value.Shown
import Mathlib.Data.List.GetD

/-!
# Keys in their order

Sorting keeps the values that it is given (`sorted_perm`) and does not fail on texts (`sorted_ok`). So the sorted values
can be joined exactly when they are texts, whether it is the sorting that fails on others or the joining
(`joined_ok_iff`).
-/

namespace FileSieve.Config

variable {values placed run rest : List Value} {value last : Value} {fuel low high place : Nat}

theorem relate_ok {a b : Value} (ha : a.kind = .text) (hb : b.kind = .text) : ∃ less, a.relate .lt b = .ok less := by
  obtain ⟨s, rfl⟩ := Value.kind_eq_text_iff.mp ha
  obtain ⟨t, rfl⟩ := Value.kind_eq_text_iff.mp hb
  exact ⟨_, rfl⟩

/-! ### Finding a place -/

theorem placeOf_le (hlow : low ≤ high) (h : placeOf placed value fuel low high = .ok place) : place ≤ high := by
  induction fuel generalizing low high with
  | zero =>
    obtain rfl : low = place := Except.ok.inj h
    exact hlow
  | succ fuel ih =>
    rw [placeOf] at h
    split_ifs at h with hdone
    · obtain rfl : low = place := Except.ok.inj h
      exact hlow
    · obtain ⟨less, -, h⟩ := bind_eq_ok.mp h
      split_ifs at h
      · exact (ih (by omega) h).trans (by omega)
      · exact ih (by omega) h

theorem placeOf_ok (hplaced : ∀ v ∈ placed, v.kind = .text) (hvalue : value.kind = .text) (hhigh : high ≤ placed.length) :
    ∃ place, placeOf placed value fuel low high = .ok place := by
  induction fuel generalizing low high with
  | zero => exact ⟨low, rfl⟩
  | succ fuel ih =>
    rw [placeOf]
    split_ifs with hdone
    · exact ⟨low, rfl⟩
    · have hmiddle : low + (high - low) / 2 < placed.length := by omega
      have hkind : (placed.getD (low + (high - low) / 2) .none).kind = .text := by
        rw [List.getD_eq_getElem _ _ hmiddle]
        exact hplaced _ (List.getElem_mem hmiddle)
      obtain ⟨less, hless⟩ := relate_ok hvalue hkind
      simp only [hless]
      cases less with
      | true => exact ih (by omega)
      | false => exact ih hhigh

/-! ### Sorting -/

theorem sortInto_perm (h : sortInto placed rest = .ok values) : values.Perm (placed ++ rest) := by
  induction rest generalizing placed with
  | nil =>
    obtain rfl : placed = values := Except.ok.inj h
    rw [List.append_nil]
  | cons value rest ih =>
    rw [sortInto] at h
    obtain ⟨place, hplace, h⟩ := bind_eq_ok.mp h
    have hinsert := List.perm_insertIdx value placed (placeOf_le (Nat.zero_le _) hplace)
    exact (ih h).trans ((hinsert.append_right rest).trans List.perm_middle.symm)

theorem sortInto_ok (hplaced : ∀ v ∈ placed, v.kind = .text) (hrest : ∀ v ∈ rest, v.kind = .text) :
    ∃ values, sortInto placed rest = .ok values := by
  induction rest generalizing placed with
  | nil => exact ⟨placed, rfl⟩
  | cons value rest ih =>
    obtain ⟨hvalue, hrest⟩ := List.forall_mem_cons.mp hrest
    obtain ⟨place, hplace⟩ := placeOf_ok hplaced hvalue (Nat.le_refl placed.length)
    rw [sortInto, hplace]
    have hinsert := List.perm_insertIdx value placed (placeOf_le (Nat.zero_le _) hplace)
    have hall : ∀ v ∈ value :: placed, v.kind = .text := List.forall_mem_cons.mpr ⟨hvalue, hplaced⟩
    exact ih (fun v hv => hall v (hinsert.subset hv)) hrest

/-- What has been taken and what is left are what there was. -/
theorem takeRun_perm {descending : Bool} {taken left : List Value}
    (h : takeRun descending last run rest = .ok (taken, left)) : (taken ++ left).Perm (run ++ rest) := by
  induction rest generalizing last run with
  | nil =>
    obtain ⟨rfl, rfl⟩ := Prod.mk.inj (Except.ok.inj h)
    exact .refl _
  | cons value rest ih =>
    rw [takeRun] at h
    obtain ⟨less, -, h⟩ := bind_eq_ok.mp h
    split_ifs at h
    · exact (ih h).trans List.perm_middle.symm
    · obtain ⟨rfl, rfl⟩ := Prod.mk.inj (Except.ok.inj h)
      exact .refl _

theorem takeRun_ok {descending : Bool} (hlast : last.kind = .text) (hrest : ∀ v ∈ rest, v.kind = .text) :
    ∃ taken, takeRun descending last run rest = .ok taken := by
  induction rest generalizing last run with
  | nil => exact ⟨_, rfl⟩
  | cons value rest ih =>
    obtain ⟨hvalue, hrest⟩ := List.forall_mem_cons.mp hrest
    obtain ⟨less, hless⟩ := relate_ok hvalue hlast
    rw [takeRun, hless]
    by_cases hgoes : less = descending
    · obtain ⟨taken, htaken⟩ := ih hvalue hrest
      exact ⟨taken, (if_pos hgoes).trans htaken⟩
    · exact ⟨_, if_neg hgoes⟩

/-- Sorting keeps the values. -/
theorem sorted_perm {keys : List Value} (h : sorted keys = .ok values) : values.Perm keys := by
  match keys with
  | [] =>
    obtain rfl : [] = values := Except.ok.inj h
    exact .refl _
  | [value] =>
    obtain rfl : [value] = values := Except.ok.inj h
    exact .refl _
  | first :: second :: rest =>
    rw [sorted] at h
    obtain ⟨descending, -, h⟩ := bind_eq_ok.mp h
    obtain ⟨⟨run, left⟩, hrun, h⟩ := bind_eq_ok.mp h
    have hrun := takeRun_perm hrun
    have hfront : (if descending then run else run.reverse).Perm run := by
      split_ifs
      · exact .refl _
      · exact run.reverse_perm
    exact (sortInto_perm h).trans ((hfront.append_right left).trans (hrun.trans (.swap first second rest)))

/-- Texts have an order. -/
theorem sorted_ok {keys : List Value} (h : ∀ key ∈ keys, key.kind = .text) : ∃ values, sorted keys = .ok values := by
  match keys with
  | [] => exact ⟨[], rfl⟩
  | [value] => exact ⟨[value], rfl⟩
  | first :: second :: rest =>
    obtain ⟨hfirst, hkeys⟩ := List.forall_mem_cons.mp h
    obtain ⟨hsecond, hrest⟩ := List.forall_mem_cons.mp hkeys
    obtain ⟨descending, hdescending⟩ := relate_ok hsecond hfirst
    obtain ⟨⟨run, left⟩, hrun⟩ : ∃ taken, takeRun descending second [second, first] rest = .ok taken :=
      takeRun_ok hsecond hrest
    have hall : ∀ v ∈ run ++ left, v.kind = .text := fun v hv => h v <| by
      have hmem := (takeRun_perm hrun).subset hv
      simpa [or_left_comm] using hmem
    rw [List.forall_mem_append] at hall
    rw [sorted, hdescending]
    simp only [bind, Except.bind, hrun]
    refine sortInto_ok (fun v hv => hall.1 v ?_) hall.2
    split_ifs at hv
    · exact hv
    · exact List.mem_reverse.mp hv

/-- The sorted keys can be joined exactly when all of them are texts. -/
theorem joined_ok_iff {keys : List Value} :
    (∃ names, (sorted keys >>= Value.textItems 0) = .ok names) ↔ ∀ key ∈ keys, key.kind = .text := by
  constructor
  · rintro ⟨names, hnames⟩
    obtain ⟨values, hvalues, hnames⟩ := bind_eq_ok.mp hnames
    exact fun key hkey => Value.textItems_ok_iff.mp ⟨names, hnames⟩ key ((sorted_perm hvalues).mem_iff.mpr hkey)
  · intro hkeys
    obtain ⟨values, hvalues⟩ := sorted_ok hkeys
    obtain ⟨names, hnames⟩ := Value.textItems_ok_iff.mpr fun v hv => hkeys v ((sorted_perm hvalues).subset hv)
    exact ⟨names, bind_eq_ok.mpr ⟨values, hvalues, hnames⟩⟩

end FileSieve.Config
