import FileSieve.Proofs.Number.Decimal
import FileSieve.Proofs.Result
import FileSieve.Proofs.Value.Equality
import FileSieve.Value.Shown

/-!
# Which values have a form in messages

Only an integer of too many digits has no form, and what has one in it, and a date and time whose zone cannot tell its
offset has no plain form. So a value without these at any depth can be written (`Value.Writable.plain_ok`). Texts can be
joined from a sequence exactly when all of its items are texts (`Value.textItems_ok_iff`).
-/

namespace FileSieve.Value

/-! ### Forms -/

mutual

/-- A value in which no integer has too many digits and every date and time has a zone that can tell its offset. -/
def Writable : Value → Prop
  | .int n => ¬TooLong n
  | .unplaced .. => False
  | .list items | .tuple items | .set items => WritableItems items
  | .dict entries => WritableEntries entries
  | _ => True

/-- Items that are all writable. -/
def WritableItems : List Value → Prop
  | [] => True
  | item :: items => item.Writable ∧ WritableItems items

/-- Entries of which the keys and values are all writable. -/
def WritableEntries : List (Value × Value) → Prop
  | [] => True
  | (key, value) :: entries => key.Writable ∧ value.Writable ∧ WritableEntries entries

end

theorem WritableEntries.of_get? {entries : Entries} {key value : Value} (h : WritableEntries entries)
    (hget : entries.get? key = some value) : value.Writable := by
  induction entries with
  | nil => cases hget
  | cons entry entries ih =>
    obtain ⟨-, hvalue, hrest⟩ : entry.1.Writable ∧ entry.2.Writable ∧ WritableEntries entries := by
      rwa [WritableEntries] at h
    rw [Entries.get?_cons] at hget
    split_ifs at hget
    · rwa [← Option.some.inj hget]
    · exact ih hrest hget

mutual

theorem Writable.shown_ok {value : Value} (h : value.Writable) : ∃ t, value.shown = .ok t := by
  match value with
  | .int n => exact ⟨_, Int.digits_of_not_tooLong (by rwa [Writable] at h)⟩
  | .list items =>
    obtain ⟨ts, hts⟩ := WritableItems.shown_ok h
    exact ⟨_, by rw [shown, hts]; rfl⟩
  | .tuple [] | .set [] => exact ⟨_, rfl⟩
  | .tuple [item] =>
    rw [Writable, WritableItems] at h
    obtain ⟨t, ht⟩ := Writable.shown_ok h.1
    exact ⟨_, by rw [shown, ht]; rfl⟩
  | .tuple (item :: item' :: items) =>
    obtain ⟨ts, hts⟩ := WritableItems.shown_ok h
    exact ⟨_, by rw [shown, hts]; exacts [rfl, nofun]⟩
  | .set (item :: items) =>
    obtain ⟨ts, hts⟩ := WritableItems.shown_ok h
    exact ⟨_, by rw [shown, hts]; exacts [rfl, nofun]⟩
  | .dict entries =>
    obtain ⟨ts, hts⟩ := WritableEntries.shown_ok (by rwa [Writable] at h)
    exact ⟨_, by rw [shown, hts]; rfl⟩
  | .none | .bool _ | .float _ | .text _ | .octets _ | .buffer _ | .date _ | .datetime _ => exact ⟨_, rfl⟩

theorem WritableItems.shown_ok {items : List Value} (h : WritableItems items) : ∃ ts, shownItems items = .ok ts := by
  match items with
  | [] => exact ⟨[], rfl⟩
  | item :: items =>
    rw [WritableItems] at h
    obtain ⟨t, ht⟩ := Writable.shown_ok h.1
    obtain ⟨ts, hts⟩ := WritableItems.shown_ok h.2
    exact ⟨t :: ts, by rw [shownItems, ht, hts]; rfl⟩

theorem WritableEntries.shown_ok {entries : List (Value × Value)} (h : WritableEntries entries) :
    ∃ ts, shownEntries entries = .ok ts := by
  match entries with
  | [] => exact ⟨[], rfl⟩
  | (key, value) :: entries =>
    rw [WritableEntries] at h
    obtain ⟨k, hk⟩ := Writable.shown_ok h.1
    obtain ⟨v, hv⟩ := Writable.shown_ok h.2.1
    obtain ⟨ts, hts⟩ := WritableEntries.shown_ok h.2.2
    exact ⟨_, by rw [shownEntries, hk, hv, hts]; rfl⟩

end

theorem Writable.plain_ok {value : Value} (h : value.Writable) : ∃ t, value.plain = .ok t := by
  cases value with
  | text t => exact ⟨t, rfl⟩
  | date d => exact ⟨_, rfl⟩
  | datetime d => exact ⟨_, rfl⟩
  | unplaced => cases h
  | _ => exact h.shown_ok

/-! ### Texts of sequences -/

theorem kind_eq_text_iff {value : Value} : value.kind = .text ↔ ∃ t, value = .text t := by
  cases value <;> simp [kind]

theorem textItems_ok_iff {items : List Value} {index : Nat} :
    (∃ ts, textItems index items = .ok ts) ↔ ∀ item ∈ items, item.kind = .text := by
  induction items generalizing index with
  | nil => exact ⟨fun _ => List.forall_mem_nil _, fun _ => ⟨[], rfl⟩⟩
  | cons item items ih =>
    rw [List.forall_mem_cons]
    constructor
    · rintro ⟨ts, hts⟩
      cases item with
      | text t =>
        rw [textItems] at hts
        obtain ⟨rest, hrest, -⟩ := bind_eq_ok.mp hts
        exact ⟨rfl, ih.mp ⟨rest, hrest⟩⟩
      | _ => cases hts
    · rintro ⟨hitem, hitems⟩
      obtain ⟨t, rfl⟩ := kind_eq_text_iff.mp hitem
      obtain ⟨rest, hrest⟩ := ih.mpr hitems
      exact ⟨t :: rest, by rw [textItems, hrest]; rfl⟩

end FileSieve.Value
