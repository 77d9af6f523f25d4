import FileSieve.Value.Sequence
import Mathlib.Data.List.Basic
import Mathlib.Order.Compare
import Mathlib.Algebra.Order.Ring.Int
import Mathlib.Tactic.SplitIfs

/-!
# Equal values as keys

Numbers of different kinds can be equal, and so can octets that may be changed and octets that may not, so that a key
finds what was put under another one. For values that can be keys there is one thing that tells them apart
(`Value.identity?`): such values are equal exactly when they have the same one (`Value.equal_iff`). Only what is no
number has none, and it is not even equal to itself.

From this an equality of keys is symmetric and transitive, which the laws of dictionaries rest on: what is put under a
key is found under the equal ones, and under no others (`Entries.get?_insert`).
-/

namespace FileSieve

/-! ### Numbers -/

/-- A number, however it is kept. -/
inductive Exact
  /-- A finite number, counted in units of the least floating-point number. -/
  | finite (units : Int)
  /-- Beyond every finite number. -/
  | infinite (negative : Bool)

/-- The number that an integer is. -/
def Exact.ofInt (n : Int) : Exact :=
  .finite (n * Binary64.one)

/-- The number that a floating-point number is, if it is one. -/
def Binary64.number? : Binary64 → Option Exact
  | .finite s a => some (.finite (signed s a))
  | .infinite s => some (.infinite s)
  | .nan => none

/-- The number that a magnitude is, if it is one. -/
def Magnitude.number? : Magnitude → Option Exact
  | .int n => some (.ofInt n)
  | .float x => x.number?

theorem Binary64.one_ne_zero : (one : Int) ≠ 0 := by
  have hpow (n : Nat) : ((Nat.pow 2 n : Nat) : Int) ≠ 0 :=
    Int.natCast_ne_zero.mpr (Nat.ne_of_gt (Nat.pow_pos (by decide)))
  exact hpow 1074

@[simp] theorem Exact.ofInt_inj {m n : Int} : ofInt m = ofInt n ↔ m = n := by
  rw [ofInt, ofInt, finite.injEq]
  exact Int.mul_eq_mul_right_iff Binary64.one_ne_zero

@[simp] theorem Exact.infinite_ne_ofInt (negative : Bool) (n : Int) : infinite negative ≠ ofInt n :=
  nofun

theorem Binary64.compareInt_eq_iff {x : Binary64} {n : Int} :
    x.compareInt? n = some .eq ↔ x.number? = some (.ofInt n) := by
  cases x with
  | finite s a =>
    rw [compareInt?, number?, Exact.ofInt, Option.some.injEq, Option.some.injEq, Exact.finite.injEq,
      Int.compare_eq_eq]
  | infinite s => cases s <;> simp [compareInt?, number?]
  | nan => simp [compareInt?, number?]

theorem Binary64.compare_eq_iff {x y : Binary64} :
    x.compare? y = some .eq ↔ x.number? ≠ none ∧ x.number? = y.number? := by
  cases x with
  | finite s a =>
    cases y with
    | infinite t => cases t <;> simp [compare?, number?]
    | _ => simp [compare?, number?]
  | infinite s =>
    cases y with
    | infinite t => cases s <;> cases t <;> simp [compare?, number?]
    | _ => cases s <;> simp [compare?, number?]
  | nan => simp [compare?, number?]

/-- Numbers of any kinds are equal when they are the same number. -/
theorem Magnitude.compare_eq_iff {x y : Magnitude} :
    x.compare? y = some .eq ↔ x.number? ≠ none ∧ x.number? = y.number? := by
  cases x with
  | int m =>
    cases y with
    | int n => simp [compare?, number?]
    | float y =>
      have hswap (o : Ordering) : o.swap = .eq ↔ o = .eq := by cases o <;> decide
      simp only [compare?, Option.map_eq_some_iff, hswap, exists_eq_right, Binary64.compareInt_eq_iff, number?]
      exact ⟨fun h => ⟨Option.some_ne_none _, h.symm⟩, fun h => h.2.symm⟩
  | float x =>
    cases y with
    | int n =>
      rw [compare?, Binary64.compareInt_eq_iff]
      exact ⟨fun h => ⟨fun hne => Option.some_ne_none _ (h.symm.trans hne), h⟩, fun h => h.2⟩
    | float y => exact Binary64.compare_eq_iff

/-! ### Keys -/

/-- What values that can be keys are told apart by. -/
inductive Identity
  /-- No value. -/
  | nothing
  /-- A number. -/
  | number (e : Exact)
  /-- A text. -/
  | text (t : Text)
  /-- Octets. -/
  | octets (b : Octets)
  /-- A tuple of such values. -/
  | tuple (items : List Identity)
  /-- A date. -/
  | date (d : Date)
  /-- A date and time. -/
  | datetime (aware : Bool) (instant : Int)

namespace Value

mutual

/-- What a value is told apart by from values that can be keys, if it can be equal to one. -/
def identity? : Value → Option Identity
  | .none => some .nothing
  | .bool b => some (.number (.ofInt (if b then 1 else 0)))
  | .int n => some (.number (.ofInt n))
  | .float x => x.number?.map .number
  | .text t => some (.text t)
  | .octets b | .buffer b => some (.octets b)
  | .tuple items => (identities? items).map .tuple
  | .date d => some (.date d)
  | .datetime d => some (.datetime d.isAware d.instant)
  | .list _ | .dict _ | .set _ | .unplaced .. => Option.none

/-- What items are told apart by. -/
def identities? : List Value → Option (List Identity)
  | [] => some []
  | item :: items => (identity? item).bind fun i => (identities? items).map (i :: ·)

end

/-- A value that can be a key. -/
def IsKey (a : Value) : Prop :=
  a.unhashable? = Option.none

theorem identity_of_magnitude {a : Value} {x : Magnitude} (h : a.magnitude? = some x) :
    a.identity? = x.number?.map .number := by
  cases a with
  | bool b => obtain rfl := Option.some.inj h; rfl
  | int n => obtain rfl := Option.some.inj h; rfl
  | float x => obtain rfl := Option.some.inj h; rfl
  | _ => simp [magnitude?] at h

theorem identity_ne_number {a : Value} (h : a.magnitude? = Option.none) (e : Exact) :
    a.identity? ≠ some (.number e) := by
  cases a with
  | bool b => simp [magnitude?] at h
  | int n => simp [magnitude?] at h
  | float x => simp [magnitude?] at h
  | tuple items => cases hs : identities? items <;> simp [identity?, hs]
  | _ => simp [identity?]

/-- A number is equal to what is the same number. -/
theorem scalarEqual_of_magnitude {a : Value} {x : Magnitude} (h : a.magnitude? = some x) (b : Value) :
    a.scalarEqual b = true ↔ a.identity? ≠ Option.none ∧ a.identity? = b.identity? := by
  unfold scalarEqual
  rw [identity_of_magnitude h]
  simp only [h]
  cases hb : b.magnitude? with
  | some y =>
    rw [identity_of_magnitude hb]
    simp only [beq_iff_eq, Magnitude.compare_eq_iff, ne_eq, Option.map_eq_none_iff]
    have hinj : Function.Injective Identity.number := fun _ _ => Identity.number.inj
    rw [(Option.map_injective hinj).eq_iff]
  | none =>
    have hne := identity_ne_number hb
    cases hx : x.number? with
    | none => simp
    | some e => simpa using (hne e).symm

theorem equalItems_iff {as bs : List Value}
    (h : ∀ a ∈ as, ∀ b, a.equal b = true ↔ a.identity? ≠ Option.none ∧ a.identity? = b.identity?) :
    equalItems as bs = true ↔ identities? as ≠ Option.none ∧ identities? as = identities? bs := by
  induction as generalizing bs with
  | nil =>
    cases bs with
    | nil => simp [equalItems, identities?]
    | cons b bs => cases hb : b.identity? <;> simp [equalItems, identities?, hb]
  | cons a as ih =>
    cases bs with
    | nil => cases ha : a.identity? <;> simp [equalItems, identities?, ha]
    | cons b bs =>
      rw [equalItems, Bool.and_eq_true, h a List.mem_cons_self, ih fun c hc => h c (.tail _ hc)]
      cases ha : a.identity? <;> cases hb : b.identity? <;> cases hs : identities? as <;> cases ht : identities? bs <;>
        simp [identities?, ha, hb, hs, ht]

theorem isKey_of_firstUnhashable {items : List Value} (h : firstUnhashable? items = Option.none) :
    ∀ a ∈ items, a.IsKey := by
  induction items with
  | nil => simp
  | cons a items ih =>
    rw [firstUnhashable?, Option.or_eq_none_iff] at h
    exact List.forall_mem_cons.mpr ⟨h.1, ih h.2⟩

/-- Values one of which can be a key are equal exactly when they are told apart by the same. -/
theorem equal_iff {a b : Value} (ha : a.IsKey) :
    a.equal b = true ↔ a.identity? ≠ Option.none ∧ a.identity? = b.identity? := by
  match a with
  | .tuple as =>
    have has := isKey_of_firstUnhashable (by simpa [IsKey, unhashable?] using ha)
    cases b with
    | tuple bs =>
      rw [equal, equalItems_iff fun a h b => equal_iff (has a h)]
      cases hs : identities? as <;> cases ht : identities? bs <;> simp [identity?, hs, ht]
    | float y =>
      cases hs : identities? as <;> cases hy : y.number? <;> simp [equal, scalarEqual, magnitude?, identity?, hs, hy]
    | _ => cases hs : identities? as <;> simp [equal, scalarEqual, magnitude?, octets?, identity?, hs]
  | .list _ | .dict _ | .set _ | .buffer _ | .unplaced .. => simp [IsKey, unhashable?] at ha
  | .bool _ | .int _ | .float _ =>
    rw [equal, scalarEqual_of_magnitude rfl]
    all_goals simp
  | .none | .text _ | .octets _ | .date _ | .datetime _ =>
    cases b <;> simp [equal, scalarEqual, magnitude?, octets?, identity?]

@[simp] theorem isKey_text (t : Text) : (text t).IsKey := rfl

@[simp] theorem equal_text (s t : Text) : (text s).equal (text t) = (s == t) := by
  simp [equal, scalarEqual, magnitude?]

variable {a b c : Value}

/-- A value is the same key as a text only if it is this text. -/
theorem equal_text_iff {t : Text} : a.equal (text t) = true ↔ a = text t := by
  cases a <;> simp [equal, scalarEqual, magnitude?, octets?]

theorem text_equal_iff {t : Text} : (text t).equal a = true ↔ a = text t := by
  cases a with
  | text s => rw [equal_text, beq_iff_eq, text.injEq, eq_comm]
  | _ => simp [equal, scalarEqual, magnitude?, octets?]

theorem equal_symm (ha : a.IsKey) (hb : b.IsKey) (h : a.equal b = true) : b.equal a = true := by
  obtain ⟨hne, heq⟩ := (equal_iff ha).mp h
  exact (equal_iff hb).mpr ⟨heq ▸ hne, heq.symm⟩

theorem equal_trans (ha : a.IsKey) (hb : b.IsKey) (hab : a.equal b = true) (hbc : b.equal c = true) :
    a.equal c = true := by
  obtain ⟨hne, heq⟩ := (equal_iff ha).mp hab
  obtain ⟨-, heq'⟩ := (equal_iff hb).mp hbc
  exact (equal_iff ha).mpr ⟨hne, heq.trans heq'⟩

/-- Equal keys are equal to the same values. -/
theorem equal_congr (ha : a.IsKey) (hb : b.IsKey) (h : a.equal b = true) (c : Value) : a.equal c = b.equal c :=
  Bool.eq_iff_iff.mpr
    ⟨fun hac => equal_trans hb ha (equal_symm ha hb h) hac, fun hbc => equal_trans ha hb h hbc⟩

end Value

/-! ### Dictionaries -/

namespace Entries

/-- The values of these entries are found under keys. -/
def Keyed (entries : Entries) : Prop :=
  ∀ entry ∈ entries, entry.1.IsKey

variable {entries : Entries} {key k : Value}

theorem get?_nil (k : Value) : get? [] k = none := rfl

theorem get?_cons (key value : Value) (entries : Entries) (k : Value) :
    get? ((key, value) :: entries) k = if k.equal key then some value else entries.get? k := by
  cases h : k.equal key <;> simp [get?, h]

/-- Equal keys have the same value. -/
theorem get?_congr (hkey : key.IsKey) (hk : k.IsKey) (h : key.equal k = true) : entries.get? key = entries.get? k := by
  induction entries with
  | nil => rfl
  | cons entry entries ih => rw [get?_cons, get?_cons, Value.equal_congr hkey hk h, ih]

/-- A value that is put under a key is found under the equal ones, and the others find what they did. -/
theorem get?_insert (hentries : Keyed entries) (hkey : key.IsKey) (hk : k.IsKey) (value : Value) :
    get? (insert key value entries) k = if k.equal key then some value else entries.get? k := by
  induction entries with
  | nil => rw [insert, get?_cons]
  | cons entry entries ih =>
    obtain ⟨hentry, hentries⟩ := List.forall_mem_cons.mp hentries
    rw [insert]
    split_ifs with hsame hfound hfound
    · rw [get?_cons, if_pos (Value.equal_trans hk hkey hfound hsame)]
    · have hother : k.equal entry.1 = false := by
        by_contra hne
        rw [Bool.not_eq_false] at hne
        exact hfound (Value.equal_trans hk hentry hne (Value.equal_symm hkey hentry hsame))
      rw [get?_cons, get?_cons, hother]
      rfl
    · have hother : k.equal entry.1 = false := by
        by_contra hne
        rw [Bool.not_eq_false] at hne
        exact hsame (Value.equal_trans hkey hk (Value.equal_symm hk hkey hfound) hne)
      rw [get?_cons, hother, ih hentries, if_pos hfound]
      rfl
    · rw [get?_cons, get?_cons, ih hentries, if_neg hfound]

theorem Keyed.insert (hentries : Keyed entries) (hkey : key.IsKey) (value : Value) :
    Keyed (Entries.insert key value entries) := by
  induction entries with
  | nil => exact List.forall_mem_singleton.mpr hkey
  | cons entry entries ih =>
    obtain ⟨hentry, hentries⟩ := List.forall_mem_cons.mp hentries
    rw [Entries.insert]
    split_ifs
    · exact List.forall_mem_cons.mpr ⟨hentry, hentries⟩
    · exact List.forall_mem_cons.mpr ⟨hentry, ih hentries⟩

end Entries

end FileSieve
