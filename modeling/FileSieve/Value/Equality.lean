import FileSieve.Value.Basic

/-!
# When values are equal

Numbers of different kinds are equal when they are the same number, a truth value being zero or one; octets
are equal whether they may be changed or not. Otherwise values of different kinds differ. The order of a
dictionary's keys does not matter.
-/

namespace FileSieve

/-- A number as it is compared. -/
inductive Magnitude
  /-- An integer. -/
  | int (n : Int)
  /-- A floating-point number. -/
  | float (x : Binary64)
  deriving DecidableEq, Repr

/-- The order of two numbers, without rounding either; none with what is no number. -/
def Magnitude.compare? : Magnitude → Magnitude → Option Ordering
  | .int m, .int n => some (compare m n)
  | .int m, .float y => (y.compareInt? m).map Ordering.swap
  | .float x, .int n => x.compareInt? n
  | .float x, .float y => x.compare? y

namespace Value

/-- The number that a value is. -/
def magnitude? : Value → Option Magnitude
  | .bool b => some (.int (if b then 1 else 0))
  | .int n => some (.int n)
  | .float x => some (.float x)
  | _ => Option.none

/-- The octets that a value is. -/
def octets? : Value → Option Octets
  | .octets b | .buffer b => some b
  | _ => Option.none

/-- Whether scalars are equal. -/
def scalarEqual (a b : Value) : Bool :=
  match a.magnitude?, b.magnitude? with
  | some x, some y => x.compare? y == some .eq
  | some _, Option.none => false
  | Option.none, some _ => false
  | Option.none, Option.none =>
    match a, b with
    | .none, .none => true
    | .text s, .text t => s == t
    | .date d, .date e => d == e
    | .datetime d, .datetime e => d.isAware == e.isAware && d.instant == e.instant
    | .unplaced d zone, .unplaced e zone' => zone == zone' && d.clock == e.clock
    | a, b =>
      match a.octets?, b.octets? with
      | some x, some y => x == y
      | _, _ => false

mutual

/-- Whether two values are equal. -/
def equal : Value → Value → Bool
  | .list as, .list bs => equalItems as bs
  | .tuple as, .tuple bs => equalItems as bs
  | .set as, .set bs => as.length == bs.length && allIn as bs
  | .dict as, .dict bs => as.length == bs.length && allEntriesIn as bs
  | a, b => a.scalarEqual b

/-- Whether two sequences have equal items. -/
def equalItems : List Value → List Value → Bool
  | [], [] => true
  | a :: as, b :: bs => equal a b && equalItems as bs
  | _, _ => false

/-- Whether every item is one of `bs`. -/
def allIn : List Value → List Value → Bool
  | [], _ => true
  | a :: as, bs => bs.any (equal a) && allIn as bs

/-- Whether every entry has an equal one among `bs`. -/
def allEntriesIn : List (Value × Value) → List (Value × Value) → Bool
  | [], _ => true
  | (k, v) :: as, bs => bs.any (fun entry => equal k entry.1 && equal v entry.2) && allEntriesIn as bs

end

instance : BEq Value := ⟨equal⟩

end Value

/-- The entries of a dictionary. -/
abbrev Entries := List (Value × Value)

namespace Entries

/-- The value of a key. -/
def get? (entries : Entries) (key : Value) : Option Value :=
  (entries.find? fun entry => key.equal entry.1).map Prod.snd

/-- Whether there is an entry for a key. -/
def has (entries : Entries) (key : Value) : Bool :=
  entries.any fun entry => key.equal entry.1

/-- The dictionary with a value for a key: a key that is there keeps its place, a new one comes last. -/
def insert (key value : Value) : Entries → Entries
  | [] => [(key, value)]
  | (k, v) :: rest => if key.equal k then (k, value) :: rest else (k, v) :: insert key value rest

/-- The dictionary of entries given one after the other. -/
def ofList (entries : List (Value × Value)) : Entries :=
  entries.foldl (fun dict (k, v) => insert k v dict) []

end Entries

end FileSieve
