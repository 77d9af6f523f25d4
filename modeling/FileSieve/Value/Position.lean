import FileSieve.Value.Equality

/-!
# Positions in a value

A position is the way to a value within another one. One dictionary can stand at several positions, and then what is put
into it shows at each of them.
-/

namespace FileSieve

/-- A step into a value. -/
inductive Step
  /-- To what is under a key of a dictionary. -/
  | key (k : Value)
  /-- To an item of a sequence. -/
  | item (n : Nat)
  deriving Repr

/-- Whether two steps lead to the same. -/
def Step.same : Step → Step → Bool
  | .key a, .key b => a.equal b
  | .item m, .item n => m == n
  | _, _ => false

/-- The way to a value within another one. -/
abbrev Position := List Step

namespace Position

/-- The position at the end of a path of keys. -/
def ofKeys (path : List Text) : Position :=
  path.map fun key => .key (.text key)

/-- Whether a position is another one or within what is there. -/
def within : (position outer : Position) → Bool
  | _, [] => true
  | [], _ :: _ => false
  | a :: position, b :: outer => a.same b && within position outer

/-- Whether one of two positions is within what is at the other. -/
def meets (p q : Position) : Bool :=
  p.within q || q.within p

/-- Whether two positions are the same. -/
def same (p q : Position) : Bool :=
  p.within q && q.within p

end Position

namespace Entries

/-- The dictionary with the value of a key changed, if the key is there. -/
def modify (key : Value) (change : Value → Value) : Entries → Entries
  | [] => []
  | (k, v) :: rest => if key.equal k then (k, change v) :: rest else (k, v) :: modify key change rest

end Entries

namespace Value

/-- The value with an item under a key of the dictionary at a position; the value itself if there is no dictionary. -/
def putAt (key : Text) (item : Value) : (position : Position) → Value → Value
  | [], .dict entries => .dict (Entries.insert (.text key) item entries)
  | .key k :: position, .dict entries => .dict (Entries.modify k (putAt key item position) entries)
  | .item n :: position, .list items => .list (items.modify n (putAt key item position))
  | .item n :: position, .tuple items => .tuple (items.modify n (putAt key item position))
  | _, value => value

mutual

/-- The positions of the dictionaries in a value. -/
def dictPositions : Value → List Position
  | .dict entries => [] :: entryPositions entries
  | .list items | .tuple items => itemPositions 0 items
  | _ => []

/-- The positions of the dictionaries in items, the first of which stands at the place `n`. -/
def itemPositions : (n : Nat) → List Value → List Position
  | _, [] => []
  | n, item :: items => (dictPositions item).map (.item n :: ·) ++ itemPositions (n + 1) items

/-- The positions of the dictionaries in the values of entries. -/
def entryPositions : List (Value × Value) → List Position
  | [] => []
  | (k, v) :: entries => (dictPositions v).map (.key k :: ·) ++ entryPositions entries

end

end Value

end FileSieve
