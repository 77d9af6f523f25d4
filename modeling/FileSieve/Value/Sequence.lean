import FileSieve.Value.Equality
import FileSieve.Value.Misuse

/-!
# Values as sequences

How many items a value has, which they are, and what a value is as a dictionary.
-/

namespace FileSieve

namespace Value

/-- The number of a value's items. -/
def length : Value → Except Misuse Nat
  | .text t => .ok t.length
  | .octets b | .buffer b => .ok b.length
  | .list items | .tuple items | .set items => .ok items.length
  | .dict entries => .ok entries.length
  | value => .error (.unsized value.kind)

/-- The items of a value: the code points of a text, the numbers of octets, the keys of a dictionary. -/
def items : Value → Except Misuse (List Value)
  | .text t => .ok (t.map fun c => .text [c])
  | .octets b | .buffer b => .ok (b.map fun o => .int o.toNat)
  | .list items | .tuple items | .set items => .ok items
  | .dict entries => .ok (entries.map Prod.fst)
  | value => .error (.notIterable value.kind)

mutual

/-- What keeps a value from being a key, if anything does. -/
def unhashable? : Value → Option Misuse
  | .list _ => some (.unhashable .list)
  | .dict _ => some (.unhashable .dict)
  | .set _ => some (.unhashable .set)
  | .buffer _ => some (.unhashable .buffer)
  | .unplaced .. => some .noOffset
  | .tuple items => firstUnhashable? items
  | _ => Option.none

/-- What keeps the first of the items from being a key that cannot be one. -/
def firstUnhashable? : List Value → Option Misuse
  | [] => Option.none
  | item :: items => (unhashable? item).or (firstUnhashable? items)

end

/-- Whether a value can be a key. -/
def asKey (value : Value) : Except Misuse Value :=
  match value.unhashable? with
  | some m => .error m
  | Option.none => .ok value

/-- The two parts of the item at a place of what should become a dictionary. -/
def asPair (index : Nat) (item : Value) : Except Misuse (Value × Value) :=
  match item.items with
  | .error _ => .error (.itemNotSequence index)
  | .ok [key, value] => .ok (key, value)
  | .ok parts => .error (.itemNotPair index parts.length)

/-- The entries of pairs, the first of which stands at the place `index`, behind those of `entries`. -/
def entriesOfPairs : (index : Nat) → List Value → Entries → Except Misuse Entries
  | _, [], entries => .ok entries
  | index, item :: items, entries => do
    let (key, value) ← asPair index item
    entriesOfPairs (index + 1) items (entries.insert (← key.asKey) value)

/-- A value as a dictionary: a dictionary as it is, a sequence by its pairs. -/
def asEntries : Value → Except Misuse Entries
  | .dict entries => .ok entries
  | value => do entriesOfPairs 0 (← value.items) []

/-- The texts of a sequence of texts, the first of which stands at the place `index`. -/
def textItems : (index : Nat) → List Value → Except Misuse (List Text)
  | _, [] => .ok []
  | index, .text t :: items => do return t :: (← textItems (index + 1) items)
  | index, item :: _ => .error (.itemNotText index item.kind)

end Value

end FileSieve
