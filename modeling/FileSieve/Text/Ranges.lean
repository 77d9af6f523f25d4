import FileSieve.Text.Basic

/-!
# Ranges of code points

A property of code points is given by the ranges that have it, as pairs of the first and the last code
point in ascending order.
-/

namespace FileSieve.Ranges

/-- The range that holds `n`, in a table whose ranges ascend. -/
def find? : (table : List (Nat × Nat)) → (n : Nat) → Option (Nat × Nat)
  | [], _ => none
  | range :: rest, n =>
    if n < range.1 then none
    else if n ≤ range.2 then some range
    else find? rest n

/-- Whether a range of the table holds `n`. -/
def contains (table : List (Nat × Nat)) (n : Nat) : Bool :=
  (find? table n).isSome

end FileSieve.Ranges
