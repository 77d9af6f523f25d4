import FileSieve.Predicate.Operator

/-!
# Clauses

A clause is a comparison with a value; a predicate is one or more clauses that must all hold.
-/

namespace FileSieve

/-- A comparison with a value. -/
structure Clause where
  /-- The comparison. -/
  operator : Operator
  /-- The value on its right. -/
  value : Value
  deriving Repr, Inhabited

namespace Clause

/-- Whether a clause holds of a candidate. -/
def holds (clause : Clause) (candidate : Value) : Except Misuse Bool :=
  candidate.relate clause.operator clause.value

/-- The symbol and the value of a clause. -/
def text (clause : Clause) : Except Misuse Text := do
  return clause.operator.symbol ++ (" " : Text) ++ (← clause.value.plain)

/-- Whether every clause holds of a candidate; the first that does not hold ends the test. -/
def allHold (clauses : List Clause) (candidate : Value) : Except Misuse Bool :=
  match clauses with
  | [] => .ok true
  | clause :: rest => do
    if ← clause.holds candidate then allHold rest candidate else return false

/-- The clauses with commas between them. -/
def textAll (clauses : List Clause) : Except Misuse Text := do
  return Text.join ", " (← clauses.mapM text)

end Clause

end FileSieve
