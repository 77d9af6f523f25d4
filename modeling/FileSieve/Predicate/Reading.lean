import FileSieve.Pattern.Search
import FileSieve.Predicate.Operator
import FileSieve.Text.Blank

/-!
# Reading a predicate

A predicate is one or two comparisons, an operator and a value that begins with a digit each, or a value alone. Three
patterns say so, and the first of them that is found decides. Their groups are the symbols and the values in turn; for
a value alone the symbol is empty.
-/

namespace FileSieve.Predicate

/-! ### The patterns -/

/-- The symbols of the operators as a group of a pattern, the longer ones first. -/
def operatorGroup : Text :=
  "(<>|>=|<=|[<>=])"

/-- A comparison whose value is as long as it can be. -/
def comparisonRegex : Text :=
  "\\s*" ++ operatorGroup ++ "\\s*(\\d.*)"

/-- A comparison whose value ends where what is behind it can begin. -/
def firstComparisonRegex : Text :=
  "\\s*" ++ operatorGroup ++ "\\s*(\\d.*?)"

/-- Two comparisons. -/
def twoComparisons : Pattern where
  regex := "^" ++ firstComparisonRegex ++ comparisonRegex ++ "$"

/-- One comparison. -/
def oneComparison : Pattern where
  regex := "^" ++ comparisonRegex ++ "$"

/-- A value alone. -/
def bareValue : Pattern where
  regex := "^()(\\d.*)$"

/-- The patterns in the order in which they are searched for. -/
def grammar : List Pattern :=
  [twoComparisons, oneComparison, bareValue]

/-! ### Reading -/

/-- What is no predicate. -/
structure FormatError where
  /-- The text. -/
  text : Text
  deriving DecidableEq, Repr

/-- The wording for what is no predicate. -/
def FormatError.message (e : FormatError) : Text :=
  "The predicate format cannot be recognized: " ++ e.text.quoted

/-- Why a predicate cannot be read. -/
inductive Fault
  /-- None of the patterns is found. -/
  | format (e : FormatError)
  /-- A symbol is none of an operator. -/
  | operator (e : UnknownOperator)
  /-- A search is impossible, or a group has no text. -/
  | search (e : SearchFailure)
  deriving Repr

/-- What is found of the first pattern that is found in a text. -/
def firstFound (t : Text) : List Pattern → Except SearchFailure (Option Pattern.Found)
  | [] => .ok none
  | p :: rest => do
    match ← p.searchText t 0 with
    | some found => return some found
    | none => firstFound t rest

/-- The operator of a group's text. -/
def operatorOf (group : Option Text) : Except Fault Operator :=
  ((group.elim Value.none Value.text).asOperator).mapError .operator

/-- The value of a group's text. -/
def valueOf (group : Option Text) : Except Fault Text :=
  match group with
  | some t => .ok t.strip
  | none => .error (.search (.misuse (.noMember .none "strip")))

/-- The texts of groups in pairs, as operators with the texts of their values. -/
def clausesOf : List (Option Text) → Except Fault (List (Operator × Text))
  | symbol :: value :: rest => do
    let op ← operatorOf symbol
    let value ← valueOf value
    return (op, value) :: (← clausesOf rest)
  | _ => .ok []

/-- Reads a predicate: its operators with the texts of their values. -/
def read (t : Text) : Except Fault (List (Operator × Text)) := do
  match ← (firstFound t.strip grammar).mapError .search with
  | none => .error (.format ⟨t⟩)
  | some found => clausesOf (found.found.groupTexts found.subject)

/-- Reads a predicate, every fault of which is one of its format. -/
def parse (t : Text) : Except FormatError (List (Operator × Text)) :=
  (read t).mapError fun
    | .format e => e
    | _ => ⟨t⟩

end FileSieve.Predicate
