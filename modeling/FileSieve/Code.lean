import FileSieve.Text.Basic

/-!
# Codes of errors

Every error of the library has a code, by which a program can tell what to do about it.
-/

namespace FileSieve

/-- The version of the library. -/
def version : Text := "1.0.0"

/-- A code of errors. -/
inductive Code
  /-- There is no error. -/
  | success
  /-- A predicate, a glob or a configuration is not valid. -/
  | invalidInput
  /-- There is no such file. -/
  | notFound
  /-- A pattern cannot be searched for. -/
  | patternError
  /-- A text cannot be read. -/
  | parseError
  /-- A number is out of range. -/
  | outOfRange
  /-- Something else went wrong. -/
  | internalError
  deriving DecidableEq, Repr

namespace Code

/-- The codes in their order. -/
def all : List Code :=
  [.success, .invalidInput, .notFound, .patternError, .parseError, .outOfRange, .internalError]

/-- The number of a code. -/
def number : Code → Nat
  | .success => 0
  | .invalidInput => 1
  | .notFound => 2
  | .patternError => 3
  | .parseError => 4
  | .outOfRange => 5
  | .internalError => 6

/-- The name of a code. -/
def name : Code → Text
  | .success => "SUCCESS"
  | .invalidInput => "INVALID_INPUT"
  | .notFound => "NOT_FOUND"
  | .patternError => "PATTERN_ERROR"
  | .parseError => "PARSE_ERROR"
  | .outOfRange => "OUT_OF_RANGE"
  | .internalError => "INTERNAL_ERROR"

end Code

end FileSieve
