import FileSieve.Text.Basic

/-!
# Log entries

A message with what it is about: pairs of a key and a value, behind the message and a bar.
-/

namespace FileSieve.Log

/-- The plain forms of keys and values. -/
abbrev Context := List (Text × Text)

/-- The pairs of a context with spaces between them. -/
def Context.text (context : Context) : Text :=
  Text.join " " (context.map fun (key, value) => key ++ ("=" : Text) ++ value)

/-- A message with its context. -/
def withContext (message : Text) (context : Context) : Text :=
  if context.isEmpty then message else message ++ (" | " : Text) ++ context.text

/-- What is reported in passing, for those who want to follow every step. -/
structure Entry where
  /-- The message. -/
  message : Text
  /-- What it is about. -/
  context : Context
  deriving DecidableEq, Repr

end FileSieve.Log
