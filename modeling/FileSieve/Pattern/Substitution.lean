import FileSieve.Regex.Replace

/-!
# Replacing keys in a text

All keys of a table are put into one regular expression, the escaped keys as alternatives with the longest first. A
text is searched with it from the left, and what takes the place of a key is not searched again.
-/

namespace FileSieve

/-- Keys with what takes their place. -/
abbrev Substitution := List (Text × Text)

namespace Substitution

/-- Puts a key in front of those that are not longer. -/
def insertKey (key : Text) : List Text → List Text
  | [] => [key]
  | other :: rest => if other.length ≤ key.length then key :: other :: rest else other :: insertKey key rest

/-- The keys, the longest first and those of one length in the order of the table. -/
def sortedKeys (table : Substitution) : List Text :=
  table.foldr (fun entry keys => insertKey entry.1 keys) []

/-- The regular expression that matches the keys. -/
def alternation (table : Substitution) : Text :=
  Text.join "|" (table.sortedKeys.map Regex.escaped)

/-- What takes the place of a key. -/
def replacement (table : Substitution) (key : Text) : Text :=
  (table.lookup key).getD []

/-- The text with every key replaced, by a table without an empty key. -/
def apply (table : Substitution) (t : Text) : Text :=
  if table.isEmpty then t
  else match Regex.parse table.alternation { unicode := true } with
    | .ok pattern => pattern.replaceAll table.replacement t
    | .error _ => t

end Substitution

end FileSieve
