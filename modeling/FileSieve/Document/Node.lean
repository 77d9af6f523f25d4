import FileSieve.Document.Cursor

/-!
# Nodes of a document

A document is a tree of scalars, sequences and mappings, each with a tag that says which kind of value it means. A node
that is referred to again stands in the tree once more; a mapping has a number, by which it is known to be the same.
-/

namespace FileSieve.Document

/-- The kind of value that a node means. -/
inductive Tag
  /-- No value. -/
  | null
  /-- A truth value. -/
  | bool
  /-- An integer. -/
  | int
  /-- A floating-point number. -/
  | float
  /-- Octets. -/
  | binary
  /-- A date, or a date with a time of day. -/
  | timestamp
  /-- A sequence of pairs in which no key occurs twice. -/
  | omap
  /-- A sequence of pairs. -/
  | pairs
  /-- A set. -/
  | set
  /-- A text. -/
  | str
  /-- A sequence. -/
  | seq
  /-- A mapping. -/
  | map
  /-- The key under which a mapping takes over the entries of others. -/
  | merge
  /-- The key under which a mapping has a value of its own. -/
  | value
  /-- A kind that there is not. -/
  | unknown (name : Text)
  deriving DecidableEq, Repr

/-- What the names of the tags begin with that every document has. -/
def tagSpace : Text := "tag:yaml.org,2002:"

/-- The tags that every document has, by what follows in their names. -/
def knownTags : List (Text × Tag) :=
  [("null", .null), ("bool", .bool), ("int", .int), ("float", .float), ("binary", .binary), ("timestamp", .timestamp),
    ("omap", .omap), ("pairs", .pairs), ("set", .set), ("str", .str), ("seq", .seq), ("map", .map), ("merge", .merge),
    ("value", .value)]

/-- The tag of a name. -/
def Tag.ofName (name : Text) : Tag :=
  ((knownTags.find? fun (suffix, _) => tagSpace ++ suffix == name).map Prod.snd).getD (.unknown name)

/-- A node. -/
inductive Node
  /-- A scalar. -/
  | scalar (tag : Tag) (text : Text)
  /-- A sequence of nodes. -/
  | sequence (tag : Tag) (items : List Node)
  /-- A mapping: its number, and keys with their values, in their order. -/
  | mapping (tag : Tag) (number : Nat) (entries : List (Node × Node))
  deriving Repr

namespace Node

/-- The tag of a node. -/
def tag : Node → Tag
  | .scalar tag _ => tag
  | .sequence tag _ => tag
  | .mapping tag _ _ => tag

/-- The node that is left out. -/
def empty : Node :=
  .scalar .null []

instance : Inhabited Node := ⟨empty⟩

end Node

end FileSieve.Document
