import FileSieve.Text.Basic

/-!
# Units of size

Bytes and their multiples by powers of 1024, in the notations with and without the letter i.
-/

namespace FileSieve

/-- A unit of size. -/
inductive SizeUnit
  /-- A byte. -/
  | byte
  /-- 1024 bytes. -/
  | kilo
  /-- 1024 kilobytes. -/
  | mega
  /-- 1024 megabytes. -/
  | giga
  /-- 1024 gigabytes. -/
  | tera
  deriving DecidableEq, Repr

namespace SizeUnit

/-- The number of bytes of a unit. -/
def bytes : SizeUnit → Nat
  | .byte => 1
  | .kilo => 1024
  | .mega => 1024 * 1024
  | .giga => 1024 * 1024 * 1024
  | .tera => 1024 * 1024 * 1024 * 1024

/-- The names of multiples of a byte. -/
def multiples : List (Text × SizeUnit) :=
  [("KB", .kilo), ("KiB", .kilo), ("MB", .mega), ("MiB", .mega), ("GB", .giga), ("GiB", .giga), ("TB", .tera),
    ("TiB", .tera)]

/-- The names of units. -/
def names : List (Text × SizeUnit) :=
  ("B", .byte) :: multiples

/-- The unit of a name. -/
def ofName? (name : Text) : Option SizeUnit :=
  names.lookup name

end SizeUnit

end FileSieve
