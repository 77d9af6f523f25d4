import FileSieve.Number.Binary64
import FileSieve.Text.Utf8
import FileSieve.Time.DateTime

/-!
# Values

What a configuration holds and what a file is asked for: scalars, sequences, and dictionaries that keep the
order in which their keys came. Whether a value fits is decided where it is used, so that a message can name
the kind of what was given.
-/

namespace FileSieve

/-- A value of any kind. -/
inductive Value
  /-- No value. -/
  | none
  /-- A truth value. -/
  | bool (b : Bool)
  /-- An integer. -/
  | int (n : Int)
  /-- A floating-point number. -/
  | float (x : Binary64)
  /-- A text. -/
  | text (t : Text)
  /-- Octets. -/
  | octets (b : Octets)
  /-- Octets that may be changed in place. -/
  | buffer (b : Octets)
  /-- A list. -/
  | list (items : List Value)
  /-- A tuple. -/
  | tuple (items : List Value)
  /-- A dictionary: keys with their values, in the order in which the keys came. -/
  | dict (entries : List (Value × Value))
  /-- A set. -/
  | set (items : List Value)
  /-- A date. -/
  | date (d : Date)
  /-- A date with a time of day. -/
  | datetime (d : DateTime)
  /-- A date with a time of day in a zone that cannot tell how far it is ahead of UTC. Such zones have numbers. -/
  | unplaced (d : DateTime) (zone : Nat)
  deriving Repr, Inhabited

/-- The kind of a value. -/
inductive Kind
  /-- No value. -/
  | none
  /-- A truth value. -/
  | bool
  /-- An integer. -/
  | int
  /-- A floating-point number. -/
  | float
  /-- A text. -/
  | text
  /-- Octets. -/
  | octets
  /-- Octets that may be changed. -/
  | buffer
  /-- A list. -/
  | list
  /-- A tuple. -/
  | tuple
  /-- A dictionary. -/
  | dict
  /-- A set. -/
  | set
  /-- A date. -/
  | date
  /-- A date with a time of day. -/
  | datetime
  deriving DecidableEq, Repr, Inhabited

/-- The name of a kind in messages. -/
def Kind.name : Kind → Text
  | .none => "NoneType"
  | .bool => "bool"
  | .int => "int"
  | .float => "float"
  | .text => "str"
  | .octets => "bytes"
  | .buffer => "bytearray"
  | .list => "list"
  | .tuple => "tuple"
  | .dict => "dict"
  | .set => "set"
  | .date => "date"
  | .datetime => "datetime"

/-- The name of a kind with the family it belongs to, if it has one. -/
def Kind.fullName : Kind → Text
  | .date => "datetime.date"
  | .datetime => "datetime.datetime"
  | kind => kind.name

namespace Value

/-- The kind of a value. -/
def kind : Value → Kind
  | .none => .none
  | .bool _ => .bool
  | .int _ => .int
  | .float _ => .float
  | .text _ => .text
  | .octets _ => .octets
  | .buffer _ => .buffer
  | .list _ => .list
  | .tuple _ => .tuple
  | .dict _ => .dict
  | .set _ => .set
  | .date _ => .date
  | .datetime _ | .unplaced .. => .datetime

/-- Whether a value counts as true: numbers other than zero, and whatever is not empty. -/
def truth : Value → Bool
  | .none => false
  | .bool b => b
  | .int n => n != 0
  | .float x => x != .finite true 0 && x != .finite false 0
  | .text t => !t.isEmpty
  | .octets b | .buffer b => !b.isEmpty
  | .list items | .tuple items | .set items => !items.isEmpty
  | .dict entries => !entries.isEmpty
  | .date _ | .datetime _ | .unplaced .. => true

/-- Whether a value is no value. -/
def isNone : Value → Bool
  | .none => true
  | _ => false

instance : Coe Text Value := ⟨.text⟩
instance : Coe String Value := ⟨fun s => .text s⟩
instance : Coe Int Value := ⟨.int⟩
instance : Coe Bool Value := ⟨.bool⟩

end Value

end FileSieve
