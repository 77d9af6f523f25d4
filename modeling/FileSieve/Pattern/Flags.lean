import FileSieve.Regex.Syntax
import FileSieve.Value.Shown

/-!
# The flags of a pattern

Five modifiers, each a bit with a letter. A set of flags is a number: bits without a meaning are kept, and
a negative number stands for the complement within the bits that it needs. When there are modifiers among the
flags, the bits without a meaning are written out behind the names of the modifiers, so that a number with too
many digits may be no flags.
-/

namespace FileSieve

/-- A modifier of a pattern. -/
inductive Modifier
  /-- Letters match in either case. -/
  | caseInsensitive
  /-- Line ends count as ends of the text. -/
  | multiline
  /-- A dot matches a newline too. -/
  | dotAll
  /-- White space and comments in the pattern are skipped. -/
  | comments
  /-- The pattern and its subject are Unicode text. -/
  | unicode
  deriving DecidableEq, Repr

namespace Modifier

/-- The modifiers in the order of their letters. -/
def all : List Modifier :=
  [.caseInsensitive, .multiline, .dotAll, .comments, .unicode]

/-- The number of a modifier's bit. -/
def bit : Modifier → Nat
  | .caseInsensitive => 0
  | .multiline => 1
  | .dotAll => 2
  | .comments => 3
  | .unicode => 4

/-- The letter of a modifier. -/
def letter : Modifier → CodePoint
  | .caseInsensitive => 'i'
  | .multiline => 'm'
  | .dotAll => 's'
  | .comments => 'x'
  | .unicode => 'u'

/-- The name of a modifier. -/
def name : Modifier → Text
  | .caseInsensitive => "CASE_INSENSITIVE"
  | .multiline => "MULTILINE"
  | .dotAll => "DOTALL"
  | .comments => "COMMENTS"
  | .unicode => "UNICODE"

end Modifier

/-- A set of flags as a number. -/
structure Flags where
  /-- The bits of the flags, those without a meaning too. -/
  bits : Nat
  deriving DecidableEq, Repr, Inhabited

namespace Flags

/-- No flags. -/
def none : Flags := ⟨0⟩

/-- The first power of two that is greater than every modifier's bit. -/
def range : Nat := 32

/-- Whether a modifier is among the flags. -/
def has (flags : Flags) (m : Modifier) : Bool :=
  flags.bits.testBit m.bit

/-- The flags of modifiers. -/
def ofModifiers (ms : List Modifier) : Flags :=
  ⟨ms.foldl (fun bits m => bits ||| Nat.pow 2 m.bit) 0⟩

/-- The flags with the bits of a number: a negative one is the complement within the modifiers, or within as many
bits as it has when that is more. -/
def ofBits : Int → Flags
  | .ofNat n => ⟨n⟩
  | .negSucc n =>
    let size := n + 1
    if size ≤ range then ⟨range - size⟩ else ⟨max range (Nat.pow 2 (size.log2 + 1)) - size⟩

/-- The bits without a meaning, as a number. -/
def unnamed (flags : Flags) : Nat :=
  flags.bits / range * range

/-- The flags of a number, which are named when there is a modifier among them. -/
def ofInt (n : Int) : Except Misuse Flags :=
  let flags := ofBits n
  if flags.bits % range = 0 then .ok flags
  else do
    let _name ← Int.digits flags.unnamed
    return flags

/-- The letters of the modifiers among the flags. -/
def letters (flags : Flags) : Text :=
  (Modifier.all.filter flags.has).map Modifier.letter

/-- The flags of the letters in a text, other code points being passed over. -/
def ofLetters (t : Text) : Flags :=
  ofModifiers (Modifier.all.filter fun m => t.contains m.letter)

/-- The mode in which a pattern with these flags is read and matched. -/
def mode (flags : Flags) : Regex.Mode where
  ignoreCase := flags.has .caseInsensitive
  multiline := flags.has .multiline
  dotAll := flags.has .dotAll
  verbose := flags.has .comments
  ascii := !flags.has .unicode
  unicode := flags.has .unicode

end Flags

end FileSieve
