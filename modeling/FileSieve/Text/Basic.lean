/-!
# Text

Names, patterns and messages are sequences of Unicode code points. Lone surrogates and NUL occur in
them, so the carrier is a list of code points of its own and not a `String`; a `String` or a `Char`
literal is read as the text it spells.

This module has the code points, the literals, and the operations on text that depend on no property
table: taking apart at a separator, replacing, joining, and the order by code points.
-/

namespace FileSieve

/-- A Unicode code point; surrogates are code points too. -/
abbrev CodePoint := Fin 0x110000

/-- A sequence of code points. -/
abbrev Text := List CodePoint

namespace CodePoint

/-- The code point of a character. -/
def ofChar (c : Char) : CodePoint :=
  ⟨c.toNat, by
    have h := c.valid
    simp only [UInt32.isValidChar, Nat.isValidChar] at h
    show c.val.toNat < 0x110000
    omega⟩

instance : Coe Char CodePoint := ⟨ofChar⟩

/-- The code point of a number, and U+FFFD for a number beyond the last one. -/
def ofNat (n : Nat) : CodePoint :=
  if h : n < 0x110000 then ⟨n, h⟩ else ⟨0xFFFD, by decide⟩

/-- The character of a code point; a surrogate is no character and gives U+FFFD. -/
def toChar (c : CodePoint) : Char :=
  if h : c.val.isValidChar then Char.ofNatAux c.val h else '\uFFFD'

/-- Surrogates are the code points that no encoding form may write. -/
def isSurrogate (c : CodePoint) : Bool :=
  0xD800 ≤ c.val && c.val ≤ 0xDFFF

/-- The code points below U+0080. -/
def isAscii (c : CodePoint) : Bool :=
  c.val < 0x80

/-- An ASCII decimal digit. -/
def isDigit (c : CodePoint) : Bool :=
  0x30 ≤ c.val && c.val ≤ 0x39

/-- The value of an ASCII decimal digit. -/
def digitValue (c : CodePoint) : Nat :=
  c.val - 0x30

/-- The ASCII digit of a value below ten. -/
def ofDigit (d : Nat) : CodePoint :=
  ofNat (0x30 + d)

/-- An ASCII octal digit. -/
def isOctalDigit (c : CodePoint) : Bool :=
  0x30 ≤ c.val && c.val ≤ 0x37

/-- An ASCII upper-case letter. -/
def isAsciiUpper (c : CodePoint) : Bool :=
  0x41 ≤ c.val && c.val ≤ 0x5A

/-- An ASCII lower-case letter. -/
def isAsciiLower (c : CodePoint) : Bool :=
  0x61 ≤ c.val && c.val ≤ 0x7A

/-- An ASCII letter. -/
def isAsciiLetter (c : CodePoint) : Bool :=
  c.isAsciiUpper || c.isAsciiLower

/-- The ASCII letters in lower case, every other code point as it is. -/
def asciiLower (c : CodePoint) : CodePoint :=
  if c.isAsciiUpper then ofNat (c.val + 0x20) else c

/-- The ASCII letters in upper case, every other code point as it is. -/
def asciiUpper (c : CodePoint) : CodePoint :=
  if c.isAsciiLower then ofNat (c.val - 0x20) else c

/-- The value of an ASCII hexadecimal digit in either case. -/
def hexValue? (c : CodePoint) : Option Nat :=
  if c.isDigit then some (c.val - 0x30)
  else if 0x61 ≤ c.val && c.val ≤ 0x66 then some (c.val - 0x57)
  else if 0x41 ≤ c.val && c.val ≤ 0x46 then some (c.val - 0x37)
  else none

/-- An ASCII hexadecimal digit in either case. -/
def isHexDigit (c : CodePoint) : Bool :=
  c.hexValue?.isSome

/-- The lower-case hexadecimal digit of a value below sixteen. -/
def ofHexDigit (d : Nat) : CodePoint :=
  if d < 10 then ofNat (0x30 + d) else ofNat (0x57 + d)

/-- Space, tab, newline, carriage return, form feed and vertical tab: the ASCII white space. -/
def isAsciiSpace (c : CodePoint) : Bool :=
  c.val == 0x20 || (0x09 ≤ c.val && c.val ≤ 0x0D)

end CodePoint

namespace Text

/-- The text of a list of characters. -/
def ofChars (cs : List Char) : Text :=
  cs.map CodePoint.ofChar

/-- The text that a string spells. -/
def ofString (s : String) : Text :=
  ofChars s.toList

instance : Coe String Text := ⟨ofString⟩

/-- Text for a message or a terminal; surrogates show as U+FFFD. -/
def toString (t : Text) : String :=
  String.ofList (t.map CodePoint.toChar)

/-- A number's decimal digits in front of `acc`. -/
def decimalInto (n : Nat) (acc : Text) : Text :=
  if n < 10 then CodePoint.ofDigit n :: acc
  else decimalInto (n / 10) (CodePoint.ofDigit (n % 10) :: acc)
termination_by n

/-- A natural number in decimal digits, without superfluous zeros. -/
def ofNat (n : Nat) : Text :=
  decimalInto n []

/-- An integer in decimal digits, a minus sign in front of a negative one. -/
def ofInt : Int → Text
  | .ofNat n => ofNat n
  | .negSucc n => ('-' : CodePoint) :: ofNat (n + 1)

/-- A natural number in decimal digits with zeros in front up to `width` digits. -/
def padded (width n : Nat) : Text :=
  let digits := ofNat n
  List.replicate (width - digits.length) ('0' : CodePoint) ++ digits

/-- The last `width` hexadecimal digits of a number, most significant first. -/
def hex : (width n : Nat) → Text
  | 0, _ => []
  | width + 1, n => hex width (n / 16) ++ [CodePoint.ofHexDigit (n % 16)]

/-- `t` without the code points of the class `p` at either end. -/
def trim (p : CodePoint → Bool) (t : Text) : Text :=
  ((t.dropWhile p).reverse.dropWhile p).reverse

/-- The parts of `t` between the occurrences of the code point `sep`. -/
def splitAtPoint (sep : CodePoint) : Text → List Text
  | [] => [[]]
  | c :: rest =>
    if c = sep then [] :: splitAtPoint sep rest
    else match splitAtPoint sep rest with
      | [] => [[c]]
      | part :: parts => (c :: part) :: parts

/-- Walks `t` looking for `sep`; `part` holds the current part backwards and `skip` counts what is
left of a separator that was found. -/
def splitWalk (sep : Text) : (t : Text) → (part : Text) → (skip : Nat) → List Text
  | [], part, _ => [part.reverse]
  | _ :: rest, part, skip + 1 => splitWalk sep rest part skip
  | c :: rest, part, 0 =>
    if sep.isPrefixOf (c :: rest) then part.reverse :: splitWalk sep rest [] (sep.length - 1)
    else splitWalk sep rest (c :: part) 0

/-- The parts of `t` between the occurrences of the non-empty text `sep`, found from the left and
without overlap. -/
def splitAtText (sep t : Text) : List Text :=
  splitWalk sep t [] 0

/-- Every occurrence of the code point `c` replaced by the text `new`. -/
def replacePoint (t : Text) (c : CodePoint) (new : Text) : Text :=
  t.flatMap fun x => if x = c then new else [x]

/-- The text with every end of a line as a line feed: a carriage return, with or without a line feed behind it, is
one. -/
def withLineFeeds : Text → Text
  | [] => []
  | c :: rest =>
    if c = '\r' then
      match rest with
      | [] => ['\n']
      | d :: more =>
        if d = '\n' then ('\n' : CodePoint) :: withLineFeeds more
        else ('\n' : CodePoint) :: withLineFeeds (d :: more)
    else c :: withLineFeeds rest

/-- The texts in a row with `sep` between neighbours. -/
def join (sep : Text) : List Text → Text
  | [] => []
  | [t] => t
  | t :: rest => t ++ sep ++ join sep rest

/-- Whether `t` starts with `head`. -/
def startsWith (t head : Text) : Bool :=
  head.isPrefixOf t

/-- The order of two texts by their first differing code point; a proper beginning comes first. -/
def compare : Text → Text → Ordering
  | [], [] => .eq
  | [], _ :: _ => .lt
  | _ :: _, [] => .gt
  | a :: s, b :: t => if a < b then .lt else if b < a then .gt else compare s t

/-- `t` is before `u` in the order by code points. -/
def before (t u : Text) : Bool :=
  compare t u == .lt

end Text

end FileSieve
