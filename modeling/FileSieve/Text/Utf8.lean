import FileSieve.Text.Basic

/-!
# UTF-8

The encoding form of text as octets (RFC 3629). A surrogate has no encoding. The reader refuses
overlong forms, encoded surrogates and numbers beyond U+10FFFF, and names the first octets that are no
encoding of a code point and why.

The name of a file may be any octets. Surrogates stand for those of no encoding, so that such a name is a text as well;
no other surrogate can be in it.
-/

namespace FileSieve

/-- A sequence of octets. -/
abbrev Octets := List UInt8

namespace Utf8

/-- An octet from its number. -/
def octet (n : Nat) : UInt8 := UInt8.ofNat n

/-- The one to four octets of a code point. -/
def encodePoint (c : CodePoint) : Octets :=
  let n := c.val
  if n < 0x80 then [octet n]
  else if n < 0x800 then [octet (0xC0 + n / 0x40), octet (0x80 + n % 0x40)]
  else if n < 0x10000 then
    [octet (0xE0 + n / 0x1000), octet (0x80 + n / 0x40 % 0x40), octet (0x80 + n % 0x40)]
  else
    [octet (0xF0 + n / 0x40000), octet (0x80 + n / 0x1000 % 0x40), octet (0x80 + n / 0x40 % 0x40),
      octet (0x80 + n % 0x40)]

/-- Text without surrogates can be encoded. -/
def encodable (t : Text) : Bool :=
  t.all fun c => !c.isSurrogate

/-- The octets of a text; a surrogate is written by the same rule as its neighbours, so only an encodable
text has an encoding that can be read again. -/
def encode (t : Text) : Octets :=
  t.flatMap encodePoint

/-- Why octets cannot be read. -/
inductive Cause
  /-- No encoding starts with this octet. -/
  | invalidStart
  /-- The next octet does not continue the encoding. -/
  | invalidContinuation
  /-- The octets end within an encoding. -/
  | unexpectedEnd
  deriving DecidableEq, Repr

/-- The octets from `start` on, `count` of them, cannot be read; `first` is the first one. -/
structure Fault where
  /-- The place of the first octet. -/
  start : Nat
  /-- The number of octets. -/
  count : Nat
  /-- The first octet. -/
  first : UInt8
  /-- What is wrong with them. -/
  cause : Cause
  deriving DecidableEq, Repr

/-- An octet that continues an encoding. -/
def isTail (b : UInt8) : Bool :=
  0x80 ≤ b.toNat && b.toNat ≤ 0xBF

/-- The second octet of an encoding of three or four octets: the first octet `a` narrows its range, so
that no form is overlong, no surrogate is encoded and no number lies beyond U+10FFFF. -/
def isSecond (a b : UInt8) : Bool :=
  isTail b &&
    !(a.toNat == 0xE0 && b.toNat < 0xA0) && !(a.toNat == 0xED && 0xA0 ≤ b.toNat) &&
    !(a.toNat == 0xF0 && b.toNat < 0x90) && !(a.toNat == 0xF4 && 0x90 ≤ b.toNat)

/-- The code point of the six payload bits of each octet, most significant first. -/
def assemble (lead : Nat) (tails : List UInt8) : CodePoint :=
  CodePoint.ofNat (tails.foldl (fun n b => n * 0x40 + (b.toNat - 0x80)) lead)

/-- Reads octets of which the first stands at the place `place`. -/
def decodeFrom : (place : Nat) → Octets → Except Fault Text
  | _, [] => .ok []
  | i, a :: rest =>
    let more (c : CodePoint) (tail : Except Fault Text) : Except Fault Text := tail.map (c :: ·)
    let fail (count : Nat) (cause : Cause) : Except Fault Text := .error ⟨i, count, a, cause⟩
    if a.toNat < 0x80 then more (CodePoint.ofNat a.toNat) (decodeFrom (i + 1) rest)
    else if a.toNat < 0xC2 then fail 1 .invalidStart
    else if a.toNat < 0xE0 then
      match rest with
      | [] => fail 1 .unexpectedEnd
      | b :: rest =>
        if isTail b then more (assemble (a.toNat - 0xC0) [b]) (decodeFrom (i + 2) rest)
        else fail 1 .invalidContinuation
    else if a.toNat < 0xF0 then
      match rest with
      | [] => fail 1 .unexpectedEnd
      | [b] => if isSecond a b then fail 2 .unexpectedEnd else fail 1 .invalidContinuation
      | b :: c :: rest =>
        if !isSecond a b then fail 1 .invalidContinuation
        else if !isTail c then fail 2 .invalidContinuation
        else more (assemble (a.toNat - 0xE0) [b, c]) (decodeFrom (i + 3) rest)
    else if a.toNat < 0xF5 then
      match rest with
      | [] => fail 1 .unexpectedEnd
      | [b] => if isSecond a b then fail 2 .unexpectedEnd else fail 1 .invalidContinuation
      | [b, c] =>
        if !isSecond a b then fail 1 .invalidContinuation
        else if !isTail c then fail 2 .invalidContinuation
        else fail 3 .unexpectedEnd
      | b :: c :: d :: rest =>
        if !isSecond a b then fail 1 .invalidContinuation
        else if !isTail c then fail 2 .invalidContinuation
        else if !isTail d then fail 3 .invalidContinuation
        else more (assemble (a.toNat - 0xF0) [b, c, d]) (decodeFrom (i + 4) rest)
    else fail 1 .invalidStart

/-- The text that octets encode. -/
def decode (b : Octets) : Except Fault Text :=
  decodeFrom 0 b

/-- The text that octets encode when they come one after the other: when they end within an encoding, its own octets
are counted from zero. -/
def decodeStream (b : Octets) : Except Fault Text :=
  (decode b).mapError fun f => if f.cause = .unexpectedEnd then { f with start := 0 } else f

/-- The wording of a cause. -/
def Cause.text : Cause → Text
  | .invalidStart => "invalid start byte"
  | .invalidContinuation => "invalid continuation byte"
  | .unexpectedEnd => "unexpected end of data"

/-- The message of a fault. -/
def Fault.message (f : Fault) : Text :=
  if f.count = 1 then
    "'utf-8' codec can't decode byte 0x" ++ Text.hex 2 f.first.toNat ++ " in position " ++ Text.ofNat f.start ++ ": "
      ++ f.cause.text
  else
    "'utf-8' codec can't decode bytes in position " ++ Text.ofNat f.start ++ "-"
      ++ Text.ofNat (f.start + f.count - 1) ++ ": " ++ f.cause.text

/-! ### Names of files -/

/-- The surrogate that stands for an octet of no encoding. -/
def standIn (b : UInt8) : CodePoint :=
  CodePoint.ofNat (0xDC00 + b.toNat)

/-- A surrogate that stands for an octet of no encoding. -/
def isStandIn (c : CodePoint) : Bool :=
  0xDC80 ≤ c.val && c.val ≤ 0xDCFF

/-- The text of a name in octets, in which surrogates stand for the octets of no encoding; `fuel` is one more than
there may be of these. -/
def nameFrom : (fuel : Nat) → Octets → Text
  | 0, _ => []
  | fuel + 1, b =>
    match decode b with
    | .ok t => t
    | .error f =>
      (decode (b.take f.start)).toOption.getD [] ++ ((b.drop f.start).take f.count).map standIn
        ++ nameFrom fuel (b.drop (f.start + f.count))

/-- The text of a name in octets. -/
def ofName (b : Octets) : Text :=
  nameFrom (b.length + 1) b

/-- Surrogates that stand for nothing: from the place `start` on, `count` code points up to the next one that is no
surrogate; `first` is the first one. -/
structure NameFault where
  /-- The place of the first code point. -/
  start : Nat
  /-- The number of code points. -/
  count : Nat
  /-- The first code point. -/
  first : CodePoint
  deriving DecidableEq, Repr

/-- What keeps a text from being the name of a file; its first code point stands at the place `place`. -/
def nameFaultFrom? : (place : Nat) → Text → Option NameFault
  | _, [] => none
  | i, c :: rest =>
    if c.isSurrogate && !isStandIn c then some ⟨i, (rest.takeWhile CodePoint.isSurrogate).length + 1, c⟩
    else nameFaultFrom? (i + 1) rest

/-- What keeps a text from being the name of a file. -/
def nameFault? (t : Text) : Option NameFault :=
  nameFaultFrom? 0 t

/-- The message of a fault of a name. -/
def NameFault.message (f : NameFault) : Text :=
  if f.count = 1 then
    "'utf-8' codec can't encode character '\\u" ++ Text.hex 4 f.first.val ++ "' in position " ++ Text.ofNat f.start
      ++ ": surrogates not allowed"
  else
    "'utf-8' codec can't encode characters in position " ++ Text.ofNat f.start ++ "-"
      ++ Text.ofNat (f.start + f.count - 1) ++ ": surrogates not allowed"

end Utf8

/-- The text whose code points are the numbers of the octets. -/
def Text.ofLatin1 (b : Octets) : Text :=
  b.map fun o => CodePoint.ofNat o.toNat

end FileSieve
