import FileSieve.Pattern.Basic
import FileSieve.Regex.Search

/-!
# Searching with a pattern

The subject of a search is a text, or octets that are read as text: as UTF-8 when the pattern has the
Unicode modifier, octet by octet otherwise. The offset counts code points of a text and octets of octets.

Whatever makes a search impossible is a `Pattern.Error`, in this order: an offset outside of the subject, a
subject that is no text, an offset within an encoded code point, and a pattern that is no regular expression.
-/

namespace FileSieve

/-- The kinds of failure of a search. -/
inductive Pattern.Error.Kind
  /-- The pattern is no regular expression. -/
  | compilationFailed
  /-- The engine cannot work with what it is given. -/
  | internal
  /-- The engine goes back too often. -/
  | backtrackLimit
  /-- The engine descends too deep. -/
  | recursionLimit
  /-- The pattern or the subject is no text. -/
  | malformedEncoding
  /-- The offset lies within a code point. -/
  | badEncodingOffset
  deriving DecidableEq, Repr

namespace Pattern.Error.Kind

/-- The kinds in their order. -/
def all : List Pattern.Error.Kind :=
  [.compilationFailed, .internal, .backtrackLimit, .recursionLimit, .malformedEncoding, .badEncodingOffset]

/-- The name of a kind. -/
def name : Pattern.Error.Kind → Text
  | .compilationFailed => "COMPILATION_FAILED"
  | .internal => "INTERNAL"
  | .backtrackLimit => "BACKTRACK_LIMIT"
  | .recursionLimit => "RECURSION_LIMIT"
  | .malformedEncoding => "MALFORMED_ENCODING"
  | .badEncodingOffset => "BAD_ENCODING_OFFSET"

/-- The message of a kind where nothing more is known. -/
def message : Pattern.Error.Kind → Text
  | .compilationFailed => "Compilation failed due to unknown error."
  | .internal => "Regex engine internal error occurred."
  | .backtrackLimit => "Regex engine backtracking limit exhausted."
  | .recursionLimit => "Regex engine recursion limit exhausted."
  | .malformedEncoding => "Malformed UTF-8 characters, possibly incorrectly encoded."
  | .badEncodingOffset => "The offset did not correspond to the beginning of a valid UTF-8 code point."

end Pattern.Error.Kind

/-- Why a search is impossible. -/
inductive Pattern.Error.Cause
  /-- The pattern's text is refused as a regular expression. -/
  | refused (fault : Regex.Fault)
  /-- The offset, given in its plain form, is outside of the subject. -/
  | outside (offset : Text)
  /-- The pattern or the subject is no text that has an encoding, or octets that are none. -/
  | malformed
  /-- The offset lies within an encoded code point. -/
  | withinPoint
  deriving DecidableEq, Repr

/-- A search that is impossible. -/
structure Pattern.Error where
  /-- Why. -/
  cause : Pattern.Error.Cause
  /-- The pattern. -/
  pattern : Pattern
  deriving DecidableEq, Repr

namespace Pattern.Error

/-- The kind of the failure. -/
def kind (e : Pattern.Error) : Kind :=
  match e.cause with
  | .refused .countTooLarge => .internal
  | .refused .tooDeep => .recursionLimit
  | .refused _ => .compilationFailed
  | .outside _ => .internal
  | .malformed => .malformedEncoding
  | .withinPoint => .badEncodingOffset

/-- The wording of the failure. -/
def message (e : Pattern.Error) : Text :=
  match e.cause with
  | .refused .countTooLarge | .refused .tooDeep | .malformed | .withinPoint => e.kind.message
  | .refused fault => "Compilation failed: " ++ fault.text e.pattern.body
  | .outside offset => "Offset " ++ offset ++ " is outside of the subject."

end Pattern.Error

/-- What a search can fail with. -/
inductive SearchFailure
  /-- The search is impossible. -/
  | pattern (e : Pattern.Error)
  /-- The subject or the offset is of the wrong kind, or the pattern has a form that is no regular expression
  in another way. -/
  | misuse (m : Misuse)
  deriving DecidableEq, Repr

namespace Pattern

/-- A search with `p` is impossible. -/
def impossible {α : Type} (p : Pattern) (cause : Pattern.Error.Cause) : Except SearchFailure α :=
  .error (.pattern ⟨cause, p⟩)

/-- Whether the pattern and its subjects are Unicode text. -/
def isUnicode (p : Pattern) : Bool :=
  p.flags.has .unicode

/-- The regular expression of the pattern. -/
def engine (p : Pattern) : Except SearchFailure Regex.Parsed :=
  if p.isUnicode && !Utf8.encodable p.regex then p.impossible .malformed
  else match Regex.parse p.body p.flags.mode with
    | .ok parsed => .ok parsed
    | .error .repertoiresClash => .error (.misuse .repertoiresClash)
    | .error (.countTooLong digits) => .error (.misuse (.tooManyDigits digits))
    | .error fault => p.impossible (.refused fault)

/-- A match together with the text that was searched. -/
structure Found where
  /-- The text. -/
  subject : Text
  /-- The match. -/
  found : Regex.Match
  deriving DecidableEq, Repr

/-- Searches a text from a place on. -/
def searchFrom (p : Pattern) (subject : Text) (place : Nat) : Except SearchFailure (Option Found) := do
  let engine ← p.engine
  return (engine.search? subject place).map fun found => ⟨subject, found⟩

/-- Whether an offset is within a subject of a length. -/
def within (offset : Int) (length : Nat) : Bool :=
  0 ≤ offset && offset ≤ length

/-- The failure for an offset outside of the subject. -/
def outside {α : Type} (p : Pattern) (offset : Int) : Except SearchFailure α :=
  match Int.digits offset with
  | .ok digits => p.impossible (.outside digits)
  | .error m => .error (.misuse m)

/-- Searches a text from an offset on. -/
def searchText (p : Pattern) (subject : Text) (offset : Int) : Except SearchFailure (Option Found) :=
  if !within offset subject.length then p.outside offset
  else if p.isUnicode && !Utf8.encodable subject then p.impossible .malformed
  else p.searchFrom subject offset.toNat

/-- Searches octets from an offset on. -/
def searchOctets (p : Pattern) (subject : Octets) (offset : Int) : Except SearchFailure (Option Found) :=
  if !within offset subject.length then p.outside offset
  else if !p.isUnicode then p.searchFrom (Text.ofLatin1 subject) offset.toNat
  else match Utf8.decode subject with
    | .error _ => p.impossible .malformed
    | .ok text =>
      if (subject[offset.toNat]?.map Utf8.isTail).getD false then p.impossible .withinPoint
      else match Utf8.decode (subject.take offset.toNat) with
        | .error fault => .error (.misuse (.undecodable fault))
        | .ok before => p.searchFrom text before.length

/-- Whether a pattern matches somewhere in a text. -/
def matchesText (p : Pattern) (subject : Text) : Except SearchFailure Bool :=
  (p.searchText subject 0).map Option.isSome

/-- Whether a pattern is a regular expression: whether a search of the empty text is possible. -/
def isWellFormed (p : Pattern) : Except SearchFailure Bool :=
  match p.matchesText [] with
  | .ok _ => .ok true
  | .error (.pattern _) => .ok false
  | .error (.misuse m) => .error (.misuse m)

end Pattern

end FileSieve
