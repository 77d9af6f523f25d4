import FileSieve.Number.Reading
import FileSieve.Text.Quoted
import FileSieve.Value.Basic

/-!
# Values of the wrong kind

What goes wrong when an operation is given a value of a kind that it is not made for, or a number outside
what it can take. The wording names the kinds.
-/

namespace FileSieve

/-- An operation on a value that it is not made for. -/
inductive Misuse
  /-- The kind has no length. -/
  | unsized (kind : Kind)
  /-- The kind has no items to go through. -/
  | notIterable (kind : Kind)
  /-- The kind has no part of this name. -/
  | noMember (kind : Kind) (name : Text)
  /-- The kind has no entries to set. -/
  | notAssignable (kind : Kind)
  /-- A sequence is asked for an item by a text. -/
  | textIndex (kind : Kind)
  /-- The kind has no items to look up. -/
  | noItems (kind : Kind)
  /-- The kind cannot be a key. -/
  | unhashable (kind : Kind)
  /-- The kinds have no order. -/
  | unordered (symbol : Text) (left right : Kind)
  /-- A naive date and time has no order with an aware one. -/
  | naiveAndAware
  /-- A date has no order with a date and time. -/
  | timeAndDate
  /-- A zone cannot tell how far it is ahead of UTC. -/
  | noOffset
  /-- An item of a sequence of texts is no text. -/
  | itemNotText (index : Nat) (kind : Kind)
  /-- The kind is no integer. -/
  | notInteger (kind : Kind)
  /-- The kind is no index into octets, which may be of either kind. -/
  | notOctetIndex (subject index : Kind)
  /-- A number is no end of a slice. -/
  | notSliceEnd
  /-- The kind cannot be searched. -/
  | notSearchable (kind : Kind)
  /-- Octets are asked for a text in them. -/
  | octetsExpected
  /-- A truth value is no date and time. -/
  | boolAsTime
  /-- The kind is no date and time. -/
  | notTime (kind : Kind)
  /-- The kind is no size predicate. -/
  | notSizePredicate (kind : Kind)
  /-- An item of what should become a dictionary is no pair. -/
  | itemNotSequence (index : Nat)
  /-- An item of what should become a dictionary has not two parts. -/
  | itemNotPair (index length : Nat)
  /-- A text has more digits than an integer may have. -/
  | tooManyDigits (digits : Nat)
  /-- An integer has more digits than are written. -/
  | tooLongToWrite
  /-- A text has not the form of an integer in the digits of a base. -/
  | notIntegerText (base : Nat) (text : Text)
  /-- A text has not the form of a number. -/
  | notNumberText (text : Text)
  /-- A text is empty where its first code point is asked for. -/
  | emptyText
  /-- A number is beyond the last code point. -/
  | noCodePoint
  /-- A number is so far beyond the last code point that it is not even looked at. -/
  | noCodePointNumber
  /-- An infinity has no integer part. -/
  | infinityAsInteger
  /-- What is no number has no integer part. -/
  | nanAsInteger
  /-- A quotient is beyond the floating-point numbers. -/
  | quotientOverflow
  /-- A rounded number is beyond the floating-point numbers. -/
  | roundedOverflow
  /-- A date is out of the calendar. -/
  | dateFault (fault : Date.Fault)
  /-- A time is none of a day, or too far from UTC. -/
  | timeFault (fault : DateTime.Fault)
  /-- A date would be out of the calendar. -/
  | dateOverflow
  /-- A pattern asks for the classes of ASCII and those of Unicode. -/
  | repertoiresClash
  /-- Nothing has this name. -/
  | unknownName (name : Text)
  /-- There is no level of this number. -/
  | unknownLevel (number : Int)
  /-- A value, as it is shown, is no level. -/
  | notLevel (shown : Text)
  /-- A part of a log call is given once more among the pairs of its context. -/
  | partGivenTwice (action part : Text)
  /-- Octets are no text. -/
  | undecodable (fault : Utf8.Fault)
  /-- The kind is no path. -/
  | notPath (kind : Kind)
  /-- A path cannot be the name of a file; places count from the working directory, or from the root. -/
  | unnameable (fault : Utf8.NameFault)
  /-- A path has a NUL in it; `opening` says whether a file was to be opened there or only looked for. -/
  | nulInPath (opening : Bool)
  /-- A path begins with the home of an unknown user. -/
  | noHome
  deriving DecidableEq, Repr

/-- The wording of a misuse. -/
def Misuse.message : Misuse → Text
  | .unsized kind => "object of type '" ++ kind.fullName ++ "' has no len()"
  | .notIterable kind => "'" ++ kind.fullName ++ "' object is not iterable"
  | .noMember kind name => "'" ++ kind.fullName ++ "' object has no attribute '" ++ name ++ "'"
  | .notAssignable kind => "'" ++ kind.fullName ++ "' object does not support item assignment"
  | .textIndex .text => "string indices must be integers, not 'str'"
  | .textIndex .octets => "byte indices must be integers or slices, not str"
  | .textIndex kind => kind.fullName ++ (" indices must be integers or slices, not str" : Text)
  | .noItems kind => "'" ++ kind.fullName ++ "' object is not subscriptable"
  | .unhashable kind => "unhashable type: '" ++ kind.fullName ++ "'"
  | .unordered symbol left right =>
    "'" ++ symbol ++ "' not supported between instances of '" ++ left.fullName ++ "' and '" ++ right.fullName ++ "'"
  | .naiveAndAware => "can't compare offset-naive and offset-aware datetimes"
  | .timeAndDate => "can't compare datetime.datetime to datetime.date"
  | .noOffset => "a tzinfo subclass must implement utcoffset()"
  | .itemNotText index kind =>
    "sequence item " ++ Text.ofNat index ++ ": expected str instance, " ++ kind.fullName ++ " found"
  | .notInteger kind => "'" ++ kind.fullName ++ "' object cannot be interpreted as an integer"
  | .notOctetIndex subject index =>
    (if subject = .buffer then ("bytearray" : Text) else "byte")
      ++ (" indices must be integers or slices, not " : Text) ++ index.fullName
  | .notSliceEnd => "slice indices must be integers or None or have an __index__ method"
  | .notSearchable kind => "expected string or bytes-like object, got '" ++ kind.fullName ++ "'"
  | .octetsExpected => "a bytes-like object is required, not 'str'"
  | .boolAsTime => "Boolean is not a valid date-time value"
  | .notTime kind => "Unsupported date-time value: " ++ kind.name
  | .notSizePredicate kind => "Unsupported size predicate: " ++ kind.name
  | .itemNotSequence index =>
    "cannot convert dictionary update sequence element #" ++ Text.ofNat index ++ " to a sequence"
  | .itemNotPair index length =>
    "dictionary update sequence element #" ++ Text.ofNat index ++ " has length " ++ Text.ofNat length
      ++ "; 2 is required"
  | .tooManyDigits digits => tooLongMessage digits
  | .tooLongToWrite =>
    "Exceeds the limit (" ++ Text.ofNat maxDigits
      ++ " digits) for integer string conversion; use sys.set_int_max_str_digits() to increase the limit"
  | .notIntegerText base text => "invalid literal for int() with base " ++ Text.ofNat base ++ ": " ++ text.quoted
  | .notNumberText text => "could not convert string to float: " ++ text.quoted
  | .emptyText => "string index out of range"
  | .noCodePoint => "chr() arg not in range(0x110000)"
  | .noCodePointNumber => "Python int too large to convert to C int"
  | .infinityAsInteger => "cannot convert float infinity to integer"
  | .nanAsInteger => "cannot convert float NaN to integer"
  | .quotientOverflow => "integer division result too large for a float"
  | .roundedOverflow => "rounded value too large to represent"
  | .dateFault fault => fault.text
  | .timeFault fault => fault.text
  | .dateOverflow => "date value out of range"
  | .repertoiresClash => "ASCII and UNICODE flags are incompatible"
  | .unknownName name => name.quoted
  | .unknownLevel number => Text.ofInt number ++ (" is not a valid LogLevel" : Text)
  | .notLevel shown => "Level not an integer or a valid string: " ++ shown
  | .partGivenTwice action part =>
    "Logger." ++ action ++ "() got multiple values for argument '" ++ part ++ "'"
  | .undecodable fault => fault.message
  | .notPath kind => "expected str, bytes or os.PathLike object, not " ++ kind.name
  | .unnameable fault => fault.message
  | .nulInPath opening => if opening then "embedded null byte" else "lstat: embedded null character in path"
  | .noHome => "Could not determine home directory."

end FileSieve
