import FileSieve.Text.Quoted
import FileSieve.Number.Reading

/-!
# Why a pattern is refused

The causes for which a text is no regular expression, and their wording. A cause that has a place in the
pattern names it, together with the line and the column when the pattern has more than one line.
-/

namespace FileSieve.Regex

/-- What is wrong at a place of a pattern. -/
inductive SyntaxFault
  /-- The pattern ends with a backslash. -/
  | danglingBackslash
  /-- An escape that means nothing. -/
  | badEscape (escape : Text)
  /-- An escape with too few hexadecimal digits. -/
  | incompleteEscape (escape : Text)
  /-- An octal escape beyond U+00FF. -/
  | octalTooLarge (escape : Text)
  /-- A named character without its brace. -/
  | missingBrace
  /-- No character has this name. -/
  | unknownCharacter (name : Text)
  /-- A name that is not there. -/
  | missingName (what : Text)
  /-- A name that does not end. -/
  | unterminatedName (terminator : CodePoint)
  /-- A name that is no identifier. -/
  | badGroupName (name : Text)
  /-- No group has this name. -/
  | unknownGroup (name : Text)
  /-- Two groups of one name. -/
  | redefinedGroup (name : Text) (new old : Nat)
  /-- A reference to a group with this number, which there is not. -/
  | invalidGroup (index : Int)
  /-- Group zero is no group. -/
  | zeroGroup
  /-- A reference to a group that is still open. -/
  | openGroup
  /-- A reference to a group of the same look-behind. -/
  | groupOfLookbehind
  /-- A conditional with three branches. -/
  | threeBranches
  /-- A set that does not end. -/
  | unterminatedSet
  /-- A range whose ends are no code points or out of order. -/
  | badRange (lo hi : Text)
  /-- A repetition of nothing. -/
  | nothingToRepeat
  /-- A repetition of a repetition. -/
  | multipleRepeat
  /-- A least count above the greatest. -/
  | minAboveMax
  /-- A group that does not end. -/
  | unterminatedGroup
  /-- A comment that does not end. -/
  | unterminatedComment
  /-- A pattern that ends after an opening parenthesis and question mark. -/
  | unexpectedEnd
  /-- A form of group that does not exist. -/
  | unknownExtension (form : Text)
  /-- A parenthesis that closes nothing. -/
  | unbalanced
  /-- Switches for the whole pattern behind its start. -/
  | lateSwitches
  /-- A letter that is no switch. -/
  | unknownSwitch
  /-- Switches that do not end. -/
  | missingAfterSwitches (what : Text)
  /-- Switches that do not fit. -/
  | badSwitches (why : Text)
  deriving DecidableEq, Repr

/-- The wording of a syntax fault. -/
def SyntaxFault.text : SyntaxFault → Text
  | .danglingBackslash => "bad escape (end of pattern)"
  | .badEscape e => "bad escape " ++ e
  | .incompleteEscape e => "incomplete escape " ++ e
  | .octalTooLarge e => "octal escape value " ++ e ++ " outside of range 0-0o377"
  | .missingBrace => "missing \x7b"
  | .unknownCharacter name => "undefined character name " ++ name.quoted
  | .missingName what => "missing " ++ what
  | .unterminatedName c => "missing " ++ [c] ++ ", unterminated name"
  | .badGroupName name => "bad character in group name " ++ name.quoted
  | .unknownGroup name => "unknown group name " ++ name.quoted
  | .redefinedGroup name new old =>
    "redefinition of group name " ++ name.quoted ++ " as group " ++ Text.ofNat new ++ "; was group " ++ Text.ofNat old
  | .invalidGroup index => "invalid group reference " ++ Text.ofInt index
  | .zeroGroup => "bad group number"
  | .openGroup => "cannot refer to an open group"
  | .groupOfLookbehind => "cannot refer to group defined in the same lookbehind subpattern"
  | .threeBranches => "conditional backref with more than two branches"
  | .unterminatedSet => "unterminated character set"
  | .badRange lo hi => "bad character range " ++ lo ++ "-" ++ hi
  | .nothingToRepeat => "nothing to repeat"
  | .multipleRepeat => "multiple repeat"
  | .minAboveMax => "min repeat greater than max repeat"
  | .unterminatedGroup => "missing ), unterminated subpattern"
  | .unterminatedComment => "missing ), unterminated comment"
  | .unexpectedEnd => "unexpected end of pattern"
  | .unknownExtension form => "unknown extension " ++ form
  | .unbalanced => "unbalanced parenthesis"
  | .lateSwitches => "global flags not at the start of the expression"
  | .unknownSwitch => "unknown flag"
  | .missingAfterSwitches what => "missing " ++ what
  | .badSwitches why => "bad inline flags: " ++ why

/-- Why a text is no regular expression. -/
inductive Fault
  /-- A syntax fault at a place. -/
  | malformed (cause : SyntaxFault) (place : Nat)
  /-- A look-behind whose texts have different lengths. -/
  | variableLookbehind
  /-- A repetition in a pattern whose switches refuse repetitions. -/
  | repetitionRefused (operator : Text)
  /-- A repetition count beyond what can be counted. -/
  | countTooLarge
  /-- Groups within groups beyond the depth that is read. -/
  | tooDeep
  /-- The pattern asks for the classes of ASCII and those of Unicode. -/
  | repertoiresClash
  /-- A count with more digits than an integer may have. -/
  | countTooLong (digits : Nat)
  deriving DecidableEq, Repr

/-- The place of a code point as its line and column: lines count from one, and so does the column. -/
def lineAndColumn (pattern : Text) (place : Nat) : Nat × Nat :=
  let before := pattern.take place
  (before.count ('\n' : CodePoint) + 1, (before.reverse.takeWhile (· ≠ ('\n' : CodePoint))).length + 1)

/-- The wording of a fault of `pattern`. -/
def Fault.text (pattern : Text) : Fault → Text
  | .malformed cause place =>
    let line : Text :=
      if pattern.contains ('\n' : CodePoint) then
        let (line, column) := lineAndColumn pattern place
        " (line " ++ Text.ofNat line ++ ", column " ++ Text.ofNat column ++ ")"
      else []
    cause.text ++ " at position " ++ Text.ofNat place ++ line
  | .variableLookbehind => "look-behind requires fixed-width pattern"
  | .repetitionRefused operator => "internal: unsupported template operator " ++ operator
  | .countTooLarge => "the repetition number is too large"
  | .tooDeep => "maximum recursion depth exceeded"
  | .repertoiresClash => "ASCII and UNICODE flags are incompatible"
  | .countTooLong digits => tooLongMessage digits

end FileSieve.Regex
