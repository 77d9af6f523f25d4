import FileSieve.Text.CharName.Alias
import FileSieve.Text.CharName.BasicPlane
import FileSieve.Text.CharName.HigherPlanes
import FileSieve.Text.Ranges

/-!
# Names of code points

The code point that a Unicode character name stands for. A name is made of letters, digits, spaces, and hyphens. Most
names are listed, and the case of their letters does not matter. Two families are made up by rule: the syllables of
Hangul, named by the sounds of their parts, and the unified ideographs, named by their hexadecimal numbers; their names
are in upper case.
-/

namespace FileSieve

namespace CharName

/-- Whether a code point may stand in a name. -/
def isNamePoint (c : CodePoint) : Bool :=
  c.isAsciiLetter || c.isDigit || c = ' ' || c = '-'

/-! ### Listed names -/

/-- The words of a text. -/
def words (t : Text) : List Text :=
  Text.splitAtPoint ' ' t

/-- The words of a name by its entry in a run, behind a name with the words `before`. -/
def expand (before : List Text) : (entry : Text) → List Text
  | [] => []
  | kept :: rest => before.take kept.digitValue ++ words rest

/-- The place of a name among the entries of a run, behind a name with the words `before`. -/
def placeIn? (name before : List Text) : (entries : List Text) → Option Nat
  | [] => none
  | entry :: entries =>
    if expand before entry = name then some 0
    else (placeIn? name (expand before entry) entries).map (· + 1)

/-- The number of a name in a list of runs. -/
def listed? (name : List Text) (runs : List (Nat × List String)) : Option Nat :=
  runs.findSome? fun (first, lines) =>
    (placeIn? name [] (Text.splitAtPoint ';' (lines.flatMap Text.ofString))).map (first + ·)

/-- The number of a listed name in any case of its letters. -/
def ofList? (name : Text) : Option Nat :=
  let upper := name.map CodePoint.asciiUpper
  ((aliases.lookup (Text.toString upper)).or (listed? (words upper) basicPlane)).or (listed? (words upper) higherPlanes)

/-! ### Syllables of Hangul -/

/-- What names of syllables begin with. -/
def syllableStart : Text := "HANGUL SYLLABLE "

/-- The sounds before the vowel. -/
def leads : List Text :=
  ["G", "GG", "N", "D", "DD", "R", "M", "B", "BB", "S", "SS", "", "J", "JJ", "C", "K", "T", "P", "H"]

/-- The vowels. -/
def vowels : List Text :=
  ["A", "AE", "YA", "YAE", "EO", "E", "YEO", "YE", "O", "WA", "WAE", "OE", "YO", "U", "WEO", "WE", "WI", "YU", "EU",
    "YI", "I"]

/-- The sounds behind the vowel. -/
def tails : List Text :=
  ["", "G", "GG", "GS", "N", "NJ", "NH", "D", "L", "LG", "LM", "LB", "LS", "LT", "LP", "LH", "M", "B", "BS", "S", "SS",
    "NG", "J", "C", "K", "T", "P", "H"]

/-- The place and the length of the longest of the sounds that a text begins with. -/
def longest? (t : Text) (sounds : List Text) : Option (Nat × Nat) :=
  sounds.zipIdx.foldl (fun best (sound, place) =>
    if sound.isPrefixOf t && best.all (fun (_, length) => length < sound.length) then some (place, sound.length)
    else best) none

/-- The number of a syllable by its sounds. -/
def ofSounds? (t : Text) : Option Nat := do
  let (lead, n) ← longest? t leads
  let (vowel, m) ← longest? (t.drop n) vowels
  let (tail, k) ← longest? (t.drop (n + m)) tails
  if t.length = n + m + k then some (0xAC00 + (lead * vowels.length + vowel) * tails.length + tail) else none

/-! ### Ideographs -/

/-- What names of ideographs begin with. -/
def ideographStart : Text := "CJK UNIFIED IDEOGRAPH-"

/-- The ranges of the unified ideographs, in ascending order. -/
def ideographRanges : List (Nat × Nat) := [
  (0x3400, 0x4DBF), (0x4E00, 0x9FFF), (0x20000, 0x2A6DF), (0x2A700, 0x2B738), (0x2B740, 0x2B81D), (0x2B820, 0x2CEA1),
  (0x2CEB0, 0x2EBE0), (0x30000, 0x3134A)]

/-- The number of an ideograph by four or five hexadecimal digits. -/
def ofNumber? (t : Text) : Option Nat :=
  if (t.length = 4 || t.length = 5) && t.all (fun c => c.isHexDigit && !c.isAsciiLower) then
    let n := t.foldl (fun n c => n * 16 + c.hexValue?.getD 0) 0
    if Ranges.contains ideographRanges n then some n else none
  else none

end CharName

/-- The code point with a name. -/
def CodePoint.ofName? (name : Text) : Option CodePoint :=
  let number :=
    if !name.all CharName.isNamePoint then none
    else if name.startsWith CharName.syllableStart then CharName.ofSounds? (name.drop CharName.syllableStart.length)
    else if name.startsWith CharName.ideographStart then CharName.ofNumber? (name.drop CharName.ideographStart.length)
    else CharName.ofList? name
  number.map CodePoint.ofNat

end FileSieve
