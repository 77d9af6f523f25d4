import FileSieve.Pattern.Search
import FileSieve.Proofs.Regex.Delimiter

/-!
# Searching with the delimiter escaped

What a pattern is searched with is not its regular expression but the body between the delimiters, in which every
delimiter is escaped. Where no backslash of the regular expression takes a delimiter for itself, this makes no
difference (`searchText_delimited`): the search finds what the regular expression finds, with the same groups. Two
things lie outside of that. Under the Unicode modifier, a pattern or a subject without an encoding is refused before
anything is searched. And a backslash that escapes a delimiter already is itself escaped, so that what stood for the
delimiter then stands for the backslash and a delimiter behind it (`escaping_changes_search`).
-/

namespace FileSieve.Pattern

open Regex

variable {regex : Text} {flags : Flags} {parsed : Parsed}

/-- Under the Unicode modifier a pattern without an encoding has no engine. -/
theorem engine_malformed (hu : flags.has .unicode) (hr : ¬Utf8.encodable regex) :
    (Pattern.mk regex flags).engine = .error (.pattern ⟨.malformed, ⟨regex, flags⟩⟩) := by
  have hcheck : ((Pattern.mk regex flags).isUnicode && !Utf8.encodable regex) = true := by
    simp [isUnicode, hu, hr]
  simp only [engine, hcheck, if_true, impossible]

/-- The engine of any other pattern is its regular expression as it stands, where that can be read. -/
theorem engine_delimited (h : parse regex flags.mode = .ok parsed)
    (hself : Token.escaped delimiter ∉ Token.ofText regex) (hr : flags.has .unicode → Utf8.encodable regex) :
    (Pattern.mk regex flags).engine = .ok parsed := by
  have hbody : parse (Pattern.mk regex flags).body flags.mode = .ok parsed := parse_delimited h hself
  have hcheck : ¬((Pattern.mk regex flags).isUnicode && !Utf8.encodable regex) = true := by
    simpa [isUnicode] using hr
  rw [engine, if_neg hcheck]
  simp only [hbody]

/-- A search finds what the regular expression finds in the subject, unless the Unicode modifier has the pattern or the
subject refused. -/
theorem searchText_delimited (h : parse regex flags.mode = .ok parsed)
    (hself : Token.escaped delimiter ∉ Token.ofText regex) (s : Text) :
    (Pattern.mk regex flags).searchText s 0 =
      if flags.has .unicode ∧ ¬(Utf8.encodable regex ∧ Utf8.encodable s) then
        .error (.pattern ⟨.malformed, ⟨regex, flags⟩⟩)
      else .ok ((parsed.search? s 0).map fun found => ⟨s, found⟩) := by
  have hwithin : ¬(!within 0 s.length) = true := by simp [within]
  rw [searchText, if_neg hwithin]
  by_cases hu : flags.has .unicode
  · by_cases hs : Utf8.encodable s
    · have hsubject : ¬((Pattern.mk regex flags).isUnicode && !Utf8.encodable s) = true := by simp [hs]
      rw [if_neg hsubject, searchFrom]
      by_cases hr : Utf8.encodable regex
      · rw [engine_delimited h hself fun _ => hr, if_neg fun hno => hno.2 ⟨hr, hs⟩]
        rfl
      · rw [engine_malformed hu hr, if_pos ⟨hu, fun hno => hr hno.1⟩]
        rfl
    · have hsubject : ((Pattern.mk regex flags).isUnicode && !Utf8.encodable s) = true := by simp [isUnicode, hu, hs]
      rw [if_pos hsubject, if_pos ⟨hu, fun hno => hs hno.2⟩]
      rfl
  · have hsubject : ¬((Pattern.mk regex flags).isUnicode && !Utf8.encodable s) = true := by simp [isUnicode, hu]
    rw [if_neg hsubject, searchFrom, engine_delimited h hself fun hno => absurd hno hu, if_neg fun hno => hu hno.1]
    rfl

/-- A delimiter is passed over in a comment and found in a range. -/
theorem searchText_delimiter_range :
    (Pattern.mk "(?#~)[|-~]+" .none).searchText "a~~" 0 = .ok (some ⟨"a~~", ⟨1, 3, []⟩⟩) := by
  have h : parse "(?#~)[|-~]+" Flags.none.mode =
      .ok ⟨.repeated .greedy 1 none (.char (.oneOf false [.range '|' '~'])), 0, Flags.none.mode⟩ := by
    decide +kernel
  rw [searchText_delimited h (by decide) "a~~"]
  decide +kernel

/-- Two regular expressions that find something by themselves and not as patterns: a dot in a subject without an
encoding under the Unicode modifier, and a delimiter that is escaped already. -/
theorem escaping_changes_search :
    (∃ parsed, parse "." (Flags.ofModifiers [.unicode]).mode = .ok parsed ∧
      parsed.search? [0xD800] 0 = some ⟨0, 1, []⟩ ∧
      (Pattern.mk "." (Flags.ofModifiers [.unicode])).searchText [0xD800] 0 =
        .error (.pattern ⟨.malformed, ⟨".", Flags.ofModifiers [.unicode]⟩⟩)) ∧
    (∃ parsed, parse "\\~" Flags.none.mode = .ok parsed ∧ parsed.search? "~" 0 = some ⟨0, 1, []⟩ ∧
      (Pattern.mk "\\~" .none).searchText "~" 0 = .ok none) :=
  ⟨⟨⟨.char .any, 0, (Flags.ofModifiers [.unicode]).mode⟩, by decide +kernel⟩,
    ⟨⟨.char (.point false '~'), 0, Flags.none.mode⟩, by decide +kernel⟩⟩

end FileSieve.Pattern
