import FileSieve.Pattern.Search
import FileSieve.Proofs.Text.Utf8

/-!
# Searching with a pattern that can be read

Where the subject is text that the pattern can be asked about, what decides a search is the engine alone: with one the
search does not fail, and without one it always does. Without the Unicode modifier nothing is asked of a subject. With
it what a text is written as is searched from between two code points like the text (`searchOctets_encode`).
-/

namespace FileSieve.Pattern

variable {p : Pattern}

theorem within_natCast {o length : Nat} : within o length = true ↔ o ≤ length := by
  simp [within]

/-! ### Texts -/

/-- From a place within a text that the pattern can be asked about, the engine is asked. -/
theorem searchText_within {s : Text} (hs : p.isUnicode = true → Utf8.encodable s = true) {k : Nat}
    (hk : k ≤ s.length) : p.searchText s k = p.searchFrom s k := by
  have hw : within k s.length = true := within_natCast.mpr hk
  have hsubject : (p.isUnicode && !Utf8.encodable s) = false := by simpa using hs
  simp [searchText, hw, hsubject]

/-- A search finds what the engine finds. -/
theorem searchText_of_encodable {parsed : Regex.Parsed} (h : p.engine = .ok parsed) {s : Text}
    (hs : p.isUnicode = true → Utf8.encodable s = true) :
    p.searchText s 0 = .ok ((parsed.search? s 0).map fun found => ⟨s, found⟩) := by
  have hfrom : p.searchText s 0 = p.searchFrom s 0 := searchText_within hs (Nat.zero_le _)
  rw [hfrom, searchFrom, h]
  rfl

/-! ### Octets -/

section

variable {b : Octets} {o : Nat} (ho : o ≤ b.length)

include ho

/-- Without the Unicode modifier octets are searched like the text of their numbers. -/
theorem searchOctets_ofLatin1 (hu : p.isUnicode = false) : p.searchOctets b o = p.searchFrom (Text.ofLatin1 b) o := by
  have hw : within o b.length = true := within_natCast.mpr ho
  simp [searchOctets, hw, hu]

variable (hu : p.isUnicode = true)

include hu

theorem searchOctets_undecoded {fault : Utf8.Fault} (h : Utf8.decode b = .error fault) :
    p.searchOctets b o = p.impossible .malformed := by
  have hw : within o b.length = true := within_natCast.mpr ho
  simp [searchOctets, hw, hu, h]

theorem searchOctets_inside {t : Text} (ht : Utf8.decode b = .ok t) (h : Utf8.isWithin b o = true) :
    p.searchOctets b o = p.impossible .withinPoint := by
  have hw : within o b.length = true := within_natCast.mpr ho
  rw [Utf8.isWithin] at h
  simp [searchOctets, hw, hu, ht, h]

omit ho in
/-- What a text is written as is searched like the text from each place between two code points: what is in front of
that place is always read as text, too. -/
theorem searchOctets_encode {t : Text} (ht : Utf8.encodable t = true) {k : Nat} (hk : k ≤ t.length) :
    p.searchOctets (Utf8.encode t) (Utf8.offsetOf t k) = p.searchFrom t k := by
  have hw : within (Utf8.offsetOf t k) (Utf8.encode t).length = true := within_natCast.mpr (Utf8.offsetOf_le t k)
  have hread : Utf8.decode (Utf8.encode t) = .ok t := Utf8.decode_eq_ok_iff.mpr ⟨ht, rfl⟩
  have hbetween : Utf8.isWithin (Utf8.encode t) (Utf8.offsetOf t k) = false := Utf8.isWithin_offsetOf t k
  have hfront := Utf8.decode_take_offsetOf ht k
  have hlength : (t.take k).length = k := by rw [List.length_take, Nat.min_eq_left hk]
  rw [Utf8.isWithin] at hbetween
  simp [searchOctets, hw, hu, hread, hbetween, hfront, hlength]

end

/-! ### Texts that need no encoding -/

theorem encodable_of_not_isUnicode (hu : p.isUnicode = false) (s : Text) :
    p.isUnicode = true → Utf8.encodable s = true :=
  fun hp => absurd (hu.symm.trans hp) Bool.false_ne_true

variable (hu : p.isUnicode = false)

include hu

theorem searchText_eq {parsed : Regex.Parsed} (h : p.engine = .ok parsed) (s : Text) :
    p.searchText s 0 = .ok ((parsed.search? s 0).map fun found => ⟨s, found⟩) :=
  searchText_of_encodable h (encodable_of_not_isUnicode hu s)

theorem searchText_error {failure : SearchFailure} (h : p.engine = .error failure) (s : Text) :
    p.searchText s 0 = .error failure := by
  have hfrom : p.searchText s 0 = p.searchFrom s 0 :=
    searchText_within (encodable_of_not_isUnicode hu s) (Nat.zero_le _)
  rw [hfrom, searchFrom, h]
  rfl

/-- A search with a pattern that has been parsed does not fail. -/
theorem matchesText_eq {parsed : Regex.Parsed} (h : p.engine = .ok parsed) (s : Text) :
    p.matchesText s = .ok (parsed.search? s 0).isSome := by
  rw [matchesText, searchText_eq hu h]
  simp [Except.map]

theorem matchesText_error {failure : SearchFailure} (h : p.engine = .error failure) (s : Text) :
    p.matchesText s = .error failure := by
  rw [matchesText, searchText_error hu h]
  rfl

/-- A pattern that is a regular expression answers every search of a text. -/
theorem matchesText_of_isWellFormed (h : p.isWellFormed = .ok true) (s : Text) :
    ∃ found, p.matchesText s = .ok found := by
  cases he : p.engine with
  | ok parsed => exact ⟨_, matchesText_eq hu he s⟩
  | error failure =>
    rw [isWellFormed, matchesText_error hu he] at h
    cases failure <;> simp at h

end FileSieve.Pattern
