import FileSieve.Proofs.Pattern.Failure

/-!
# Octets and the text they are read as

A pattern with the Unicode modifier searches octets like the text that they encode: from a place between two code
points the search has the outcome that it has in the text behind as many code points, and every other place is refused,
as are octets that encode no text. A pattern without it searches octets like the text of their numbers. An offset
outside of the octets is refused whatever they are, unless it has too many digits to be named (`search_octets`).
-/

namespace FileSieve.Pattern

open Utf8

/-- An outcome is an error of the pattern `p`, of a kind. -/
def FailsWith (kind : Error.Kind) (p : Pattern) (outcome : Except SearchFailure (Option Found)) : Prop :=
  ∃ e : Pattern.Error, outcome = .error (.pattern e) ∧ e.kind = kind ∧ e.pattern = p

variable {p : Pattern} {b : Octets} {s : Text} {o k : Nat}

theorem failsWith_impossible (p : Pattern) (cause : Error.Cause) :
    FailsWith (Error.kind ⟨cause, p⟩) p (p.impossible cause) :=
  ⟨⟨cause, p⟩, rfl, rfl, rfl⟩

/-! ### Within the subject -/

/-- Octets are searched like a text: from a place between two code points as from the code point there, and not at all
from any other place. -/
structure SearchesEncoded (p : Pattern) : Prop where
  /-- Behind the first `k` code points. -/
  between : ∀ s, encodable s = true → ∀ k ≤ s.length,
    p.search (.octets (encode s)) (.int (offsetOf s k)) = p.search (.text s) (.int k)
  /-- At a place that is not behind some number of code points. -/
  inside : ∀ s, encodable s = true → ∀ o ≤ (encode s).length, (∀ k ≤ s.length, o ≠ offsetOf s k) →
    FailsWith .badEncodingOffset p (p.search (.octets (encode s)) (.int o))
  /-- In octets that encode no text. -/
  unread : ∀ b, (∀ s, encodable s = true → encode s ≠ b) → ∀ o ≤ b.length,
    FailsWith .malformedEncoding p (p.search (.octets b) (.int o))

theorem searchesEncoded (hu : p.isUnicode = true) : p.SearchesEncoded where
  between s hs k hk := by
    have htext : p.search (.text s) (.int k) = p.searchFrom s k := searchText_within (fun _ => hs) hk
    rw [htext]
    exact searchOctets_encode hu hs hk
  inside s hs o ho hne := by
    have ht : decode (encode s) = .ok s := decode_eq_ok_iff.mpr ⟨hs, rfl⟩
    have hinside : isWithin (encode s) o = true := by
      by_contra h
      obtain ⟨k, hk, hok⟩ := exists_offsetOf ho (Bool.eq_false_iff.mpr h)
      exact hne k hk hok
    have hsearch : p.search (.octets (encode s)) (.int o) = p.impossible .withinPoint :=
      searchOctets_inside ho hu ht hinside
    rw [hsearch]
    exact failsWith_impossible p .withinPoint
  unread b hb o ho := by
    obtain ⟨fault, hfault⟩ := exists_fault hb
    have hsearch : p.search (.octets b) (.int o) = p.impossible .malformed := searchOctets_undecoded ho hu hfault
    rw [hsearch]
    exact failsWith_impossible p .malformed

/-- Without the Unicode modifier octets are searched like the text of their numbers. -/
theorem search_ofLatin1 (hu : p.isUnicode = false) (ho : o ≤ b.length) :
    p.search (.octets b) (.int o) = p.search (.text (Text.ofLatin1 b)) (.int o) := by
  have hlength : (Text.ofLatin1 b).length = b.length := List.length_map ..
  have htext : p.search (.text (Text.ofLatin1 b)) (.int o) = p.searchFrom (Text.ofLatin1 b) o :=
    searchText_within (encodable_of_not_isUnicode hu _) (hlength ▸ ho)
  rw [htext]
  exact searchOctets_ofLatin1 ho hu

/-! ### Any offset -/

theorem failsWith_outside {offset : Int} (h : ¬TooLong offset) : FailsWith .internal p (p.outside offset) := by
  unfold outside
  rw [Int.digits_of_not_tooLong h]
  exact failsWith_impossible p (.outside (Text.ofInt offset))

/-- That octets in front of the offset cannot be read is never found out in the middle of a search. -/
theorem search_ne_undecodable (offset : Int) (fault : Fault) :
    p.search (.octets b) (.int offset) ≠ .error (.misuse (.undecodable fault)) := by
  intro h
  have hlength : searchedLength? (.octets b) = some b.length := rfl
  cases hw : within offset b.length with
  | true => cases slip_of_search hlength hw h
  | false =>
    rw [search_outside hlength hw] at h
    cases (outside_misuse_iff.mp h).2

/-- With the Unicode modifier octets are searched like the text that they encode, and without it like the text of their
numbers. An offset outside of them is refused whatever they are, if it can be named. -/
theorem search_octets (p : Pattern) :
    (p.isUnicode = true → p.SearchesEncoded) ∧
      (p.isUnicode = false → ∀ (b : Octets) (o : Nat), o ≤ b.length →
        p.search (.octets b) (.int o) = p.search (.text (Text.ofLatin1 b)) (.int o)) ∧
      ∀ (b : Octets) (offset : Int),
        (within offset b.length = false → ¬TooLong offset →
          FailsWith .internal p (p.search (.octets b) (.int offset))) ∧
        (within offset b.length = false → TooLong offset →
          p.search (.octets b) (.int offset) = .error (.misuse .tooLongToWrite)) ∧
        ∀ fault, p.search (.octets b) (.int offset) ≠ .error (.misuse (.undecodable fault)) := by
  refine ⟨searchesEncoded, fun hu b o => search_ofLatin1 hu, fun b offset => ?_⟩
  have hlength : searchedLength? (.octets b) = some b.length := rfl
  refine ⟨fun hw hshort => ?_, fun hw hlong => ?_, search_ne_undecodable offset⟩
  · rw [search_outside hlength hw]
    exact failsWith_outside hshort
  · rw [search_outside hlength hw]
    exact outside_misuse_iff.mpr ⟨hlong, rfl⟩

theorem one_lt_natAbs_of_tooLong {offset : Int} (h : TooLong offset) : 1 < offset.natAbs := by
  have hpow (k : Nat) (hk : k ≠ 0) : 1 < Nat.pow 10 k := Nat.one_lt_pow hk (by decide)
  exact (hpow maxDigits (by decide)).trans_le h

/-- A code point of four octets in front of a letter. -/
theorem search_four_octets :
    let p : Pattern := ⟨"a", .ofModifiers [.unicode]⟩
    let s : Text := [CodePoint.ofNat 0x1F600, 'a']
    p.search (.octets (encode s)) (.int 4) = p.search (.text s) (.int 1) ∧
      FailsWith .badEncodingOffset p (p.search (.octets (encode s)) (.int 2)) ∧
      FailsWith .malformedEncoding p (p.search (.octets [0x61, 0xFF]) (.int 1)) ∧
      FailsWith .internal p (p.search (.octets [0x61]) (.int (-1))) := by
  intro p s
  obtain ⟨hunicode, -, houtside⟩ := search_octets p
  obtain ⟨hbetween, hinside, hunread⟩ := hunicode (by decide)
  have hs : encodable s = true := by decide
  refine ⟨hbetween s hs 1 (by decide), hinside s hs 2 (by decide) (by decide), ?_, ?_⟩
  · refine hunread [0x61, 0xFF] (fun t ht hencode => ?_) 1 (by decide)
    cases (decode_eq_ok_iff.mpr ⟨ht, hencode⟩ : decode [0x61, 0xFF] = .ok t)
  · exact (houtside [0x61] (-1)).1 (by decide) fun hlong => absurd (one_lt_natAbs_of_tooLong hlong) (by decide)

/-- An offset outside of the octets that cannot be named is not refused as an error of the pattern. -/
theorem search_unnamed_offset :
    ∃ (p : Pattern) (b : Octets) (offset : Int), p.isUnicode = true ∧ within offset b.length = false ∧
      ¬FailsWith .internal p (p.search (.octets b) (.int offset)) := by
  have hunnamed (n : Nat) (hn : Nat.pow 10 maxDigits ≤ n) (p : Pattern) : within n 1 = false ∧
      ¬FailsWith .internal p (p.search (.octets [0x61]) (.int n)) := by
    have hlong : TooLong n := hn
    have hw : within n 1 = false := by
      rw [Bool.eq_false_iff, Ne, within_natCast, Nat.not_le]
      exact one_lt_natAbs_of_tooLong hlong
    have hlength : searchedLength? (.octets [0x61]) = some 1 := rfl
    refine ⟨hw, ?_⟩
    rintro ⟨e, he, -⟩
    rw [search_outside hlength hw, outside_misuse_iff.mpr ⟨hlong, rfl⟩] at he
    cases he
  exact ⟨⟨"a", .ofModifiers [.unicode]⟩, [0x61], (Nat.pow 10 maxDigits : Nat), by decide,
    hunnamed _ (Nat.le_refl _) _⟩

end FileSieve.Pattern
