import FileSieve.Pattern.Subject
import FileSieve.Proofs.Pattern.Search
import FileSieve.Proofs.Regex.Provenance
import FileSieve.Proofs.Text.Escape

/-!
# How a search fails

A pattern is made of every text and of every number that can be taken for flags: of all but those with a modifier's
bit among so many others that they cannot be written (`Flags.Unnameable`). A search of a text or of octets gives an
answer or fails with an error of the pattern, and whether a pattern is well formed is always answered, but for three
things that are found out in another way. Two of them are slips of the pattern (`Slip`): switches to the repertoire that
the flags do not ask for, and a count of more digits than an integer may have. The third is an offset outside of the
subject that has too many digits to be named. `misuse_cases` says that there is nothing else, and `fails_otherwise` that
it does happen.
-/

namespace FileSieve

/-! ### Flags that cannot be named -/

namespace Flags

/-- There is a modifier among the flags, and the bits without a meaning have too many digits to be written. -/
def Unnameable (flags : Flags) : Prop :=
  flags.bits % range ≠ 0 ∧ TooLong flags.unnamed

/-- A number is taken for the flags with its bits unless they cannot be named. -/
theorem ofInt_cases (n : Int) :
    (¬(ofBits n).Unnameable ∧ ofInt n = .ok (ofBits n)) ∨
      ((ofBits n).Unnameable ∧ ofInt n = .error .tooLongToWrite) := by
  unfold ofInt
  by_cases hnamed : (ofBits n).bits % range = 0
  · exact .inl ⟨fun h => h.1 hnamed, if_pos hnamed⟩
  · simp only [if_neg hnamed]
    by_cases hlong : TooLong (ofBits n).unnamed
    · exact .inr ⟨⟨hnamed, hlong⟩, by rw [Int.digits_of_tooLong hlong]; rfl⟩
    · exact .inl ⟨fun h => hlong h.2, by rw [Int.digits_of_not_tooLong hlong]; rfl⟩

/-- One more than a number that is too long to be written and has no modifier's bit. -/
theorem unnameable_succ {n : Nat} (hbits : n % range = 0) (hlong : Nat.pow 10 maxDigits ≤ n) :
    (ofBits (n + 1 : Nat)).Unnameable := by
  rw [range] at hbits
  have hunnamed : (ofBits (n + 1 : Nat)).unnamed = n := by
    change (n + 1) / 32 * 32 = n
    omega
  have hnamed : (n + 1) % 32 ≠ 0 := by omega
  refine ⟨hnamed, ?_⟩
  rw [hunnamed]
  exact hlong

end Flags

namespace Pattern

open Regex

variable {p : Pattern}

/-! ### Slips of a pattern -/

/-- The letter that switches to the repertoire that the flags do not ask for. -/
def otherRepertoire (p : Pattern) : CodePoint :=
  if p.isUnicode then 'a' else 'u'

/-- What the engine refuses in another way than as a regular expression, with what it comes from in the pattern. -/
inductive Slip (p : Pattern) : Misuse → Prop where
  /-- Switches for the whole pattern have the letter of the other repertoire among them. -/
  | repertoire {w : Text} : switchText w <:+: p.regex → (∀ d ∈ w, Reading.isSwitch d = true) → p.otherRepertoire ∈ w →
      Slip p .repertoiresClash
  /-- More digits than an integer may have stand one after the other. -/
  | digits {w : Text} : w <:+: p.regex → Digits w → maxDigits < w.length → Slip p (.tooManyDigits w.length)

variable {m : Misuse}

/-- A short pattern without the letter of the other repertoire has no slip. -/
theorem not_slip (hletter : p.otherRepertoire ∉ p.regex) (hlength : p.regex.length ≤ maxDigits) : ¬p.Slip m := by
  rintro (⟨hw, -, hmem⟩ | ⟨hw, -, hlong⟩)
  · exact hletter (hw.subset (by simp [switchText, hmem]))
  · exact absurd (hw.length_le.trans hlength) (Nat.not_le.mpr hlong)

/-- Switches in the body of a pattern are switches in the pattern. -/
theorem slip_of_hasSwitch (h : HasSwitch (Token.ofText p.body) p.otherRepertoire) : p.Slip .repertoiresClash := by
  obtain ⟨w, hw, hmem, hletters⟩ := h
  have hne (d : CodePoint) (hd : Reading.isSwitch d = false) (ho : d ≠ '(' ∧ d ≠ '?' ∧ d ≠ ')') : d ∉ switchText w := by
    intro hin
    simp only [switchText, List.mem_cons, List.mem_append, List.not_mem_nil, or_false] at hin
    rcases hin with h | h | h | h
    · exact ho.1 h
    · exact ho.2.1 h
    · exact absurd (hletters d h) (Bool.eq_false_iff.mp hd)
    · exact ho.2.2 h
  have hregex : switchText w <:+: p.regex :=
    Text.infix_of_replacePoint hw.infix (hne '\\' (by decide) (by decide)) (hne delimiter (by decide) (by decide))
  exact .repertoire hregex hletters hmem

/-- Digits in the body of a pattern are digits in the pattern. -/
theorem slip_of_digits {w : Text} (hw : Spells (Token.ofText p.body) w) (hdigits : Digits w)
    (hlong : maxDigits < w.length) : p.Slip (.tooManyDigits w.length) := by
  have hne (d : CodePoint) (hd : d.isDigit = false) : d ∉ w := fun hin =>
    absurd (hdigits d hin) (Bool.eq_false_iff.mp hd)
  have hregex : w <:+: p.regex :=
    Text.infix_of_replacePoint hw.infix (hne '\\' (by decide)) (hne delimiter (by decide))
  exact .digits hregex hdigits hlong

/-- What the engine refuses in another way is a slip of the pattern. -/
theorem slip_of_engine (h : p.engine = .error (.misuse m)) : p.Slip m := by
  have hsound := sound_parse p.body p.flags.mode
  unfold engine at h
  split at h
  · cases h
  · split at h
    · cases h
    · next hclash =>
      cases h
      rw [hclash] at hsound
      obtain ⟨hascii, hunicode⟩ := hsound
      -- The mode at the start has one of the two repertoires, so the other one is switched to.
      refine slip_of_hasSwitch ?_
      cases hu : p.isUnicode with
      | true =>
        rw [otherRepertoire, hu]
        exact hascii.resolve_left (by simpa [Flags.mode, isUnicode] using hu)
      | false =>
        rw [otherRepertoire, hu]
        exact hunicode.resolve_left (by simpa [Flags.mode, isUnicode] using hu)
    · next n hcount =>
      cases h
      rw [hcount] at hsound
      obtain ⟨hlong, w, hdigits, hw, rfl⟩ := hsound
      exact slip_of_digits hw hdigits hlong
    · cases h

theorem slip_of_searchFrom {subject : Text} {place : Nat} (h : p.searchFrom subject place = .error (.misuse m)) :
    p.Slip m := by
  unfold searchFrom at h
  cases he : p.engine with
  | ok parsed =>
    rw [he] at h
    cases h
  | error failure =>
    rw [he] at h
    exact slip_of_engine (he.trans (congrArg Except.error (Except.error.inj h)))

/-! ### Texts and octets -/

/-- The length of what can be searched: the code points of a text, the octets of octets. -/
def searchedLength? : Value → Option Nat
  | .text t => some t.length
  | .octets b | .buffer b => some b.length
  | _ => none

variable {subject : Value} {length : Nat} (hs : searchedLength? subject = some length) {offset : Int}

include hs

omit hs in
theorem within_zero {n : Nat} (h : 0 < n) : within n 0 = false := by
  simp only [within, Bool.and_eq_false_iff, decide_eq_false_iff_not]
  exact .inr (by omega)

theorem search_outside (h : within offset length = false) : p.search subject (.int offset) = p.outside offset := by
  unfold searchedLength? at hs
  split at hs
  · obtain rfl := Option.some.inj hs
    simp [search, searchAt, searchText, h]
  · obtain rfl := Option.some.inj hs
    simp [search, searchAt, searchOctets, h]
  · obtain rfl := Option.some.inj hs
    simp [search, searchAt, searchOctets, h]
  · exact absurd hs (Option.some_ne_none length).symm

omit hs in
theorem searchOctets_within {b : Octets} (h : within offset b.length = true) :
    (∃ cause, p.searchOctets b offset = p.impossible cause) ∨
      ∃ t place, p.searchOctets b offset = p.searchFrom t place := by
  obtain ⟨o, rfl⟩ : ∃ o : Nat, offset = o := Int.eq_ofNat_of_zero_le (by simp [within] at h; exact h.1)
  have ho : o ≤ b.length := within_natCast.mp h
  cases hu : p.isUnicode with
  | false => exact .inr ⟨_, _, searchOctets_ofLatin1 ho hu⟩
  | true =>
    cases ht : Utf8.decode b with
    | error fault => exact .inl ⟨_, searchOctets_undecoded ho hu ht⟩
    | ok t =>
      cases hinside : Utf8.isWithin b o with
      | true => exact .inl ⟨_, searchOctets_inside ho hu ht hinside⟩
      | false =>
        obtain ⟨hencodable, rfl⟩ := Utf8.decode_eq_ok_iff.mp ht
        obtain ⟨k, hk, rfl⟩ := Utf8.exists_offsetOf ho hinside
        exact .inr ⟨t, k, searchOctets_encode hu hencodable hk⟩

/-- From an offset within the subject a search is impossible, or it is the search of a text. -/
theorem search_within (h : within offset length = true) :
    (∃ cause, p.search subject (.int offset) = p.impossible cause) ∨
      ∃ t place, p.search subject (.int offset) = p.searchFrom t place := by
  unfold searchedLength? at hs
  split at hs
  · next t =>
    obtain rfl := Option.some.inj hs
    rw [search, searchAt, searchText, if_neg (by simp [h])]
    split_ifs
    · exact .inl ⟨_, rfl⟩
    · exact .inr ⟨_, _, rfl⟩
  · obtain rfl := Option.some.inj hs
    exact searchOctets_within h
  · obtain rfl := Option.some.inj hs
    exact searchOctets_within h
  · exact absurd hs (Option.some_ne_none length).symm

/-- From an offset within the subject a search fails with a slip of the pattern, if not with an error of it. -/
theorem slip_of_search (hw : within offset length = true) (h : p.search subject (.int offset) = .error (.misuse m)) :
    p.Slip m := by
  rcases search_within (p := p) hs hw with ⟨cause, hsearch⟩ | ⟨t, place, hsearch⟩
  · rw [hsearch] at h
    cases h
  · rw [hsearch] at h
    exact slip_of_searchFrom h

omit hs in
/-- An offset outside of the subject is an error of the pattern unless it is too long to be named. -/
theorem outside_misuse_iff :
    (p.outside offset : Except SearchFailure (Option Found)) = .error (.misuse m) ↔
      TooLong offset ∧ m = .tooLongToWrite := by
  unfold outside
  by_cases hlong : TooLong offset
  · rw [Int.digits_of_tooLong hlong, and_iff_right hlong]
    simp only [Except.error.injEq, SearchFailure.misuse.injEq, eq_comm]
  · rw [Int.digits_of_not_tooLong hlong]
    exact iff_of_false nofun fun h => hlong h.1

omit hs

theorem matchesIn_misuse_iff : p.matchesIn subject (.int offset) = .error (.misuse m) ↔
    p.search subject (.int offset) = .error (.misuse m) := by
  unfold matchesIn
  cases p.search subject (.int offset) <;> simp [Except.map]

/-- Whether a pattern is well formed is answered unless it has a slip. -/
theorem isWellFormed_cases (p : Pattern) :
    (∃ found, p.isWellFormed = .ok found) ∨ ∃ m, p.isWellFormed = .error (.misuse m) ∧ p.Slip m := by
  unfold isWellFormed
  split
  · exact .inl ⟨true, rfl⟩
  · exact .inl ⟨false, rfl⟩
  · next m hm =>
    have hlength : searchedLength? (.text []) = some 0 := rfl
    have hin : p.matchesIn (.text []) (.int 0) = .error (.misuse m) := hm
    exact .inr ⟨m, rfl, slip_of_search hlength (by decide) (matchesIn_misuse_iff.mp hin)⟩

/-- A pattern is made of its text and of any number with the bits of its flags, unless they cannot be named. -/
theorem make_cases (p : Pattern) (f : Int) (hf : Flags.ofBits f = p.flags) :
    (¬p.flags.Unnameable ∧ make p.regex f [] = .ok p) ∨
      (p.flags.Unnameable ∧ make p.regex f [] = .error .tooLongToWrite) := by
  rw [← hf]
  refine (Flags.ofInt_cases f).imp (And.imp_right fun h => ?_) (And.imp_right fun h => ?_)
  · rw [make, h, hf]
    rfl
  · rw [make, h]
    rfl

/-- A pattern is made of its text and of a number for its flags unless they cannot be named. Whether it is well formed
is answered, and a search of a text or of octets gives an answer or fails with an error of the pattern, unless the
pattern has a slip or the offset lies outside of the subject and cannot be named. -/
theorem misuse_cases (p : Pattern) :
    (∀ f, Flags.ofBits f = p.flags → (¬p.flags.Unnameable ∧ make p.regex f [] = .ok p) ∨
      (p.flags.Unnameable ∧ make p.regex f [] = .error .tooLongToWrite)) ∧
    ((∃ found, p.isWellFormed = .ok found) ∨ ∃ m, p.isWellFormed = .error (.misuse m) ∧ p.Slip m) ∧
      ∀ subject length, searchedLength? subject = some length → ∀ (offset : Int) (m : Misuse),
        (p.matchesIn subject (.int offset) = .error (.misuse m) ↔
          p.search subject (.int offset) = .error (.misuse m)) ∧
        (within offset length = true → p.search subject (.int offset) = .error (.misuse m) → p.Slip m) ∧
        (within offset length = false →
          (p.search subject (.int offset) = .error (.misuse m) ↔ TooLong offset ∧ m = .tooLongToWrite)) := by
  refine ⟨make_cases p, isWellFormed_cases p, fun subject length hs offset m => ⟨matchesIn_misuse_iff, slip_of_search hs, ?_⟩⟩
  intro hw
  rw [search_outside hs hw]
  exact outside_misuse_iff

/-- A group that does not end, behind a switch, in octets that are not text. -/
theorem unclosed_group_fails :
    Pattern.make "(?i)(" 0 [] = .ok ⟨"(?i)(", .none⟩ ∧
      (∃ found, (Pattern.mk "(?i)(" .none).isWellFormed = .ok found) ∧
      ∀ m, (Pattern.mk "(?i)(" .none).search (.octets [0xFF]) (.int 1) ≠ .error (.misuse m) := by
  obtain ⟨hmake, hformed, hsearch⟩ := misuse_cases ⟨"(?i)(", .none⟩
  have hnamed : ¬Flags.none.Unnameable := fun h => h.1 rfl
  have hslip (m : Misuse) : ¬(Pattern.mk "(?i)(" .none).Slip m := not_slip (by decide) (by decide)
  refine ⟨?_, ?_, ?_⟩
  · exact (hmake 0 rfl).elim And.right fun h => absurd h.1 hnamed
  · rcases hformed with hfound | ⟨m, -, hm⟩
    · exact hfound
    · exact absurd hm (hslip m)
  · intro m hm
    exact hslip m ((hsearch (.octets [0xFF]) 1 rfl 1 m).2.1 (by decide) hm)

/-- Switches to the other repertoire are not reported as an error of the pattern, and neither is an offset that cannot
be named; of flags that cannot be named no pattern is made. -/
theorem fails_otherwise :
    (Pattern.mk "(?u)a" .none).isWellFormed = .error (.misuse .repertoiresClash) ∧
      (Pattern.mk "(?a)a" (.ofModifiers [.unicode])).isWellFormed = .error (.misuse .repertoiresClash) ∧
      (Pattern.mk "a" .none).search (.text []) (.int (Nat.pow 10 maxDigits : Nat)) =
        .error (.misuse .tooLongToWrite) ∧
      Pattern.make "a" (Nat.pow 10 maxDigits + 1 : Nat) [] = .error .tooLongToWrite := by
  have hlong (n : Nat) (hn : Nat.pow 10 maxDigits ≤ n) :
      (Pattern.mk "a" .none).search (.text []) (.int n) = .error (.misuse .tooLongToWrite) := by
    have hpos (k : Nat) : 0 < Nat.pow 10 k := Nat.pow_pos (by decide)
    have houtside : within n 0 = false := within_zero ((hpos maxDigits).trans_le hn)
    have hlength : searchedLength? (.text []) = some 0 := rfl
    rw [search_outside hlength houtside, outside_misuse_iff]
    exact ⟨hn, rfl⟩
  have hmake (n : Nat) (hbits : n % Flags.range = 0) (hn : Nat.pow 10 maxDigits ≤ n) :
      Pattern.make "a" (n + 1 : Nat) [] = .error .tooLongToWrite :=
    (make_cases ⟨"a", .ofBits (n + 1 : Nat)⟩ (n + 1 : Nat) rfl).elim
      (fun h => absurd (Flags.unnameable_succ hbits hn) h.1) And.right
  exact ⟨by decide +kernel, by decide +kernel, hlong _ (Nat.le_refl _), hmake _ (by decide +kernel) (Nat.le_refl _)⟩

end Pattern

end FileSieve
