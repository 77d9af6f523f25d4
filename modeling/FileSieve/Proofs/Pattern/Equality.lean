import FileSieve.Pattern.Subject
import FileSieve.Proofs.Text.Escape
import Mathlib.Data.Int.Bitwise
import Mathlib.Data.List.Basic

/-!
# When patterns are equal

Patterns are equal when they are rendered alike. The letters of the modifiers have no delimiter among them, so the last
delimiter of the rendered form is where its body ends, and in the body every delimiter has a backslash of its own in
front: the rendered form determines the regular expression and the modifiers, and nothing else of a pattern enters into
it (`rendered_inj`). A search, too, depends on nothing else, so that equal patterns find the same and fail alike
(`Alike.search`).
-/

namespace FileSieve

/-! ### Flags of an integer -/

namespace Flags

variable {f g : Flags}

/-- The modifiers among the flags with the bits of an integer are those whose bits it has. -/
theorem has_ofBits (n : Int) (m : Modifier) : (ofBits n).has m = n.testBit m.bit := by
  have hm : m.bit < 5 := by cases m <;> decide
  cases n with
  | ofNat n => rfl
  | negSucc n =>
    have hcomplement {k : Nat} (hk : m.bit < k) (hn : n < 2 ^ k) :
        (2 ^ k - (n + 1)).testBit m.bit = !n.testBit m.bit := by
      rw [Nat.testBit_two_pow_sub_succ hn, decide_eq_true hk, Bool.true_and]
    simp only [ofBits, has, Int.testBit]
    split_ifs with h
    · exact hcomplement hm (Nat.lt_of_succ_le h)
    · have hlog : 5 ≤ (n + 1).log2 := (Nat.le_log2 (Nat.succ_ne_zero n)).mpr (Nat.le_of_not_le h)
      have hpow : 2 ^ 5 ≤ 2 ^ ((n + 1).log2 + 1) := Nat.pow_le_pow_right Nat.two_pos (Nat.le_succ_of_le hlog)
      have hbits : max range (Nat.pow 2 ((n + 1).log2 + 1)) = 2 ^ ((n + 1).log2 + 1) := Nat.max_eq_right hpow
      rw [hbits]
      exact hcomplement (by omega) (Nat.lt_of_succ_lt Nat.lt_log2_self)

theorem mem_modifiers (f : Flags) (m : Modifier) : m ∈ Modifier.all.filter f.has ↔ f.has m = true := by
  have hall : m ∈ Modifier.all := by cases m <;> decide
  simp [hall]

theorem letter_injective : Function.Injective Modifier.letter := by
  intro m n h
  revert h
  cases m <;> cases n <;> decide

/-- The letters tell which modifiers are among the flags. -/
theorem letters_inj : f.letters = g.letters ↔ ∀ m, f.has m = g.has m := by
  constructor
  · intro h m
    have hfilter : Modifier.all.filter f.has = Modifier.all.filter g.has :=
      List.map_injective_iff.mpr letter_injective h
    rw [Bool.eq_iff_iff, ← mem_modifiers f, ← mem_modifiers g, hfilter]
  · intro h
    have hhas : f.has = g.has := funext h
    rw [letters, letters, hhas]

end Flags

namespace Pattern

variable {p q : Pattern}

/-! ### The rendered form -/

/-- What stands between the first code point of a text and the last delimiter. -/
def enclosed (t : Text) : Text :=
  ((t.reverse.dropWhile (· != delimiter)).tail.reverse).tail

/-- What stands behind the last delimiter of a text. -/
def trailing (t : Text) : Text :=
  (t.reverse.takeWhile (· != delimiter)).reverse

theorem ne_delimiter_of_mem_modifiers {c : CodePoint} (h : c ∈ p.modifiers.reverse) : (c != delimiter) = true := by
  obtain ⟨m, -, rfl⟩ := List.mem_map.mp (List.mem_reverse.mp h)
  cases m <;> decide

theorem reverse_rendered (p : Pattern) :
    p.rendered.reverse = p.modifiers.reverse ++ delimiter :: (p.body.reverse ++ [delimiter]) := by
  simp [rendered]

/-- The body is recovered from the rendered form by the last delimiter. -/
theorem enclosed_rendered (p : Pattern) : enclosed p.rendered = p.body := by
  rw [enclosed, reverse_rendered, List.dropWhile_append_of_pos fun _ => ne_delimiter_of_mem_modifiers]
  simp

theorem trailing_rendered (p : Pattern) : trailing p.rendered = p.modifiers := by
  rw [trailing, reverse_rendered, List.takeWhile_append_of_pos fun _ => ne_delimiter_of_mem_modifiers]
  simp

/-- Two patterns have the same regular expression and the same modifiers. -/
structure Alike (p q : Pattern) : Prop where
  /-- The regular expressions. -/
  regex : p.regex = q.regex
  /-- The modifiers. -/
  flags : ∀ m, p.flags.has m = q.flags.has m

/-- Patterns are rendered alike when they have the same regular expression and the same modifiers. -/
theorem rendered_inj : p.rendered = q.rendered ↔ p.Alike q := by
  constructor
  · intro h
    have hbody : p.body = q.body := by rw [← enclosed_rendered p, ← enclosed_rendered q, h]
    have hletters : p.modifiers = q.modifiers := by rw [← trailing_rendered p, ← trailing_rendered q, h]
    exact ⟨Text.replacePoint_injective (by decide) hbody, Flags.letters_inj.mp hletters⟩
  · intro h
    rw [rendered, rendered, body, body, modifiers, modifiers, h.regex, Flags.letters_inj.mpr h.flags]

theorem equal_iff : p.equal q = true ↔ p.Alike q := by
  rw [equal, beq_iff_eq, rendered_inj]

/-! ### What a search depends on -/

/-- What is said of a failure: the kind of an error of a pattern, its wording and the pattern in its rendered form, or
what else is wrong. -/
inductive Said
  /-- An error of a pattern. -/
  | error (kind : Error.Kind) (message rendered : Text)
  /-- Anything else. -/
  | misuse (m : Misuse)
  deriving DecidableEq, Repr

/-- What is said of a failure. -/
def said : SearchFailure → Said
  | .pattern e => .error e.kind e.message e.pattern.rendered
  | .misuse m => .misuse m

/-- Two outcomes are the same but for which of two patterns an error is one of. -/
inductive SameOutcome (p q : Pattern) {α : Type} : Except SearchFailure α → Except SearchFailure α → Prop
  /-- Both give the same. -/
  | ok (a : α) : SameOutcome p q (.ok a) (.ok a)
  /-- Both are impossible for the same cause. -/
  | impossible (cause : Error.Cause) : SameOutcome p q (p.impossible cause) (q.impossible cause)
  /-- Both fail in the same other way. -/
  | misuse (m : Misuse) : SameOutcome p q (.error (.misuse m)) (.error (.misuse m))

namespace SameOutcome

variable {α β : Type} {x y : Except SearchFailure α}

theorem bind {f : α → Except SearchFailure β} {g : α → Except SearchFailure β} (h : SameOutcome p q x y)
    (hf : ∀ a, SameOutcome p q (f a) (g a)) : SameOutcome p q (x >>= f) (y >>= g) := by
  cases h with
  | ok a => exact hf a
  | impossible cause => exact .impossible cause
  | misuse m => exact .misuse m

/-- One condition decides both outcomes. -/
theorem ite {c : Prop} [Decidable c] {x' y' : Except SearchFailure α} (h : SameOutcome p q x y)
    (h' : SameOutcome p q x' y') : SameOutcome p q (if c then x else x') (if c then y else y') := by
  split_ifs
  · exact h
  · exact h'

end SameOutcome

namespace Alike

variable (h : p.Alike q)

include h

theorem isUnicode : p.isUnicode = q.isUnicode :=
  h.flags .unicode

theorem body : p.body = q.body := by
  rw [Pattern.body, Pattern.body, h.regex]

theorem mode : p.flags.mode = q.flags.mode := by
  simp only [Flags.mode, h.flags]

theorem engine : SameOutcome p q p.engine q.engine := by
  rw [Pattern.engine, Pattern.engine, h.isUnicode, h.regex, h.body, h.mode]
  refine .ite (.impossible .malformed) ?_
  split
  · exact .ok _
  · exact .misuse .repertoiresClash
  · exact .misuse _
  · exact .impossible _

theorem searchFrom (subject : Text) (place : Nat) :
    SameOutcome p q (p.searchFrom subject place) (q.searchFrom subject place) :=
  h.engine.bind fun _ => .ok _

omit h in
theorem outside (offset : Int) :
    SameOutcome p q (p.outside offset : Except SearchFailure (Option Found)) (q.outside offset) := by
  unfold Pattern.outside
  cases Int.digits offset with
  | ok digits => exact .impossible (.outside digits)
  | error m => exact .misuse m

theorem searchText (subject : Text) (offset : Int) :
    SameOutcome p q (p.searchText subject offset) (q.searchText subject offset) := by
  rw [Pattern.searchText, Pattern.searchText, h.isUnicode]
  exact .ite (outside offset) (.ite (.impossible .malformed) (h.searchFrom ..))

theorem searchOctets (subject : Octets) (offset : Int) :
    SameOutcome p q (p.searchOctets subject offset) (q.searchOctets subject offset) := by
  rw [Pattern.searchOctets, Pattern.searchOctets, h.isUnicode]
  refine .ite (outside offset) (.ite (h.searchFrom ..) ?_)
  cases Utf8.decode subject with
  | error fault => exact .impossible .malformed
  | ok text =>
    refine .ite (.impossible .withinPoint) ?_
    cases Utf8.decode (subject.take offset.toNat) with
    | error fault => exact .misuse (.undecodable fault)
    | ok front => exact h.searchFrom text front.length

theorem searchUnfit (kind : Kind) (misuse : Misuse) :
    SameOutcome p q (p.searchUnfit kind misuse) (q.searchUnfit kind misuse) := by
  rw [Pattern.searchUnfit, Pattern.searchUnfit, h.isUnicode]
  exact .ite (.misuse _) (h.engine.bind fun _ => .misuse misuse)

theorem searchAt (subject : Value) (offset : Int) :
    SameOutcome p q (p.searchAt subject offset) (q.searchAt subject offset) := by
  unfold Pattern.searchAt
  split
  · exact h.searchText ..
  · exact h.searchOctets ..
  · exact h.searchOctets ..
  · refine .ite (outside offset) ?_
    cases subject.length with
    | error m => exact .misuse m
    | ok length => exact .ite (outside offset) (h.searchUnfit ..)

theorem searchAtFloat (subject : Value) (offset : Binary64) :
    SameOutcome p q (p.searchAtFloat subject offset) (q.searchAtFloat subject offset) := by
  rw [Pattern.searchAtFloat, Pattern.searchAtFloat, h.isUnicode]
  refine .ite (.impossible (.outside offset.text)) ?_
  cases subject.length with
  | error m => exact .misuse m
  | ok length =>
    refine .ite (.impossible (.outside offset.text)) ?_
    cases subject with
    | text t => exact .ite (.impossible .malformed) (h.engine.bind fun _ => .misuse _)
    | octets b | buffer b =>
      refine .ite (h.engine.bind fun _ => .misuse _) ?_
      cases Utf8.decode b with
      | error fault => exact .impossible .malformed
      | ok text => exact .ite (.misuse _) (.misuse _)
    | _ => exact h.searchUnfit ..

/-- Patterns with the same regular expression and the same modifiers find the same and fail alike, whatever they are
asked to search and from where on. -/
theorem search (subject offset : Value) : SameOutcome p q (p.search subject offset) (q.search subject offset) := by
  cases offset with
  | int n => exact h.searchAt subject n
  | bool b => exact h.searchAt subject (if b then 1 else 0)
  | float x => exact h.searchAtFloat subject x
  | _ => exact .misuse _

end Alike

/-- The same is said of two failures that are the same but for which of two alike patterns they are of. -/
theorem SameOutcome.mapError_said {α : Type} {x y : Except SearchFailure α} (hpq : p.Alike q)
    (h : SameOutcome p q x y) : x.mapError said = y.mapError said := by
  cases h with
  | ok a => rfl
  | misuse m => rfl
  | impossible cause =>
    have hmessage : Error.message ⟨cause, p⟩ = Error.message ⟨cause, q⟩ := by
      simp only [Error.message, Error.kind, hpq.body]
    have hsaid : said (.pattern ⟨cause, p⟩) = said (.pattern ⟨cause, q⟩) := by
      rw [said, said, hmessage, rendered_inj.mpr hpq]
      rfl
    exact congrArg Except.error hsaid

/-- Two patterns are equal exactly when their regular expressions are, with everything put in for placeholders, and the
integers that their flags are given as have the same bits of modifiers. Then they have the same hash, and every search
with them finds the same, or the same is said of its failure. -/
theorem equal_ofTemplate (r₁ r₂ : Text) (f₁ f₂ : Int) (binds₁ binds₂ : List (Text × Text)) :
    let p := ofTemplate r₁ (.ofBits f₁) binds₁
    let q := ofTemplate r₂ (.ofBits f₂) binds₂
    (p.equal q = true ↔ p.regex = q.regex ∧ ∀ m : Modifier, f₁.testBit m.bit = f₂.testBit m.bit) ∧
      (p.equal q = true → (∀ textHash, p.hash textHash = q.hash textHash) ∧
        ∀ subject offset, (p.search subject offset).mapError said = (q.search subject offset).mapError said) := by
  intro p q
  have hflags (m : Modifier) :
      p.flags.has m = q.flags.has m ↔ f₁.testBit m.bit = f₂.testBit m.bit := by
    rw [← Flags.has_ofBits, ← Flags.has_ofBits]
    rfl
  refine ⟨?_, fun h => ?_⟩
  · rw [equal_iff]
    constructor
    · exact fun h => ⟨h.regex, fun m => (hflags m).mp (h.flags m)⟩
    · exact fun h => ⟨h.1, fun m => (hflags m).mpr (h.2 m)⟩
  · have halike : p.Alike q := equal_iff.mp h
    refine ⟨fun textHash => ?_, fun subject offset => (halike.search subject offset).mapError_said halike⟩
    rw [hash, hash, rendered_inj.mpr halike]

/-- All modifiers, given by a negative integer and by one with another bit among them. -/
theorem equal_other_bits :
    let p := ofTemplate "%h~" (.ofBits (-1)) [("%h", "a.b")]
    let q := ofTemplate "a\\.b~" (.ofBits 95) []
    p.flags ≠ q.flags ∧ p.equal q = true ∧
      ∀ subject offset, (p.search subject offset).mapError said = (q.search subject offset).mapError said := by
  intro p q
  obtain ⟨hequal, hsame⟩ := equal_ofTemplate "%h~" "a\\.b~" (-1) 95 [("%h", "a.b")] []
  have hpq : p.equal q = true := hequal.mpr ⟨by decide +kernel, fun m => by cases m <;> decide⟩
  exact ⟨by decide, hpq, (hsame hpq).2⟩

end Pattern

end FileSieve
