import FileSieve.Pattern.Subject
import FileSieve.Proofs.Pattern.Search
import FileSieve.Proofs.Pattern.Substitution
import FileSieve.Proofs.Regex.Literal

/-!
# Quoted texts and bound values

Where case counts, a quoted text finds the first place of the text, whatever code points it has
(`search_quotedLiteral`); the only ones that quoting leaves with a meaning are those of white space, which extended
patterns skip. In other patterns the text is found exactly as it stands (`quoted_text_found`).

The value that a placeholder stands for is quoted, so a template that is one placeholder finds the first place of its
value (`search_ofTemplate`). In an extended pattern a bound value is found as it stands exactly when it has no white
space (`search_bound`), and otherwise what is left of it is.
-/

namespace FileSieve

/-! ### Quoted texts -/

theorem encodable_quotedLiteral {v : Text} (hv : Utf8.encodable v = true) : Utf8.encodable v.quotedLiteral = true := by
  simp only [Utf8.encodable, Text.quotedLiteral, List.all_eq_true, List.mem_flatMap] at hv ⊢
  rintro d ⟨c, hc, hd⟩
  unfold quotePoint at hd
  split_ifs at hd
  · rcases List.mem_pair.mp hd with rfl | rfl
    · rfl
    · exact hv d hc
  · exact List.all_eq_true.mp (by decide : ("\\000" : Text).all (fun c => !c.isSurrogate) = true) d hd
  · obtain rfl := List.mem_singleton.mp hd
    exact hv d hc

namespace Pattern

open Regex

/-- The engine of a quoted text is a row of literal nodes. -/
theorem engine_quotedLiteral {flags : Flags} {v : Text} (hv : flags.has .unicode = true → Utf8.encodable v = true) :
    (Pattern.mk v.quotedLiteral flags).engine =
      .ok { node := Node.ofList ((kept (flags.has .comments) v).map literalNode), groups := 0,
            mode := flags.mode } := by
  have hcheck : (flags.has .unicode && !Utf8.encodable v.quotedLiteral) = false := by
    simpa using fun hu => encodable_quotedLiteral (hv hu)
  have hclash : (flags.mode.ascii && flags.mode.unicode) = false := by simp [Flags.mode]
  have hparse := parse_quotedLiteral v hclash rfl
  rw [engine, isUnicode, hcheck, body, hparse]
  rfl

/-- A quoted text is found where what is read of it stands for the first time. -/
theorem search_quotedLiteral {flags : Flags} {v s : Text} (hi : flags.has .caseInsensitive = false)
    (hv : flags.has .unicode = true → Utf8.encodable v = true)
    (hs : flags.has .unicode = true → Utf8.encodable s = true) :
    (Pattern.mk v.quotedLiteral flags).search (.text s) =
      .ok (((kept (flags.has .comments) v).placeOf? s).map fun i =>
        ⟨s, ⟨i, i + (kept (flags.has .comments) v).length, []⟩⟩) := by
  have hsearch := searchText_of_encodable (engine_quotedLiteral hv) hs
  rw [search_literal (m := flags.mode) hi, Option.map_map] at hsearch
  exact hsearch

/-- A quoted text is not found where the text does not stand, and otherwise its first place is found. -/
theorem quoted_text_found (t : Text) (flags : Flags) (hi : flags.has .caseInsensitive = false)
    (hx : flags.has .comments = false) (ht : flags.has .unicode = true → Utf8.encodable t = true) (s : Text)
    (hs : flags.has .unicode = true → Utf8.encodable s = true) :
    (¬t <:+: s → (Pattern.mk t.quotedLiteral flags).search (.text s) = .ok none) ∧
      (t <:+: s → ∃ i, (Pattern.mk t.quotedLiteral flags).search (.text s) = .ok (some ⟨s, ⟨i, i + t.length, []⟩⟩) ∧
        t <+: s.drop i ∧ ∀ j < i, ¬t <+: s.drop j) := by
  have hsearch := search_quotedLiteral hi ht hs
  have hkept : kept (flags.has .comments) t = t := by simp [kept, hx]
  rw [hkept] at hsearch
  constructor
  · intro hnot
    rw [hsearch, Text.placeOf?_eq_none_iff.mpr hnot]
    rfl
  · intro hin
    obtain ⟨i, hplace⟩ := Option.ne_none_iff_exists'.mp fun hnone => Text.placeOf?_eq_none_iff.mp hnone hin
    obtain ⟨-, hthere, hbefore⟩ := Text.placeOf?_eq_some_iff.mp hplace
    exact ⟨i, by rw [hsearch, hplace]; rfl, hthere, hbefore⟩

/-- NUL before a digit, a backslash before the delimiter and a newline are found behind what only begins like them. -/
theorem quoted_text_found_unusual :
    (Pattern.mk (Text.quotedLiteral "\x001\\~\né") (.ofModifiers [.unicode, .multiline])).search
        (.text "\x001\\~\n\x001\\~\né") = .ok (some ⟨"\x001\\~\n\x001\\~\né", ⟨5, 11, []⟩⟩) ∧
      (Pattern.mk (Text.quotedLiteral "\x001\\~\né") (.ofModifiers [.unicode, .multiline])).search
        (.text "\x01\\~\né") = .ok none := by
  have hfound := quoted_text_found "\x001\\~\né" (.ofModifiers [.unicode, .multiline]) (by decide) (by decide)
    (by decide)
  refine ⟨?_, (hfound _ (by decide)).1 (by decide)⟩
  obtain ⟨i, hsearch, hthere, hbefore⟩ := (hfound "\x001\\~\n\x001\\~\né" (by decide)).2 (by decide)
  have hge : 5 ≤ i := by
    by_contra hlt
    have hnot : ∀ j < 5, ¬("\x001\\~\né" : Text) <+: ("\x001\\~\n\x001\\~\né" : Text).drop j := by decide
    exact hnot i (Nat.lt_of_not_le hlt) hthere
  obtain rfl : i = 5 := Nat.le_antisymm (Nat.le_of_not_lt fun hlt => hbefore 5 hlt (by decide)) hge
  exact hsearch

end Pattern

/-! ### Putting a value in place of a key -/

/-- A text that is one key becomes what takes its place. -/
theorem Substitution.apply_key {key : Text} (hkey : key ≠ []) (new : Text) : apply [(key, new)] key = new := by
  have hlongest : longest? [(key, new)] (key ++ []) = some (key, new) := by simp [longest?]
  have hwalk := walk_found hkey hlongest
  rw [List.append_nil] at hwalk
  rw [apply_eq_walk (by simpa [Proper] using hkey), hwalk]
  simp [walk]

namespace Pattern

open Regex

section

variable {flags : Flags} {key v : Text} (hkey : key ≠ [])

include hkey

/-- A template that is one placeholder is the quoted value. -/
theorem ofTemplate_key : ofTemplate key flags [(key, v)] = ⟨v.quotedLiteral, flags⟩ := by
  have hfilter : ([(key, v)].filter fun bind => !bind.1.isEmpty) = [(key, v)] := by simp [hkey]
  rw [ofTemplate, hfilter, List.map_singleton, Substitution.apply_key hkey]

/-- The value of a placeholder is found where what is read of it stands for the first time. -/
theorem search_ofTemplate (hi : flags.has .caseInsensitive = false)
    (hv : flags.has .unicode = true → Utf8.encodable v = true) {s : Text}
    (hs : flags.has .unicode = true → Utf8.encodable s = true) :
    (ofTemplate key flags [(key, v)]).search (.text s) =
      .ok (((kept (flags.has .comments) v).placeOf? s).map fun i =>
        ⟨s, ⟨i, i + (kept (flags.has .comments) v).length, []⟩⟩) := by
  rw [ofTemplate_key hkey, search_quotedLiteral hi hv hs]

end

/-- In an extended pattern a bound value is found without its white space, so it is found in every text as it stands
exactly when it has none. -/
theorem search_bound (flags : Flags) (v : Text) (hx : flags.has .comments = true)
    (hi : flags.has .caseInsensitive = false) (hv : flags.has .unicode = true → Utf8.encodable v = true) :
    (∀ s, (flags.has .unicode = true → Utf8.encodable s = true) →
      (ofTemplate "@x" flags [("@x", v)]).search (.text s) =
        .ok (((kept true v).placeOf? s).map fun i => ⟨s, ⟨i, i + (kept true v).length, []⟩⟩)) ∧
    ((∀ s, (flags.has .unicode = true → Utf8.encodable s = true) →
      (ofTemplate "@x" flags [("@x", v)]).search (.text s) =
        .ok ((v.placeOf? s).map fun i => ⟨s, ⟨i, i + v.length, []⟩⟩)) ↔
      ∀ c ∈ v, c.isAsciiSpace = false) := by
  have hfound : ∀ s, (flags.has .unicode = true → Utf8.encodable s = true) →
      (ofTemplate "@x" flags [("@x", v)]).search (.text s) =
        .ok (((kept true v).placeOf? s).map fun i => ⟨s, ⟨i, i + (kept true v).length, []⟩⟩) := by
    intro s hs
    rw [search_ofTemplate (by decide) hi hv hs, hx]
  refine ⟨hfound, ?_⟩
  rw [← kept_eq_self_iff]
  constructor
  · -- The value itself is a text in which a shorter one is found in its place.
    intro h
    have hself := (hfound v hv).symm.trans (h v hv)
    rw [Text.placeOf?_self, Except.ok.injEq, Option.map_some, Option.map_eq_some_iff] at hself
    obtain ⟨i, -, hi⟩ := hself
    simp only [Found.mk.injEq, Match.mk.injEq, true_and, and_true] at hi
    exact List.filter_sublist.eq_of_length (by simpa [kept, hi.1] using hi.2)
  · intro h
    rw [h] at hfound
    exact hfound

/-- A bound value with the sign of a comment in it is found behind the same text in other letters. -/
theorem search_bound_remark :
    (ofTemplate "@x" (.ofModifiers [.comments]) [("@x", "a#b")]).search (.text "A#ba#b") =
      .ok (some ⟨"A#ba#b", ⟨3, 6, []⟩⟩) :=
  ((search_bound (.ofModifiers [.comments]) "a#b" (by decide) (by decide) (by decide)).1 "A#ba#b" (by decide)).trans
    (by decide +kernel)

/-- A bound value with a space in it is not found in itself. -/
theorem bound_space_not_found :
    Text.placeOf? "a b" "a b" = some 0 ∧
      (ofTemplate "@x" (.ofModifiers [.comments]) [("@x", "a b")]).search (.text "a b") = .ok none := by
  decide +kernel

end Pattern

end FileSieve
