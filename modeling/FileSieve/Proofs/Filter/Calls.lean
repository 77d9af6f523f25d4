import FileSieve.Proofs.Config.Validity
import FileSieve.Proofs.Filter.Section
import FileSieve.Proofs.Text.Trim
import Mathlib.Data.List.Forall2

/-!
# A section as calls

What a valid section says of a filter can be said in calls as well: one for each key that has a value with something in
it, in the order of the keys (`callsOf`). A new filter that these calls set up, up to the first that fails, is the filter
of the section, and where one of them fails the section fails likewise (`sameOutcome_ofSection`). Only the log can tell
the two apart: a text of nothing but commas lists no globs, and is passed over in a section but reported by the call.

Globs may be given in one text, with white space around each and commas between them. Since neither is part of a glob
that is listed so, such a text is read as the list of its globs (`globItems_joined`), and stands for it in calls and in
sections.
-/

namespace FileSieve

open Config (checkFilterEntries checkFilterEntries_ok_iff field)

/-- Whether there is a value, with something in it. -/
def Value.isGiven (value : Value) : Bool :=
  match value.length with
  | .ok n => n != 0
  | .error _ => !value.isNone

namespace Sieve

variable {f : Sieve} {entries : Entries} {key : Text} {s t u : Setting}

/-! ### One call after the other -/

theorem andThen_assoc (s : Setting) (first second : Sieve → Setting) :
    (s.andThen first).andThen second = s.andThen fun f => (first f).andThen second := by
  obtain ⟨f, before, after, failure⟩ := s
  cases failure with
  | some e => rfl
  | none =>
    simp only [Setting.andThen]
    obtain ⟨f', before', after', failure⟩ := first f
    cases failure with
    | some e => rfl
    | none => simp only [Setting.entries, List.append_assoc]

theorem nothing_andThen (f : Sieve) (next : Sieve → Setting) : Setting.andThen { filter := f } next = next f := by
  simp [Setting.andThen, Setting.entries]

/-- A filter after calls, up to the first that fails. -/
def made (f : Sieve) : List Attempt → Setting
  | [] => { filter := f }
  | call :: calls => (call.apply f).andThen (made · calls)

theorem made_append (f : Sieve) (before after : List Attempt) :
    made f (before ++ after) = (made f before).andThen (made · after) := by
  induction before generalizing f with
  | nil => rw [List.nil_append, made, nothing_andThen]
  | cons call before ih => simp only [List.cons_append, made, ih, andThen_assoc]

/-- Settings that give the same filter, or fail for the same reason. -/
structure SameOutcome (s t : Setting) : Prop where
  /-- The filter afterwards is the same. -/
  filter : s.filter = t.filter
  /-- Both succeed, or they fail alike. -/
  failure : s.failure = t.failure

theorem SameOutcome.rfl : SameOutcome s s := ⟨Eq.refl _, Eq.refl _⟩

theorem SameOutcome.trans (h : SameOutcome s t) (h' : SameOutcome t u) : SameOutcome s u :=
  ⟨h.filter.trans h'.filter, h.failure.trans h'.failure⟩

theorem sameOutcome_made (f : Sieve) (call : Attempt) : SameOutcome (call.apply f) (made f [call]) := by
  rw [made, Setting.andThen]
  split
  · exact .rfl
  · next hfailure => exact ⟨Eq.refl _, hfailure⟩

theorem SameOutcome.andThen {next next' : Sieve → Setting} (h : SameOutcome s t)
    (hnext : SameOutcome (next s.filter) (next' s.filter)) : SameOutcome (s.andThen next) (t.andThen next') := by
  rw [Setting.andThen, Setting.andThen, ← h.failure]
  cases s.failure with
  | some e => exact h
  | none => exact ⟨by rw [← h.filter, hnext.filter], by rw [← h.filter, hnext.failure]⟩

/-! ### The calls of a section -/

/-- The call with the value of a key, if there is something in it. -/
def callOf (entries : Entries) (key : Text) (call : Value → Attempt) : List Attempt :=
  if (field entries key).isGiven then [call (field entries key)] else []

/-- The separators of a section. -/
def separatorsOf (entries : Entries) : Value :=
  match field entries Key.separator with
  | .none => .text Glob.defaultSeparators
  | value => value

/-- The calls that a section stands for. -/
def callsOf (entries : Entries) : List Attempt :=
  let caseFold := (entries.get? (.text Key.caseFold)).getD (.bool true)
  let flags := Flags.ofLetters (field entries Key.nameRegexFlags).spelled
  callOf entries Key.whitelist (.whitelist · (separatorsOf entries) caseFold) ++
    callOf entries Key.blacklist (.blacklist · (separatorsOf entries) caseFold) ++
    callOf entries Key.nameRegex (fun regex => .pattern { regex := regex.spelled, flags }) ++
    callOf entries Key.size .sizes ++
    callOf entries Key.mtime .times

/-! #### Globs -/

/-- Globs and options that come to the same give the same pattern. -/
theorem patternOfGlobs_congr {globs globs' separators separators' : Value} (hglobs : globsOf globs = globsOf globs')
    (hseparators : ({} : Glob.Options).override separators = ({} : Glob.Options).override separators')
    (caseFold : Value) : patternOfGlobs globs separators caseFold = patternOfGlobs globs' separators' caseFold := by
  rw [patternOfGlobs, patternOfGlobs, hglobs, hseparators]

theorem withWhitelist_congr {globs globs' separators separators' caseFold : Value}
    (h : patternOfGlobs globs separators caseFold = patternOfGlobs globs' separators' caseFold) :
    f.withWhitelist globs separators caseFold = f.withWhitelist globs' separators' caseFold := by
  rw [withWhitelist, withWhitelist, h]

theorem withBlacklist_congr {globs globs' separators separators' caseFold : Value}
    (h : patternOfGlobs globs separators caseFold = patternOfGlobs globs' separators' caseFold) :
    f.withBlacklist globs separators caseFold = f.withBlacklist globs' separators' caseFold := by
  rw [withBlacklist, withBlacklist, h]

/-- Where there are no separators, those of the compiler are used. -/
theorem override_separatorsOf (entries : Entries) :
    ({} : Glob.Options).override (separatorsOf entries) = ({} : Glob.Options).override (field entries Key.separator) := by
  rw [separatorsOf]
  cases field entries Key.separator <;> rfl

theorem blacklist_withWhitelist (f : Sieve) (globs separators caseFold : Value) :
    (f.withWhitelist globs separators caseFold).filter.blacklist = f.blacklist := by
  unfold withWhitelist
  split <;> rfl

theorem blacklist_withGlobs (globs separators caseFold : Value) (f : Sieve) :
    (withGlobs globs (withWhitelist · · separators caseFold) f).filter.blacklist = f.blacklist := by
  unfold withGlobs
  split
  · rfl
  · rfl
  · exact blacklist_withWhitelist f _ _ _

/-- No globs in place of none make no difference. -/
theorem sameOutcome_withBlacklist (h : f.blacklist = none) (separators caseFold : Value) :
    SameOutcome { filter := f } (f.withBlacklist (.list []) separators caseFold) := by
  obtain ⟨clock, whitelist, blacklist, nameRegex, sizeClauses, timeClauses⟩ := f
  cases h
  exact ⟨rfl, rfl⟩

/-- A value with nothing in it lists no globs. -/
theorem globsOf_of_not_given {value : Value} {items : List Value} (hgiven : value.isGiven = false)
    (h : globsOf value = .ok items) : items = [] := by
  cases value with
  | none => exact (Except.ok.inj h).symm
  | text t =>
    obtain rfl : t = [] := by simpa [Value.isGiven, Value.length] using hgiven
    exact (Except.ok.inj h).symm
  | octets b | buffer b =>
    obtain rfl : b = [] := by simpa [Value.isGiven, Value.length] using hgiven
    exact (Except.ok.inj h).symm
  | list globs | tuple globs | set globs =>
    obtain rfl : globs = [] := by simpa [Value.isGiven, Value.length] using hgiven
    exact (Except.ok.inj h).symm
  | dict entries =>
    obtain rfl : entries = [] := by simpa [Value.isGiven, Value.length] using hgiven
    exact (Except.ok.inj h).symm
  | _ => cases hgiven

/-- Globs are set by a section as by the call with them, for a filter in which no globs make no difference. -/
theorem sameOutcome_withGlobs {set : Sieve → Value → Setting} {call : Value → Attempt}
    (hvalid : Config.checkGlobsOf entries key = .ok ())
    (hcall : ∀ value items, globsOf value = .ok items → (call value).apply f = set f (.list items))
    (hnone : SameOutcome { filter := f } (set f (.list []))) :
    SameOutcome (withGlobs (field entries key) set f) (made f (callOf entries key call)) := by
  obtain ⟨texts, htexts⟩ := exists_texts hvalid
  rw [withGlobs, callOf, htexts]
  split_ifs with hgiven
  · have hmade := sameOutcome_made f (call (field entries key))
    rw [hcall _ _ htexts] at hmade
    cases texts with
    | nil => exact hnone.trans hmade
    | cons first texts => exact hmade
  · obtain rfl : texts = [] := List.map_eq_nil_iff.mp (globsOf_of_not_given (by simpa using hgiven) htexts)
    exact .rfl

/-! #### The other keys -/

/-- A predicate is set by a section as by the call with it. -/
theorem sameOutcome_withValue {set : Sieve → Value → Setting} {call : Value → Attempt}
    (hvalid : Config.checkPredicateOf entries key = .ok ()) (hcall : ∀ value, (call value).apply f = set f value) :
    SameOutcome (withValue (field entries key) set f) (made f (callOf entries key call)) := by
  have hgiven : (field entries key).isGiven = !(field entries key).isNone := by
    unfold Config.checkPredicateOf at hvalid
    generalize field entries key = value at hvalid
    cases value with
    | text t =>
      cases t with
      | nil => cases hvalid
      | cons c t => rfl
    | none => rfl
    | int n => rfl
    | float x => rfl
    | _ => cases hvalid
  rw [withValue, callOf, hgiven]
  cases (field entries key).isNone with
  | true => exact .rfl
  | false =>
    simp only [Bool.not_false, Bool.false_eq_true, if_true, if_false]
    rw [← hcall]
    exact sameOutcome_made f _

/-- The regular expression is set by a section as by the call with its pattern. -/
theorem sameOutcome_withRegexOf (hregex : Config.checkNameRegex entries = .ok ())
    (hmodifiers : Config.checkModifiersOf entries = .ok ()) :
    SameOutcome (withRegexOf entries f) (made f (callOf entries Key.nameRegex fun regex =>
      .pattern { regex := regex.spelled, flags := .ofLetters (field entries Key.nameRegexFlags).spelled })) := by
  rw [callOf]
  simp only [withRegexOf, flagsOf_ok hmodifiers]
  unfold Config.checkNameRegex at hregex
  split at hregex
  · rename_i hnone
    rw [hnone]
    exact .rfl
  · rename_i c rest htext
    rw [htext]
    exact sameOutcome_made f
      (.pattern { regex := c :: rest, flags := .ofLetters (field entries Key.nameRegexFlags).spelled })
  · obtain ⟨shown, -, hrefused⟩ := bind_eq_ok.mp hregex
    cases hrefused

/-! #### The section -/

/-- A valid section has the outcome of its calls. -/
theorem sameOutcome_ofSection (clock : Clock) (h : Config.checkFilter (.dict entries) = .ok ()) :
    SameOutcome (ofSection clock (.dict entries)) (made { clock } (callsOf entries)) := by
  have hentries : checkFilterEntries entries = .ok () := h
  obtain ⟨-, hfields⟩ := checkFilterEntries_ok_iff.mp hentries
  obtain ⟨-, -, hwhitelist, hblacklist, hregex, hmodifiers, hsize, hmtime⟩ :=
    (Config.forall_fieldChecks (p := fun _ check => check entries = .ok ())).mp hfields
  rw [ofSection, Value.asEntries]
  simp only [hentries, withEntries, callsOf, made_append]
  refine .andThen (.andThen (.andThen (.andThen ?_ ?_) ?_) ?_) ?_
  · refine sameOutcome_withGlobs hwhitelist (fun value items hitems => ?_) ⟨rfl, rfl⟩
    exact withWhitelist_congr (patternOfGlobs_congr hitems (override_separatorsOf entries) _)
  · refine sameOutcome_withGlobs hblacklist (fun value items hitems => ?_) ?_
    · exact withBlacklist_congr (patternOfGlobs_congr hitems (override_separatorsOf entries) _)
    · exact sameOutcome_withBlacklist (blacklist_withGlobs _ _ _ _) _ _
  · exact sameOutcome_withRegexOf hregex hmodifiers
  · exact sameOutcome_withValue hsize fun _ => rfl
  · exact sameOutcome_withValue hmtime fun _ => rfl

/-! ### Globs in one text -/

/-- A glob that can be given in a text with others: neither empty nor with a comma, and without white space at its
ends. -/
structure Listable (glob : Text) : Prop where
  /-- It is not empty. -/
  nonempty : glob ≠ []
  /-- There is no comma in it. -/
  noComma : CodePoint.ofChar ',' ∉ glob
  /-- It begins with no white space -/
  head : ∀ c ∈ glob.head?, c.isBlank = false
  /-- and ends with none. -/
  last : ∀ c ∈ glob.getLast?, c.isBlank = false

/-- A text with white space around it. -/
def Padded (t part : Text) : Prop :=
  ∃ before after : Text, (∀ c ∈ before, c.isBlank = true) ∧ (∀ c ∈ after, c.isBlank = true) ∧ part = before ++ t ++ after

/-- The texts, each with white space around it, and commas between them. -/
def Joined (globs : List Text) (t : Text) : Prop :=
  ∃ parts, List.Forall₂ Padded globs parts ∧ t = Text.join "," parts

theorem splitAtPoint_eq_splitOn (sep : CodePoint) (t : Text) : Text.splitAtPoint sep t = t.splitOn sep := by
  induction t with
  | nil => rfl
  | cons c t ih =>
    rw [Text.splitAtPoint, List.splitOn_cons_eq_if_modifyHead, ← ih]
    simp only [beq_iff_eq]
    split_ifs with hsep
    · rfl
    · obtain ⟨part, parts, hparts⟩ := List.exists_cons_of_ne_nil (Text.splitAtPoint_ne_nil sep t)
      rw [hparts]
      rfl

theorem join_eq_intercalate (sep : Text) (parts : List Text) : Text.join sep parts = sep.intercalate parts := by
  induction parts with
  | nil => rfl
  | cons part parts ih =>
    cases parts with
    | nil => rw [Text.join, List.intercalate_singleton]
    | cons next parts =>
      rw [Text.join, ih, List.intercalate_cons_cons]
      exact List.cons_ne_nil _ _

theorem comma_not_isBlank : CodePoint.isBlank ',' = false := by decide

theorem Padded.strip {glob part : Text} (h : Padded glob part) (hglob : Listable glob) : part.strip = glob := by
  obtain ⟨before, after, hbefore, hafter, rfl⟩ := h
  rw [Text.strip, trim_padded hbefore hafter, trim_eq_self hglob.head hglob.last]

theorem Padded.noComma {glob part : Text} (h : Padded glob part) (hglob : Listable glob) :
    CodePoint.ofChar ',' ∉ part := by
  obtain ⟨before, after, hbefore, hafter, rfl⟩ := h
  simp only [List.mem_append, not_or]
  refine ⟨⟨fun hc => ?_, hglob.noComma⟩, fun hc => ?_⟩
  · exact absurd (hbefore _ hc) (by simp [comma_not_isBlank])
  · exact absurd (hafter _ hc) (by simp [comma_not_isBlank])

/-- The parts of a text with globs have no commas, and are the globs without the white space. -/
theorem parts_of_padded {globs parts : List Text} (hglobs : ∀ glob ∈ globs, Listable glob)
    (h : List.Forall₂ Padded globs parts) :
    (∀ part ∈ parts, CodePoint.ofChar ',' ∉ part) ∧ parts.map Text.strip = globs := by
  induction h with
  | nil => exact ⟨List.forall_mem_nil _, rfl⟩
  | cons hpart _ ih =>
    obtain ⟨hglob, hglobs⟩ := List.forall_mem_cons.mp hglobs
    obtain ⟨hcommas, hstrip⟩ := ih hglobs
    exact ⟨List.forall_mem_cons.mpr ⟨hpart.noComma hglob, hcommas⟩, by rw [List.map_cons, hpart.strip hglob, hstrip]⟩

/-- Globs in one text are read as what they are. -/
theorem globItems_joined {globs : List Text} {t : Text} (hne : globs ≠ []) (hglobs : ∀ glob ∈ globs, Listable glob)
    (h : Joined globs t) : Config.globItems t = globs := by
  obtain ⟨parts, hparts, rfl⟩ := h
  obtain ⟨hcommas, hstrip⟩ := parts_of_padded hglobs hparts
  have hsplit : Text.splitAtPoint ',' (Text.join "," parts) = parts := by
    have hparts : parts ≠ [] := fun hnil => hne (by rw [← hstrip, hnil]; rfl)
    rw [splitAtPoint_eq_splitOn, join_eq_intercalate]
    exact List.splitOn_intercalate _ hcommas hparts
  rw [Config.globItems, hsplit, hstrip, List.filter_eq_self]
  intro glob hglob
  simpa using (hglobs glob hglob).nonempty

theorem globsOf_joined {globs : List Text} {t : Text} (hne : globs ≠ []) (hglobs : ∀ glob ∈ globs, Listable glob)
    (h : Joined globs t) : globsOf (.text t) = globsOf (.list (globs.map .text)) := by
  rw [globsOf, globItems_joined hne hglobs h]
  rfl

/-- Globs in one text are as valid as the list of them. -/
theorem checkGlobs_joined {globs : List Text} {t : Text} (hne : globs ≠ []) (hglobs : ∀ glob ∈ globs, Listable glob)
    (h : Joined globs t) : Config.checkGlobs (.text t) = Config.checkGlobs (.list (globs.map .text)) := by
  rw [Config.checkGlobs, Config.checkGlobs, globItems_joined hne hglobs h]
  exact List.forM_map.symm

/-- Sections that list the same globs and agree under the other keys give the same filter. -/
theorem withEntries_congr {base upper : Entries}
    (hglobs : ∀ key, globsOf (field base key) = globsOf (field upper key))
    (hother : ∀ key ∈ [Key.separator, Key.caseFold, Key.nameRegex, Key.nameRegexFlags, Key.size, Key.mtime],
      base.get? (.text key) = upper.get? (.text key)) : f.withEntries base = f.withEntries upper := by
  simp only [List.forall_mem_cons, List.not_mem_nil, IsEmpty.forall_iff, implies_true, and_true] at hother
  obtain ⟨hseparator, hcaseFold, hregex, hflags, hsize, hmtime⟩ := hother
  have hregexOf : withRegexOf base = withRegexOf upper := by
    funext f
    rw [withRegexOf, withRegexOf, Config.field_congr hregex, Config.field_congr hflags]
  have hset (key : Text) (set : Sieve → Value → Setting) :
      withGlobs (field base key) set = withGlobs (field upper key) set := by
    funext f
    rw [withGlobs, withGlobs, hglobs]
  simp only [withEntries, hset, Config.field_congr hseparator, hcaseFold, hregexOf, Config.field_congr hsize,
    Config.field_congr hmtime]

/-- Globs in one text give the section that the list of them gives. -/
theorem ofSection_joined {globs : List Text} {t : Text} (hne : globs ≠ []) (hglobs : ∀ glob ∈ globs, Listable glob)
    (h : Joined globs t) (hkey : key ∈ [Key.whitelist, Key.blacklist]) (clock : Clock) (entries : Entries) :
    ofSection clock (.dict (entries.insert (.text key) (.text t))) =
      ofSection clock (.dict (entries.insert (.text key) (.list (globs.map .text)))) := by
  have hfield (value : Value) : field (entries.insert (.text key) value) key = value :=
    Config.field_of_get? Entries.get?_insert_self
  have hget {k : Text} (hk : k ≠ key) (value : Value) :
      Entries.get? (entries.insert (.text key) value) (.text k) = Entries.get? entries (.text k) :=
    Entries.get?_insert_of_ne hk
  -- No other key is one of the two, so the checks and the criteria of the other keys do not see what is under this one.
  have hothers : ∀ k ∈ [Key.separator, Key.caseFold, Key.nameRegex, Key.nameRegexFlags, Key.size, Key.mtime], k ≠ key := by
    have hlists : ∀ key ∈ [Key.whitelist, Key.blacklist],
        ∀ k ∈ [Key.separator, Key.caseFold, Key.nameRegex, Key.nameRegexFlags, Key.size, Key.mtime], k ≠ key := by
      decide
    exact hlists key hkey
  have hcheck : checkFilterEntries (entries.insert (.text key) (.text t)) =
      checkFilterEntries (entries.insert (.text key) (.list (globs.map .text))) := by
    have hlisted : Config.checkGlobsOf (entries.insert (.text key) (.text t)) key =
        Config.checkGlobsOf (entries.insert (.text key) (.list (globs.map .text))) key := by
      simp only [Config.checkGlobsOf, hfield, checkGlobs_joined hne hglobs h]
    simp only [List.forall_mem_cons, List.not_mem_nil, IsEmpty.forall_iff, implies_true, and_true] at hothers
    obtain ⟨hseparator, hcaseFold, hregex, hflags, hsize, hmtime⟩ := hothers
    refine Config.checkFilterEntries_insert ((Config.forall_fieldChecks (p := fun k check => k = key →
      check (entries.insert (.text key) (.text t)) = check (entries.insert (.text key) (.list (globs.map .text))))).mpr ?_)
    refine ⟨fun hk => absurd hk hseparator, fun hk => absurd hk hcaseFold, ?_, ?_, fun hk => absurd hk hregex,
      fun hk => absurd hk hflags, fun hk => absurd hk hsize, fun hk => absurd hk hmtime⟩
    · rintro rfl
      exact hlisted
    · rintro rfl
      exact hlisted
  have hentries : ({ clock } : Sieve).withEntries (entries.insert (.text key) (.text t)) =
      ({ clock } : Sieve).withEntries (entries.insert (.text key) (.list (globs.map .text))) := by
    refine withEntries_congr (fun k => ?_) fun k hk => ?_
    · by_cases hsame : k = key
      · rw [hsame, hfield, hfield, globsOf_joined hne hglobs h]
      · rw [field, field, hget hsame, hget hsame]
    · rw [hget (hothers k hk), hget (hothers k hk)]
  simp only [ofSection, Value.asEntries, hcheck, hentries]

/-- A valid section has the outcome of its calls, and globs in one text, with white space around each and commas
between them, come to what the list of them does, in calls and in sections. -/
theorem section_as_calls :
    (∀ clock entries, Config.checkFilter (.dict entries) = .ok () →
      SameOutcome (ofSection clock (.dict entries)) (made { clock } (callsOf entries))) ∧
    ∀ globs t, globs ≠ [] → (∀ glob ∈ globs, Listable glob) → Joined globs t →
      (∀ (f : Sieve) (separators caseFold : Value),
        f.withWhitelist (.text t) separators caseFold = f.withWhitelist (.list (globs.map .text)) separators caseFold ∧
        f.withBlacklist (.text t) separators caseFold = f.withBlacklist (.list (globs.map .text)) separators caseFold) ∧
      ∀ clock (entries : Entries), ∀ key ∈ [Key.whitelist, Key.blacklist],
        ofSection clock (.dict (entries.insert (.text key) (.text t))) =
          ofSection clock (.dict (entries.insert (.text key) (.list (globs.map .text)))) := by
  refine ⟨fun clock entries hvalid => sameOutcome_ofSection clock hvalid, fun globs t hne hglobs hjoined => ⟨?_, ?_⟩⟩
  · intro f separators caseFold
    have hpattern := patternOfGlobs_congr (globsOf_joined hne hglobs hjoined) (Eq.refl
      (({} : Glob.Options).override separators)) caseFold
    exact ⟨withWhitelist_congr hpattern, withBlacklist_congr hpattern⟩
  · intro clock entries key hkey
    exact ofSection_joined hne hglobs hjoined hkey clock entries

/-- A section with a value under every key but one. -/
def pictures : Entries :=
  [(.text Key.separator, .none), (.text Key.whitelist, .text "*.jpg ,\t*.png"), (.text Key.blacklist, .text " , "),
    (.text Key.nameRegex, .text "^a"), (.text Key.nameRegexFlags, .list [.text "i", .text "u"]),
    (.text Key.size, .text "> 1 KB"), (.text Key.mtime, .int 0)]

/-- The section is valid and has the outcome of its five calls. Its globs can be given as a list as well. -/
theorem section_as_calls_pictures : Config.checkFilter (.dict pictures) = .ok () ∧ (callsOf pictures).length = 5 ∧
    SameOutcome (ofSection {} (.dict pictures)) (made {} (callsOf pictures)) ∧
    ofSection {} (.dict (pictures.insert (.text Key.whitelist) (.text "*.jpg ,\t*.png"))) =
      ofSection {} (.dict (pictures.insert (.text Key.whitelist) (.list [.text "*.jpg", .text "*.png"]))) := by
  have hvalid : Config.checkFilter (.dict pictures) = .ok () := by decide +kernel
  have hlistable : ∀ glob ∈ [("*.jpg" : Text), "*.png"], Listable glob := by
    simp only [List.forall_mem_cons, List.not_mem_nil, IsEmpty.forall_iff, implies_true, and_true]
    constructor
    · refine ⟨by decide, by decide, ?_, ?_⟩ <;> rintro c ⟨⟩ <;> decide
    · refine ⟨by decide, by decide, ?_, ?_⟩ <;> rintro c ⟨⟩ <;> decide
  have hjoined : Joined ["*.jpg", "*.png"] "*.jpg ,\t*.png" := by
    refine ⟨["*.jpg ", "\t*.png"], .cons ⟨[], " ", ?_, ?_, rfl⟩ (.cons ⟨"\t", [], ?_, ?_, rfl⟩ .nil), rfl⟩
    · exact List.forall_mem_nil _
    · exact List.forall_mem_singleton.mpr (by decide)
    · exact List.forall_mem_singleton.mpr (by decide)
    · exact List.forall_mem_nil _
  obtain ⟨hsame, hlists⟩ := section_as_calls
  obtain ⟨-, hsections⟩ := hlists _ _ (List.cons_ne_nil _ _) hlistable hjoined
  exact ⟨hvalid, by decide +kernel, hsame {} pictures hvalid, hsections {} pictures _ List.mem_cons_self⟩

end Sieve

end FileSieve
