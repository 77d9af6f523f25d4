import FileSieve.Proofs.Config.Validity
import FileSieve.Proofs.Number.Decimal

/-!
# The section of the log

The level of a log is judged by how it is written, whatever kind of value it is. But what is no text is written in a
way that is the name of no level (`text_of_levelName`), mostly for a sign in it, which no name has. So the section of
the log is valid exactly when its level is missing or is the name of a level in either case (`checkLogging_ok_iff`), and
then it is the level that loggers are given (`threshold_of_chosen`). Like the section of the filter, it is valid in all
layers together when it is so in each of them (`Valid.loggingConfig`).

The file of the log is not looked at.
-/

namespace FileSieve

namespace Log.Level

/-- The level that a setting chooses: the one that it names in either case, and the usual one without a setting. -/
inductive Chosen : Value → Level → Prop
  /-- There is no setting. -/
  | usual : Chosen .none .info
  /-- The setting is the name of a level, but for the case. -/
  | named {t : Text} {level : Level} : t.upper = level.name → Chosen (.text t) level

theorem ofName_of_upper {t : Text} {level : Level} (h : t.upper = level.name) : ofName t = .ok level := by
  rw [ofName, h]
  cases level <;> decide

theorem Chosen.unique {value : Value} {level level' : Level} (h : Chosen value level) (h' : Chosen value level') :
    level = level' := by
  cases h with
  | usual =>
    cases h'
    rfl
  | named hname =>
    cases h' with
    | named hname' => exact Except.ok.inj ((ofName_of_upper hname).symm.trans (ofName_of_upper hname'))

end Log.Level

namespace Config

open Log (Level threshold)

variable {entries base upper inner : Entries} {value : Value} {t : Text} {c : CodePoint} {level : Level}

theorem mem_levelNames : t ∈ levelNames ↔ ∃ level : Level, t = level.name := by
  constructor
  · intro h
    obtain ⟨level, -, hname⟩ := List.mem_map.mp h
    exact ⟨level, hname.symm⟩
  · rintro ⟨level, rfl⟩
    cases level <;> decide

/-! ### Forms of values that name no level -/

/-- A digit, or a sign that values are written with. -/
def isSign (c : CodePoint) : Bool :=
  c.isDigit || (".-+'\"([\x7b" : Text).contains c

theorem uppers_sign (h : isSign c = true) : c.uppers = [c] := by
  have hdigits : ∀ d : Fin 10, (CodePoint.ofDigit d).uppers == [CodePoint.ofDigit d] := by decide +kernel
  have hsigns : (".-+'\"([\x7b" : Text).all fun c => c.uppers == [c] := by decide +kernel
  apply beq_iff_eq.mp
  rcases Bool.or_eq_true_iff.mp h with hdigit | hsign
  · exact CodePoint.forall_digit (p := fun c => c.uppers == [c]) hdigits hdigit
  · exact List.all_eq_true.mp hsigns c (List.contains_iff_mem.mp hsign)

/-- A text with a sign in it is the name of no level in either case. -/
theorem not_levelName (h : t.any isSign = true) : t.upper ∉ levelNames := by
  have hletters : levelNames.all (fun name => name.all fun c => !isSign c) = true := by decide
  obtain ⟨c, hc, hsign⟩ := List.any_eq_true.mp h
  have hmem : c ∈ t.upper := List.mem_flatMap.mpr ⟨c, hc, by simp [uppers_sign hsign]⟩
  intro hname
  have hletter := List.all_eq_true.mp (List.all_eq_true.mp hletters _ hname) c hmem
  rw [hsign] at hletter
  cases hletter

theorem isSign_digit (h : c.isDigit = true) : isSign c = true := by
  rw [isSign, h, Bool.true_or]

theorem hasSign_ofNat (n : Nat) : (Text.ofNat n).any isSign = true := by
  obtain ⟨c, rest, hn⟩ := List.exists_cons_of_ne_nil (Text.ofNat_ne_nil n)
  have hc : c ∈ Text.ofNat n := hn ▸ List.mem_cons_self
  exact List.any_eq_true.mpr ⟨c, hc, isSign_digit (Text.digits_ofNat n c hc)⟩

theorem hasSign_ofInt (n : Int) : (Text.ofInt n).any isSign = true := by
  cases n with
  | ofNat n => exact hasSign_ofNat n
  | negSucc n => rw [Text.ofInt, List.any_cons, hasSign_ofNat, Bool.or_true]

/-- A decimal is written with a point, or with a sign in front of its exponent. -/
theorem hasSign_decimal (layout : DecimalLayout) (d : Decimal) : (d.text layout).any isSign = true := by
  have hsigns : ∀ part ∈ (["0.", ".0", ".", "e-", "e+"] : List Text), part.any isSign = true := by decide
  simp only [List.forall_mem_cons, List.not_mem_nil, IsEmpty.forall_iff, implies_true, and_true] at hsigns
  obtain ⟨hfront, hback, hpoint, hminus, hplus⟩ := hsigns
  simp only [Decimal.text]
  split_ifs <;> simp only [List.any_append, hfront, hback, hpoint, hminus, hplus, Bool.or_true, Bool.true_or]

/-- A number is written as a decimal, or with a word that is the name of no level. -/
theorem not_levelName_float (x : Binary64) : x.text.upper ∉ levelNames := by
  cases x with
  | finite negative units =>
    have hzero : ("0.0" : Text).any isSign = true := by decide
    have hdigits : (if units = 0 then ("0.0" : Text) else (Binary64.shortest units).text DecimalLayout.standard).any
        isSign = true := by
      split_ifs
      · exact hzero
      · exact hasSign_decimal _ _
    apply not_levelName
    rw [Binary64.text]
    cases negative with
    | false => exact hdigits
    | true =>
      show (('-' : CodePoint) :: _).any isSign = true
      rw [List.any_cons, hdigits, Bool.or_true]
  | infinite negative => cases negative <;> decide +kernel
  | nan => decide +kernel

theorem hasSign_date (d : Date) : d.text.any isSign = true := by
  have hdash : ("-" : Text).any isSign = true := by decide
  simp only [Date.text, List.any_append, hdash, Bool.or_true, Bool.true_or]

theorem hasSign_datetime (d : DateTime) : d.text.any isSign = true := by
  simp only [DateTime.text, DateTime.textWith, List.any_append, hasSign_date, Bool.true_or]

theorem isSign_quoteMark (t : Text) : isSign (quoteMark t) = true := by
  rw [quoteMark]
  split_ifs <;> decide

theorem hasSign_quoted (t : Text) : t.quoted.any isSign = true := by
  simp only [Text.quoted, List.any_append, List.any_cons, isSign_quoteMark, Bool.true_or]

theorem hasSign_octets (b : Octets) : (Octets.quoted b).any isSign = true := by
  simp only [Octets.quoted, List.any_append, List.any_cons, isSign_quoteMark, Bool.or_true, Bool.true_or]

/-- No value is shown like the name of a level. -/
theorem not_levelName_shown (h : value.shown = .ok t) : t.upper ∉ levelNames := by
  have hbrackets : ∀ opening ∈ (["bytearray(", "[", "(", "\x7b", "datetime.date(", "datetime.datetime("] : List Text),
      opening.any isSign = true := by decide
  simp only [List.forall_mem_cons, List.not_mem_nil, IsEmpty.forall_iff, implies_true, and_true] at hbrackets
  obtain ⟨hbuffer, hlist, htuple, hdict, hdate, hdatetime⟩ := hbrackets
  -- what stands between brackets does not matter
  have hbetween {opening inner closing : Text} (h : opening.any isSign = true) :
      (opening ++ inner ++ closing).upper ∉ levelNames :=
    not_levelName (by simp only [List.any_append, h, Bool.true_or])
  cases value with
  | none =>
    obtain rfl := Except.ok.inj h
    decide +kernel
  | bool b =>
    obtain rfl := Except.ok.inj h
    cases b <;> decide +kernel
  | int n =>
    simp only [Value.shown, Int.digits] at h
    split_ifs at h
    obtain rfl := Except.ok.inj h
    exact not_levelName (hasSign_ofInt n)
  | float x =>
    obtain rfl := Except.ok.inj h
    exact not_levelName_float x
  | text s =>
    obtain rfl := Except.ok.inj h
    exact not_levelName (hasSign_quoted s)
  | octets b =>
    obtain rfl := Except.ok.inj h
    exact not_levelName (hasSign_octets b)
  | buffer b =>
    obtain rfl := Except.ok.inj h
    exact hbetween hbuffer
  | list items =>
    obtain ⟨texts, -, h⟩ := bind_eq_ok.mp h
    obtain rfl := Except.ok.inj h
    exact hbetween hlist
  | tuple items =>
    match items with
    | [] =>
      obtain rfl := Except.ok.inj h
      decide
    | [item] =>
      obtain ⟨text, -, h⟩ := bind_eq_ok.mp h
      obtain rfl := Except.ok.inj h
      exact hbetween htuple
    | first :: second :: items =>
      obtain ⟨texts, -, h⟩ := bind_eq_ok.mp h
      obtain rfl := Except.ok.inj h
      exact hbetween htuple
  | dict entries =>
    obtain ⟨texts, -, h⟩ := bind_eq_ok.mp h
    obtain rfl := Except.ok.inj h
    exact hbetween hdict
  | set items =>
    cases items with
    | nil =>
      obtain rfl := Except.ok.inj h
      decide
    | cons item items =>
      obtain ⟨texts, -, h⟩ := bind_eq_ok.mp h
      obtain rfl := Except.ok.inj h
      exact hbetween hdict
  | date d =>
    obtain rfl := Except.ok.inj h
    exact hbetween hdate
  | datetime d =>
    obtain rfl := Except.ok.inj h
    exact hbetween hdatetime
  | unplaced d zone =>
    obtain rfl := Except.ok.inj h
    exact hbetween hdatetime

/-- What is written like the name of a level, but for the case, is a text. -/
theorem text_of_levelName (h : value.plain = .ok t) (hname : t.upper ∈ levelNames) : value = .text t := by
  cases value with
  | text s => exact congrArg Value.text (Except.ok.inj h)
  | date d =>
    obtain rfl := Except.ok.inj h
    exact absurd hname (not_levelName (hasSign_date d))
  | datetime d =>
    obtain rfl := Except.ok.inj h
    exact absurd hname (not_levelName (hasSign_datetime d))
  | unplaced d zone => cases h
  | _ => exact absurd hname (not_levelName_shown h)

/-! ### Valid sections -/

/-- The section of the log is valid exactly when its level chooses one. -/
theorem checkLogging_ok_iff :
    checkLogging (.dict entries) = .ok () ↔ ∃ level, Level.Chosen (field entries Key.level) level := by
  rw [checkLogging]
  constructor
  · intro h
    split at h
    · rename_i hnone
      exact ⟨.info, hnone ▸ .usual⟩
    · obtain ⟨shown, hshown, h⟩ := bind_eq_ok.mp h
      split_ifs at h with hname
      · have hnamed := List.contains_iff_mem.mp hname
        obtain ⟨level, hlevel⟩ := mem_levelNames.mp hnamed
        rw [text_of_levelName (mapError_eq_ok.mp hshown) hnamed]
        exact ⟨level, .named hlevel⟩
      · cases h
  · rintro ⟨level, hlevel⟩
    generalize field entries Key.level = value at hlevel
    cases hlevel with
    | usual => rfl
    | @named t _ hname =>
      have hmem : levelNames.contains t.upper = true := List.contains_iff_mem.mpr (mem_levelNames.mpr ⟨level, hname⟩)
      simp only [look, Value.plain, Except.mapError, bind, Except.bind, hmem, if_true]

/-- No dictionary is the name of a level. -/
theorem checkLogging_level_dict (h : entries.get? (.text Key.level) = some (.dict inner)) :
    checkLogging (.dict entries) ≠ .ok () := by
  intro hok
  obtain ⟨level, hlevel⟩ := checkLogging_ok_iff.mp hok
  rw [field_of_get? h] at hlevel
  cases hlevel

/-- Sections that are valid give a valid one when they are merged. -/
theorem sectionCheck_logging : SectionCheck checkLogging where
  kind := kind_of_checkLogging
  merge := by
    intro base upper hbase hupper hvalidBase hvalidUpper
    have hdict (inner : Entries) (h : upper.get? (.text Key.level) = some (.dict inner)) : inner = [] :=
      absurd hvalidUpper (checkLogging_level_dict h)
    rw [checkLogging_ok_iff] at hvalidBase hvalidUpper ⊢
    rcases get?_laidOver_cases hbase.keyed hupper hdict with hget | hget
    · rwa [field_congr hget]
    · rwa [field_congr hget]

/-- The section of the log that valid layers have together is valid. -/
theorem Layers.Valid.loggingConfig {l : Layers} (h : l.Valid) : checkLogging l.loggingConfig = .ok () :=
  h.get_section sectionCheck_logging (fun hinner hok => ((check_of_sections_ok_iff hinner).mp hok).2) keyPath_logging
    rfl

/-- The level that is chosen is the one that loggers are given. -/
theorem threshold_of_chosen (h : Level.Chosen value level) :
    threshold (if value.truth then value else .text Level.info.name) = .ok level.number := by
  have hnamed {t : Text} (h : t.upper = level.name) : threshold (.text t) = .ok level.number := by
    rw [threshold, Level.ofName_of_upper h]
    rfl
  cases h with
  | usual => exact hnamed (by decide)
  | @named t _ hname =>
    have htruth : (Value.text t).truth = true := by
      cases t with
      | nil => cases level <;> cases hname
      | cons c t => rfl
    rw [if_pos htruth]
    exact hnamed hname

end Config

end FileSieve
