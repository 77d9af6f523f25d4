import FileSieve.Proofs.Time.Spacing
import FileSieve.Proofs.Time.Valid
import Mathlib.Data.List.GetD

/-!
# Dates and times read back

The text of a date and time is read as that date and time, whatever stands between the date and the time of day
(`Iso.read_textWith`), with one exception: an offset of less than a second is written, but read as none
(`DateTime.asRead`). A clock tidies a text before it reads it, and takes it for a number or a word if it can; the text
of a date and time is tidy already and is neither, so a clock gives back what the text was written from
(`Clock.read_textWith`).
-/

namespace FileSieve

/-! ### What is read back -/

namespace DateTime

/-- An offset as it is read from its text. -/
def offsetAsRead (o : Offset) : Offset :=
  if o.natAbs < perSecond then 0 else o

/-- A date and time as it is read from its text. -/
def asRead (d : DateTime) : DateTime :=
  { d with offset := d.offset.map offsetAsRead }

/-- Unless the offset is less than a second and not zero, nothing is lost. -/
theorem asRead_eq_self {d : DateTime} (h : ∀ o ∈ d.offset, o = 0 ∨ perSecond ≤ o.natAbs) : d.asRead = d := by
  have hoffset : d.offset.map offsetAsRead = d.offset := by
    cases ho : d.offset with
    | none => rfl
    | some o =>
      rw [Option.map_some, offsetAsRead]
      rcases h o ho with rfl | hle
      · rfl
      · rw [if_neg (Nat.not_lt.mpr hle)]
  rw [asRead, hoffset]

@[simp] theorem isAware_asRead (d : DateTime) : d.asRead.isAware = d.isAware := by
  simp [isAware, asRead]

end DateTime

/-! ### The parts of the text -/

namespace DateTime

/-- A fraction of a second in six digits, nothing for none. -/
def fractionText (micros : Nat) : Text :=
  if micros = 0 then [] else ("." : Text) ++ Text.padded 6 micros

/-- The seconds behind the minutes of an offset, nothing where it has whole minutes. -/
def secondsText (n : Nat) : Text :=
  if n / perSecond % 60 = 0 && n % perSecond = 0 then []
  else ":" ++ (Text.padded 2 (n / perSecond % 60) ++ fractionText (n % perSecond))

/-- An offset without its sign. -/
def spanClock (n : Nat) : Text :=
  Text.padded 2 (n / (3600 * perSecond)) ++
    (":" ++ (Text.padded 2 (n / (60 * perSecond) % 60) ++ secondsText n))

/-- The sign of an offset. -/
def offsetSign (o : Offset) : CodePoint :=
  if o < 0 then '-' else '+'

/-- An offset, nothing for none. -/
def zoneText : Option Offset → Text
  | none => []
  | some o => offsetText o

theorem textWith_eq (separator : Text) (d : DateTime) :
    d.textWith separator = d.date.text ++ (separator ++ (d.timeText ++ zoneText d.offset)) := by
  simp only [textWith, List.append_assoc]
  cases d.offset <;> rfl

theorem timeText_eq (d : DateTime) : d.timeText = Text.padded 2 d.hour ++ (":" ++ (Text.padded 2 d.minute ++
    (":" ++ (Text.padded 2 d.second ++ fractionText d.microsecond)))) := by
  simp only [timeText, fractionText, List.append_assoc]

theorem offsetText_eq (o : Offset) : offsetText o = offsetSign o :: spanClock o.natAbs := by
  have hsign : (if o < 0 then "-" else "+" : Text) = [offsetSign o] := by
    unfold offsetSign
    split_ifs <;> rfl
  have hseconds (n : Nat) : (if n / perSecond % 60 = 0 && n % perSecond = 0 then []
      else (":" : Text) ++ Text.padded 2 (n / perSecond % 60)) ++
        (if n % perSecond = 0 then [] else ("." : Text) ++ Text.padded 6 (n % perSecond)) = secondsText n := by
    unfold secondsText fractionText
    by_cases hmicros : n % perSecond = 0
    · simp [hmicros]
    · simp [hmicros]
  rw [offsetText, hsign, List.append_assoc, hseconds]
  simp only [spanClock, List.append_assoc, List.nil_append, List.cons_append]

end DateTime

/-! ### The code points of the text -/

/-- A text of digits and of marks. -/
def Stamped (marks t : Text) : Prop :=
  ∀ c ∈ t, c.isDigit = true ∨ c ∈ marks

namespace Stamped

variable {marks s t : Text}

theorem append (hs : Stamped marks s) (ht : Stamped marks t) : Stamped marks (s ++ t) := fun c hc =>
  (List.mem_append.mp hc).elim (hs c) (ht c)

theorem cons {c : CodePoint} (hc : c ∈ marks) (ht : Stamped marks t) : Stamped marks (c :: t) :=
  List.forall_mem_cons.mpr ⟨.inr hc, ht⟩

theorem padded (width n : Nat) : Stamped marks (Text.padded width n) := fun c hc =>
  .inl (Text.digits_padded width n c hc)

theorem fraction (h : ('.' : CodePoint) ∈ marks) (micros : Nat) : Stamped marks (DateTime.fractionText micros) := by
  unfold DateTime.fractionText
  split_ifs
  · exact List.forall_mem_nil _
  · exact (padded _ _).cons h

theorem date (d : Date) : Stamped ['-'] d.text := by
  have hhyphen : ('-' : CodePoint) ∈ (['-'] : Text) := List.mem_cons_self
  simp only [Date.text, List.append_assoc]
  exact (padded _ _).append (cons hhyphen ((padded _ _).append (cons hhyphen (padded _ _))))

theorem time (d : DateTime) : Stamped [':', '.'] d.timeText := by
  have hcolon : (':' : CodePoint) ∈ ([':', '.'] : Text) := List.mem_cons_self
  rw [DateTime.timeText_eq]
  exact (padded _ _).append (cons hcolon ((padded _ _).append (cons hcolon
    ((padded _ _).append (fraction (by simp) _)))))

theorem zone (offset : Option Offset) : Stamped ['+', '-', ':', '.'] (DateTime.zoneText offset) := by
  have hcolon : (':' : CodePoint) ∈ (['+', '-', ':', '.'] : Text) := by simp
  cases offset with
  | none => exact List.forall_mem_nil _
  | some o =>
    have hsign : DateTime.offsetSign o ∈ (['+', '-', ':', '.'] : Text) := by
      unfold DateTime.offsetSign
      split_ifs <;> simp
    have hseconds : Stamped ['+', '-', ':', '.'] (DateTime.secondsText o.natAbs) := by
      unfold DateTime.secondsText
      split_ifs
      · exact List.forall_mem_nil _
      · exact cons hcolon ((padded _ _).append (fraction (by simp) _))
    rw [DateTime.zoneText, DateTime.offsetText_eq]
    exact cons hsign ((padded _ _).append (cons hcolon ((padded _ _).append hseconds)))

theorem mono {marks' : Text} (h : Stamped marks t) (hsub : marks ⊆ marks') : Stamped marks' t := fun c hc =>
  (h c hc).imp_right fun hmem => hsub hmem

/-- The whole text of a date and time, with `c` between the two. -/
theorem textWith (c : CodePoint) (d : DateTime) : Stamped [c, '+', '-', ':', '.'] (d.textWith [c]) := by
  rw [DateTime.textWith_eq, List.singleton_append]
  refine append ((date d.date).mono ?_) (cons (by simp) (append ((time d).mono ?_) ((zone d.offset).mono ?_)))
  all_goals simp

/-- What holds of the digits and of the marks holds of every code point of the text. -/
theorem all {p : CodePoint → Bool} (h : Stamped marks t) (hdigit : ∀ d : Fin 10, p (.ofDigit d) = true)
    (hmarks : marks.all p = true) : ∀ c ∈ t, p c = true := fun c hc =>
  (h c hc).elim (CodePoint.forall_digit hdigit) (List.all_eq_true.mp hmarks c)

end Stamped

/-! ### Fields of digits -/

/-- A number below a hundred is written in two digits. -/
theorem Text.padded_two {n : Nat} (h : n < 100) : ∃ a b, padded 2 n = [a, b] ∧ Digits [a, b] := by
  obtain ⟨a, b, hab⟩ := List.length_eq_two.mp (length_padded (by decide : 2 ≠ 0) (h : n < Nat.pow 10 2))
  exact ⟨a, b, hab, hab ▸ digits_padded 2 n⟩

/-- A number below ten thousand is written in four digits. -/
theorem Text.padded_four {n : Nat} (h : n < 10000) : ∃ a b c d, padded 4 n = [a, b, c, d] ∧ Digits [a, b, c, d] := by
  have hlength : (padded 4 n).length = 4 := length_padded (by decide) h
  match hpadded : padded 4 n with
  | [a, b, c, d] => exact ⟨a, b, c, d, rfl, hpadded ▸ digits_padded 4 n⟩
  | [] | [_] | [_, _] | [_, _, _] | _ :: _ :: _ :: _ :: _ :: _ => simp [hpadded] at hlength

namespace Iso

theorem digits_padded {width n : Nat} (hw : width ≠ 0) (h : n < Nat.pow 10 width) (rest : Text) :
    digits? width (Text.padded width n ++ rest) = some (n, rest) := by
  have hlength := Text.length_padded hw h
  have hall : (Text.padded width n).all CodePoint.isDigit = true :=
    List.all_eq_true.mpr (Text.digits_padded width n)
  simp only [digits?]
  rw [List.take_left' hlength, List.drop_left' hlength, hlength, hall, Text.value_padded]
  simp

section

variable {left n micros : Nat} {colons : Option Bool} {parts : List Nat}

/-- A field of a time in front of a colon. -/
theorem clock_colon (h : n < 100) {rest : Text} (hrest : rest ≠ []) (hcolons : colons ≠ some false) :
    clock? (left + 1) colons parts (Text.padded 2 n ++ (":" ++ rest)) =
      clock? left (some true) (parts ++ [n]) rest := by
  obtain ⟨c, more, rfl⟩ := List.exists_cons_of_ne_nil hrest
  have hcolons' : colons.getD true = true := by
    cases colons with
    | none => rfl
    | some b => cases b <;> simp at hcolons ⊢
  have hcolon : (":" ++ c :: more : Text) = (':' : CodePoint) :: c :: more := rfl
  rw [clock?, digits_padded (by decide) h, hcolon]
  simp [hcolons']

/-- A fraction of a second in six digits. -/
theorem fraction_padded (h : micros < DateTime.perSecond) :
    fraction? parts (Text.padded 6 micros) = some { parts, micros } := by
  have hlength : (Text.padded 6 micros).length = 6 := Text.length_padded (by decide) h
  have hdigits := digits_padded (by decide : 6 ≠ 0) h []
  rw [List.append_nil] at hdigits
  rw [fraction?, hlength]
  simp [hdigits, isEnd]

/-- The last field of a time, with a fraction of a second behind it. -/
theorem clock_last (h : n < 100) (hmicros : micros < DateTime.perSecond) :
    clock? (left + 1) colons parts (Text.padded 2 n ++ DateTime.fractionText micros) =
      some { parts := parts ++ [n], micros } := by
  rw [clock?, digits_padded (by decide) h, DateTime.fractionText]
  split_ifs with hzero
  · subst hzero
    rfl
  · have hdot : ("." ++ Text.padded 6 micros : Text) = ('.' : CodePoint) :: Text.padded 6 micros := rfl
    have hnil : Text.padded 6 micros ≠ [] := by
      intro hnil
      have hlength := Text.length_padded (by decide : 6 ≠ 0) hmicros
      rw [hnil] at hlength
      exact absurd hlength (by decide)
    obtain ⟨c, more, hcons⟩ := List.exists_cons_of_ne_nil hnil
    have hfraction : fraction? (parts ++ [n]) (Text.padded 6 micros) = some { parts := parts ++ [n], micros } :=
      fraction_padded hmicros
    have hne : ('.' : CodePoint) ≠ ':' := by decide
    rw [hcons] at hfraction
    rw [hdot, hcons]
    simp [hfraction, hne]

end

theorem padded_append_ne_nil (width n : Nat) (rest : Text) : Text.padded width n ++ rest ≠ [] :=
  List.append_ne_nil_of_left_ne_nil (List.append_ne_nil_of_right_ne_nil _ (Text.ofNat_ne_nil n)) rest

/-- The text of a time of day. -/
theorem clock_time {d : DateTime} (h : d.Valid) :
    clock? 3 none [] d.timeText = some { parts := [d.hour, d.minute, d.second], micros := d.microsecond } := by
  have hhour := h.hour
  have hminute := h.minute
  have hsecond := h.second
  rw [DateTime.timeText_eq, clock_colon (by omega) (padded_append_ne_nil _ _ _) (by simp),
    clock_colon (by omega) (padded_append_ne_nil _ _ _) (by simp), clock_last (by omega) h.microsecond]
  rfl

/-- The text of an offset is read as hours, minutes and seconds that make up its whole seconds. -/
theorem clock_span {n : Nat} (h : n < DateTime.perDay) : ∃ parts,
    clock? 3 none [] (DateTime.spanClock n) = some { parts, micros := n % DateTime.perSecond } ∧
      Reading.seconds { parts } = n / DateTime.perSecond := by
  have hhours : n / (3600 * DateTime.perSecond) < 100 := by
    simp only [DateTime.perDay, DateTime.perSecond] at h ⊢
    omega
  have hminutes : n / (60 * DateTime.perSecond) % 60 < 100 := (Nat.mod_lt _ (by decide)).trans (by decide)
  have hseconds : n / DateTime.perSecond % 60 < 100 := (Nat.mod_lt _ (by decide)).trans (by decide)
  have hmicros : n % DateTime.perSecond < DateTime.perSecond := Nat.mod_lt _ (by decide)
  have htotal : (n / (3600 * DateTime.perSecond) * 60 + n / (60 * DateTime.perSecond) % 60) * 60 +
      n / DateTime.perSecond % 60 = n / DateTime.perSecond := by
    simp only [DateTime.perSecond]
    omega
  rw [DateTime.spanClock, clock_colon hhours (padded_append_ne_nil _ _ _) (by simp), DateTime.secondsText]
  split_ifs with hwhole
  · simp only [Bool.and_eq_true, decide_eq_true_eq] at hwhole
    rw [hwhole.1] at htotal
    have hzero : 0 < DateTime.perSecond := by decide
    refine ⟨_, (clock_last hminutes hzero).trans (by rw [hwhole.2]), ?_⟩
    simpa [Reading.seconds] using htotal
  · refine ⟨_, (clock_colon hminutes (padded_append_ne_nil _ _ _) (by simp)).trans (clock_last hseconds hmicros), ?_⟩
    simpa [Reading.seconds] using htotal

/-- The text of an offset is read as that offset, unless it is less than a second. -/
theorem offset_text {o : Offset} (h : o.natAbs < DateTime.perDay) :
    offset? (DateTime.offsetText o) = some (DateTime.offsetAsRead o) := by
  obtain ⟨parts, hclock, hseconds⟩ := clock_span h
  have hsign : DateTime.offsetSign o ≠ 'Z' ∧ (DateTime.offsetSign o = '-' ↔ o < 0) := by
    unfold DateTime.offsetSign
    split_ifs with hneg <;> simp only [hneg] <;> decide
  have hn : o.natAbs / DateTime.perSecond * DateTime.perSecond + o.natAbs % DateTime.perSecond = o.natAbs :=
    Nat.div_add_mod' _ _
  have hzero : o.natAbs / DateTime.perSecond = 0 ↔ o.natAbs < DateTime.perSecond := by
    rw [Nat.div_eq_zero_iff]
    simp [DateTime.perSecond]
  rw [DateTime.offsetText_eq, offset?, if_neg hsign.1, hclock]
  have hseconds' : Reading.seconds { parts, micros := o.natAbs % DateTime.perSecond } =
      o.natAbs / DateTime.perSecond := hseconds
  simp only [Option.bind_eq_bind, Option.bind_some, Bool.not_true, Bool.false_eq_true, if_false, hseconds', hn, hzero,
    hsign.2, DateTime.offsetAsRead, h, if_true]
  split_ifs with hless hneg
  · rfl
  · exact congrArg some (by rw [Int.ofNat_natAbs_of_nonpos (Int.le_of_lt hneg), Int.neg_neg])
  · exact congrArg some (Int.natAbs_of_nonneg (Int.not_lt.mp hneg))

/-! ### The whole text -/

theorem daysInMonth_le (year month : Nat) : Date.daysInMonth year month ≤ 31 := by
  have hall (leap : Bool) : ∀ length ∈ Date.monthLengths leap, length ≤ 31 := by cases leap <;> decide
  rw [Date.daysInMonth]
  by_cases h : month - 1 < (Date.monthLengths (Date.isLeap year)).length
  · rw [List.getD_eq_getElem _ _ h]
    exact hall _ _ (List.getElem_mem h)
  · rw [List.getD_eq_default _ _ (Nat.le_of_not_lt h)]
    exact Nat.zero_le _

/-- The numbers of a date fit their digits. -/
theorem fits_of_valid {d : Date} (h : d.Valid) : d.year < 10000 ∧ d.month < 100 ∧ d.day < 100 := by
  have hyear := h.year.2
  have hday := h.day.2.trans (daysInMonth_le d.year d.month)
  have hmonth := h.month.2
  unfold Date.maxYear at hyear
  omega

/-- A date is ten code points: four digits, two and two, with hyphens between them. -/
theorem text_shape {d : Date} (h : d.Valid) : ∃ y₁ y₂ y₃ y₄ m₁ m₂ d₁ d₂ : CodePoint,
    d.text = [y₁, y₂, y₃, y₄, '-', m₁, m₂, '-', d₁, d₂] ∧ Digits [y₁, y₂, y₃, y₄, m₁, m₂, d₁, d₂] := by
  obtain ⟨hyear, hmonth, hday⟩ := fits_of_valid h
  obtain ⟨y₁, y₂, y₃, y₄, hy, hys⟩ := Text.padded_four hyear
  obtain ⟨m₁, m₂, hm, hms⟩ := Text.padded_two hmonth
  obtain ⟨d₁, d₂, hd, hds⟩ := Text.padded_two hday
  refine ⟨y₁, y₂, y₃, y₄, m₁, m₂, d₁, d₂, ?_, (hys.append hms).append hds⟩
  rw [Date.text, hy, hm, hd]
  rfl

theorem hasAt_digits {t : Text} (h : Digits t) {c : CodePoint} (hc : c.isDigit = false) (i : Nat) :
    hasAt t i c = false := by
  unfold hasAt
  split
  · next d hd =>
    have hdigit := h d (List.mem_of_getElem? hd)
    refine beq_eq_false_iff_ne.mpr ?_
    rintro rfl
    exact absurd hdigit (by simp [hc])
  · rfl

theorem date_text {d : Date} (h : d.Valid) : date? d.text = some d := by
  obtain ⟨hyear, hmonth, hday⟩ := fits_of_valid h
  have hhyphen (t : Text) : ("-" : Text) ++ t = ('-' : CodePoint) :: t := rfl
  have hweek : hasAt (Text.padded 2 d.month ++ ('-' : CodePoint) :: Text.padded 2 d.day) 0 'W' = false := by
    obtain ⟨a, b, hab, hdigits⟩ := Text.padded_two hmonth
    have hW : ('W' : CodePoint).isDigit = false := by decide
    rw [hab]
    exact hasAt_digits hdigits hW 0
  have hlast := digits_padded (by decide : 2 ≠ 0) hday []
  rw [List.append_nil] at hlast
  rw [date?, Date.text]
  simp only [List.append_assoc, List.cons_append, hhyphen]
  rw [digits_padded (by decide) hyear]
  have hhyphenAt (t : Text) : hasAt ('-' :: t) 0 '-' = true := by simp [hasAt]
  have hexpect (t : Text) : expect? '-' ('-' :: t) = some t := by simp [expect?]
  have hmonth' := digits_padded (by decide : 2 ≠ 0) hmonth (('-' : CodePoint) :: Text.padded 2 d.day)
  simp only [Option.bind_eq_bind, Option.bind_some, hhyphenAt, if_true, List.drop_succ_cons, List.drop_zero, hweek,
    Bool.false_eq_true, if_false, hmonth', hexpect, hlast, List.isEmpty_nil, h.of_self]
  rfl

/-- The text of a time of day with an offset, or without one, at a date. -/
theorem timed_text {d : DateTime} (h : d.Valid) :
    timed? d.date (d.timeText ++ DateTime.zoneText d.offset) = some d.asRead := by
  have htime : ∀ c ∈ d.timeText, (!beginsOffset c) = true := (Stamped.time d).all (by decide) (by decide)
  rw [timed_eq_some]
  cases ho : d.offset with
  | none =>
    have hnil : d.timeText.dropWhile (fun c => !beginsOffset c) = [] := List.dropWhile_eq_nil_iff.mpr htime
    rw [DateTime.zoneText, List.append_nil, List.takeWhile_eq_self_iff.mpr htime, hnil]
    exact ⟨_, clock_time h, none, rfl, ⟨h.hour, h.minute, h.second⟩, by rw [DateTime.asRead, ho]; rfl⟩
  | some o =>
    have hbegins : beginsOffset (DateTime.offsetSign o) = true := by
      unfold DateTime.offsetSign
      split_ifs <;> decide
    have hzone : DateTime.zoneText (some o) = DateTime.offsetSign o :: DateTime.spanClock o.natAbs :=
      DateTime.offsetText_eq o
    rw [hzone, List.takeWhile_append_of_pos htime, List.dropWhile_append_of_pos htime,
      List.takeWhile_cons_of_neg (by simp [hbegins]), List.dropWhile_cons_of_neg (by simp [hbegins]), List.append_nil]
    have hoffset : offset? (DateTime.offsetSign o :: DateTime.spanClock o.natAbs) = some (DateTime.offsetAsRead o) := by
      rw [← DateTime.offsetText_eq]
      exact offset_text (h.offset o ho)
    refine ⟨_, clock_time h, some (DateTime.offsetAsRead o), ?_, ⟨h.hour, h.minute, h.second⟩, ?_⟩
    · rw [hoffset]
      rfl
    · rw [DateTime.asRead, ho]
      rfl

theorem dateLength_eq {d : Date} (h : d.Valid) (c : CodePoint) (rest : Text) :
    dateLength (d.text ++ c :: rest) = 10 := by
  obtain ⟨y₁, y₂, y₃, y₄, m₁, m₂, d₁, d₂, htext, hdigits⟩ := text_shape h
  have hm : m₁ ≠ 'W' := by
    rintro rfl
    have hdigit : ('W' : CodePoint).isDigit = true := hdigits _ (by simp)
    exact absurd hdigit (by decide)
  rw [htext]
  simp [dateLength, hasAt, hm]

/-- The text of a date and time is read as that date and time, whatever stands between the two. -/
theorem read_textWith {d : DateTime} (h : d.Valid) {c : CodePoint} (hc : c.isSurrogate = false) :
    read? (d.textWith [c]) = some d.asRead := by
  have heq : d.textWith [c] = d.date.text ++ c :: (d.timeText ++ DateTime.zoneText d.offset) :=
    DateTime.textWith_eq [c] d
  have hplain : ∀ a ∈ d.textWith [c], a.isSurrogate = false := fun a ha => by
    have hmarks : ([c, '+', '-', ':', '.'] : Text).all (fun a => !a.isSurrogate) = true := by
      rw [List.all_cons, hc]
      decide
    simpa using (Stamped.textWith c d).all (p := fun a => !a.isSurrogate) (by decide) hmarks a ha
  have hwithout : withoutSurrogate (d.textWith [c]) = d.textWith [c] := by
    have hnone : [7, 8, 10].find? (fun i => ((d.textWith [c])[i]?.map CodePoint.isSurrogate).getD false) = none := by
      refine List.find?_eq_none.mpr fun i _ => ?_
      cases hi : (d.textWith [c])[i]? with
      | none => simp
      | some a => simp [hplain a (List.mem_of_getElem? hi)]
    rw [withoutSurrogate, hnone]
  have hlength : d.date.text.length = 10 := by
    obtain ⟨y₁, y₂, y₃, y₄, m₁, m₂, d₁, d₂, htext, -⟩ := text_shape h.date
    rw [htext]
    rfl
  have hany : (d.textWith [c]).any CodePoint.isSurrogate = false := by
    simpa [List.any_eq_false] using hplain
  have hseven : ¬(d.textWith [c]).length < 7 := by
    rw [heq, List.length_append, hlength]
    omega
  simp only [read?, hwithout, hany, decide_eq_false hseven, Bool.false_or, Bool.false_eq_true, if_false]
  rw [heq, dateLength_eq h.date, List.take_left' hlength, List.drop_left' hlength, date_text h.date]
  simpa only [Option.bind_eq_bind, Option.bind_some] using timed_text h

end Iso

/-! ### What a clock reads -/

namespace Clock

/-- The lower-case form of a text that begins with a digit begins with it. -/
theorem lower_digit {c : CodePoint} (hc : c.isDigit = true) (rest : Text) :
    (Text.lower (c :: rest)).head? = some c := by
  have hruns : lowerRuns.all (fun r => 0x41 ≤ r.first) = true := by decide +kernel
  have hval : c.val < 0x41 := by
    simp only [CodePoint.isDigit, Bool.and_eq_true, decide_eq_true_eq] at hc
    omega
  have himage : lowerRuns.findSome? (·.image? c.val) = none := by
    refine List.findSome?_eq_none_iff.mpr fun r hr => ?_
    have hfirst : 0x41 ≤ r.first := of_decide_eq_true (List.all_eq_true.mp hruns r hr)
    rw [CaseRun.image?, if_neg]
    simp only [Bool.and_eq_true, decide_eq_true_eq]
    omega
  have hlower : c.lower = c := by rw [CodePoint.lower, himage]; rfl
  rw [Text.lower, Text.lowerAfter, if_neg (by omega), if_neg (by omega), hlower]
  rfl

/-- A text that begins with a digit is no word. -/
theorem ofText_digit {c : CodePoint} (hc : c.isDigit = true) (rest : Text) : Keyword.ofText? (c :: rest) = none := by
  refine List.find?_eq_none.mpr fun word _ => ?_
  have hword : word.text.head?.map CodePoint.isDigit ≠ some true := by cases word <;> decide
  intro heq
  rw [beq_iff_eq.mp heq, lower_digit hc, Option.map_some, hc] at hword
  exact hword rfl

/-- A date in front of anything that does not go on with a digit is no number. -/
theorem isNumber_date {d : Date} (h : d.Valid) (rest : Text) : isNumber (d.text ++ rest) = false := by
  obtain ⟨y₁, y₂, y₃, y₄, m₁, m₂, d₁, d₂, htext, hdigits⟩ := Iso.text_shape h
  obtain ⟨h₁, h₂, h₃, h₄, -⟩ : y₁.isDigit = true ∧ y₂.isDigit = true ∧ y₃.isDigit = true ∧ y₄.isDigit = true ∧ _ := by
    simpa [Digits] using hdigits
  have hminus : y₁ ≠ '-' := by
    rintro rfl
    exact absurd h₁ (by decide)
  have hplus : y₁ ≠ '+' := by
    rintro rfl
    exact absurd h₁ (by decide)
  have hhyphen : CodePoint.isDigit '-' = false := by decide
  have hdot : ('-' : CodePoint) ≠ '.' := by decide
  rw [htext]
  simp [isNumber, Numeral.sign, hminus, hplus, h₁, h₂, h₃, h₄, hhyphen, hdot]

/-- The text of a date and time is tidy, whatever stands between the two. -/
theorem tidied_textWith {d : DateTime} (h : d.Valid) (c : CodePoint) : Spacing.Tidied (d.textWith [c]) := by
  have hsolid {marks t : Text} (ht : Stamped marks t) (hmarks : marks.all (fun a => !a.isBlank) = true) :
      ∀ a ∈ t, a.isBlank = false := fun a ha => by
    simpa using ht.all (p := fun a => !a.isBlank) (by decide) hmarks a ha
  have hdate := hsolid (Stamped.date d.date) (by decide)
  have htime : ∀ a ∈ d.timeText ++ DateTime.zoneText d.offset, a.isBlank = false :=
    List.forall_mem_append.mpr ⟨hsolid (Stamped.time d) (by decide), hsolid (Stamped.zone d.offset) (by decide)⟩
  obtain ⟨y₁, y₂, y₃, y₄, m₁, m₂, d₁, d₂, hdateText, hdigits⟩ := Iso.text_shape h.date
  obtain ⟨h₁, h₂, hhour, hhours⟩ := Text.padded_two (h.hour.trans (by decide : 24 < 100))
  have hfront : d.date.text = [y₁, y₂, y₃, y₄, '-', m₁, m₂, '-', d₁] ++ [d₂] := hdateText
  have hback : ∃ v, d.timeText ++ DateTime.zoneText d.offset = h₁ :: v := by
    rw [DateTime.timeText_eq, hhour]
    exact ⟨_, rfl⟩
  obtain ⟨v, hv⟩ := hback
  rw [hfront] at hdate
  rw [hv] at htime
  have htext : d.textWith [c] = [y₁, y₂, y₃, y₄, '-', m₁, m₂, '-', d₁] ++ d₂ :: c :: h₁ :: v := by
    rw [DateTime.textWith_eq, hfront, hv]
    rfl
  rw [htext]
  exact Spacing.tidied_between (fun a ha => hdate a (List.mem_append_left _ ha)) (fun a ha => htime a (.tail _ ha))
    (hdigits d₂ (by simp)) (hhours h₁ (by simp)) c

/-- A clock reads the text of a date and time that names its offset as that date and time, whatever stands between the
two, but for an offset of less than a second. -/
theorem read_textWith {clock : Clock} {d : DateTime} (h : d.Valid) (haware : d.isAware = true) {c : CodePoint}
    (hc : c.isSurrogate = false) : clock.read (d.textWith [c]) = .ok d.asRead := by
  have htidy : Spacing.tidy (d.textWith [c]) = d.textWith [c] := Spacing.tidy_eq_self (tidied_textWith h c)
  have hnumber : isNumber (d.textWith [c]) = false := by
    rw [DateTime.textWith_eq]
    exact isNumber_date h.date _
  have hword : Keyword.ofText? (d.textWith [c]) = none := by
    obtain ⟨y₁, y₂, y₃, y₄, m₁, m₂, d₁, d₂, htext, hdigits⟩ := Iso.text_shape h.date
    rw [DateTime.textWith_eq, htext]
    exact ofText_digit (hdigits y₁ (by simp)) _
  have hsettled : clock.settled? Iso.read? (d.textWith [c]) = some (.ok d.asRead) :=
    settled_eq_some.mpr ⟨d.asRead, Iso.read_textWith h hc, if_pos ((DateTime.isAware_asRead d).trans haware), .inl ⟨_, rfl⟩⟩
  have hcalendar : clock.calendar? (d.textWith [c]) = some (.ok d.asRead) := by
    rw [calendar?, List.findSome?_cons, hsettled]
  simp only [read, htidy, hnumber, hword, hcalendar, Bool.false_eq_true, if_false]
  rfl

end Clock

end FileSieve
