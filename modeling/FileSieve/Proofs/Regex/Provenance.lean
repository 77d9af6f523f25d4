import FileSieve.Proofs.Number.Decimal
import FileSieve.Regex.Reader
import Mathlib.Data.List.Infix

/-!
# Where faults come from

Two faults of a pattern are not faults of its syntax: two repertoires that clash, and a count with more digits than an
integer may have. Each of them has its cause in the text. A reader stands before a suffix of the tokens with which it
started, and its mode has only what the first mode had or what switches for the whole pattern have turned on
(`Stands`). A step keeps this, and a fault that it finds shows in the tokens (`Sound`). So does the fault of a whole
pattern (`sound_parse`): the repertoires clash only with a switch for the other one in the text, and a count is too
long only with so many digits in it.
-/

namespace FileSieve.Regex

/-- The code points of `w` stand in the tokens one after the other, none of them escaped. -/
def Spells (t : List Token) (w : Text) : Prop :=
  w.map Token.plain <:+: t

/-- What the tokens of a text spell stands in the text. -/
theorem Spells.infix {text w : Text} (h : Spells (Token.ofText text) w) : w <:+: text := by
  obtain ⟨before, behind, heq⟩ := h
  have htext : (w.map Token.plain).flatMap Token.text = w := by
    simp [List.flatMap_map, Token.text]
  refine ⟨before.flatMap Token.text, behind.flatMap Token.text, ?_⟩
  calc before.flatMap Token.text ++ w ++ behind.flatMap Token.text
      = (before ++ w.map Token.plain ++ behind).flatMap Token.text := by simp [htext]
    _ = text := by rw [heq, Token.text_ofText]

/-- Letters of switches as they are written for the whole pattern. -/
def switchText (w : Text) : Text :=
  '(' :: '?' :: (w ++ [(')' : CodePoint)])

/-- Switches for the whole pattern with the letter `c` among them. -/
def HasSwitch (t : List Token) (c : CodePoint) : Prop :=
  ∃ w, Spells t (switchText w) ∧ c ∈ w ∧ ∀ d ∈ w, Reading.isSwitch d = true

/-- Whether a fault that is none of the syntax shows in the tokens or in the mode at the start. -/
def Grounded (t : List Token) (mode : Mode) : Fault → Prop
  | .repertoiresClash => (mode.ascii = true ∨ HasSwitch t 'a') ∧ (mode.unicode = true ∨ HasSwitch t 'u')
  | .countTooLong n => maxDigits < n ∧ ∃ digits, Digits digits ∧ Spells t digits ∧ digits.length = n
  | _ => True

/-! ### Steps that find no other fault -/

variable {α β : Type} {t : List Token} {mode : Mode}

/-- A step whose result has a property, and whose fault shows in the tokens. -/
def Sound (t : List Token) (mode : Mode) (P : α → Prop) : Except Fault α → Prop
  | .ok a => P a
  | .error fault => Grounded t mode fault

theorem Sound.bind {P : α → Prop} {Q : β → Prop} {x : Except Fault α} {f : α → Except Fault β} (h : Sound t mode P x)
    (hf : ∀ a, P a → Sound t mode Q (f a)) : Sound t mode Q (x >>= f) := by
  cases x with
  | ok a => exact hf a h
  | error fault => exact h

theorem Sound.ite {P : α → Prop} {p : Prop} [Decidable p] {x y : Except Fault α} (hx : p → Sound t mode P x)
    (hy : ¬p → Sound t mode P y) : Sound t mode P (if p then x else y) := by
  split_ifs with hp
  · exact hx hp
  · exact hy hp

theorem Sound.mono {P Q : α → Prop} {x : Except Fault α} (h : Sound t mode P x) (hPQ : ∀ a, P a → Q a) :
    Sound t mode Q x := by
  cases x with
  | ok a => exact hPQ a h
  | error fault => exact h

namespace Reading

/-- A reader of the tokens `t` that started in the mode `mode`. -/
structure Stands (t : List Token) (mode : Mode) (r : Reading) : Prop where
  /-- It stands before the rest of the tokens. -/
  rest : r.rest <:+ t
  /-- Where it has the classes of ASCII, it started with them or was switched to them. -/
  ascii : r.mode.ascii = true → mode.ascii = true ∨ HasSwitch t 'a'
  /-- Where it has the classes of Unicode, it started with them or was switched to them. -/
  unicode : r.mode.unicode = true → mode.unicode = true ∨ HasSwitch t 'u'

variable {r : Reading}

/-- A step from which the reader goes on as one of the same tokens. -/
def Steps (t : List Token) (mode : Mode) (x : Except Fault (α × Reading)) : Prop :=
  Sound t mode (fun y => Stands t mode y.2) x

theorem sound_fail (P : α → Prop) (r : Reading) (cause : SyntaxFault) (back : Nat) :
    Sound t mode P (r.fail cause back) :=
  trivial

theorem Steps.then {Q : β → Prop} {x : Except Fault (α × Reading)} {f : α × Reading → Except Fault β}
    (h : Steps t mode x) (hf : ∀ a s, Stands t mode s → Sound t mode Q (f (a, s))) : Sound t mode Q (x >>= f) :=
  h.bind fun y hy => hf y.1 y.2 hy

variable (h : Stands t mode r)

include h

/-! ### Taking tokens -/

theorem Stands.spells {w : Text} {rest : List Token} (hr : r.rest = w.map Token.plain ++ rest) : Spells t w :=
  (hr ▸ List.prefix_append _ _ : w.map Token.plain <+: r.rest).isInfix.trans h.rest.isInfix

theorem sound_advance : Sound t mode (fun s => Stands t mode s ∧ s.rest = r.rest.tail) r.advance := by
  unfold advance
  split
  · next hr => exact ⟨h, by rw [hr]; rfl⟩
  · next token rest hr =>
    have hrest : rest <:+ t := (hr ▸ List.suffix_cons token rest : rest <:+ r.rest).trans h.rest
    split
    · trivial
    · exact ⟨⟨hrest, h.ascii, h.unicode⟩, by rw [hr]; rfl⟩

theorem sound_accept (c : CodePoint) : Sound t mode (fun x => Stands t mode x.2 ∧
    (x.1 = true → r.rest = .plain c :: x.2.rest)) (r.accept c) := by
  unfold accept
  refine .ite (fun hnext => (sound_advance h).bind fun s hs => ⟨hs.1, fun _ => ?_⟩) fun _ => ⟨h, nofun⟩
  rw [hs.2]
  unfold isNext at hnext
  split at hnext
  · next d rest hr =>
    rw [hr, beq_iff_eq.mp hnext]
    rfl
  · exact absurd hnext Bool.false_ne_true

theorem steps_accept (c : CodePoint) : Steps t mode (r.accept c) :=
  (sound_accept h c).mono fun _ hx => hx.1

theorem sound_take : Sound t mode (fun x => Stands t mode x.2 ∧ ∀ token, x.1 = some token → r.rest = token :: x.2.rest)
    r.take := by
  unfold take
  refine (sound_advance h).bind fun s hs => ⟨hs.1, fun token htoken => ?_⟩
  rw [hs.2]
  exact (List.head?_eq_some_iff.mp htoken).elim fun rest hr => by rw [hr]; rfl

theorem steps_take : Steps t mode r.take :=
  (sound_take h).mono fun _ hx => hx.1

/-- What is taken of a class stands at the front. -/
theorem sound_takeWhile (p : CodePoint → Bool) (count : Nat) : Sound t mode (fun x => Stands t mode x.2 ∧
    (∀ c ∈ x.1, p c = true) ∧ r.rest = x.1.map Token.plain ++ x.2.rest) (takeWhile p count r) := by
  induction count generalizing r with
  | zero => exact ⟨h, by simp, rfl⟩
  | succ count ih =>
    unfold takeWhile
    split
    · next c rest hr =>
      refine .ite (fun hc => ?_) fun _ => ⟨h, by simp, rfl⟩
      refine (sound_advance h).bind fun s hs => (ih hs.1).bind fun x hx => ⟨hx.1, ?_, ?_⟩
      · exact List.forall_mem_cons.mpr ⟨hc, hx.2.1⟩
      · have hrest : rest = s.rest := by rw [hs.2, hr]; rfl
        rw [hr, hrest, hx.2.2]
        rfl
    · exact ⟨h, by simp, rfl⟩

theorem steps_takeWhile (p : CodePoint → Bool) (count : Nat) : Steps t mode (takeWhile p count r) :=
  (sound_takeWhile h p count).mono fun _ hx => hx.1

/-- Digits that are taken stand in the text. -/
theorem sound_takeDigits : Sound t mode (fun x => Stands t mode x.2 ∧ Digits x.1 ∧ Spells t x.1)
    r.takeDigits :=
  (sound_takeWhile h _ _).mono fun _ hx => ⟨hx.1, hx.2.1, h.spells hx.2.2⟩

theorem steps_takeUntil (terminator : CodePoint) (what : Text) (fuel : Nat) (name : Text) :
    Steps t mode (takeUntil terminator what fuel name r) := by
  induction fuel generalizing r name with
  | zero => exact sound_fail _ _ _ _
  | succ fuel ih =>
    unfold takeUntil
    refine (steps_take h).then fun token s hs => ?_
    cases token with
    | none => exact .ite (fun _ => sound_fail _ _ _ _) fun _ => sound_fail _ _ _ _
    | some token =>
      exact .ite (fun _ => .ite (fun _ => sound_fail _ _ _ _) fun _ => hs) fun _ => ih hs _

theorem steps_takeName (terminator : CodePoint) (what : Text) : Steps t mode (r.takeName terminator what) :=
  steps_takeUntil h terminator what _ []

/-! ### Escapes -/

theorem steps_hexEscape (c : CodePoint) (count : Nat) : Steps t mode (r.hexEscape c count) := by
  unfold hexEscape
  refine (steps_takeWhile h _ count).then fun digits s hs => .ite (fun _ => sound_fail _ _ _ _) fun _ => ?_
  dsimp only
  split
  · exact hs
  · exact sound_fail _ _ _ _

theorem steps_nameEscape : Steps t mode r.nameEscape := by
  unfold nameEscape
  refine (steps_accept h _).then fun braced s hs => .ite (fun _ => sound_fail _ _ _ _) fun _ => ?_
  refine (steps_takeName hs _ _).then fun name u hu => ?_
  dsimp only
  split
  · exact hu
  · exact .ite (fun _ => sound_fail _ _ _ _) fun _ => sound_fail _ _ _ _

theorem steps_octalEscape (digits : Text) : Steps t mode (r.octalEscape digits) :=
  .ite (fun _ => sound_fail _ _ _ _) fun _ => h

theorem steps_commonEscape (c : CodePoint) : Steps t mode (r.commonEscape c) :=
  .ite (fun _ => steps_hexEscape h c 2) fun _ => .ite (fun _ => steps_hexEscape h c 4) fun _ =>
    .ite (fun _ => steps_hexEscape h c 8) fun _ => .ite (fun _ => steps_nameEscape h) fun _ =>
    .ite (fun _ => sound_fail _ _ _ _) fun _ => h

theorem steps_setEscape (c : CodePoint) : Steps t mode (r.setEscape c) := by
  unfold setEscape
  refine .ite (fun _ => h) fun _ => ?_
  split
  · exact h
  · exact h
  · refine .ite (fun _ => ?_) fun _ => .ite (fun _ => sound_fail _ _ _ _) fun _ => ?_
    · exact (steps_takeWhile h _ 2).then fun digits s hs => (steps_octalEscape hs _).then fun d u hu => hu
    · exact (steps_commonEscape h c).then fun d s hs => hs

omit h in
theorem sound_checkLookbehind (index : Nat) : Sound t mode (fun _ => True) (r.checkLookbehind index) := by
  unfold checkLookbehind
  split
  · trivial
  · exact .ite (fun _ => sound_fail _ _ _ _) fun _ => .ite (fun _ => sound_fail _ _ _ _) fun _ => trivial

theorem steps_groupEscape (digits : Text) : Steps t mode (r.groupEscape digits) :=
  .ite (fun _ => .ite (fun _ => sound_fail _ _ _ _) fun _ => (sound_checkLookbehind _).bind fun _ _ => h)
    fun _ => sound_fail _ _ _ _

theorem steps_digitEscape (c : CodePoint) : Steps t mode (r.digitEscape c) := by
  unfold digitEscape
  refine .ite (fun _ => (steps_takeWhile h _ 2).then fun digits s hs => hs) fun _ => ?_
  refine (steps_takeWhile h _ 1).then fun second s hs => .ite (fun _ => ?_) fun _ => steps_groupEscape hs _
  refine (steps_takeWhile hs _ 1).then fun third u hu => .ite (fun _ => steps_groupEscape hu _) fun _ => ?_
  exact (steps_octalEscape hu _).then fun d v hv => hv

theorem steps_escape (c : CodePoint) : Steps t mode (r.escape c) := by
  unfold escape
  split
  · exact h
  · exact h
  · exact h
  · exact .ite (fun _ => steps_digitEscape h c) fun _ => (steps_commonEscape h c).then fun d s hs => hs

/-! ### Sets -/

theorem steps_setEntry (token : Token) : Steps t mode (r.setEntry token) := by
  cases token with
  | escaped c => exact steps_setEscape h c
  | plain c => exact h
  | dangling => exact sound_fail _ _ _ _

omit h in
theorem sound_setRange (lo hi : Token) (a b : SetItem) : Sound t mode (fun _ => True) (r.setRange lo hi a b) := by
  unfold setRange
  dsimp only
  split
  · exact .ite (fun _ => sound_fail _ _ _ _) fun _ => trivial
  · exact sound_fail _ _ _ _

theorem steps_setItems (opening fuel : Nat) (items : List SetItem) : Steps t mode (setItems opening fuel items r) := by
  induction fuel generalizing r items with
  | zero => trivial
  | succ fuel ih =>
    unfold setItems
    refine (steps_take h).then fun token s hs => ?_
    cases token with
    | none => trivial
    | some token =>
      refine .ite (fun _ => hs) fun _ => (steps_setEntry hs token).then fun entry u hu => ?_
      refine (steps_accept hu _).then fun dash v hv => .ite (fun _ => ih hv _) fun _ => ?_
      refine (steps_take hv).then fun last w hw => ?_
      cases last with
      | none => trivial
      | some last =>
        refine .ite (fun _ => hw) fun _ => (steps_setEntry hw last).then fun entry' x hx => ?_
        exact (sound_setRange _ _ _ _).bind fun range _ => ih hx _

theorem steps_set (opening : Nat) : Steps t mode (r.set opening) := by
  unfold set
  refine (steps_accept h _).then fun negated s hs => (steps_setItems hs _ _ []).then fun items u hu => ?_
  dsimp only
  split <;> exact hu

/-! ### Repetitions -/

omit h in
/-- A count is refused for its digits, which stand in the text. -/
theorem sound_count {digits : Text} (hdigits : Digits digits) (hspells : Spells t digits) :
    Sound t mode (fun _ => True) (count digits) := by
  unfold count
  refine .ite (fun _ => trivial) fun _ => .ite (fun hlong => ?_) fun _ => .ite (fun _ => trivial) fun _ => trivial
  exact ⟨hlong, digits, hdigits, hspells, rfl⟩

theorem sound_highDigits (comma : Bool) {low : Text} (hlow : Digits low) (hspells : Spells t low) :
    Sound t mode (fun x => Stands t mode x.2 ∧ Digits x.1 ∧ Spells t x.1) (r.highDigits comma low) :=
  .ite (fun _ => sound_takeDigits h) fun _ => ⟨h, hlow, hspells⟩

theorem steps_counts (c : CodePoint) : Steps t mode (r.counts c) := by
  unfold counts
  refine .ite (fun _ => h) fun _ => .ite (fun _ => h) fun _ => .ite (fun _ => h) fun _ => .ite (fun _ => h) fun _ => ?_
  refine (sound_takeDigits h).bind fun ⟨low, s⟩ ⟨hs, hlow, hlows⟩ => ?_
  refine (steps_accept hs _).then fun comma u hu => ?_
  refine (sound_highDigits hu comma hlow hlows).bind fun ⟨high, v⟩ ⟨hv, hhigh, hhighs⟩ => ?_
  refine (steps_accept hv _).then fun closed w hw => .ite (fun _ => h) fun _ => ?_
  refine (sound_count hlow hlows).bind fun min _ => (sound_count hhigh hhighs).bind fun max _ => ?_
  cases max with
  | none => exact hw
  | some n => exact .ite (fun _ => sound_fail _ _ _ _) fun _ => hw

theorem steps_repeatLast (operator min : Nat) (max : Option Nat) (nodes : List Node) :
    Steps t mode (r.repeatLast operator min max nodes) := by
  have hgreed : Steps t mode r.greed := by
    unfold greed
    refine (steps_accept h _).then fun isLazy s hs => .ite (fun _ => hs) fun _ => ?_
    exact (steps_accept hs _).then fun possessive u hu => hu
  unfold repeatLast
  split
  · trivial
  · trivial
  · trivial
  · exact hgreed.then fun greed s hs => hs

/-! ### Switches -/

omit h in
theorem sound_badSwitch (P : α → Prop) (token : Option Token) (missing : Text) :
    Sound t mode P (r.badSwitch token missing) := by
  cases token <;> exact sound_fail _ _ _ _

omit h in
/-- Only one letter switches to a repertoire. -/
theorem letter_of_switch {c : CodePoint} {switch : Mode} (hc : switch? c = some switch) :
    isSwitch c = true ∧ (switch.ascii = true → c = 'a') ∧ (switch.unicode = true → c = 'u') := by
  refine ⟨by simp [isSwitch, hc], ?_⟩
  unfold switch? at hc
  split_ifs at hc with h1 h2 h3 h4 h5 h6 h7
  all_goals
    obtain rfl := Option.some.inj hc
    simp [*]

/-- Letters of switches behind an opening parenthesis, up to the tokens `rest`, with the mode that they turn on. -/
structure Switched (t : List Token) (w : Text) (rest : List Token) (on : Mode) : Prop where
  /-- The letters stand between the parenthesis and the rest. -/
  suffix : .plain '(' :: .plain '?' :: (w.map Token.plain ++ rest) <:+ t
  /-- They are letters of switches. -/
  letters : ∀ d ∈ w, isSwitch d = true
  /-- The letter for the classes of ASCII is among them. -/
  ascii : on.ascii = true → ('a' : CodePoint) ∈ w
  /-- The letter for the classes of Unicode is among them. -/
  unicode : on.unicode = true → ('u' : CodePoint) ∈ w

omit h in
theorem Switched.append {w : Text} {c : CodePoint} {rest : List Token} {on switch : Mode}
    (hw : Switched t w (.plain c :: rest) on) (hc : switch? c = some switch) :
    Switched t (w ++ [c]) rest (on.union switch) := by
  obtain ⟨hswitch, hascii, hunicode⟩ := letter_of_switch hc
  refine ⟨by simpa using hw.suffix, ?_, ?_, ?_⟩
  · intro d hd
    rcases List.mem_append.mp hd with hd | hd
    · exact hw.letters d hd
    · rwa [List.mem_singleton.mp hd]
  · intro hon
    rcases (Bool.or_eq_true _ _).mp hon with hon | hon
    · exact List.mem_append_left _ (hw.ascii hon)
    · exact List.mem_append_right _ (by simp [hascii hon])
  · intro hon
    rcases (Bool.or_eq_true _ _).mp hon with hon | hon
    · exact List.mem_append_left _ (hw.unicode hon)
    · exact List.mem_append_right _ (by simp [hunicode hon])

omit h in
/-- Switches up to a closing parenthesis are those for the whole pattern. -/
theorem Switched.hasSwitch {w : Text} {rest : List Token} {on : Mode} (hw : Switched t w (.plain ')' :: rest) on)
    {c : CodePoint} (hc : c ∈ w) : HasSwitch t c := by
  refine ⟨w, ?_, hc, hw.letters⟩
  have hprefix : (switchText w).map Token.plain <+:
      .plain '(' :: .plain '?' :: (w.map Token.plain ++ .plain ')' :: rest) := ⟨rest, by simp [switchText]⟩
  exact hprefix.isInfix.trans hw.suffix.isInfix

theorem sound_switchesOn (fuel : Nat) {w : Text} {on : Mode} {c : CodePoint}
    (hw : Switched t w (.plain c :: r.rest) on) :
    Sound t mode (fun x => Stands t mode x.2.2 ∧ ∃ w, Switched t w (.plain x.2.1 :: x.2.2.rest) x.1)
      (switchesOn fuel on c r) := by
  induction fuel generalizing r w on c with
  | zero => exact sound_fail _ _ _ _
  | succ fuel ih =>
    unfold switchesOn
    split
    · exact sound_fail _ _ _ _
    · next switch hc =>
      have hon := hw.append hc
      refine .ite (fun _ => sound_fail _ _ _ _) fun _ => (sound_take h).bind fun ⟨token, s⟩ ⟨hs, hrest⟩ => ?_
      match token with
      | none | some (.escaped _) | some .dangling => exact sound_badSwitch _ _ _
      | some (.plain d) =>
        have hnext : Switched t (w ++ [c]) (.plain d :: s.rest) (on.union switch) := hrest _ rfl ▸ hon
        exact .ite (fun _ => ⟨hs, _, hnext⟩) fun _ => .ite (fun _ => ih hs hnext) fun _ => sound_badSwitch _ _ _

theorem steps_switchesOff (fuel : Nat) (off : Mode) (c : CodePoint) : Steps t mode (switchesOff fuel off c r) := by
  induction fuel generalizing r off c with
  | zero => exact sound_fail _ _ _ _
  | succ fuel ih =>
    unfold switchesOff
    split
    · exact sound_fail _ _ _ _
    · refine .ite (fun _ => sound_fail _ _ _ _) fun _ => (steps_take h).then fun token s hs => ?_
      dsimp only
      split
      · exact .ite (fun _ => hs) fun _ => .ite (fun _ => ih hs _ _) fun _ => sound_badSwitch _ _ _
      · exact sound_badSwitch _ _ _

theorem steps_trailingSwitches (c : CodePoint) : Steps t mode (r.trailingSwitches c) := by
  unfold trailingSwitches
  refine .ite (fun _ => (steps_take h).then fun token s hs => ?_) fun _ => h
  dsimp only
  split
  · exact .ite (fun _ => steps_switchesOff hs _ {} _) fun _ => sound_badSwitch _ _ _
  · exact sound_badSwitch _ _ _

/-- Switches turn on a repertoire only by its letter. -/
theorem steps_switches {c : CodePoint} (hc : .plain '(' :: .plain '?' :: .plain c :: r.rest <:+ t) :
    Steps t mode (r.switches c) := by
  have hstart : Switched t [] (.plain c :: r.rest) {} := ⟨hc, by simp, nofun, nofun⟩
  have hleading : Sound t mode (fun x => Stands t mode x.2.2 ∧ ∃ w, Switched t w (.plain x.2.1 :: x.2.2.rest) x.1)
      (r.leadingSwitches c) :=
    .ite (fun _ => ⟨h, [], hstart⟩) fun _ => sound_switchesOn h _ hstart
  unfold switches
  refine hleading.bind fun ⟨on, d, s⟩ ⟨hs, w, hw⟩ => ?_
  refine .ite (fun hd => ?_) fun _ => .ite (fun _ => sound_fail _ _ _ _) fun _ => ?_
  · obtain rfl : d = ')' := hd
    refine ⟨hs.rest, fun hmode => ?_, fun hmode => ?_⟩
    · rcases (Bool.or_eq_true _ _).mp hmode with hmode | hmode
      · exact hs.ascii hmode
      · exact .inr (hw.hasSwitch (hw.ascii hmode))
    · rcases (Bool.or_eq_true _ _).mp hmode with hmode | hmode
      · exact hs.unicode hmode
      · exact .inr (hw.hasSwitch (hw.unicode hmode))
  · refine (steps_trailingSwitches hs d).then fun off u hu => ?_
    exact .ite (fun _ => sound_fail _ _ _ _) fun _ => .ite (fun _ => sound_fail _ _ _ _) fun _ => hu

/-! ### Groups -/

theorem sound_skipRemark (opening fuel : Nat) : Sound t mode (Stands t mode) (skipRemark opening fuel r) := by
  induction fuel generalizing r with
  | zero => trivial
  | succ fuel ih =>
    unfold skipRemark
    refine .ite (fun _ => trivial) fun _ => (sound_advance h).bind fun s hs => ?_
    exact .ite (fun _ => hs.1) fun _ => ih hs.1

theorem steps_groupName (terminator : CodePoint) : Steps t mode (r.groupName terminator) := by
  unfold groupName
  exact (steps_takeName h _ _).then fun name s hs => .ite (fun _ => hs) fun _ => sound_fail _ _ _ _

omit h in
theorem sound_namedGroup (name : Text) : Sound t mode (fun _ => True) (r.namedGroup name) := by
  unfold namedGroup
  split
  · trivial
  · exact sound_fail _ _ _ _

theorem steps_namedForm : Steps t mode r.namedForm := by
  unfold namedForm
  refine (steps_accept h _).then fun named s hs => .ite (fun _ => ?_) fun _ => ?_
  · exact (steps_groupName hs _).then fun name u hu => hu
  · refine (steps_accept hs _).then fun reference u hu => .ite (fun _ => ?_) fun _ => ?_
    · refine (steps_groupName hu _).then fun name v hv => (sound_namedGroup name).bind fun index _ => ?_
      exact .ite (fun _ => sound_fail _ _ _ _) fun _ => (sound_checkLookbehind index).bind fun _ _ => hv
    · refine (steps_take hu).then fun token v hv => ?_
      cases token <;> exact sound_fail _ _ _ _

omit h in
theorem sound_askedGroup (name : Text) : Sound t mode (fun _ => True) (r.askedGroup name) := by
  unfold askedGroup
  refine .ite (fun _ => sound_namedGroup name) fun _ => ?_
  split
  · exact sound_fail _ _ _ _
  · exact .ite (fun _ => sound_fail _ _ _ _) fun _ => .ite (fun _ => sound_fail _ _ _ _) fun _ =>
      .ite (fun _ => sound_fail _ _ _ _) fun _ => trivial

theorem steps_condition : Steps t mode r.condition := by
  unfold condition
  refine (steps_takeName h _ _).then fun name s hs => (sound_askedGroup name).bind fun index _ => ?_
  have hasked (conditions : List (Nat × Nat)) : Stands t mode { s with conditions } := ⟨hs.rest, hs.ascii, hs.unicode⟩
  exact (sound_checkLookbehind index).bind fun _ _ => hasked _

theorem steps_opening (place : Nat) (hparen : .plain '(' :: r.rest <:+ t) : Steps t mode (r.opening place) := by
  unfold opening
  refine (sound_accept h _).bind fun ⟨extended, s⟩ ⟨hs, hquestion⟩ => .ite (fun _ => hs) fun hextended => ?_
  have hextended : extended = true := by simpa using hextended
  refine (sound_take hs).bind fun ⟨token, u⟩ ⟨hu, hrest⟩ => ?_
  match token with
  | none | some (.escaped _) | some .dangling => exact sound_fail _ _ _ _
  | some (.plain c) =>
    have hswitches : .plain '(' :: .plain '?' :: .plain c :: u.rest <:+ t := by
      rw [← hrest _ rfl, ← hquestion hextended]
      exact hparen
    refine .ite (fun _ => steps_namedForm hu) fun _ => .ite (fun _ => hu) fun _ => .ite (fun _ => ?_) fun _ =>
      .ite (fun _ => hu) fun _ => .ite (fun _ => hu) fun _ => .ite (fun _ => ?_) fun _ =>
      .ite (fun _ => steps_condition hu) fun _ => .ite (fun _ => hu) fun _ => .ite (fun _ => ?_) fun _ =>
      sound_fail _ _ _ _
    · exact (sound_skipRemark hu _ _).bind fun v hv => hv
    · refine (steps_take hu).then fun token v hv => ?_
      cases token with
      | none => exact sound_fail _ _ _ _
      | some token => exact .ite (fun _ => hv) fun _ => .ite (fun _ => hv) fun _ => sound_fail _ _ _ _
    · exact (steps_switches hu hswitches).then fun change v hv => hv

theorem steps_openGroup (name : Option Text) : Steps t mode (r.openGroup name) := by
  unfold openGroup
  cases name with
  | none => exact ⟨h.rest, h.ascii, h.unicode⟩
  | some name =>
    dsimp only
    split
    · exact sound_fail _ _ _ _
    · exact ⟨h.rest, h.ascii, h.unicode⟩

theorem sound_closing (place : Nat) : Sound t mode (Stands t mode) (r.closing place) := by
  unfold closing
  exact (steps_accept h _).then fun closed s hs => .ite (fun _ => hs) fun _ => trivial

theorem sound_skipLine (fuel : Nat) : Sound t mode (Stands t mode) (skipLine fuel r) := by
  induction fuel generalizing r with
  | zero => exact h
  | succ fuel ih =>
    unfold skipLine
    exact (steps_take h).then fun token s hs => .ite (fun _ => hs) fun _ => ih hs

omit h

/-! ### The tree -/

/-- With a fuel of `n` the steps of the reader are sound. -/
structure AllSound (t : List Token) (mode : Mode) (n : Nat) : Prop where
  /-- Branches. -/
  choice (verbose : Bool) (depth : Nat) (whole : Bool) {r : Reading} (h : Stands t mode r) :
    Steps t mode (choice n verbose depth whole r)
  /-- Nodes of a branch. -/
  items (verbose : Bool) (depth : Nat) (whole : Bool) (nodes : List Node) {r : Reading} (h : Stands t mode r) :
    Steps t mode (items n verbose depth whole nodes r)
  /-- Groups behind their parenthesis. -/
  group (verbose : Bool) (depth : Nat) (early : Bool) (place : Nat) {r : Reading} (h : Stands t mode r)
    (hparen : .plain '(' :: r.rest <:+ t) :
    Sound t mode (fun x => Stands t mode x.2.2) (group n verbose depth early place r)

variable {n : Nat} (ih : AllSound t mode n) (verbose : Bool) (depth : Nat)

include ih

theorem AllSound.choice_step (whole : Bool) (h : Stands t mode r) :
    Steps t mode (Reading.choice (n + 1) verbose depth whole r) := by
  unfold Reading.choice
  refine (ih.items verbose depth whole [] h).then fun first s hs => .ite (fun _ => ?_) fun _ => hs
  exact (sound_advance hs).bind fun u hu => (ih.choice _ depth false hu.1).then fun second v hv => hv

theorem AllSound.items_step (whole : Bool) (nodes : List Node) (h : Stands t mode r) :
    Steps t mode (Reading.items (n + 1) verbose depth whole nodes r) := by
  have hgo (nodes : List Node) {s : Reading} (hs : Stands t mode s) :
      Steps t mode (Reading.items n verbose depth whole nodes s) := ih.items verbose depth whole nodes hs
  unfold Reading.items
  split
  · exact h
  · exact sound_fail _ _ _ _
  · exact (sound_advance h).bind fun s hs => (steps_escape hs.1 _).then fun escape u hu => hgo _ hu
  · next c rest hr =>
    refine .ite (fun _ => h) fun _ => (sound_advance h).bind fun s hadvance => ?_
    obtain ⟨hs, hrest⟩ := hadvance
    have hnext : .plain c :: s.rest <:+ t := by
      rw [hrest, hr]
      exact hr ▸ h.rest
    refine .ite (fun _ => hgo _ hs) fun _ => .ite (fun _ => ?_) fun _ => .ite (fun _ => ?_) fun _ =>
      .ite (fun _ => hgo _ hs) fun _ => .ite (fun _ => hgo _ hs) fun _ => .ite (fun _ => hgo _ hs) fun _ =>
      .ite (fun hc => ?_) fun _ => .ite (fun _ => ?_) fun _ => hgo _ hs
    · exact (sound_skipLine hs _).bind fun u hu => hgo _ hu
    · exact (steps_set hs _).then fun test u hu => hgo _ hu
    · exact (ih.group verbose depth _ _ hs (hc ▸ hnext)).bind fun x hx => ih.items _ depth whole _ hx
    · refine (steps_counts hs c).then fun counts u hu => ?_
      cases counts with
      | none => exact hgo _ hs
      | some counts => exact (steps_repeatLast hu _ _ _ _).then fun nodes v hv => hgo _ hv

theorem AllSound.group_step (early : Bool) (place : Nat) (h : Stands t mode r) (hparen : .plain '(' :: r.rest <:+ t) :
    Sound t mode (fun x => Stands t mode x.2.2) (Reading.group (n + 1) verbose depth early place r) := by
  have hbody (verbose : Bool) {s : Reading} (hs : Stands t mode s) :
      Steps t mode (Reading.choice n verbose (depth + 1) false s) := ih.choice verbose (depth + 1) false hs
  unfold Reading.group
  refine (steps_opening h place hparen).then fun opening s hs => .ite (fun _ => trivial) fun _ => ?_
  match opening with
  | .comment | .backref _ => exact hs
  | .global => exact .ite (fun _ => hs) fun _ => sound_fail _ _ _ _
  | .capture name =>
    refine (steps_openGroup hs name).then fun index u hu => (hbody verbose hu).then fun body v hv => ?_
    exact (sound_closing hv place).bind fun w hw => ⟨hw.rest, hw.ascii, hw.unicode⟩
  | .scoped change => exact (hbody _ hs).then fun body u hu => (sound_closing hu place).bind fun v hv => hv
  | .atomic => exact (hbody _ hs).then fun body u hu => (sound_closing hu place).bind fun v hv => hv
  | .look false negated => exact (hbody _ hs).then fun body u hu => (sound_closing hu place).bind fun v hv => hv
  | .look true negated =>
    have hwithin (behind : Option Nat) {u : Reading} (hu : Stands t mode u) : Stands t mode { u with behind } :=
      ⟨hu.rest, hu.ascii, hu.unicode⟩
    refine (hbody verbose (hwithin _ hs)).then fun body u hu => ?_
    exact (sound_closing (hwithin _ hu) place).bind fun v hv => hv
  | .conditional index =>
    refine (ih.items verbose (depth + 1) false [] hs).then fun yes u hu => (steps_accept hu _).then fun both v hv => ?_
    have hend (no : Node) {w : Reading} (hw : Stands t mode w) : Sound t mode (fun x => Stands t mode x.2.2)
        (if both && w.isNext '|' then w.fail .threeBranches 0
          else return (some (Node.conditional index yes no), verbose, ← w.closing place)) :=
      .ite (fun _ => sound_fail _ _ _ _) fun _ => (sound_closing hw place).bind fun x hx => hx
    cases both with
    | false => exact hend .empty hv
    | true => exact (ih.items verbose (depth + 1) false [] hv).then fun no w hw => hend no hw

omit ih

theorem allSound (t : List Token) (mode : Mode) (n : Nat) : AllSound t mode n := by
  induction n with
  | zero =>
    constructor
    · intro verbose depth whole r h
      unfold Reading.choice
      trivial
    · intro verbose depth whole nodes r h
      unfold Reading.items
      trivial
    · intro verbose depth early place r h hparen
      unfold Reading.group
      trivial
  | succ n ih =>
    constructor
    · intro verbose depth whole r h
      exact ih.choice_step verbose depth whole h
    · intro verbose depth whole nodes r h
      exact ih.items_step verbose depth whole nodes h
    · intro verbose depth early place r h hparen
      exact ih.group_step verbose depth early place h hparen

end Reading

/-! ### Whole patterns -/

theorem sound_start (text : Text) (mode : Mode) :
    Sound (Token.ofText text) mode (Reading.Stands (Token.ofText text) mode) (Reading.start text mode) := by
  unfold Reading.start
  split
  · trivial
  · exact ⟨List.suffix_rfl, .inl, .inl⟩

/-- A tree has no fault but a look-behind without a fixed length and a repetition that is refused. -/
theorem grounded_fault {template : Bool} {node : Node} {fault : Fault} (h : node.fault? template = some fault) :
    Grounded t mode fault := by
  fun_induction Node.fault? template node with
  | case1 | case2 | case3 | case4 => cases h
  | case5 a b iha ihb | case6 a b iha ihb | case7 _ a b iha ihb =>
    rcases Option.or_eq_some_iff.mp h with h | ⟨-, h⟩
    · exact iha h
    · exact ihb h
  | case8 _ body ih | case9 _ body ih | case10 body ih | case11 _ body ih => exact ih h
  | case12 =>
    cases h
    trivial
  | case13 _ _ _ body _ ih => exact ih h
  | case14 =>
    cases h
    trivial
  | case15 _ _ body _ ih => exact ih h

/-- What a whole pattern is refused for shows in its tokens or in its mode. -/
theorem sound_parse (text : Text) (mode : Mode) : Sound (Token.ofText text) mode (fun _ => True) (parse text mode) := by
  unfold parse
  refine (sound_start text mode).bind fun r hr => ?_
  refine ((Reading.allSound _ mode _).choice mode.verbose 0 true hr).then fun node s hs => ?_
  refine .ite (fun hclash => ?_) fun _ => .ite (fun _ => Reading.sound_fail _ _ _ _) fun _ => ?_
  · obtain ⟨hascii, hunicode⟩ := Bool.and_eq_true_iff.mp hclash
    exact ⟨hs.ascii hascii, hs.unicode hunicode⟩
  · dsimp only
    split
    · trivial
    · split
      · next hfault => exact grounded_fault hfault
      · trivial

end FileSieve.Regex
