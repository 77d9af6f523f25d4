import FileSieve.Proofs.Regex.Symbol
import FileSieve.Proofs.Text.Trim

/-!
# Escaping the delimiter

The body of a pattern is its text with a backslash before every delimiter. Where no backslash of the text takes the
delimiter for the code point that it escapes, the tokens of the body are those of the text with the delimiter escaped
(`ofText_delimited`). The two rows of tokens are read side by side here: a reading of the text and one of the body agree
in all but the places, and a step that succeeds for the text succeeds for the body with the same result (`Carries`).

Only a step that takes a token can tell an escaped delimiter from a plain one. Within a set and outside of it both stand
for the code point itself, a comment passes over both, and nothing else that can be read has a delimiter in it: digits,
switches, names of groups and of code points.
-/

namespace FileSieve.Regex

/-! ### Tokens -/

/-- A token where the delimiter is escaped. -/
def Token.delimited : Token → Token
  | .plain c => if c = Pattern.delimiter then .escaped c else .plain c
  | .escaped c => .escaped c
  | .dangling => .dangling

theorem Token.delimited_plain {c : CodePoint} (h : c ≠ Pattern.delimiter) : Token.delimited (.plain c) = .plain c :=
  if_neg h

theorem Token.delimited_eq_plain {t : Token} {c : CodePoint} (hc : c ≠ Pattern.delimiter) :
    t.delimited = .plain c ↔ t = .plain c := by
  cases t with
  | plain d =>
    by_cases h : d = Pattern.delimiter
    · simp [Token.delimited, h, hc.symm]
    · simp [Token.delimited, h]
  | _ => simp [Token.delimited]

/-- Escaping the delimiter in a text escapes it as a token, unless it is escaped already. -/
theorem ofText_delimited {t : Text} (h : Token.escaped Pattern.delimiter ∉ Token.ofText t) :
    Token.ofText (t.replacePoint Pattern.delimiter ['\\', Pattern.delimiter]) =
      (Token.ofText t).map Token.delimited := by
  have hb : ('\\' : CodePoint) ≠ Pattern.delimiter := by decide
  fun_induction Token.ofText t with
  | case1 => rfl
  | case2 => simp [Text.replacePoint, hb, Token.ofText, Token.delimited]
  | case3 c hc =>
    by_cases hd : c = Pattern.delimiter
    · simp [Text.replacePoint, hd, Token.ofText, Token.delimited]
    · simp [Text.replacePoint, hd, hc, Token.ofText, Token.delimited]
  | case4 d rest ih =>
    simp only [List.mem_cons, Token.escaped.injEq, not_or] at h
    have hrest := ih h.2
    simp only [Text.replacePoint, List.flatMap_cons, hb, if_false, Ne.symm h.1] at hrest ⊢
    simp [Token.ofText_escaped, hrest, Token.delimited]
  | case5 c d rest hc ih =>
    simp only [List.mem_cons, reduceCtorEq, false_or] at h
    have hrest := ih h
    have hsplit : Text.replacePoint (c :: d :: rest) Pattern.delimiter ['\\', Pattern.delimiter] =
        (if c = Pattern.delimiter then [('\\' : CodePoint), Pattern.delimiter] else [c]) ++
          Text.replacePoint (d :: rest) Pattern.delimiter ['\\', Pattern.delimiter] := by
      simp [Text.replacePoint]
    rw [hsplit]
    by_cases hd : c = Pattern.delimiter
    · simp [hd, Token.ofText_escaped, hrest, Token.delimited]
    · simp [hd, Token.ofText_plain hc, hrest, Token.delimited]

/-! ### Steps that carry over -/

variable {α β γ δ : Type}

/-- Where the one step gives a result, the other gives a result that is related to it. -/
def Carries (R : α → β → Prop) (x : Except Fault α) (y : Except Fault β) : Prop :=
  ∀ a, x = .ok a → ∃ b, y = .ok b ∧ R a b

theorem Carries.ok {R : α → β → Prop} {a : α} {b : β} (h : R a b) : Carries R (.ok a) (.ok b) := by
  rintro _ ⟨⟩
  exact ⟨b, rfl, h⟩

theorem Carries.error (R : α → β → Prop) (fault : Fault) (y : Except Fault β) : Carries R (.error fault) y := by
  rintro _ ⟨⟩

theorem Carries.bind {R : α → β → Prop} {S : γ → δ → Prop} {x : Except Fault α} {y : Except Fault β}
    {f : α → Except Fault γ} {g : β → Except Fault δ} (h : Carries R x y) (hf : ∀ a b, R a b → Carries S (f a) (g b)) :
    Carries S (x >>= f) (y >>= g) := by
  intro c hc
  cases x with
  | error fault => simp [Bind.bind, Except.bind] at hc
  | ok a =>
    obtain ⟨b, rfl, hab⟩ := h a rfl
    exact hf a b hab c hc

theorem Carries.ite {R : α → β → Prop} {p : Prop} [Decidable p] {x x' : Except Fault α} {y y' : Except Fault β}
    (h : p → Carries R x y) (h' : ¬p → Carries R x' y') :
    Carries R (if p then x else x') (if p then y else y') := by
  split_ifs with hp
  · exact h hp
  · exact h' hp

theorem Carries.mono {R S : α → β → Prop} {x : Except Fault α} {y : Except Fault β} (h : Carries R x y)
    (hRS : ∀ a b, R a b → S a b) : Carries S x y := by
  intro a ha
  obtain ⟨b, hb, hab⟩ := h a ha
  exact ⟨b, hb, hRS a b hab⟩

namespace Reading

/-- Readings of a text and of one with the delimiter escaped: they agree in all but the places. -/
structure Likened (r r' : Reading) : Prop where
  /-- The tokens that follow are those with the delimiter escaped. -/
  rest : r'.rest = r.rest.map Token.delimited
  /-- The groups are the same. -/
  widths : r'.widths = r.widths
  /-- Their names are the same. -/
  names : r'.names = r.names
  /-- The look-behind around the place is the same. -/
  behind : r'.behind = r.behind
  /-- The mode is the same. -/
  mode : r'.mode = r.mode
  /-- The groups that conditionals ask for are the same. -/
  conditions : r'.conditions.map Prod.fst = r.conditions.map Prod.fst

/-- The same result, and readings that agree. -/
def Same (x y : α × Reading) : Prop :=
  x.1 = y.1 ∧ Likened x.2 y.2

/-- The steps that follow are given the same result. -/
theorem carries_then {R : β → γ → Prop} {x y : Except Fault (α × Reading)} {f : α × Reading → Except Fault β}
    {g : α × Reading → Except Fault γ} (h : Carries Same x y)
    (hf : ∀ a s s', Likened s s' → Carries R (f (a, s)) (g (a, s'))) : Carries R (x >>= f) (y >>= g) := by
  refine h.bind ?_
  rintro ⟨a, s⟩ ⟨_, s'⟩ ⟨rfl, hs⟩
  exact hf a s s' hs

theorem carries_fail (R : α → β → Prop) (r : Reading) (cause : SyntaxFault) (back : Nat) (y : Except Fault β) :
    Carries R (r.fail cause back) y :=
  .error R _ y

variable {r r' : Reading} (h : Likened r r')

include h

/-! ### Taking tokens -/

theorem carries_advance : Carries Likened r.advance r'.advance := by
  unfold advance
  rw [h.rest]
  match hr : r.rest with
  | [] => exact .ok h
  | token :: .dangling :: _ => exact .error _ _ _
  | [token] => exact .ok ⟨rfl, h.widths, h.names, h.behind, h.mode, h.conditions⟩
  | token :: .plain c :: rest =>
    by_cases hc : c = Pattern.delimiter
    · simp only [List.map_cons, Token.delimited, hc, if_true]
      exact .ok ⟨by simp [Token.delimited], h.widths, h.names, h.behind, h.mode, h.conditions⟩
    · simp only [List.map_cons, Token.delimited, hc, if_false]
      exact .ok ⟨by simp [Token.delimited, hc], h.widths, h.names, h.behind, h.mode, h.conditions⟩
  | token :: .escaped c :: rest => exact .ok ⟨rfl, h.widths, h.names, h.behind, h.mode, h.conditions⟩

theorem length_rest_eq : r'.rest.length = r.rest.length := by
  rw [h.rest, List.length_map]

theorem isNext_eq {c : CodePoint} (hc : c ≠ Pattern.delimiter) : r'.isNext c = r.isNext c := by
  unfold isNext
  rw [h.rest]
  cases r.rest with
  | nil => rfl
  | cons token rest =>
    cases token with
    | plain d =>
      by_cases hd : d = Pattern.delimiter
      · simp [Token.delimited, hd, hc.symm]
      · simp [Token.delimited, hd]
    | _ => rfl

theorem carries_accept {c : CodePoint} (hc : c ≠ Pattern.delimiter) : Carries Same (r.accept c) (r'.accept c) := by
  unfold accept
  rw [isNext_eq h hc]
  split_ifs
  · exact (carries_advance h).bind fun s s' hs => .ok ⟨rfl, hs⟩
  · exact .ok ⟨rfl, h⟩

/-- A token that is taken is escaped if it is the delimiter. -/
theorem carries_taking {R : α → β → Prop} {f : Option Token × Reading → Except Fault α}
    {g : Option Token × Reading → Except Fault β}
    (hf : ∀ token s s', Likened s s' → Carries R (f (token, s)) (g (token.map Token.delimited, s'))) :
    Carries R (r.take >>= f) (r'.take >>= g) := by
  have htake : Carries (fun x y => y.1 = x.1.map Token.delimited ∧ Likened x.2 y.2) r.take r'.take := by
    unfold take
    rw [h.rest, List.head?_map]
    exact (carries_advance h).bind fun s s' hs => .ok ⟨rfl, hs⟩
  refine htake.bind ?_
  rintro ⟨token, s⟩ ⟨_, s'⟩ ⟨rfl, hs⟩
  exact hf token s s' hs

theorem carries_takeWhile {p : CodePoint → Bool} (hp : p Pattern.delimiter = false) (count : Nat) :
    Carries Same (takeWhile p count r) (takeWhile p count r') := by
  induction count generalizing r r' with
  | zero => exact .ok ⟨rfl, h⟩
  | succ count ih =>
    unfold takeWhile
    rw [h.rest]
    cases r.rest with
    | nil => exact .ok ⟨rfl, h⟩
    | cons token rest =>
      cases token with
      | plain c =>
        by_cases hc : c = Pattern.delimiter
        · simp only [List.map_cons, Token.delimited, hc, hp, if_true]
          exact .ok ⟨rfl, h⟩
        · simp only [List.map_cons, Token.delimited, hc, if_false]
          split_ifs
          · refine (carries_advance h).bind fun s s' hs => carries_then (ih hs) fun cs t t' ht => ?_
            exact .ok ⟨rfl, ht⟩
          · exact .ok ⟨rfl, h⟩
      | _ => exact .ok ⟨rfl, h⟩

theorem carries_takeDigits : Carries Same r.takeDigits r'.takeDigits := by
  unfold takeDigits
  rw [length_rest_eq h]
  exact carries_takeWhile h (by decide) _

/-- Names taken from the two texts: they are the same where the delimiter is not in them. -/
def Renamed (name name' : Text) : Prop :=
  (name' = [] → name = []) ∧ (Pattern.delimiter ∉ name → name' = name)

omit h in
theorem Renamed.append_token {name name' : Text} (hn : Renamed name name') (token : Token) :
    Renamed (name ++ token.text) (name' ++ token.delimited.text) := by
  constructor
  · intro hnil
    cases token <;> simp_all [Token.delimited, Token.text]
    split_ifs at hnil <;> simp at hnil
  · intro hmem
    simp only [List.mem_append, not_or] at hmem
    rw [hn.2 hmem.1]
    cases token with
    | plain c =>
      have hc : c ≠ Pattern.delimiter := fun hc => hmem.2 (by simp [Token.text, hc])
      rw [Token.delimited_plain hc]
    | _ => rfl

theorem carries_takeUntil {terminator : CodePoint} (ht : terminator ≠ Pattern.delimiter) (what : Text) (fuel : Nat)
    {name name' : Text} (hn : Renamed name name') :
    Carries (fun x y => Renamed x.1 y.1 ∧ Likened x.2 y.2) (takeUntil terminator what fuel name r)
      (takeUntil terminator what fuel name' r') := by
  induction fuel generalizing r r' name name' with
  | zero => exact carries_fail _ _ _ _ _
  | succ fuel ih =>
    unfold takeUntil
    refine carries_taking h fun token s s' hs => ?_
    cases token with
    | none =>
      dsimp only
      split_ifs <;> exact carries_fail _ _ _ _ _
    | some token =>
      simp only [Option.map_some, Token.delimited_eq_plain ht]
      refine .ite (fun _ => ?_) fun _ => ih hs (hn.append_token token)
      cases name with
      | nil => exact carries_fail _ _ _ _ _
      | cons c name =>
        cases name' with
        | nil => exact absurd (hn.1 rfl) (List.cons_ne_nil c name)
        | cons d name' => exact .ok ⟨hn, hs⟩

theorem carries_takeName {terminator : CodePoint} (ht : terminator ≠ Pattern.delimiter) (what : Text) :
    Carries (fun x y => Renamed x.1 y.1 ∧ Likened x.2 y.2) (r.takeName terminator what)
      (r'.takeName terminator what) := by
  unfold takeName
  rw [length_rest_eq h]
  exact carries_takeUntil h ht what _ ⟨id, fun _ => rfl⟩

/-! ### Escapes -/

theorem carries_hexEscape (c : CodePoint) (count : Nat) :
    Carries Same (r.hexEscape c count) (r'.hexEscape c count) := by
  unfold hexEscape
  refine carries_then (carries_takeWhile h (by decide) count) fun digits s s' hs => ?_
  dsimp only
  split_ifs
  · exact carries_fail _ _ _ _ _
  · exact .ok ⟨rfl, hs⟩
  · exact carries_fail _ _ _ _ _

omit h in
/-- No code point has a name with the delimiter in it. -/
theorem delimiter_notMem_name {name : Text} {c : CodePoint} (hname : CodePoint.ofName? name = some c) :
    Pattern.delimiter ∉ name := by
  intro hmem
  have hall : name.all CharName.isNamePoint = false :=
    List.all_eq_false.2 ⟨_, hmem, by decide⟩
  simp [CodePoint.ofName?, hall] at hname

theorem carries_nameEscape : Carries Same r.nameEscape r'.nameEscape := by
  unfold nameEscape
  refine carries_then (carries_accept h (by decide)) fun braced s s' hs => ?_
  dsimp only
  split_ifs
  · exact carries_fail _ _ _ _ _
  · refine (carries_takeName hs (by decide) _).bind ?_
    rintro ⟨name, u⟩ ⟨name', u'⟩ ⟨hname, hu⟩
    dsimp only
    cases hc : CodePoint.ofName? name with
    | none =>
      dsimp only
      split_ifs <;> exact carries_fail _ _ _ _ _
    | some c =>
      obtain rfl : name' = name := hname.2 (delimiter_notMem_name hc)
      simp only [hc]
      exact .ok ⟨rfl, hu⟩

theorem carries_octalEscape (digits : Text) : Carries Same (r.octalEscape digits) (r'.octalEscape digits) := by
  unfold octalEscape
  dsimp only
  split_ifs
  · exact carries_fail _ _ _ _ _
  · exact .ok ⟨rfl, h⟩

theorem carries_commonEscape (c : CodePoint) : Carries Same (r.commonEscape c) (r'.commonEscape c) := by
  unfold commonEscape plainEscape
  split_ifs
  · exact carries_hexEscape h c 2
  · exact carries_hexEscape h c 4
  · exact carries_hexEscape h c 8
  · exact carries_nameEscape h
  · exact carries_fail _ _ _ _ _
  · exact .ok ⟨rfl, h⟩

theorem carries_setEscape (c : CodePoint) : Carries Same (r.setEscape c) (r'.setEscape c) := by
  unfold setEscape
  refine .ite (fun _ => .ok ⟨rfl, h⟩) fun _ => ?_
  · cases control? c with
    | some d => exact .ok ⟨rfl, h⟩
    | none =>
      cases category? c with
      | some category => exact .ok ⟨rfl, h⟩
      | none =>
        dsimp only
        split_ifs
        · refine carries_then (carries_takeWhile h (by decide) 2) fun digits s s' hs => ?_
          refine carries_then (carries_octalEscape hs _) fun d u u' hu => ?_
          exact .ok ⟨rfl, hu⟩
        · exact carries_fail _ _ _ _ _
        · refine carries_then (carries_commonEscape h c) fun d s s' hs => ?_
          exact .ok ⟨rfl, hs⟩

theorem isClosed_eq (index : Nat) : r'.isClosed index = r.isClosed index := by
  unfold isClosed
  rw [h.widths]

theorem nextGroup_eq : r'.nextGroup = r.nextGroup := by
  unfold nextGroup
  rw [h.widths]

theorem carries_checkLookbehind (index : Nat) : Carries Eq (r.checkLookbehind index) (r'.checkLookbehind index) := by
  unfold checkLookbehind
  rw [h.behind, isClosed_eq h]
  cases r.behind with
  | none => exact .ok rfl
  | some limit =>
    dsimp only
    split_ifs
    · exact carries_fail _ _ _ _ _
    · exact carries_fail _ _ _ _ _
    · exact .ok rfl

theorem carries_groupEscape (digits : Text) : Carries Same (r.groupEscape digits) (r'.groupEscape digits) := by
  unfold groupEscape
  simp only [nextGroup_eq h, isClosed_eq h]
  split_ifs
  · exact carries_fail _ _ _ _ _
  · exact (carries_checkLookbehind h _).bind fun _ _ _ => .ok ⟨rfl, h⟩
  · exact carries_fail _ _ _ _ _

theorem carries_digitEscape (c : CodePoint) : Carries Same (r.digitEscape c) (r'.digitEscape c) := by
  unfold digitEscape
  split_ifs
  · refine carries_then (carries_takeWhile h (by decide) 2) fun digits s s' hs => ?_
    exact .ok ⟨rfl, hs⟩
  · refine carries_then (carries_takeWhile h (by decide) 1) fun second s s' hs => ?_
    dsimp only
    split_ifs
    · refine carries_then (carries_takeWhile hs (by decide) 1) fun third u u' hu => ?_
      dsimp only
      split_ifs
      · exact carries_groupEscape hu _
      · refine carries_then (carries_octalEscape hu _) fun d v v' hv => ?_
        exact .ok ⟨rfl, hv⟩
    · exact carries_groupEscape hs _

theorem carries_escape (c : CodePoint) : Carries Same (r.escape c) (r'.escape c) := by
  unfold escape
  cases anchor? c with
  | some kind => exact .ok ⟨rfl, h⟩
  | none =>
    cases category? c with
    | some category => exact .ok ⟨rfl, h⟩
    | none =>
      cases control? c with
      | some d => exact .ok ⟨rfl, h⟩
      | none =>
        dsimp only
        split_ifs
        · exact carries_digitEscape h c
        · refine carries_then (carries_commonEscape h c) fun d s s' hs => ?_
          exact .ok ⟨rfl, hs⟩

/-! ### Sets -/

/-- Within a set the delimiter stands for itself, escaped or not. -/
theorem carries_setEntry (token : Token) : Carries Same (r.setEntry token) (r'.setEntry token.delimited) := by
  cases token with
  | plain c =>
    by_cases hc : c = Pattern.delimiter
    · subst hc
      exact .ok ⟨rfl, h⟩
    · rw [Token.delimited_plain hc]
      exact .ok ⟨rfl, h⟩
  | escaped c => exact carries_setEscape h c
  | dangling => exact carries_fail _ _ _ _ _

omit h in
theorem carries_setRange (lo hi lo' hi' : Token) (a b : SetItem) :
    Carries Eq (r.setRange lo hi a b) (r'.setRange lo' hi' a b) := by
  unfold setRange
  dsimp only
  split
  · split_ifs
    · exact carries_fail _ _ _ _ _
    · exact .ok rfl
  · exact carries_fail _ _ _ _ _

theorem carries_setItems (opening opening' fuel : Nat) (its : List SetItem) :
    Carries Same (setItems opening fuel its r) (setItems opening' fuel its r') := by
  induction fuel generalizing r r' its with
  | zero => exact .error _ _ _
  | succ fuel ih =>
    unfold setItems
    refine carries_taking h fun token s s' hs => ?_
    cases token with
    | none => exact .error _ _ _
    | some token =>
      simp only [Option.map_some, Token.delimited_eq_plain (show (']' : CodePoint) ≠ Pattern.delimiter by decide)]
      split_ifs
      · exact .ok ⟨rfl, hs⟩
      · refine carries_then (carries_setEntry hs token) fun entry u u' hu => ?_
        refine carries_then (carries_accept hu (by decide)) fun dash v v' hv => ?_
        dsimp only
        split_ifs
        · exact ih hv _
        · refine carries_taking hv fun last w w' hw => ?_
          cases last with
          | none => exact .error _ _ _
          | some last =>
            simp only [Option.map_some, Token.delimited_eq_plain (show (']' : CodePoint) ≠ Pattern.delimiter by decide)]
            split_ifs
            · exact .ok ⟨rfl, hw⟩
            · refine carries_then (carries_setEntry hw last) fun entry' x x' hx => ?_
              refine (carries_setRange _ _ _ _ _ _).bind ?_
              rintro range _ rfl
              exact ih hx _

theorem carries_set (opening opening' : Nat) : Carries Same (r.set opening) (r'.set opening') := by
  unfold set
  refine carries_then (carries_accept h (by decide)) fun negated s s' hs => ?_
  dsimp only
  rw [length_rest_eq hs]
  refine carries_then (carries_setItems hs opening opening' _ []) fun its u u' hu => ?_
  dsimp only
  split <;> exact .ok ⟨rfl, hu⟩

/-! ### Repetitions -/

theorem carries_highDigits (comma : Bool) (low : Text) :
    Carries Same (r.highDigits comma low) (r'.highDigits comma low) :=
  .ite (fun _ => carries_takeDigits h) fun _ => .ok ⟨rfl, h⟩

theorem carries_counts (c : CodePoint) : Carries Same (r.counts c) (r'.counts c) := by
  unfold counts
  rw [isNext_eq h (by decide)]
  split_ifs
  · exact .ok ⟨rfl, h⟩
  · exact .ok ⟨rfl, h⟩
  · exact .ok ⟨rfl, h⟩
  · exact .ok ⟨rfl, h⟩
  · refine carries_then (carries_takeDigits h) fun low s s' hs => ?_
    refine carries_then (carries_accept hs (by decide)) fun comma u u' hu => ?_
    refine carries_then (carries_highDigits hu comma low) fun high v v' hv => ?_
    refine carries_then (carries_accept hv (by decide)) fun closed w w' hw => ?_
    refine .ite (fun _ => .ok ⟨rfl, h⟩) fun _ => ?_
    refine Carries.bind (R := Eq) (fun min hmin => ⟨min, hmin, rfl⟩) ?_
    rintro min _ rfl
    refine Carries.bind (R := Eq) (fun max hmax => ⟨max, hmax, rfl⟩) ?_
    rintro max _ rfl
    cases max with
    | none => exact .ok ⟨rfl, hw⟩
    | some n => exact .ite (fun _ => carries_fail _ _ _ _ _) fun _ => .ok ⟨rfl, hw⟩

theorem carries_greed : Carries Same r.greed r'.greed := by
  unfold greed
  refine carries_then (carries_accept h (by decide)) fun lazy s s' hs => ?_
  dsimp only
  split_ifs
  · exact .ok ⟨rfl, hs⟩
  · refine carries_then (carries_accept hs (by decide)) fun possessive u u' hu => ?_
    exact .ok ⟨rfl, hu⟩

theorem carries_repeatLast (operator operator' min : Nat) (max : Option Nat) (nodes : List Node) :
    Carries Same (r.repeatLast operator min max nodes) (r'.repeatLast operator' min max nodes) := by
  unfold repeatLast
  split
  · exact .error _ _ _
  · exact .error _ _ _
  · exact .error _ _ _
  · refine carries_then (carries_greed h) fun greed s s' hs => ?_
    exact .ok ⟨rfl, hs⟩

/-! ### Switches -/

omit h in
theorem carries_badSwitch (R : α → β → Prop) (token : Option Token) (missing : Text) (y : Except Fault β) :
    Carries R (r.badSwitch token missing) y := by
  unfold badSwitch
  cases token <;> exact carries_fail _ _ _ _ _

/-- The same two results, and readings that agree. -/
def Same₂ (x y : α × β × Reading) : Prop :=
  x.1 = y.1 ∧ Same x.2 y.2

omit h in
theorem carries_then₂ {R : γ → δ → Prop} {x y : Except Fault (α × β × Reading)} {f : α × β × Reading → Except Fault γ}
    {g : α × β × Reading → Except Fault δ} (h : Carries Same₂ x y)
    (hf : ∀ a b s s', Likened s s' → Carries R (f (a, b, s)) (g (a, b, s'))) : Carries R (x >>= f) (y >>= g) := by
  refine h.bind ?_
  rintro ⟨a, b, s⟩ ⟨_, _, s'⟩ ⟨rfl, rfl, hs⟩
  exact hf a b s s' hs

theorem carries_switchesOn (fuel : Nat) (on : Mode) (c : CodePoint) :
    Carries Same₂ (switchesOn fuel on c r) (switchesOn fuel on c r') := by
  induction fuel generalizing r r' on c with
  | zero => exact carries_fail _ _ _ _ _
  | succ fuel ih =>
    unfold switchesOn
    cases switch? c with
    | none => exact carries_fail _ _ _ _ _
    | some switch =>
      refine .ite (fun _ => carries_fail _ _ _ _ _) fun _ => carries_taking h fun token s s' hs => ?_
      match token with
      | none | some (.escaped _) | some .dangling => exact carries_badSwitch _ _ _ _
      | some (.plain d) =>
        by_cases hd : d = Pattern.delimiter
        · subst hd
          dsimp only
          rw [if_neg (by decide), if_neg (by decide)]
          exact carries_badSwitch _ _ _ _
        · simp only [Option.map_some, Token.delimited_plain hd]
          exact .ite (fun _ => .ok ⟨rfl, rfl, hs⟩) fun _ =>
            .ite (fun _ => ih hs _ d) fun _ => carries_badSwitch _ _ _ _

theorem carries_switchesOff (fuel : Nat) (off : Mode) (c : CodePoint) :
    Carries Same (switchesOff fuel off c r) (switchesOff fuel off c r') := by
  induction fuel generalizing r r' off c with
  | zero => exact carries_fail _ _ _ _ _
  | succ fuel ih =>
    unfold switchesOff
    cases switch? c with
    | none => exact carries_fail _ _ _ _ _
    | some switch =>
      refine .ite (fun _ => carries_fail _ _ _ _ _) fun _ => carries_taking h fun token s s' hs => ?_
      match token with
      | none | some (.escaped _) | some .dangling => exact carries_badSwitch _ _ _ _
      | some (.plain d) =>
        by_cases hd : d = Pattern.delimiter
        · subst hd
          dsimp only
          rw [if_neg (by decide), if_neg (by decide)]
          exact carries_badSwitch _ _ _ _
        · simp only [Option.map_some, Token.delimited_plain hd]
          exact .ite (fun _ => .ok ⟨rfl, hs⟩) fun _ =>
            .ite (fun _ => ih hs _ d) fun _ => carries_badSwitch _ _ _ _

theorem carries_leadingSwitches (c : CodePoint) : Carries Same₂ (r.leadingSwitches c) (r'.leadingSwitches c) := by
  unfold leadingSwitches
  rw [length_rest_eq h]
  exact .ite (fun _ => .ok ⟨rfl, rfl, h⟩) fun _ => carries_switchesOn h _ {} c

theorem carries_trailingSwitches (c : CodePoint) : Carries Same (r.trailingSwitches c) (r'.trailingSwitches c) := by
  unfold trailingSwitches
  refine .ite (fun _ => carries_taking h fun token s s' hs => ?_) fun _ => .ok ⟨rfl, h⟩
  match token with
  | none | some (.escaped _) | some .dangling => exact carries_badSwitch _ _ _ _
  | some (.plain d) =>
    by_cases hd : d = Pattern.delimiter
    · subst hd
      dsimp only
      rw [if_neg (by decide)]
      exact carries_badSwitch _ _ _ _
    · simp only [Option.map_some, Token.delimited_plain hd, length_rest_eq hs]
      exact .ite (fun _ => carries_switchesOff hs _ {} d) fun _ => carries_badSwitch _ _ _ _

theorem carries_switches (c : CodePoint) : Carries Same (r.switches c) (r'.switches c) := by
  unfold switches
  refine carries_then₂ (carries_leadingSwitches h c) fun on d s s' hs => ?_
  refine .ite (fun _ => .ok ⟨rfl, ?_⟩) fun _ => .ite (fun _ => carries_fail _ _ _ _ _) fun _ => ?_
  · exact ⟨hs.rest, hs.widths, hs.names, hs.behind, congrArg (Mode.union · on) hs.mode, hs.conditions⟩
  · refine carries_then (carries_trailingSwitches hs d) fun off u u' hu => ?_
    exact .ite (fun _ => carries_fail _ _ _ _ _) fun _ =>
      .ite (fun _ => carries_fail _ _ _ _ _) fun _ => .ok ⟨rfl, hu⟩

/-! ### Groups -/

theorem carries_skipRemark (opening opening' fuel : Nat) :
    Carries Likened (skipRemark opening fuel r) (skipRemark opening' fuel r') := by
  induction fuel generalizing r r' with
  | zero => exact .error _ _ _
  | succ fuel ih =>
    unfold skipRemark
    rw [isNext_eq h (by decide), h.rest, List.isEmpty_map]
    refine .ite (fun _ => .error _ _ _) fun _ => (carries_advance h).bind fun s s' hs => ?_
    exact .ite (fun _ => .ok hs) fun _ => ih hs

omit h in
/-- An identifier has no delimiter in it. -/
theorem delimiter_notMem_identifier {name : Text} (hname : name.isIdentifier) : Pattern.delimiter ∉ name := by
  have hstart : CodePoint.startsIdentifier Pattern.delimiter = false := by decide +kernel
  have hgoes : CodePoint.continuesIdentifier Pattern.delimiter = false := by decide +kernel
  intro hmem
  cases name with
  | nil => cases hmem
  | cons c rest =>
    simp only [Text.isIdentifier, Bool.and_eq_true, List.all_eq_true] at hname
    rcases List.mem_cons.1 hmem with hc | hrest
    · rw [← hc, hstart] at hname
      exact absurd hname.1 Bool.false_ne_true
    · have := hname.2 _ hrest
      rw [hgoes] at this
      exact absurd this Bool.false_ne_true

omit h in
theorem delimiter_mem_sign {t : Text} (ht : Pattern.delimiter ∈ t) : Pattern.delimiter ∈ (Numeral.sign t).2 := by
  cases t with
  | nil => cases ht
  | cons c rest =>
    have hrest (hc : c ≠ Pattern.delimiter) : Pattern.delimiter ∈ rest :=
      (List.mem_cons.1 ht).resolve_left hc.symm
    simp only [Numeral.sign]
    split_ifs with hminus hplus
    · exact hrest (by rw [hminus]; decide)
    · exact hrest (by rw [hplus]; decide)
    · exact ht

omit h in
/-- A number has no delimiter in it. -/
theorem delimiter_notMem_int {name : Text} {n : Int} (hname : name.toInt = .ok n) : Pattern.delimiter ∉ name := by
  intro hmem
  have hplain : Pattern.delimiter ∈ Numeral.plain name :=
    List.mem_map.2 ⟨_, hmem, by decide⟩
  have hbody : Pattern.delimiter ∈ Numeral.body name := mem_trim (by decide) hplain
  cases hlow : Numeral.withoutLowLines (Numeral.sign (Numeral.body name)).2 with
  | none => simp [Text.toInt, hlow] at hname
  | some digits =>
    have hdigits : Pattern.delimiter ∈ digits := by
      unfold Numeral.withoutLowLines at hlow
      split at hlow
      · rw [← Option.some.inj hlow]
        exact List.mem_filter.2 ⟨delimiter_mem_sign hbody, by decide⟩
      · cases hlow
    have hall : digits.all CodePoint.isDigit = false := List.all_eq_false.2 ⟨_, hdigits, by decide⟩
    simp [Text.toInt, hlow, Numeral.allDigits, hall] at hname

theorem carries_groupName {terminator : CodePoint} (ht : terminator ≠ Pattern.delimiter) :
    Carries Same (r.groupName terminator) (r'.groupName terminator) := by
  unfold groupName
  refine (carries_takeName h ht _).bind ?_
  rintro ⟨name, s⟩ ⟨name', s'⟩ ⟨hname, hs⟩
  by_cases hid : name.isIdentifier
  · obtain rfl : name' = name := hname.2 (delimiter_notMem_identifier hid)
    exact .ite (fun _ => .ok ⟨rfl, hs⟩) fun _ => carries_fail _ _ _ _ _
  · dsimp only
    rw [if_neg hid]
    exact carries_fail _ _ _ _ _

theorem carries_namedGroup (name : Text) : Carries Eq (r.namedGroup name) (r'.namedGroup name) := by
  unfold namedGroup
  rw [h.names]
  cases r.names.lookup name with
  | none => exact carries_fail _ _ _ _ _
  | some index => exact .ok rfl

theorem carries_namedForm : Carries Same r.namedForm r'.namedForm := by
  unfold namedForm
  refine carries_then (carries_accept h (by decide)) fun named s s' hs => ?_
  refine .ite (fun _ => ?_) fun _ => ?_
  · exact carries_then (carries_groupName hs (by decide)) fun name u u' hu => .ok ⟨rfl, hu⟩
  · refine carries_then (carries_accept hs (by decide)) fun reference u u' hu => ?_
    refine .ite (fun _ => ?_) fun _ => ?_
    · refine carries_then (carries_groupName hu (by decide)) fun name v v' hv => ?_
      refine (carries_namedGroup hv name).bind ?_
      rintro index _ rfl
      rw [isClosed_eq hv]
      exact .ite (fun _ => carries_fail _ _ _ _ _) fun _ =>
        (carries_checkLookbehind hv index).bind fun _ _ _ => .ok ⟨rfl, hv⟩
    · refine carries_taking hu fun token v v' hv => ?_
      cases token <;> exact carries_fail _ _ _ _ _

theorem carries_askedGroup {name name' : Text} (hname : Renamed name name') :
    Carries (fun i j => i = j ∧ name' = name) (r.askedGroup name) (r'.askedGroup name') := by
  by_cases hmem : Pattern.delimiter ∈ name
  · have hid : ¬name.isIdentifier := fun hid => delimiter_notMem_identifier hid hmem
    unfold askedGroup
    rw [if_neg hid]
    cases hn : name.toInt with
    | error cause => exact carries_fail _ _ _ _ _
    | ok n => exact absurd hmem (delimiter_notMem_int hn)
  · obtain rfl : name' = name := hname.2 hmem
    unfold askedGroup
    refine .ite (fun _ => (carries_namedGroup h name').mono fun _ _ hij => ⟨hij, rfl⟩) fun _ => ?_
    cases name'.toInt with
    | error cause => exact carries_fail _ _ _ _ _
    | ok n =>
      exact .ite (fun _ => carries_fail _ _ _ _ _) fun _ => .ite (fun _ => carries_fail _ _ _ _ _) fun _ =>
        .ite (fun _ => carries_fail _ _ _ _ _) fun _ => .ok ⟨rfl, rfl⟩

omit h in
theorem isSome_lookup_eq {β : Type} (index : Nat) {l l' : List (Nat × β)} (hl : l'.map Prod.fst = l.map Prod.fst) :
    (l'.lookup index).isSome = (l.lookup index).isSome := by
  have hkeys (m : List (Nat × β)) : (m.lookup index).isSome = true ↔ index ∈ m.map Prod.fst := by
    simp only [List.lookup_isSome_iff, beq_iff_eq, List.mem_map]
    exact exists_congr fun entry => and_congr_right fun _ => eq_comm
  rw [Bool.eq_iff_iff, hkeys, hkeys, hl]

theorem Likened.asking (cs cs' : List (Nat × Nat)) (hcs : cs'.map Prod.fst = cs.map Prod.fst) :
    Likened { r with conditions := cs } { r' with conditions := cs' } :=
  ⟨h.rest, h.widths, h.names, h.behind, h.mode, hcs⟩

theorem carries_condition : Carries Same r.condition r'.condition := by
  unfold condition
  refine (carries_takeName h (by decide) _).bind ?_
  rintro ⟨name, s⟩ ⟨name', s'⟩ ⟨hname, hs⟩
  refine (carries_askedGroup hs hname).bind ?_
  rintro index _ ⟨rfl, rfl⟩
  have hasked := hs.asking
    (if (name'.isIdentifier || (s.conditions.lookup index).isSome) = true then s.conditions
      else s.conditions ++ [(index, s.place - name'.length - 1)])
    (if (name'.isIdentifier || (s'.conditions.lookup index).isSome) = true then s'.conditions
      else s'.conditions ++ [(index, s'.place - name'.length - 1)]) (by
      rw [isSome_lookup_eq index hs.conditions]
      split_ifs <;> simp [hs.conditions])
  exact (carries_checkLookbehind hasked index).bind fun _ _ _ => .ok ⟨rfl, hasked⟩

theorem carries_opening (place place' : Nat) : Carries Same (r.opening place) (r'.opening place') := by
  unfold opening
  refine carries_then (carries_accept h (by decide)) fun extended s s' hs => ?_
  refine .ite (fun _ => .ok ⟨rfl, hs⟩) fun _ => carries_taking hs fun token u u' hu => ?_
  match token with
  | none | some (.escaped _) | some .dangling => exact carries_fail _ _ _ _ _
  | some (.plain c) =>
    by_cases hc : c = Pattern.delimiter
    · subst hc
      exact carries_fail _ _ _ _ _
    · simp only [Option.map_some, Token.delimited_plain hc, length_rest_eq hu]
      refine .ite (fun _ => carries_namedForm hu) fun _ => .ite (fun _ => .ok ⟨rfl, hu⟩) fun _ =>
        .ite (fun _ => ?_) fun _ => .ite (fun _ => .ok ⟨rfl, hu⟩) fun _ => .ite (fun _ => .ok ⟨rfl, hu⟩) fun _ =>
        .ite (fun _ => ?_) fun _ => .ite (fun _ => carries_condition hu) fun _ =>
        .ite (fun _ => .ok ⟨rfl, hu⟩) fun _ => .ite (fun _ => ?_) fun _ => carries_fail _ _ _ _ _
      · exact (carries_skipRemark hu _ _ _).bind fun v v' hv => .ok ⟨rfl, hv⟩
      · refine carries_taking hu fun token v v' hv => ?_
        cases token with
        | none => exact carries_fail _ _ _ _ _
        | some token =>
          simp only [Option.map_some, Token.delimited_eq_plain (show ('=' : CodePoint) ≠ Pattern.delimiter by decide),
            Token.delimited_eq_plain (show ('!' : CodePoint) ≠ Pattern.delimiter by decide)]
          exact .ite (fun _ => .ok ⟨rfl, hv⟩) fun _ => .ite (fun _ => .ok ⟨rfl, hv⟩) fun _ => carries_fail _ _ _ _ _
      · refine carries_then (carries_switches hu c) fun change v v' hv => ?_
        cases change <;> exact .ok ⟨rfl, hv⟩

theorem carries_openGroup (name : Option Text) : Carries Same (r.openGroup name) (r'.openGroup name) := by
  unfold openGroup
  rw [nextGroup_eq h, h.names, h.widths]
  cases name with
  | none => exact .ok ⟨rfl, h.rest, rfl, rfl, h.behind, h.mode, h.conditions⟩
  | some name =>
    dsimp only
    cases r.names.lookup name with
    | some old => exact carries_fail _ _ _ _ _
    | none => exact .ok ⟨rfl, h.rest, rfl, rfl, h.behind, h.mode, h.conditions⟩

theorem Likened.closeGroup (index : Nat) (body : Node) :
    Likened (r.closeGroup index body) (r'.closeGroup index body) := by
  refine ⟨h.rest, ?_, h.names, h.behind, h.mode, h.conditions⟩
  simp only [Reading.closeGroup, h.widths]

theorem Likened.within (behind : Option Nat) : Likened { r with behind } { r' with behind } :=
  ⟨h.rest, h.widths, h.names, rfl, h.mode, h.conditions⟩

theorem carries_closing (place place' : Nat) : Carries Likened (r.closing place) (r'.closing place') := by
  unfold closing
  exact carries_then (carries_accept h (by decide)) fun closed s s' hs =>
    .ite (fun _ => .ok hs) fun _ => .error _ _ _

theorem carries_skipLine (fuel : Nat) : Carries Likened (skipLine fuel r) (skipLine fuel r') := by
  induction fuel generalizing r r' with
  | zero => exact .ok h
  | succ fuel ih =>
    unfold skipLine
    refine carries_taking h fun token s s' hs => ?_
    have hend : token.map Token.delimited = some (.plain '\n') ↔ token = some (.plain '\n') := by
      cases token with
      | none => simp
      | some token => simp [Token.delimited_eq_plain (show ('\n' : CodePoint) ≠ Pattern.delimiter by decide)]
    simp only [Option.isNone_map, hend]
    exact .ite (fun _ => .ok hs) fun _ => ih hs

omit h

/-! ### The tree -/

/-- With a fuel of `n` for the text, and at least as much for the text with the delimiter escaped, what is read from
the one is read from the other. -/
structure Tracks (n : Nat) : Prop where
  /-- Branches. -/
  choice {n' : Nat} (hn : n ≤ n') (verbose : Bool) (depth : Nat) (whole : Bool) {r r' : Reading} (h : Likened r r') :
    Carries Same (choice n verbose depth whole r) (Reading.choice n' verbose depth whole r')
  /-- Nodes of a branch. -/
  items {n' : Nat} (hn : n ≤ n') (verbose : Bool) (depth : Nat) (whole : Bool) (nodes : List Node) {r r' : Reading}
    (h : Likened r r') :
    Carries Same (items n verbose depth whole nodes r) (Reading.items n' verbose depth whole nodes r')
  /-- Groups. -/
  group {n' : Nat} (hn : n ≤ n') (verbose : Bool) (depth : Nat) (early : Bool) (place place' : Nat) {r r' : Reading}
    (h : Likened r r') :
    Carries Same₂ (group n verbose depth early place r) (Reading.group n' verbose depth early place' r')

variable {n n' : Nat} (ih : Tracks n) (hn : n ≤ n') (verbose : Bool) (depth : Nat)

include ih hn

theorem Tracks.choice_step (whole : Bool) (h : Likened r r') :
    Carries Same (Reading.choice (n + 1) verbose depth whole r) (Reading.choice (n' + 1) verbose depth whole r') := by
  unfold Reading.choice
  refine carries_then (ih.items hn verbose depth whole [] h) fun first s s' hs => ?_
  dsimp only
  rw [isNext_eq hs (by decide)]
  refine .ite (fun _ => (carries_advance hs).bind fun u u' hu => ?_) fun _ => .ok ⟨rfl, hs⟩
  rw [hu.mode]
  exact carries_then (ih.choice hn _ depth false hu) fun second v v' hv => .ok ⟨rfl, hv⟩

theorem Tracks.items_step (whole : Bool) (nodes : List Node) (h : Likened r r') :
    Carries Same (Reading.items (n + 1) verbose depth whole nodes r)
      (Reading.items (n' + 1) verbose depth whole nodes r') := by
  have hescaped (c : CodePoint) {s s' : Reading} (hs : Likened s s') :
      Carries Same (s.escape c >>= fun p => Reading.items n verbose depth whole (p.1.node :: nodes) p.2)
        (s'.escape c >>= fun p => Reading.items n' verbose depth whole (p.1.node :: nodes) p.2) :=
    carries_then (carries_escape hs c) fun escape u u' hu => ih.items hn verbose depth whole _ hu
  unfold Reading.items
  rw [h.rest]
  rcases r.rest with _ | ⟨c | c | _, rest⟩
  · exact .ok ⟨rfl, h⟩
  · by_cases hc : c = Pattern.delimiter
    · subst hc
      have hself (s : Reading) : s.escape Pattern.delimiter = .ok (.point Pattern.delimiter, s) := rfl
      simp only [List.map_cons, Token.delimited, if_true]
      rw [if_neg (by decide)]
      refine (carries_advance h).bind fun s s' hs => ?_
      rw [hself]
      iterate 8 rw [if_neg (by cases verbose <;> decide)]
      exact ih.items hn verbose depth whole _ hs
    · simp only [List.map_cons, Token.delimited_plain hc]
      refine .ite (fun _ => .ok ⟨rfl, h⟩) fun _ => (carries_advance h).bind fun s s' hs => ?_
      rw [length_rest_eq hs]
      refine .ite (fun _ => ih.items hn verbose depth whole nodes hs) fun _ => .ite (fun _ => ?_) fun _ =>
        .ite (fun _ => ?_) fun _ => .ite (fun _ => ih.items hn verbose depth whole _ hs) fun _ =>
        .ite (fun _ => ih.items hn verbose depth whole _ hs) fun _ =>
        .ite (fun _ => ih.items hn verbose depth whole _ hs) fun _ => .ite (fun _ => ?_) fun _ =>
        .ite (fun _ => ?_) fun _ => ih.items hn verbose depth whole _ hs
      · exact (carries_skipLine hs _).bind fun u u' hu => ih.items hn verbose depth whole nodes hu
      · exact carries_then (carries_set hs _ _) fun test u u' hu => ih.items hn verbose depth whole _ hu
      · exact carries_then₂ (ih.group hn verbose depth _ _ _ hs) fun node verbose u u' hu =>
          ih.items hn verbose depth whole _ hu
      · refine carries_then (carries_counts hs c) fun counts u u' hu => ?_
        cases counts with
        | none => exact ih.items hn verbose depth whole _ hs
        | some counts =>
          exact carries_then (carries_repeatLast hu _ _ counts.1 counts.2 nodes) fun nodes v v' hv =>
            ih.items hn verbose depth whole nodes hv
  · exact (carries_advance h).bind fun s s' hs => hescaped c hs
  · exact carries_fail _ _ _ _ _

theorem Tracks.group_step (early : Bool) (place place' : Nat) (h : Likened r r') :
    Carries Same₂ (Reading.group (n + 1) verbose depth early place r)
      (Reading.group (n' + 1) verbose depth early place' r') := by
  unfold Reading.group
  refine carries_then (carries_opening h place place') fun opening s s' hs => ?_
  refine .ite (fun _ => .error _ _ _) fun _ => ?_
  match opening with
  | .comment => exact .ok ⟨rfl, rfl, hs⟩
  | .backref index => exact .ok ⟨rfl, rfl, hs⟩
  | .global => exact .ite (fun _ => .ok ⟨rfl, congrArg Mode.verbose hs.mode.symm, hs⟩) fun _ => carries_fail _ _ _ _ _
  | .capture name =>
    refine carries_then (carries_openGroup hs name) fun index u u' hu => ?_
    refine carries_then (ih.choice hn verbose (depth + 1) false hu) fun body v v' hv => ?_
    exact (carries_closing hv place place').bind fun w w' hw => .ok ⟨rfl, rfl, hw.closeGroup index body⟩
  | .scoped change =>
    refine carries_then (ih.choice hn _ (depth + 1) false hs) fun body u u' hu => ?_
    exact (carries_closing hu place place').bind fun v v' hv => .ok ⟨rfl, rfl, hv⟩
  | .atomic =>
    refine carries_then (ih.choice hn verbose (depth + 1) false hs) fun body u u' hu => ?_
    exact (carries_closing hu place place').bind fun v v' hv => .ok ⟨rfl, rfl, hv⟩
  | .look false negated =>
    refine carries_then (ih.choice hn verbose (depth + 1) false hs) fun body u u' hu => ?_
    exact (carries_closing hu place place').bind fun v v' hv => .ok ⟨rfl, rfl, hv⟩
  | .look true negated =>
    dsimp only
    rw [hs.behind, nextGroup_eq hs]
    refine carries_then (ih.choice hn verbose (depth + 1) false (hs.within _)) fun body u u' hu => ?_
    refine (carries_closing (hu.within s.behind) place place').bind fun v v' hv => ?_
    exact .ok ⟨by rw [hv.widths], rfl, hv⟩
  | .conditional index =>
    refine carries_then (ih.items hn verbose (depth + 1) false [] hs) fun yes u u' hu => ?_
    refine carries_then (carries_accept hu (by decide)) fun both v v' hv => ?_
    have hend (no : Node) {w w' : Reading} (hw : Likened w w') :
        Carries Same₂
          (if both && w.isNext '|' then w.fail .threeBranches 0
            else return (some (Node.conditional index yes no), verbose, ← w.closing place))
          (if both && w'.isNext '|' then w'.fail .threeBranches 0
            else return (some (Node.conditional index yes no), verbose, ← w'.closing place')) := by
      rw [isNext_eq hw (by decide)]
      exact .ite (fun _ => carries_fail _ _ _ _ _) fun _ =>
        (carries_closing hw place place').bind fun x x' hx => .ok ⟨rfl, rfl, hx⟩
    cases both with
    | false => exact hend .empty hv
    | true => exact carries_then (ih.items hn verbose (depth + 1) false [] hv) fun no w w' hw => hend no hw

omit ih hn

theorem tracks (n : Nat) : Tracks n := by
  induction n with
  | zero =>
    constructor
    · intro n' hn verbose depth whole r r' h
      unfold Reading.choice
      exact .error _ _ _
    · intro n' hn verbose depth whole nodes r r' h
      unfold Reading.items
      exact .error _ _ _
    · intro n' hn verbose depth early place place' r r' h
      unfold Reading.group
      exact .error _ _ _
  | succ n ih =>
    have hpred {n' : Nat} (hn : n + 1 ≤ n') : ∃ m, n' = m + 1 ∧ n ≤ m := ⟨n' - 1, by omega, by omega⟩
    constructor
    · intro n' hn verbose depth whole r r' h
      obtain ⟨m, rfl, hm⟩ := hpred hn
      exact ih.choice_step hm verbose depth whole h
    · intro n' hn verbose depth whole nodes r r' h
      obtain ⟨m, rfl, hm⟩ := hpred hn
      exact ih.items_step hm verbose depth whole nodes h
    · intro n' hn verbose depth early place place' r r' h
      obtain ⟨m, rfl, hm⟩ := hpred hn
      exact ih.group_step hm verbose depth early place place' h

end Reading

/-- No token is wider than the delimiter escaped. -/
theorem length_le_replacePoint (t : Text) :
    t.length ≤ (t.replacePoint Pattern.delimiter ['\\', Pattern.delimiter]).length := by
  induction t with
  | nil => exact Nat.le_refl _
  | cons c t ih =>
    simp only [Text.replacePoint, List.flatMap_cons, List.length_append, List.length_cons] at ih ⊢
    split_ifs <;> simp only [List.length_cons, List.length_nil] <;> omega

theorem carries_start {t : Text} {mode : Mode} (h : Token.escaped Pattern.delimiter ∉ Token.ofText t) :
    Carries Reading.Likened (Reading.start t mode)
      (Reading.start (t.replacePoint Pattern.delimiter ['\\', Pattern.delimiter]) mode) := by
  unfold Reading.start
  rw [ofText_delimited h]
  match Token.ofText t with
  | .dangling :: _ => exact .error _ _ _
  | [] => exact .ok ⟨rfl, rfl, rfl, rfl, rfl, rfl⟩
  | .escaped c :: _ => exact .ok ⟨rfl, rfl, rfl, rfl, rfl, rfl⟩
  | .plain c :: _ =>
    by_cases hc : c = Pattern.delimiter
    · subst hc
      exact .ok ⟨rfl, rfl, rfl, rfl, rfl, rfl⟩
    · simp only [List.map_cons, Token.delimited_plain hc]
      exact .ok ⟨by simp only [List.map_cons, Token.delimited_plain hc], rfl, rfl, rfl, rfl, rfl⟩

/-- A pattern in which no backslash escapes the delimiter is read as before when the delimiter is escaped. -/
theorem parse_delimited {t : Text} {mode : Mode} {parsed : Parsed} (h : parse t mode = .ok parsed)
    (hself : Token.escaped Pattern.delimiter ∉ Token.ofText t) :
    parse (t.replacePoint Pattern.delimiter ['\\', Pattern.delimiter]) mode = .ok parsed := by
  have hfuel : 3 * t.length + 3 ≤
      3 * (t.replacePoint Pattern.delimiter ['\\', Pattern.delimiter]).length + 3 := by
    have := length_le_replacePoint t
    omega
  have hparse : Carries Eq (parse t mode)
      (parse (t.replacePoint Pattern.delimiter ['\\', Pattern.delimiter]) mode) := by
    unfold parse
    refine (carries_start hself).bind fun r r' hr => ?_
    refine Reading.carries_then ((Reading.tracks _).choice hfuel mode.verbose 0 true hr) fun node s s' hs => ?_
    have hasked : s'.conditions.find? (fun entry => decide (s'.nextGroup ≤ entry.1)) = none ↔
        s.conditions.find? (fun entry => decide (s.nextGroup ≤ entry.1)) = none := by
      have hfirst (l : List (Nat × Nat)) : l.find? (fun entry => decide (s.nextGroup ≤ entry.1)) = none ↔
          ∀ index ∈ l.map Prod.fst, index < s.nextGroup := by
        simp
      rw [Reading.nextGroup_eq hs, hfirst, hfirst, hs.conditions]
    dsimp only
    rw [hs.mode, hs.rest, List.isEmpty_map]
    refine .ite (fun _ => .error _ _ _) fun _ => .ite (fun _ => Reading.carries_fail _ _ _ _ _) fun _ => ?_
    split
    · exact .error _ _ _
    · next hfind =>
      rw [show _ = none from hasked.2 hfind]
      dsimp only
      cases node.fault? s.mode.template with
      | some fault => exact .error _ _ _
      | none => exact .ok (by rw [hs.widths])
  obtain ⟨_, hok, rfl⟩ := hparse parsed h
  exact hok

end FileSieve.Regex
