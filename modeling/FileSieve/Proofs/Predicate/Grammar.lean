import FileSieve.Predicate.Operator
import FileSieve.Proofs.Text.Trim

/-!
# The grammar of predicates

A comparison is an operator, white space, and a value that begins with a digit (`Opens`). A predicate is a text without
white space around it that is two comparisons, one, or a value alone (`Denotes`). Where the first of two comparisons
ends is not plain, as its value may hold anything but a newline, the symbols of operators too: the first value ends
behind the first place from which the rest of the text is a comparison (`FirstCut`).
-/

namespace FileSieve

namespace Predicate

/-- White space of ASCII. -/
def Spaces (t : Text) : Prop :=
  ∀ c ∈ t, c.isAsciiSpace = true

/-- A text that begins with a digit. -/
def BeginsWithDigit (t : Text) : Prop :=
  ∃ d rest, t = d :: rest ∧ d.isDigit = true

/-- A text that begins with an operator and white space, in front of a value. -/
structure Opens (op : Operator) (value t : Text) : Prop where
  /-- The value begins with a digit. -/
  digit : BeginsWithDigit value
  /-- The operator and the white space are in front of it. -/
  front : ∃ ws, Spaces ws ∧ t = op.symbol ++ ws ++ value

/-- A comparison whose value goes on to the end of the line and of the text. -/
structure Comparison (op : Operator) (value t : Text) : Prop extends Opens op value t where
  /-- The value has no newline. -/
  line : ('\n' : CodePoint) ∉ value

/-- A value that is cut into a first value, perhaps with white space behind it, and a comparison. -/
structure Cut (value first : Text) (op : Operator) (second : Text) : Prop where
  /-- The rest is a comparison. -/
  rest : ∃ rest, value = first ++ rest ∧ Comparison op second rest
  /-- A newline may only stand in the white space at the end of the first value. -/
  line : ∃ body ws, first = body ++ ws ∧ ('\n' : CodePoint) ∉ body ∧ Spaces ws

/-- The first place where a value can be cut. -/
structure FirstCut (value first : Text) (op : Operator) (second : Text) : Prop extends Cut value first op second where
  /-- No place before it will do. -/
  least : ∀ {first' op' second'}, Cut value first' op' second' → first.length ≤ first'.length

/-- Whether a text begins with a comparison whose value can be cut. -/
def IsTwofold (t : Text) : Prop :=
  ∃ op value first op' second, Opens op value t ∧ Cut value first op' second

/-- The operators and the values that a predicate without white space around it denotes. -/
inductive Denotes (t : Text) : List (Operator × Text) → Prop
  /-- Two comparisons. -/
  | two {op op' : Operator} {value first second : Text} :
    Opens op value t → FirstCut value first op' second → Denotes t [(op, first.strip), (op', second)]
  /-- One comparison that is not two. -/
  | one {op : Operator} {value : Text} : ¬IsTwofold t → Comparison op value t → Denotes t [(op, value)]
  /-- A value alone. -/
  | bare : BeginsWithDigit t → ('\n' : CodePoint) ∉ t → Denotes t [(.eq, t)]

/-! ### What a text begins with -/

/-- A code point that the symbol of an operator begins with. -/
def IsSymbolPoint (c : CodePoint) : Prop :=
  c = '<' ∨ c = '>' ∨ c = '='

instance : DecidablePred IsSymbolPoint := fun c => inferInstanceAs (Decidable (c = '<' ∨ c = '>' ∨ c = '='))

theorem symbol_cons (op : Operator) : ∃ c rest, op.symbol = c :: rest ∧ IsSymbolPoint c := by
  unfold IsSymbolPoint
  cases op <;> exact ⟨_, _, rfl, by decide⟩

theorem not_isAsciiSpace_of_symbol {c : CodePoint} (h : IsSymbolPoint c) : ¬c.isAsciiSpace = true := by
  rcases h with rfl | rfl | rfl <;> decide

theorem not_isDigit_of_symbol {c : CodePoint} (h : IsSymbolPoint c) : ¬c.isDigit = true := by
  rcases h with rfl | rfl | rfl <;> decide

theorem newline_cons {d : CodePoint} {rest : Text} (hd : d.isDigit = true) :
    ('\n' : CodePoint) ∉ d :: rest ↔ ('\n' : CodePoint) ∉ rest := by
  have hne : ('\n' : CodePoint) ≠ d := by
    rintro rfl
    exact absurd hd (by decide)
  simp [hne]

theorem not_isAsciiSpace_of_isDigit {c : CodePoint} (h : c.isDigit = true) : ¬c.isAsciiSpace = true := by
  simp only [CodePoint.isDigit, CodePoint.isAsciiSpace, Bool.and_eq_true, decide_eq_true_eq, Bool.or_eq_true,
    beq_iff_eq] at h ⊢
  omega

/-- A comparison begins with its symbol. -/
theorem Opens.symbol_head {op : Operator} {value t : Text} (h : Opens op value t) :
    ∃ c rest, t = c :: rest ∧ IsSymbolPoint c := by
  obtain ⟨ws, -, rfl⟩ := h.front
  obtain ⟨c, rest, hop, hc⟩ := symbol_cons op
  exact ⟨c, rest ++ ws ++ value, by simp [hop], hc⟩

theorem not_space_head {value : Text} (hvalue : BeginsWithDigit value) :
    ∀ c ∈ value.head?, ¬c.isAsciiSpace = true := by
  obtain ⟨d, rest, rfl, hd⟩ := hvalue
  rintro c ⟨⟩
  exact not_isAsciiSpace_of_isDigit hd

/-- Behind the symbol of a comparison stands white space or a digit. -/
theorem not_symbol_head {ws value : Text} (hws : Spaces ws) (hvalue : BeginsWithDigit value) :
    ∀ c ∈ (ws ++ value).head?, ¬IsSymbolPoint c := by
  intro c hc hsymbol
  cases ws with
  | nil =>
    obtain ⟨d, rest, rfl, hd⟩ := hvalue
    obtain rfl : d = c := Option.some.inj hc
    exact not_isDigit_of_symbol hsymbol hd
  | cons d ws =>
    obtain rfl : d = c := Option.some.inj hc
    exact not_isAsciiSpace_of_symbol hsymbol (hws d List.mem_cons_self)

/-! ### The grammar is unambiguous -/

theorem symbol_inj {op op' : Operator} (h : op.symbol = op'.symbol) : op = op' := by
  cases op <;> cases op' <;> first | rfl | exact absurd h (by decide)

theorem isSymbolPoint_of_mem {op : Operator} {c : CodePoint} (h : c ∈ op.symbol) : IsSymbolPoint c := by
  have hall : op.symbol.all (fun c => c = '<' ∨ c = '>' ∨ c = '=') = true := by
    cases op <;> decide
  simpa [IsSymbolPoint] using List.all_eq_true.1 hall c h

/-- Two runs of a class of code points in front of what does not begin with one are the same. -/
theorem run_unique {p : CodePoint → Prop} {u u' v v' : Text} (hu : ∀ c ∈ u, p c) (hu' : ∀ c ∈ u', p c)
    (hv : ∀ c ∈ v.head?, ¬p c) (hv' : ∀ c ∈ v'.head?, ¬p c) (h : u ++ v = u' ++ v') : u = u' ∧ v = v' := by
  induction u generalizing u' with
  | nil =>
    cases u' with
    | nil => exact ⟨rfl, h⟩
    | cons c u' =>
      obtain rfl : v = c :: (u' ++ v') := h
      exact absurd (hu' c List.mem_cons_self) (hv c rfl)
  | cons c u ih =>
    cases u' with
    | nil =>
      obtain rfl : c :: (u ++ v) = v' := h
      exact absurd (hu c List.mem_cons_self) (hv' c rfl)
    | cons c' u' =>
      obtain ⟨rfl, htail⟩ := List.cons.inj h
      obtain ⟨rfl, rfl⟩ := ih (fun c hc => hu c (List.mem_cons_of_mem _ hc))
        (fun c hc => hu' c (List.mem_cons_of_mem _ hc)) htail
      exact ⟨rfl, rfl⟩

/-- A text begins with one operator at most, and with one value behind it. -/
theorem Opens.unique {op op' : Operator} {value value' t : Text} (h : Opens op value t) (h' : Opens op' value' t) :
    op = op' ∧ value = value' := by
  obtain ⟨ws, hws, rfl⟩ := h.front
  obtain ⟨ws', hws', ht⟩ := h'.front
  rw [List.append_assoc, List.append_assoc] at ht
  obtain ⟨hop, hrest⟩ := run_unique (fun _ => isSymbolPoint_of_mem) (fun _ => isSymbolPoint_of_mem)
    (not_symbol_head hws h.digit) (not_symbol_head hws' h'.digit) ht
  exact ⟨symbol_inj hop, (run_unique hws hws' (not_space_head h.digit) (not_space_head h'.digit) hrest).2⟩

theorem FirstCut.unique {value first first' second second' : Text} {op op' : Operator}
    (h : FirstCut value first op second) (h' : FirstCut value first' op' second') :
    first = first' ∧ op = op' ∧ second = second' := by
  obtain ⟨rest, hvalue, hrest⟩ := h.rest
  obtain ⟨rest', hvalue', hrest'⟩ := h'.rest
  have hlength : first.length = first'.length := Nat.le_antisymm (h.least h'.toCut) (h'.least h.toCut)
  obtain ⟨rfl, rfl⟩ := List.append_inj (hvalue.symm.trans hvalue') hlength
  exact ⟨rfl, hrest.toOpens.unique hrest'.toOpens⟩

/-- A predicate denotes one list of clauses at most. -/
theorem Denotes.unique {t : Text} {clauses clauses' : List (Operator × Text)} (h : Denotes t clauses)
    (h' : Denotes t clauses') : clauses = clauses' := by
  have hbare {op : Operator} {value : Text} (hopens : Opens op value t) (hdigit : BeginsWithDigit t) : False := by
    obtain ⟨c, rest, rfl, hc⟩ := hopens.symbol_head
    obtain ⟨d, rest', hd, hdigit⟩ := hdigit
    obtain ⟨rfl, -⟩ := List.cons.inj hd
    exact not_isDigit_of_symbol hc hdigit
  cases h with
  | two hopens hcut =>
    cases h' with
    | two hopens' hcut' =>
      obtain ⟨rfl, rfl⟩ := hopens.unique hopens'
      obtain ⟨rfl, rfl, rfl⟩ := hcut.unique hcut'
      rfl
    | one hno _ => exact absurd ⟨_, _, _, _, _, hopens, hcut.toCut⟩ hno
    | bare hdigit _ => exact (hbare hopens hdigit).elim
  | one hno hcomparison =>
    cases h' with
    | two hopens' hcut' => exact absurd ⟨_, _, _, _, _, hopens', hcut'.toCut⟩ hno
    | one _ hcomparison' =>
      obtain ⟨rfl, rfl⟩ := hcomparison.toOpens.unique hcomparison'.toOpens
      rfl
    | bare hdigit _ => exact (hbare hcomparison.toOpens hdigit).elim
  | bare hdigit _ =>
    cases h' with
    | two hopens' _ => exact (hbare hopens' hdigit).elim
    | one _ hcomparison' => exact (hbare hcomparison'.toOpens hdigit).elim
    | bare _ _ => rfl

/-! ### Where a first value ends -/

/-- A text that is a comparison behind white space. -/
def Fits (op : Operator) (second v : Text) : Prop :=
  ∃ ws u, v = ws ++ u ∧ Spaces ws ∧ Comparison op second u

/-- A first value without the white space behind it: the shortest one with which the rest fits. -/
structure Stops (value body : Text) (op : Operator) (second : Text) : Prop where
  /-- There is a first value. -/
  nonempty : body ≠ []
  /-- It has no newline. -/
  line : ('\n' : CodePoint) ∉ body
  /-- The rest fits. -/
  fits : ∃ v, value = body ++ v ∧ Fits op second v
  /-- No shorter one will do. -/
  shortest : ∀ {body' v'}, value = body' ++ v' → body' ≠ [] → body'.length < body.length →
    ∀ op' second', ¬Fits op' second' v'

variable {value body first second : Text} {op : Operator}

theorem fits_iff {v : Text} :
    Fits op second v ↔ ∃ ws ws', v = ws ++ (op.symbol ++ (ws' ++ second)) ∧ Spaces ws ∧ Spaces ws' ∧
      BeginsWithDigit second ∧ ('\n' : CodePoint) ∉ second := by
  constructor
  · rintro ⟨ws, u, rfl, hws, hu⟩
    obtain ⟨ws', hws', rfl⟩ := hu.front
    exact ⟨ws, ws', by rw [List.append_assoc op.symbol], hws, hws', hu.digit, hu.line⟩
  · rintro ⟨ws, ws', rfl, hws, hws', hdigit, hline⟩
    exact ⟨ws, _, rfl, hws, ⟨hdigit, ws', hws', by rw [List.append_assoc]⟩, hline⟩

/-- Where the rest of a value that begins with a digit fits for the first time. -/
theorem stops_cons_iff {d : CodePoint} {rest : Text} (hd : d.isDigit = true) :
    Stops (d :: rest) body op second ↔ ∃ u v, body = d :: u ∧ rest = u ++ v ∧ ('\n' : CodePoint) ∉ u ∧
      Fits op second v ∧ ∀ u' v', rest = u' ++ v' → u'.length < u.length → ∀ op' second', ¬Fits op' second' v' := by
  constructor
  · intro h
    obtain ⟨v, hbody, hfits⟩ := h.fits
    cases body with
    | nil => exact absurd rfl h.nonempty
    | cons d' u =>
      obtain ⟨rfl, hrest⟩ := List.cons.inj hbody
      refine ⟨u, v, rfl, hrest, (newline_cons hd).1 h.line, hfits, fun u' v' hrest' hlt => ?_⟩
      exact h.shortest (by rw [hrest', List.cons_append]) (List.cons_ne_nil d u') (Nat.succ_lt_succ hlt)
  · rintro ⟨u, v, rfl, hrest, hline, hfits, hleast⟩
    refine ⟨List.cons_ne_nil d u, (newline_cons hd).2 hline, ⟨v, by rw [hrest, List.cons_append], hfits⟩, ?_⟩
    intro body' v' hbody' hne hlt
    cases body' with
    | nil => exact absurd rfl hne
    | cons d' u' => exact hleast u' v' (List.cons.inj hbody').2 (Nat.lt_of_succ_lt_succ hlt)

/-- The code point at a place within white space is white space. -/
theorem isAsciiSpace_of_within {u ws rest v rest' : Text} {c : CodePoint} (hws : Spaces ws)
    (h : u ++ (ws ++ rest) = v ++ c :: rest') (hu : u.length ≤ v.length) (hv : v.length < (u ++ ws).length) :
    c.isAsciiSpace = true := by
  have hget : (u ++ (ws ++ rest))[v.length]? = some c := by
    rw [h]
    simp
  rw [List.length_append] at hv
  rw [List.getElem?_append_right hu, List.getElem?_append_left (by omega)] at hget
  exact hws c (List.mem_of_getElem? hget)

/-- A value is not cut at its front. -/
theorem Fits.not_digit {v : Text} (h : Fits op second v) : ¬BeginsWithDigit v := by
  rintro ⟨d, rest, rfl, hd⟩
  obtain ⟨ws, u, hv, hws, hu⟩ := h
  obtain ⟨c, rest', rfl, hc⟩ := hu.toOpens.symbol_head
  cases ws with
  | nil =>
    obtain ⟨rfl, -⟩ := List.cons.inj hv
    exact not_isDigit_of_symbol hc hd
  | cons e ws =>
    obtain ⟨rfl, -⟩ := List.cons.inj hv
    exact not_isAsciiSpace_of_isDigit hd (hws d List.mem_cons_self)

/-- The first place where a value can be cut is behind the shortest first value and the white space that follows it. -/
theorem Stops.firstCut (hvalue : BeginsWithDigit value) (h : Stops value body op second) :
    ∃ ws, Spaces ws ∧ FirstCut value (body ++ ws) op second := by
  obtain ⟨v, hbody, ws, rest, rfl, hws, hrest⟩ := h.fits
  refine ⟨ws, hws, ⟨⟨rest, by rw [hbody, List.append_assoc], hrest⟩, body, ws, rfl, h.line, hws⟩, ?_⟩
  intro first' op' second' hcut
  obtain ⟨rest', hvalue', hrest'⟩ := hcut.rest
  obtain ⟨body', ws', rfl, -, hws'⟩ := hcut.line
  rw [List.append_assoc] at hvalue'
  have hfits : Fits op' second' (ws' ++ rest') := ⟨ws', rest', rfl, hws', hrest'⟩
  have hne : body' ≠ [] := by
    rintro rfl
    rw [hvalue'] at hvalue
    exact hfits.not_digit hvalue
  have hle : body.length ≤ (body' ++ ws').length := by
    rw [List.length_append]
    exact (Nat.le_of_not_lt fun hlt => h.shortest hvalue' hne hlt op' second' hfits).trans (Nat.le_add_right _ _)
  -- The symbol of the second comparison cannot stand within white space.
  refine Nat.le_of_not_lt fun hlt => ?_
  obtain ⟨c, rest'', rfl, hc⟩ := hrest'.toOpens.symbol_head
  have hsplit : body ++ (ws ++ rest) = (body' ++ ws') ++ c :: rest'' := by
    rw [← hbody, hvalue', List.append_assoc]
  exact not_isAsciiSpace_of_symbol hc (isAsciiSpace_of_within hws hsplit hle hlt)

/-- Where the rest fits, there is a shortest first value. -/
theorem exists_stops {v : Text} (hne : body ≠ []) (hline : ('\n' : CodePoint) ∉ body) (hbody : value = body ++ v)
    (hfits : Fits op second v) : ∃ body op' second', Stops value body op' second' := by
  induction hn : body.length using Nat.strong_induction_on generalizing body v op second with
  | _ n ih =>
    subst hn
    by_cases hshortest : ∀ body' v', value = body' ++ v' → body' ≠ [] → body'.length < body.length →
        ∀ op' second', ¬Fits op' second' v'
    · exact ⟨body, op, second, hne, hline, ⟨v, hbody, hfits⟩, fun {body' v'} => hshortest body' v'⟩
    · simp only [not_forall, not_not] at hshortest
      obtain ⟨body', v', hbody', hne', hlt, op', second', hfits'⟩ := hshortest
      have hprefix : body' <+: body :=
        List.prefix_of_prefix_length_le ⟨v', hbody'.symm⟩ ⟨v, hbody.symm⟩ hlt.le
      exact ih _ hlt hne' (fun hmem => hline (List.IsPrefix.subset hprefix hmem)) hbody' hfits' rfl

theorem Cut.stops (hvalue : BeginsWithDigit value) (h : Cut value first op second) :
    ∃ body op' second', Stops value body op' second' := by
  obtain ⟨rest, hfirst, hrest⟩ := h.rest
  obtain ⟨body, ws, rfl, hline, hws⟩ := h.line
  rw [List.append_assoc] at hfirst
  have hfits : Fits op second (ws ++ rest) := ⟨ws, rest, rfl, hws, hrest⟩
  refine exists_stops (fun hnil => ?_) hline hfirst hfits
  rw [hfirst, hnil] at hvalue
  exact hfits.not_digit hvalue

/-! ### White space around a text -/

section

variable {t u value ws : Text}

/-- A text without white space around it does not begin with white space. -/
theorem nil_of_spaces (h : t.strip = ws ++ u) (hws : Spaces ws) : ws = [] := by
  cases ws with
  | nil => rfl
  | cons c ws =>
    have hblank : c.isBlank = false := head_trim c (by rw [show t.trim CodePoint.isBlank = _ from h]; rfl)
    rw [isBlank_of_isAsciiSpace (hws c List.mem_cons_self)] at hblank
    exact absurd hblank Bool.noConfusion

/-- A text without white space around it does not end with a newline. -/
theorem last_strip_ne : t.strip.getLast? ≠ some ('\n' : CodePoint) := by
  intro h
  have hblank : CodePoint.isBlank '\n' = false := last_trim _ h
  exact absurd hblank (by decide)

/-- A value at the end of a text without white space around it has none around it either. -/
theorem strip_of_append (h : t.strip = u ++ value) (hvalue : BeginsWithDigit value) : value.strip = value := by
  obtain ⟨d, rest, rfl, hd⟩ := hvalue
  refine trim_eq_self ?_ fun c hc => ?_
  · rintro c ⟨⟩
    exact not_isBlank_of_isDigit hd
  · have hlast : c ∈ t.strip.getLast? := by
      rw [h, List.getLast?_append, Option.mem_def.1 hc]
      rfl
    exact last_trim c hlast

theorem BeginsWithDigit.strip (h : BeginsWithDigit t) : BeginsWithDigit t.strip := by
  obtain ⟨d, rest, rfl, hd⟩ := h
  obtain ⟨u, hu⟩ := trim_cons (not_isBlank_of_isDigit hd) rest
  exact ⟨d, u, hu, hd⟩

theorem strip_append_spaces (hws : Spaces ws) : (t ++ ws).strip = t.strip :=
  trim_append fun c hc => isBlank_of_isAsciiSpace (hws c hc)

end

/-! ### The values -/

theorem Opens.suffix {op : Operator} {value t : Text} (h : Opens op value t) : value <:+ t := by
  obtain ⟨ws, -, rfl⟩ := h.front
  exact List.suffix_append _ _

theorem Cut.first_prefix {value first second : Text} {op : Operator} (h : Cut value first op second) :
    first <+: value := by
  obtain ⟨rest, rfl, -⟩ := h.rest
  exact List.prefix_append _ _

/-- A first value begins with a digit, as it is not cut at its front. -/
theorem Cut.digit {value first second : Text} {op : Operator} (hvalue : BeginsWithDigit value)
    (h : Cut value first op second) : BeginsWithDigit first := by
  obtain ⟨d, rest, rfl, hd⟩ := hvalue
  obtain ⟨u, hu, hcomparison⟩ := h.rest
  cases first with
  | nil =>
    obtain ⟨c, v, hv, hc⟩ := hcomparison.toOpens.symbol_head
    obtain rfl : d :: rest = u := hu
    obtain ⟨rfl, -⟩ := List.cons.inj hv
    exact absurd hd (not_isDigit_of_symbol hc)
  | cons c first =>
    obtain ⟨rfl, -⟩ := List.cons.inj hu
    exact ⟨_, _, rfl, hd⟩

/-- The values of a predicate are parts of it that begin with a digit. -/
theorem Denotes.values {t : Text} {clauses : List (Operator × Text)} (h : Denotes t clauses) :
    ∀ clause ∈ clauses, clause.2 <:+: t ∧ BeginsWithDigit clause.2 := by
  cases h with
  | two hopens hcut =>
    obtain ⟨rest, hvalue, hsecond⟩ := hcut.rest
    have hrest : rest <:+ _ := ⟨_, hvalue.symm⟩
    have hpart {u : Text} (hu : u <:+: _) : u <:+: t := hu.trans hopens.suffix.isInfix
    refine List.forall_mem_cons.mpr ⟨⟨?_, (hcut.digit hopens.digit).strip⟩, List.forall_mem_singleton.mpr ⟨?_, ?_⟩⟩
    · exact hpart ((trim_isInfix _ _).trans hcut.first_prefix.isInfix)
    · exact hpart (hsecond.suffix.trans hrest).isInfix
    · exact hsecond.digit
  | one _ hcomparison =>
    exact List.forall_mem_singleton.mpr ⟨hcomparison.suffix.isInfix, hcomparison.digit⟩
  | bare hdigit _ => exact List.forall_mem_singleton.mpr ⟨List.infix_refl t, hdigit⟩

end Predicate

end FileSieve
