import FileSieve.Proofs.Filter.Rendered
import FileSieve.Proofs.Size.Count

/-!
# Wordings of one predicate

A predicate can be given in several ways. A value alone means equality: with the operator and white space in front of
it the same clauses are set, or the same failure is met (`equality_by_default`), and so they are with an integer in the
place of its digits, which the readers of predicates and sizes never see. A size can be given with its unit or as a
number of bytes, which are not the same for every size (`counts_set_iff`).
-/

namespace FileSieve

/-! ### A value alone -/

namespace Predicate

variable {t v w : Text}

/-- What denotes nothing is refused. -/
theorem parse_of_denotes_nothing (h : ∀ clauses, ¬Denotes t.strip clauses) : parse t = .error ⟨t⟩ := by
  rcases read_cases t with ⟨clauses, -, hdenotes⟩ | ⟨hread, -⟩
  · exact absurd hdenotes (h clauses)
  · rw [parse, hread]
    rfl

/-- A text that begins with a digit does not begin with an operator. -/
theorem BeginsWithDigit.not_opens {op : Operator} {value : Text} (h : BeginsWithDigit t) : ¬Opens op value t := by
  intro hopens
  obtain ⟨d, rest, rfl, hd⟩ := h
  obtain ⟨c, rest', hcons, hc⟩ := hopens.symbol_head
  obtain ⟨rfl, -⟩ := List.cons.inj hcons
  exact not_isDigit_of_symbol hc hd

/-- Two texts that are read as the same clauses, or both refused. -/
inductive ReadAlike (t u : Text) : Prop
  /-- The clauses are the same. -/
  | clauses {parts : List (Operator × Text)} : parse t = .ok parts → parse u = .ok parts → ReadAlike t u
  /-- Both are refused. -/
  | refused : parse t = .error ⟨t⟩ → parse u = .error ⟨u⟩ → ReadAlike t u

theorem strip_equality (hdigit : BeginsWithDigit v) :
    (Operator.eq.symbol ++ (w ++ v)).strip = Operator.eq.symbol ++ (w ++ v.strip) := by
  obtain ⟨d, rest, hstrip, -⟩ := hdigit.strip
  have hhead : ∀ c ∈ v.head?, c.isBlank = false := by
    obtain ⟨d, rest, rfl, hd⟩ := hdigit
    rintro c ⟨⟩
    exact not_isBlank_of_isDigit hd
  obtain ⟨ws, hws, hv⟩ := exists_trim_append hhead
  have hsplit : Operator.eq.symbol ++ (w ++ v) = Operator.eq.symbol ++ (w ++ v.strip) ++ ws := by
    rw [List.append_assoc, List.append_assoc]
    exact congrArg (fun u => Operator.eq.symbol ++ (w ++ u)) hv
  rw [hsplit, Text.strip, trim_append hws]
  refine trim_eq_self ?_ fun c hc => ?_
  · rintro c ⟨⟩
    decide
  · have hne : v.strip ≠ [] := by simp [hstrip]
    rw [List.getLast?_append_of_ne_nil _ (by simp [hne]), List.getLast?_append_of_ne_nil _ hne] at hc
    exact last_trim c hc

/-- A value alone is read as a comparison of equality, unless there is a newline in it. -/
theorem readAlike_equality (hdigit : BeginsWithDigit v) (hsymbol : ∀ c ∈ v, ¬IsSymbolPoint c) (hw : Spaces w) :
    ReadAlike (Operator.eq.symbol ++ (w ++ v)) v := by
  have hvalue : ∀ c ∈ v.strip, ¬IsSymbolPoint c := fun c hc => hsymbol c ((trim_isInfix _ v).subset hc)
  have hopens : Opens .eq v.strip (Operator.eq.symbol ++ (w ++ v.strip)) :=
    ⟨hdigit.strip, w, hw, (List.append_assoc _ _ _).symm⟩
  have hone : ¬IsTwofold (Operator.eq.symbol ++ (w ++ v.strip)) := by
    rintro ⟨op₁, value, first, op₂, second, hopens₁, hcut⟩
    obtain ⟨-, rfl⟩ := hopens₁.unique hopens
    exact not_cut hvalue hcut
  by_cases hline : ('\n' : CodePoint) ∈ v.strip
  · refine .refused (parse_of_denotes_nothing ?_) (parse_of_denotes_nothing ?_)
    · rw [strip_equality hdigit]
      intro clauses hdenotes
      cases hdenotes with
      | two hopens₁ hcut => exact hone ⟨_, _, _, _, _, hopens₁, hcut.toCut⟩
      | one _ hcomparison =>
        obtain ⟨-, rfl⟩ := hcomparison.toOpens.unique hopens
        exact hcomparison.line hline
      | bare hbare _ => exact hbare.not_opens hopens
    · intro clauses hdenotes
      cases hdenotes with
      | two hopens₁ _ => exact hdigit.strip.not_opens hopens₁
      | one _ hcomparison => exact hdigit.strip.not_opens hcomparison.toOpens
      | bare _ hnot => exact hnot hline
  · refine .clauses (parse_of_denotes ?_) (parse_of_denotes (.bare hdigit.strip hline))
    rw [strip_equality hdigit]
    exact .one hone ⟨hopens, hline⟩

/-- A plain value alone is read as equality. -/
theorem IsPlain.parse_eq (h : IsPlain v) : parse v = .ok [(.eq, v)] := by
  refine parse_of_denotes ?_
  rw [h.strip_eq]
  exact .bare h.digit h.line

end Predicate

namespace Failure

/-- A failure about another text, if it is about the form of a predicate. -/
def about (t : Text) : Failure → Failure
  | .predicate _ => .predicate ⟨t⟩
  | e => e

end Failure

namespace Sieve

open Predicate

variable {t u : Text}

/-- Settings by two texts that leave the same filter and succeed both or fail alike, the first about its own text. -/
structure SetAlike (t : Text) (s s' : Setting) : Prop where
  /-- The filter afterwards is the same. -/
  filter : s.filter = s'.filter
  /-- Both succeed, or they fail for the same reason. -/
  failure : s.failure = s'.failure.map (Failure.about t)

/-- Predicates that are read alike are set alike, if what is wrong with a value is not about the predicate. -/
theorem setAlike_of_readAlike {f : Sieve} {clause : Operator × Text → Except Failure Clause}
    (set : Text → List Clause → List Log.Entry → Setting) (h : ReadAlike t u)
    (herror : ∀ part e, clause part = .error e → e.about t = e)
    (hset : ∀ parts clauses, List.mapM clause parts = .ok clauses → ∀ entries entries',
      SetAlike t (set t clauses entries) (set u clauses entries')) :
    SetAlike t
      (match parse t with
      | .error e => f.unchanged (.predicate e)
      | .ok parts =>
        match parts.mapM clause with
        | .error e => f.unchanged e [predicateEntry t parts.length]
        | .ok clauses => set t clauses [predicateEntry t parts.length])
      (match parse u with
      | .error e => f.unchanged (.predicate e)
      | .ok parts =>
        match parts.mapM clause with
        | .error e => f.unchanged e [predicateEntry u parts.length]
        | .ok clauses => set u clauses [predicateEntry u parts.length]) := by
  cases h with
  | clauses ht hu =>
    rename_i parts
    rw [ht, hu]
    cases hclauses : parts.mapM clause with
    | error e =>
      have habout : e.about t = e := by
        obtain ⟨-, part, -, -, -, he⟩ := mapM_eq_error_iff.mp hclauses
        exact herror part _ he
      simp only [hclauses]
      exact ⟨rfl, congrArg some habout.symm⟩
    | ok clauses =>
      simp only [hclauses]
      exact hset parts clauses hclauses _ _
  | refused ht hu =>
    rw [ht, hu]
    exact ⟨rfl, rfl⟩

/-- Clauses that can be described are set whatever they were read from. -/
theorem setAlike_described (f : Sieve) (message : Text) {clauses : List Clause}
    (hwritable : ∀ clause ∈ clauses, clause.Writable) (predicate predicate' : Value) (entries entries' : List Log.Entry) :
    SetAlike t (f.described message predicate clauses entries) (f.described message predicate' clauses entries') where
  filter := by rw [filter_described, filter_described]
  failure := by rw [failure_described _ hwritable, failure_described _ hwritable, Option.map_none]

theorem setAlike_sizes (f : Sieve) (h : ReadAlike t u) : SetAlike t (f.withSizes (.text t)) (f.withSizes (.text u)) := by
  refine setAlike_of_readAlike (fun v => f.withSizeClauses (.text v)) h ?_ ?_
  · intro part e he
    unfold sizeClause at he
    split at he
    · cases he
    · obtain rfl := Except.error.inj he
      rfl
  · intro parts clauses hclauses entries entries'
    exact setAlike_described _ _ (forall_of_mapM (fun _ _ => writable_of_sizeClause) hclauses) _ _ _ _

theorem setAlike_times (f : Sieve) (h : ReadAlike t u) : SetAlike t (f.withTimes (.text t)) (f.withTimes (.text u)) := by
  refine setAlike_of_readAlike (fun v => f.withTimeClauses (.text v)) h ?_ ?_
  · intro part e he
    unfold timeClause at he
    split at he
    · cases he
    · obtain rfl := Except.error.inj he
      rfl
  · intro parts clauses hclauses entries entries'
    exact setAlike_described _ _ (forall_of_mapM (fun _ _ => writable_of_timeClause) hclauses) _ _ _ _

/-- An integer in range and its digits are set as the same clause. -/
theorem setAlike_int (f : Sieve) {n : Nat} (hn : n ≤ Size.maxSize) :
    (f.withSizes (.int n)).failure = none ∧ (f.withSizes (.text (Text.ofNat n))).failure = none ∧
      (f.withSizes (.int n)).filter = (f.withSizes (.text (Text.ofNat n))).filter := by
  have hclause : [(Operator.eq, Text.ofNat n)].mapM sizeClause = .ok [⟨.eq, .int n⟩] := by
    rw [List.mapM_cons, sizeClause, Size.parse_ofNat hn]
    rfl
  obtain ⟨htext, hfilter⟩ := withSizes_text (f := f) (Clause.isPlain_ofNat n).parse_eq hclause
  refine ⟨failure_sizes_int f (Size.not_tooLong hn), htext, ?_⟩
  rw [hfilter, withSizes, withSizeClauses, filter_described]

/-- A value without the symbols of operators is set as with the operator of equality and white space in front of it, by
sizes and by times: the filters are the same, and so is what goes wrong. And an integer in range is set as its digits
are, so that no size tells the two apart. -/
theorem equality_by_default (f : Sieve) :
    (∀ {v w : Text}, BeginsWithDigit v → (∀ c ∈ v, ¬IsSymbolPoint c) → Spaces w →
      SetAlike ("=" ++ (w ++ v)) (f.withSizes (.text ("=" ++ (w ++ v)))) (f.withSizes (.text v)) ∧
      SetAlike ("=" ++ (w ++ v)) (f.withTimes (.text ("=" ++ (w ++ v)))) (f.withTimes (.text v))) ∧
    ∀ {n : Nat}, n ≤ Size.maxSize →
      (f.withSizes (.int n)).failure = none ∧ (f.withSizes (.text (Text.ofNat n))).failure = none ∧
      (f.withSizes (.int n)).filter = (f.withSizes (.text (Text.ofNat n))).filter ∧
      ∀ size, (f.withSizes (.int n)).filter.passesSize size = (f.withSizes (.text (Text.ofNat n))).filter.passesSize size := by
  constructor
  · intro v w hdigit hsymbol hw
    have halike : ReadAlike ("=" ++ (w ++ v)) v := readAlike_equality hdigit hsymbol hw
    exact ⟨setAlike_sizes f halike, setAlike_times f halike⟩
  · intro n hn
    obtain ⟨hint, htext, hfilter⟩ := setAlike_int f hn
    refine ⟨hint, htext, hfilter, fun size => ?_⟩
    rw [hfilter]

theorem equality_by_default_kilobytes :
    (BeginsWithDigit "5 KB" ∧ (∀ c ∈ ("5 KB" : Text), ¬IsSymbolPoint c) ∧ Spaces "\t" ∧ 5120 ≤ Size.maxSize) ∧
    SetAlike ("=" ++ ("\t" ++ "5 KB")) (({} : Sieve).withSizes (.text ("=" ++ ("\t" ++ "5 KB"))))
      (({} : Sieve).withSizes (.text "5 KB")) ∧
    (({} : Sieve).withSizes (.int (5120 : Nat))).filter = (({} : Sieve).withSizes (.text (Text.ofNat 5120))).filter := by
  have hdigit : BeginsWithDigit "5 KB" := ⟨_, _, rfl, rfl⟩
  have hsymbol : ∀ c ∈ ("5 KB" : Text), ¬IsSymbolPoint c := fun c hc =>
    of_decide_eq_true (List.all_eq_true.mp (by decide : List.all "5 KB" (fun c => decide ¬IsSymbolPoint c)) c hc)
  have hspace : Spaces "\t" := List.forall_mem_singleton.mpr rfl
  have hrange : 5120 ≤ Size.maxSize := by decide
  exact ⟨⟨hdigit, hsymbol, hspace, hrange⟩, ((equality_by_default {}).1 hdigit hsymbol hspace).1,
    ((equality_by_default {}).2 hrange).2.2.1⟩

end Sieve

/-! ### Sizes with a unit and in bytes -/

namespace Size

open Predicate

theorem sizeClause_eq_ok_iff {op : Operator} {t : Text} {n : Nat} :
    Sieve.sizeClause (op, t) = .ok ⟨op, .int n⟩ ↔ parse t = .ok n := by
  rw [Sieve.sizeClause]
  cases parse t with
  | error e => simp
  | ok m => simp

/-- Every number of a unit that is in range is read as its bytes if the unit is not the byte, or if the number has at
most 53 binary digits with zeros behind them, and else it is not; the digits of the bytes alone always are. So a
predicate with units is set as the same predicate in bytes exactly if this holds of each number in it. -/
theorem counts_set_iff (f : Sieve) :
    (∀ c : Count, c.bytes ≤ maxSize →
      (parse c.text = .ok c.bytes ↔ c.IsExact) ∧ parse (Text.ofNat c.bytes) = .ok c.bytes) ∧
    ∀ {parts : List (Operator × Count)} {p q : Text}, (∀ part ∈ parts, part.2.bytes ≤ maxSize) →
      Predicate.parse p = .ok (parts.map fun part => (part.1, part.2.text)) →
      Predicate.parse q = .ok (parts.map fun part => (part.1, Text.ofNat part.2.bytes)) →
      ((f.withSizes (.text q)).failure = none ∧ (f.withSizes (.text q)).filter =
        { f with sizeClauses := parts.map fun part => ⟨part.1, .int part.2.bytes⟩ }) ∧
      ((f.withSizes (.text p)).failure = none ∧ (f.withSizes (.text p)).filter = (f.withSizes (.text q)).filter ↔
        ∀ part ∈ parts, part.2.IsExact) := by
  constructor
  · intro c hc
    exact ⟨c.parse_text_iff hc, parse_ofNat hc⟩
  · intro parts p q hrange hp hq
    have hbytes : (parts.map fun part => (part.1, Text.ofNat part.2.bytes)).mapM Sieve.sizeClause =
        .ok (parts.map fun part => ⟨part.1, .int part.2.bytes⟩) := by
      refine mapM_map_eq_ok.mpr fun part hpart => ?_
      exact sizeClause_eq_ok_iff.mpr (parse_ofNat (hrange part hpart))
    have hunits : (parts.map fun part => (part.1, part.2.text)).mapM Sieve.sizeClause =
        .ok (parts.map fun part => ⟨part.1, .int part.2.bytes⟩) ↔ ∀ part ∈ parts, part.2.IsExact := by
      rw [mapM_map_eq_ok]
      refine forall₂_congr fun part hpart => ?_
      rw [sizeClause_eq_ok_iff, part.2.parse_text_iff (hrange part hpart)]
    obtain ⟨hset, hfilter⟩ := Sieve.withSizes_text (f := f) hq hbytes
    refine ⟨⟨hset, hfilter⟩, ?_⟩
    rw [hfilter, ← hunits]
    constructor
    · rintro ⟨hok, hsame⟩
      obtain ⟨clauses, hclauses, hset'⟩ := Sieve.withSizes_eq hok
      obtain ⟨parts', hparts, hmap⟩ := bind_eq_ok.mp hclauses
      obtain rfl := Except.ok.inj (hp.symm.trans (mapError_eq_ok.mp hparts))
      rw [hmap]
      exact congrArg (fun g : Sieve => Except.ok g.sizeClauses) (hset'.symm.trans hsame)
    · intro h
      exact Sieve.withSizes_text hp h

/-- A number with a space and the name of a unit behind it. -/
def Count.spaced (number : Nat) (name : Text) (unit : SizeUnit) (named : SizeUnit.ofName? name = some unit) : Count where
  number := number
  space := " "
  name := name
  unit := unit
  blank := List.forall_mem_singleton.mpr (.inl rfl)
  named := named

theorem counts_set_iff_kilobyte : ∃ parts : List (Operator × Count),
    ((∀ part ∈ parts, part.2.bytes ≤ maxSize) ∧
      Predicate.parse "> 1 KB < 1500 B" = .ok (parts.map fun part => (part.1, part.2.text)) ∧
      Predicate.parse "> 1024 < 1500" = .ok (parts.map fun part => (part.1, Text.ofNat part.2.bytes))) ∧
    (∀ part ∈ parts, parse part.2.text = .ok part.2.bytes ↔ part.2.IsExact) ∧
    ((({} : Sieve).withSizes (.text "> 1 KB < 1500 B")).failure = none ∧
        (({} : Sieve).withSizes (.text "> 1 KB < 1500 B")).filter =
          (({} : Sieve).withSizes (.text "> 1024 < 1500")).filter ↔ ∀ part ∈ parts, part.2.IsExact) := by
  let parts : List (Operator × Count) := [(.gt, .spaced 1 "KB" .kilo rfl), (.lt, .spaced 1500 "B" .byte rfl)]
  have hrange : ∀ part ∈ parts, part.2.bytes ≤ maxSize := by
    decide
  have hunits : Predicate.parse "> 1 KB < 1500 B" = .ok (parts.map fun part => (part.1, part.2.text)) := by
    decide +kernel
  have hbytes : Predicate.parse "> 1024 < 1500" = .ok (parts.map fun part => (part.1, Text.ofNat part.2.bytes)) := by
    decide +kernel
  exact ⟨parts, ⟨hrange, hunits, hbytes⟩, fun part hpart => ((counts_set_iff {}).1 part.2 (hrange part hpart)).1,
    ((counts_set_iff {}).2 hrange hunits hbytes).2⟩

/-- A number of bytes with one binary digit too many is rounded to the one below, and the greatest size is out of range
with its unit. -/
theorem bytes_not_exact : parse "9007199254740993" = .ok 9007199254740993 ∧
    parse "9007199254740993 B" = .ok 9007199254740992 ∧
    parse "9223372036854775807" = .ok 9223372036854775807 ∧
    parse "9223372036854775807 B" ≠ .ok 9223372036854775807 := by
  decide +kernel

end Size

end FileSieve
