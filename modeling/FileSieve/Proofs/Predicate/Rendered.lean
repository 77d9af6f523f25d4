import FileSieve.Proofs.Predicate.Reading
import Mathlib.Data.List.Basic

/-!
# Predicates in writing

A comparison is written as its symbol, a space and its value, and two comparisons with a space between them. They are
read back as what they were written from when the values are plain: without symbols of operators, the second comparison
can begin nowhere but where it was written (`read_written`).
-/

namespace FileSieve.Predicate

/-- A value that is taken as it is by the reader of predicates. -/
structure IsPlain (v : Text) : Prop where
  /-- It begins with a digit. -/
  digit : BeginsWithDigit v
  /-- It has no symbol of an operator. -/
  symbol : ∀ c ∈ v, ¬IsSymbolPoint c
  /-- It is on one line. -/
  line : ('\n' : CodePoint) ∉ v
  /-- It does not end with white space. -/
  last : ∀ c ∈ v.getLast?, c.isBlank = false

/-- A comparison in writing. -/
def written (part : Operator × Text) : Text :=
  part.1.symbol ++ (" " : Text) ++ part.2

variable {op op' : Operator} {v v' : Text}

theorem written_eq (op : Operator) (v : Text) : written (op, v) = op.symbol ++ ((" " : Text) ++ v) :=
  List.append_assoc _ _ _

theorem spaces_space : Spaces " " := by
  rintro c (_ | ⟨_, ⟨⟩⟩)
  decide

/-- A comparison in writing is one. -/
theorem IsPlain.comparison (h : IsPlain v) (op : Operator) : Comparison op v (written (op, v)) :=
  ⟨⟨h.digit, (" " : Text), spaces_space, rfl⟩, h.line⟩

theorem IsPlain.strip_eq (h : IsPlain v) : v.strip = v := by
  refine trim_eq_self (fun c hc => ?_) h.last
  obtain ⟨d, rest, rfl, hd⟩ := h.digit
  obtain rfl := Option.some.inj hc
  exact not_isBlank_of_isDigit hd

theorem not_isBlank_of_symbol {c : CodePoint} (h : IsSymbolPoint c) : c.isBlank = false := by
  rcases h with rfl | rfl | rfl <;> decide

/-- A text that begins with a symbol and ends with a plain value has no white space around it. -/
theorem strip_written (op : Operator) (middle : Text) (h : IsPlain v) :
    (op.symbol ++ (middle ++ v)).strip = op.symbol ++ (middle ++ v) := by
  obtain ⟨s, rest, hs, hsymbol⟩ := symbol_cons op
  obtain ⟨d, rest', rfl, -⟩ := h.digit
  refine trim_eq_self (fun c hc => ?_) fun c hc => h.last c ?_
  · rw [hs] at hc
    obtain rfl := Option.some.inj hc
    exact not_isBlank_of_symbol hsymbol
  · rwa [← List.append_assoc, List.getLast?_append_of_ne_nil _ (List.cons_ne_nil _ _)] at hc

/-- A value without symbols is nowhere cut. -/
theorem not_cut (h : ∀ c ∈ v, ¬IsSymbolPoint c) {first second : Text} : ¬Cut v first op second := by
  intro hcut
  obtain ⟨rest, rfl, hrest⟩ := hcut.rest
  obtain ⟨c, rest', rfl, hc⟩ := hrest.toOpens.symbol_head
  exact h c (by simp) hc

/-- Behind a plain value and a space, a comparison is the first one. -/
theorem IsPlain.firstCut (h : IsPlain v) (h' : IsPlain v') :
    FirstCut (v ++ ((" " : Text) ++ written (op', v'))) (v ++ (" " : Text)) op' v' := by
  refine ⟨⟨⟨written (op', v'), (List.append_assoc _ _ _).symm, h'.comparison op'⟩, v, (" " : Text), rfl, h.line,
    spaces_space⟩, ?_⟩
  intro first op₂ second hcut
  obtain ⟨rest, hvalue, hrest⟩ := hcut.rest
  obtain ⟨c, rest', rfl, hc⟩ := hrest.toOpens.symbol_head
  -- A symbol that comes before would stand in the value or would be the space.
  refine Nat.le_of_not_lt fun hlt => ?_
  have hget : (v ++ (" " : Text))[first.length]? = some c := by
    rw [← List.getElem?_append_left hlt, List.append_assoc, hvalue]
    simp
  rcases List.mem_append.mp (List.mem_of_getElem? hget) with hmem | hmem
  · exact h.symbol c hmem hc
  · exact not_isAsciiSpace_of_symbol hc (spaces_space c hmem)

/-! ### Reading what is written -/

theorem parse_of_denotes {t : Text} {clauses : List (Operator × Text)} (h : Denotes t.strip clauses) :
    parse t = .ok clauses := by
  rcases read_cases t with ⟨clauses', hread, hdenotes⟩ | ⟨-, hnone⟩
  · rw [parse, hread, hdenotes.unique h]
    rfl
  · exact absurd h (hnone clauses)

theorem parse_one (h : IsPlain v) : parse (written (op, v)) = .ok [(op, v)] := by
  refine parse_of_denotes ?_
  rw [written_eq, strip_written op (" " : Text) h, ← written_eq]
  refine .one ?_ (h.comparison op)
  rintro ⟨op₁, value, first, op₂, second, hopens, hcut⟩
  obtain ⟨-, rfl⟩ := hopens.unique (h.comparison op).toOpens
  exact not_cut h.symbol hcut

theorem parse_two (h : IsPlain v) (h' : IsPlain v') :
    parse (written (op, v) ++ ((" " : Text) ++ written (op', v'))) = .ok [(op, v), (op', v')] := by
  have heq : written (op, v) ++ ((" " : Text) ++ written (op', v')) =
      op.symbol ++ ((" " : Text) ++ (v ++ ((" " : Text) ++ written (op', v')))) := by
    rw [written_eq, List.append_assoc, List.append_assoc]
  have hstrip : (written (op, v) ++ ((" " : Text) ++ written (op', v'))).strip =
      written (op, v) ++ ((" " : Text) ++ written (op', v')) := by
    have hmiddle : written (op, v) ++ ((" " : Text) ++ written (op', v')) =
        op.symbol ++ (((" " : Text) ++ v ++ (" " : Text) ++ op'.symbol ++ (" " : Text)) ++ v') := by
      rw [heq, written_eq]
      simp only [List.append_assoc]
    rw [hmiddle, strip_written op _ h']
  refine parse_of_denotes ?_
  rw [hstrip, heq]
  have hopens : Opens op (v ++ ((" " : Text) ++ written (op', v')))
      (op.symbol ++ ((" " : Text) ++ (v ++ ((" " : Text) ++ written (op', v'))))) := by
    obtain ⟨d, rest, hv, hd⟩ := h.digit
    exact ⟨⟨d, rest ++ ((" " : Text) ++ written (op', v')), by rw [hv]; rfl, hd⟩, (" " : Text), spaces_space,
      (List.append_assoc _ _ _).symm⟩
  have hcut : FirstCut (v ++ ((" " : Text) ++ written (op', v'))) (v ++ (" " : Text)) op' v' := h.firstCut h'
  have hdenotes := Denotes.two hopens hcut
  have hfirst : (v ++ (" " : Text)).strip = v := by
    rw [strip_append_spaces spaces_space, h.strip_eq]
  rwa [hfirst] at hdenotes

end FileSieve.Predicate
