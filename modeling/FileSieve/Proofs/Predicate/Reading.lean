import FileSieve.Predicate.Reading
import FileSieve.Proofs.Pattern.Search
import FileSieve.Proofs.Predicate.Grammar
import FileSieve.Proofs.Regex.Answer

/-!
# Predicates are read by their grammar

The three patterns of a predicate overlap, and the matcher may go back in each of them: from a long symbol to a short
one, from white space that it has taken, and from a first value to a longer one. Only the last makes a difference, since
white space, symbols and digits begin with different code points: what follows a run of white space or a symbol cannot
go on anywhere but behind all of it (`answers_spaces`, `answers_symbol`). So the first value is the shortest behind
which the rest of the text is a comparison (`answers_first`), and what is found is what the grammar says
(`read_decides`).
-/

namespace FileSieve.Predicate

open Regex

/-! ### The patterns as trees -/

/-- Any white space. -/
def spaceNode : Node :=
  .repeated .greedy 0 none (.char (.oneOf false [.category .space false]))

/-- A symbol of two code points. -/
def pairNode (c d : CodePoint) : Node :=
  .seq (.char (.point false c)) (.char (.point false d))

/-- A symbol of one code point. -/
def pointNode : Node :=
  .char (.oneOf false [.point '<', .point '>', .point '='])

/-- The symbol of an operator. -/
def symbolNode : Node :=
  .either (pairNode '<' '>') (.either (pairNode '>' '=') (.either (pairNode '<' '=') pointNode))

/-- A value that goes on as the repetition does. -/
def valueNode (greed : Greed) : Node :=
  .seq (.char (.oneOf false [.category .digit false])) (.repeated greed 0 none (.char .any))

/-- A comparison, its symbol and its value in the groups from `index` on. -/
def comparisonNodes (index : Nat) (greed : Greed) : List Node :=
  [spaceNode, .group index symbolNode, spaceNode, .group (index + 1) (valueNode greed)]

/-- The mode of the patterns. -/
def mode : Mode :=
  Flags.none.mode

/-- The nodes of two comparisons behind the start of the text. -/
def twoNodes : List Node :=
  comparisonNodes 1 .lazy ++ (comparisonNodes 3 .greedy ++ [.anchor .lineEnd])

/-- The nodes of one comparison behind the start of the text. -/
def oneNodes : List Node :=
  comparisonNodes 1 .greedy ++ [.anchor .lineEnd]

/-- The nodes of a value alone behind the start of the text. -/
def bareNodes : List Node :=
  [.group 1 .empty, .group 2 (valueNode .greedy), .anchor .lineEnd]

theorem engine_two : twoComparisons.engine = .ok ⟨.seq (.anchor .lineStart) (Node.ofList twoNodes), 4, mode⟩ := by
  decide +kernel

theorem engine_one : oneComparison.engine = .ok ⟨.seq (.anchor .lineStart) (Node.ofList oneNodes), 2, mode⟩ := by
  decide +kernel

theorem engine_bare : bareValue.engine = .ok ⟨.seq (.anchor .lineStart) (Node.ofList bareNodes), 2, mode⟩ := by
  decide +kernel

/-! ### What the nodes answer -/

theorem holds_space (c : CodePoint) :
    (CharTest.oneOf false [.category .space false]).holds mode c = c.isAsciiSpace := by
  simp [CharTest.holds, SetItem.holds, Category.holds, show mode.unicode = false from rfl]

theorem holds_digit (c : CodePoint) : (CharTest.oneOf false [.category .digit false]).holds mode c = c.isDigit := by
  simp [CharTest.holds, SetItem.holds, Category.holds, show mode.unicode = false from rfl]

theorem holds_any (c : CodePoint) : CharTest.any.holds mode c = true ↔ c ≠ '\n' := by
  simp [CharTest.holds, show mode.dotAll = false from rfl]

theorem same_iff (x c : CodePoint) : mode.same x c = true ↔ c = x := by
  simp [Mode.same, Mode.fold, show mode.ignoreCase = false from rfl]

theorem holds_point (x c : CodePoint) : (CharTest.point false x).holds mode c = true ↔ c = x := by
  simp [CharTest.holds, same_iff]

theorem holds_symbolPoint (c : CodePoint) :
    (CharTest.oneOf false [.point '<', .point '>', .point '=']).holds mode c = true ↔ IsSymbolPoint c := by
  simp [CharTest.holds, SetItem.holds, same_iff, IsSymbolPoint, show mode.ignoreCase = false from rfl]

section

variable {text before left : Text} {groups : List Span} {k : Follow} {q : Regex.Place}

/-- White space in front of what cannot begin with any is taken as a whole. -/
theorem answers_spaces (hk : k.Needs text fun left => ∀ c ∈ left.head?, ¬c.isAsciiSpace = true)
    (h : text = before ++ left) :
    Follow.Answers (spaceNode.run text.toArray mode k) groups before q ↔
      ∃ ws u, left = ws ++ u ∧ Spaces ws ∧ k.Answers groups (before ++ ws) q := by
  have hk' : k.Needs text fun left => ∀ c ∈ left.head?,
      (CharTest.oneOf false [.category .space false]).holds mode c = false := by
    intro before left groups q htext hq c hc
    rw [holds_space, Bool.eq_false_iff]
    exact hk htext hq c hc
  rw [spaceNode, answers_greedy _ hk' h]
  simp only [holds_space]
  rfl

/-- The symbol of an operator is next, and what follows gives an answer behind it. -/
def AnswersBehind (k : Follow) (groups : List Span) (before left : Text) (op : Operator) (q : Regex.Place) : Prop :=
  ∃ u, left = op.symbol ++ u ∧ k.Answers groups (before ++ op.symbol) q

/-- In front of what cannot begin with a symbol, one operator at most can be next. -/
theorem AnswersBehind.unique {op op' : Operator} {q' : Regex.Place}
    (hk : k.Needs text fun left => ∀ c ∈ left.head?, ¬IsSymbolPoint c) (h : text = before ++ left)
    (hop : AnswersBehind k groups before left op q) (hop' : AnswersBehind k groups before left op' q') : op = op' := by
  obtain ⟨u, rfl, hq⟩ := hop
  obtain ⟨u', hu', hq'⟩ := hop'
  have hhead := hk (by rw [h, List.append_assoc]) hq
  have hhead' := hk (by rw [h, hu', List.append_assoc]) hq'
  exact symbol_inj (run_unique (fun _ => isSymbolPoint_of_mem) (fun _ => isSymbolPoint_of_mem) hhead hhead' hu').1

theorem answers_pair (c d : CodePoint) (h : text = before ++ left) :
    Follow.Answers ((pairNode c d).run text.toArray mode k) groups before q ↔
      ∃ u, left = [c, d] ++ u ∧ k.Answers groups (before ++ [c, d]) q := by
  have hseq : (pairNode c d).run text.toArray mode k =
      (Node.char (.point false c)).run text.toArray mode ((Node.char (.point false d)).run text.toArray mode k) := rfl
  rw [hseq, answers_char _ h]
  constructor
  · rintro ⟨c', rest, rfl, hc, hq⟩
    obtain rfl := (holds_point c c').1 hc
    obtain ⟨d', u, rfl, hd, hq'⟩ := (answers_char _ (by rw [h, List.append_assoc]; rfl)).1 hq
    obtain rfl := (holds_point d d').1 hd
    exact ⟨u, rfl, by simpa using hq'⟩
  · rintro ⟨u, rfl, hq⟩
    refine ⟨c, d :: u, rfl, (holds_point c c).2 rfl, ?_⟩
    refine (answers_char _ (by rw [h, List.append_assoc]; rfl)).2 ⟨d, u, rfl, (holds_point d d).2 rfl, ?_⟩
    simpa using hq

theorem answers_point (h : text = before ++ left) :
    Follow.Answers (pointNode.run text.toArray mode k) groups before q ↔
      AnswersBehind k groups before left .lt q ∨ AnswersBehind k groups before left .gt q ∨
        AnswersBehind k groups before left .eq q := by
  rw [pointNode, answers_char _ h]
  simp only [holds_symbolPoint]
  constructor
  · rintro ⟨c, u, rfl, rfl | rfl | rfl, hq⟩
    · exact .inl ⟨u, rfl, hq⟩
    · exact .inr (.inl ⟨u, rfl, hq⟩)
    · exact .inr (.inr ⟨u, rfl, hq⟩)
  · rintro (⟨u, rfl, hq⟩ | ⟨u, rfl, hq⟩ | ⟨u, rfl, hq⟩)
    · exact ⟨_, u, rfl, .inl rfl, hq⟩
    · exact ⟨_, u, rfl, .inr (.inl rfl), hq⟩
    · exact ⟨_, u, rfl, .inr (.inr rfl), hq⟩

/-- In front of what cannot begin with a symbol, the matcher finds the operator that is next: going back from a long
symbol to a short one is of no use. -/
theorem answers_symbol (hk : k.Needs text fun left => ∀ c ∈ left.head?, ¬IsSymbolPoint c)
    (h : text = before ++ left) :
    Follow.Answers (symbolNode.run text.toArray mode k) groups before q ↔
      ∃ op, AnswersBehind k groups before left op q := by
  have hne {q : Regex.Place} : Follow.Answers ((pairNode '<' '>').run text.toArray mode k) groups before q ↔
      AnswersBehind k groups before left .ne q := answers_pair '<' '>' h
  have hge {q : Regex.Place} : Follow.Answers ((pairNode '>' '=').run text.toArray mode k) groups before q ↔
      AnswersBehind k groups before left .ge q := answers_pair '>' '=' h
  have hle {q : Regex.Place} : Follow.Answers ((pairNode '<' '=').run text.toArray mode k) groups before q ↔
      AnswersBehind k groups before left .le q := answers_pair '<' '=' h
  rw [symbolNode, answers_either, answers_either, answers_either, answers_point h]
  simp only [hne, hge, hle]
  constructor
  · rintro (hop | ⟨-, hop | ⟨-, hop | ⟨-, hop | hop | hop⟩⟩⟩)
    all_goals exact ⟨_, hop⟩
  · rintro ⟨op, hop⟩
    have hother {op' : Operator} (hne : op' ≠ op) (q' : Regex.Place) : ¬AnswersBehind k groups before left op' q' :=
      fun hop' => hne (AnswersBehind.unique hk h hop' hop)
    cases op with
    | ne => exact .inl hop
    | ge => exact .inr ⟨hother (by decide), .inl hop⟩
    | le => exact .inr ⟨hother (by decide), .inr ⟨hother (by decide), .inl hop⟩⟩
    | lt => exact .inr ⟨hother (by decide), .inr ⟨hother (by decide), .inr ⟨hother (by decide), .inl hop⟩⟩⟩
    | gt => exact .inr ⟨hother (by decide), .inr ⟨hother (by decide), .inr ⟨hother (by decide), .inr (.inl hop)⟩⟩⟩
    | eq => exact .inr ⟨hother (by decide), .inr ⟨hother (by decide), .inr ⟨hother (by decide), .inr (.inr hop)⟩⟩⟩

/-- A group of the symbol keeps the ends of the operator's symbol. -/
theorem answers_symbolGroup {index : Nat} (hk : k.Needs text fun left => ∀ c ∈ left.head?, ¬IsSymbolPoint c)
    (h : text = before ++ left) :
    Follow.Answers ((Node.group index symbolNode).run text.toArray mode k) groups before q ↔
      ∃ op u, left = Operator.symbol op ++ u ∧
        k.Answers (groups.set (index - 1) ⟨some before.length, some (before ++ op.symbol).length⟩)
          (before ++ op.symbol) q := by
  let entered := (Regex.Place.enter ⟨before.length, groups⟩ index).groups
  have hrun : Follow.Answers (symbolNode.run text.toArray mode fun p => k (p.leave index)) entered before q ↔
      ∃ op, AnswersBehind (fun p => k (p.leave index)) entered before left op q :=
    answers_symbol (needs_leave index hk) h
  refine Iff.trans hrun (exists_congr fun op => exists_congr fun u => and_congr_right fun _ => ?_)
  exact answers_leave index before.length

/-! ### Comparisons -/

/-- A value in front of what follows. -/
theorem answers_value {index : Nat} {greed : Greed} (h : text = before ++ left) :
    Follow.Answers ((Node.group index (valueNode greed)).run text.toArray mode k) groups before q ↔
      ∃ d rest, left = d :: rest ∧ d.isDigit = true ∧
        Follow.Answers ((Node.repeated greed 0 none (.char .any)).run text.toArray mode fun p => k (p.leave index))
          (Regex.Place.enter ⟨before.length, groups⟩ index).groups (before ++ [d]) q := by
  have hgroup : Follow.Answers ((Node.group index (valueNode greed)).run text.toArray mode k) groups before q ↔
      Follow.Answers ((Node.char (.oneOf false [.category .digit false])).run text.toArray mode
        ((Node.repeated greed 0 none (.char .any)).run text.toArray mode fun p => k (p.leave index)))
        (Regex.Place.enter ⟨before.length, groups⟩ index).groups before q := Iff.rfl
  rw [hgroup, answers_char _ h]
  simp only [holds_digit]

/-- White space and a value in front of what follows. -/
theorem answers_spacedValue {index : Nat} {greed : Greed} (h : text = before ++ left) :
    Follow.Answers (runAll text.toArray mode [spaceNode, .group index (valueNode greed)] k) groups before q ↔
      ∃ ws d rest, left = ws ++ d :: rest ∧ Spaces ws ∧ d.isDigit = true ∧
        Follow.Answers ((Node.repeated greed 0 none (.char .any)).run text.toArray mode fun p => k (p.leave index))
          (Regex.Place.enter ⟨(before ++ ws).length, groups⟩ index).groups (before ++ ws ++ [d]) q := by
  have hvalue : Follow.Needs (runAll text.toArray mode [.group index (valueNode greed)] k) text
      fun left => ∀ c ∈ left.head?, ¬c.isAsciiSpace = true := by
    intro before left groups q htext hq
    obtain ⟨d, rest, rfl, hd, -⟩ := (answers_value htext).1 hq
    exact not_space_head ⟨d, rest, rfl, hd⟩
  rw [runAll_cons, answers_spaces hvalue h]
  constructor
  · rintro ⟨ws, u, rfl, hws, hq⟩
    obtain ⟨d, rest, rfl, hd, hq'⟩ := (answers_value (by rw [h, List.append_assoc])).1 hq
    exact ⟨ws, d, rest, rfl, hws, hd, hq'⟩
  · rintro ⟨ws, d, rest, rfl, hws, hd, hq⟩
    exact ⟨ws, _, rfl, hws, (answers_value (by rw [h, List.append_assoc])).2 ⟨d, rest, rfl, hd, hq⟩⟩

/-- White space, a symbol, white space and a value in front of what follows. -/
theorem answers_comparison {index : Nat} {greed : Greed} (h : text = before ++ left) :
    Follow.Answers (runAll text.toArray mode (comparisonNodes index greed) k) groups before q ↔
      ∃ ws op ws' d rest, left = ws ++ (Operator.symbol op ++ (ws' ++ d :: rest)) ∧ Spaces ws ∧ Spaces ws' ∧
        d.isDigit = true ∧
        Follow.Answers
          ((Node.repeated greed 0 none (.char .any)).run text.toArray mode fun p => k (p.leave (index + 1)))
          (Regex.Place.enter ⟨(before ++ ws ++ op.symbol ++ ws').length,
            groups.set (index - 1) ⟨some (before ++ ws).length, some (before ++ ws ++ op.symbol).length⟩⟩
            (index + 1)).groups
          (before ++ ws ++ op.symbol ++ ws' ++ [d]) q := by
  have hbehind : Follow.Needs (runAll text.toArray mode [spaceNode, .group (index + 1) (valueNode greed)] k) text
      fun left => ∀ c ∈ left.head?, ¬IsSymbolPoint c := by
    intro before left groups q htext hq
    obtain ⟨ws, d, rest, rfl, hws, hd, -⟩ := (answers_spacedValue htext).1 hq
    exact not_symbol_head hws ⟨d, rest, rfl, hd⟩
  have hsymbol : Follow.Needs (runAll text.toArray mode
      [.group index symbolNode, spaceNode, .group (index + 1) (valueNode greed)] k) text
      fun left => ∀ c ∈ left.head?, ¬c.isAsciiSpace = true := by
    intro before left groups q htext hq c hc
    obtain ⟨op, u, rfl, -⟩ := (answers_symbolGroup hbehind htext).1 hq
    obtain ⟨d, rest, hop, hd⟩ := symbol_cons op
    obtain rfl : d = c := by simpa [hop] using hc
    exact not_isAsciiSpace_of_symbol hd
  rw [comparisonNodes, runAll_cons, answers_spaces hsymbol h]
  constructor
  · rintro ⟨ws, u, rfl, hws, hq⟩
    have hspaced : text = before ++ ws ++ u := by rw [h, List.append_assoc]
    obtain ⟨op, v, rfl, hq'⟩ := (answers_symbolGroup hbehind hspaced).1 hq
    rw [← List.append_assoc] at hspaced
    obtain ⟨ws', d, rest, rfl, hws', hd, hq''⟩ := (answers_spacedValue hspaced).1 hq'
    exact ⟨ws, op, ws', d, rest, rfl, hws, hws', hd, hq''⟩
  · rintro ⟨ws, op, ws', d, rest, rfl, hws, hws', hd, hq⟩
    have hspaced : text = before ++ ws ++ (op.symbol ++ (ws' ++ d :: rest)) := by rw [h, List.append_assoc]
    refine ⟨ws, _, rfl, hws, (answers_symbolGroup hbehind hspaced).2 ⟨op, _, rfl, ?_⟩⟩
    rw [← List.append_assoc] at hspaced
    exact (answers_spacedValue hspaced).2 ⟨ws', d, rest, rfl, hws', hd, hq⟩

/-- The rest of the line as the rest of a value, in front of the end of the text. -/
theorem answers_line {index a : Nat} (hlast : text.getLast? ≠ some ('\n' : CodePoint)) (h : text = before ++ left) :
    Follow.Answers ((Node.repeated .greedy 0 none (.char .any)).run text.toArray mode fun p =>
        (Node.anchor .lineEnd).run text.toArray mode some (p.leave index))
        (Regex.Place.enter ⟨a, groups⟩ index).groups before q ↔
      ('\n' : CodePoint) ∉ left ∧ q = ⟨text.length, groups.set (index - 1) ⟨some a, some text.length⟩⟩ := by
  have hend : ((Node.anchor .lineEnd).run text.toArray mode some).Needs text
      fun left => ∀ c ∈ left.head?, CharTest.any.holds mode c = false := by
    intro before left groups q htext hq c hc
    obtain ⟨rfl, -⟩ := (answers_lineEnd rfl hlast htext).1 hq
    cases hc
  rw [answers_greedy _ (needs_leave index hend) h]
  simp only [answers_leave, holds_any]
  constructor
  · rintro ⟨u, v, rfl, hu, hq⟩
    obtain ⟨rfl, hq'⟩ := (answers_lineEnd rfl hlast (by rw [h, List.append_assoc])).1 hq
    rw [List.append_nil] at h ⊢
    rw [answers_some, ← h] at hq'
    exact ⟨fun hmem => hu _ hmem rfl, hq'⟩
  · rintro ⟨hline, rfl⟩
    refine ⟨left, [], (List.append_nil left).symm, fun c hc hnewline => hline (hnewline ▸ hc), ?_⟩
    rw [answers_lineEnd rfl hlast (by rw [h, List.append_nil]), answers_some, ← h]
    exact ⟨rfl, rfl⟩

/-- A last comparison: it goes on to the end of the text, and its symbol and its value are kept. -/
theorem answers_last {index : Nat} (hlast : text.getLast? ≠ some ('\n' : CodePoint)) (h : text = before ++ left) :
    Follow.Answers (runAll text.toArray mode (comparisonNodes index .greedy ++ [.anchor .lineEnd]) some) groups before
        q ↔
      ∃ ws op ws' value, left = ws ++ (Operator.symbol op ++ (ws' ++ value)) ∧ Spaces ws ∧ Spaces ws' ∧
        BeginsWithDigit value ∧ ('\n' : CodePoint) ∉ value ∧
        q = ⟨text.length,
          (groups.set (index - 1) ⟨some (before ++ ws).length, some (before ++ ws ++ op.symbol).length⟩).set index
            ⟨some (before ++ ws ++ op.symbol ++ ws').length, some text.length⟩⟩ := by
  rw [runAll_append, answers_comparison h]
  constructor
  · rintro ⟨ws, op, ws', d, rest, rfl, hws, hws', hd, hq⟩
    have hrest : text = before ++ ws ++ op.symbol ++ ws' ++ [d] ++ rest := by simp [h]
    obtain ⟨hline, rfl⟩ := (answers_line hlast hrest).1 hq
    exact ⟨ws, op, ws', d :: rest, rfl, hws, hws', ⟨d, rest, rfl, hd⟩, (newline_cons hd).2 hline, rfl⟩
  · rintro ⟨ws, op, ws', _, rfl, hws, hws', ⟨d, rest, rfl, hd⟩, hline, rfl⟩
    have hrest : text = before ++ ws ++ op.symbol ++ ws' ++ [d] ++ rest := by simp [h]
    exact ⟨ws, op, ws', d, rest, rfl, hws, hws', hd, (answers_line hlast hrest).2 ⟨(newline_cons hd).1 hline, rfl⟩⟩

end

/-! ### Two comparisons -/

section

variable {t : Text} (hlast : t.getLast? ≠ some ('\n' : CodePoint))

include hlast

/-- Behind the beginning `d :: u` of a first value, a comparison that goes on to the end of the text. -/
theorem answers_second {front u v : Text} {d : CodePoint} {a : Nat} {groups : List Span} {q : Regex.Place}
    (h : t = front ++ d :: u ++ v) :
    Follow.Answers (fun p => runAll t.toArray mode (comparisonNodes 3 .greedy ++ [.anchor .lineEnd]) some (p.leave 2))
        (Regex.Place.enter ⟨a, groups⟩ 2).groups (front ++ d :: u) q ↔
      ∃ ws op ws' second, v = ws ++ (Operator.symbol op ++ (ws' ++ second)) ∧ Spaces ws ∧ Spaces ws' ∧
        BeginsWithDigit second ∧ ('\n' : CodePoint) ∉ second ∧
        q = ⟨t.length, ((groups.set 1 ⟨some a, some (front ++ d :: u).length⟩).set 2
          ⟨some (front ++ d :: u ++ ws).length, some (front ++ d :: u ++ ws ++ op.symbol).length⟩).set 3
            ⟨some (front ++ d :: u ++ ws ++ op.symbol ++ ws').length, some t.length⟩⟩ := by
  rw [answers_leave]
  exact answers_last hlast h

/-- A first value that begins with the digit `d` behind `front`: it stops as soon as the rest of the text is a
comparison. -/
theorem answers_first {front rest : Text} {d : CodePoint} {a : Nat} {groups : List Span} {q : Regex.Place}
    (hd : d.isDigit = true) (h : t = front ++ [d] ++ rest) :
    Follow.Answers ((Node.repeated .lazy 0 none (.char .any)).run t.toArray mode fun p =>
        runAll t.toArray mode (comparisonNodes 3 .greedy ++ [.anchor .lineEnd]) some (p.leave 2))
        (Regex.Place.enter ⟨a, groups⟩ 2).groups (front ++ [d]) q ↔
      ∃ body op second ws ws', Stops (d :: rest) body op second ∧
        d :: rest = body ++ (ws ++ (Operator.symbol op ++ (ws' ++ second))) ∧ Spaces ws ∧ Spaces ws' ∧
        q = ⟨t.length, ((groups.set 1 ⟨some a, some (front ++ body).length⟩).set 2
          ⟨some (front ++ body ++ ws).length, some (front ++ body ++ ws ++ op.symbol).length⟩).set 3
            ⟨some (front ++ body ++ ws ++ op.symbol ++ ws').length, some t.length⟩⟩ := by
  have hbody (u : Text) : front ++ [d] ++ u = front ++ d :: u := by simp
  have hcut {u v : Text} (huv : rest = u ++ v) : t = front ++ d :: u ++ v := by
    rw [h, huv, ← List.append_assoc, hbody]
  rw [answers_lazy _ h]
  simp only [holds_any, hbody]
  constructor
  · rintro ⟨u, v, huv, hu, hq, hleast⟩
    obtain ⟨ws, op, ws', second, rfl, hws, hws', hdigit, hline, rfl⟩ := (answers_second hlast (hcut huv)).1 hq
    have hfits : Fits op second (ws ++ (op.symbol ++ (ws' ++ second))) :=
      fits_iff.2 ⟨ws, ws', rfl, hws, hws', hdigit, hline⟩
    refine ⟨d :: u, op, second, ws, ws', (stops_cons_iff hd).2 ⟨u, _, rfl, huv, fun hmem => hu _ hmem rfl, hfits, ?_⟩,
      by rw [huv, List.cons_append], hws, hws', rfl⟩
    intro u' v' huv' hlt op' second' hfits'
    obtain ⟨ws₂, ws₂', hv', hws₂, hws₂', hdigit', hline'⟩ := fits_iff.1 hfits'
    exact hleast u' v' huv' hlt _
      ((answers_second hlast (hcut huv')).2 ⟨ws₂, op', ws₂', second', hv', hws₂, hws₂', hdigit', hline', rfl⟩)
  · rintro ⟨body, op, second, ws, ws', hstops, hvalue, hws, hws', rfl⟩
    obtain ⟨u, v, rfl, huv, hline, hfits, hleast⟩ := (stops_cons_iff hd).1 hstops
    obtain rfl : v = ws ++ (op.symbol ++ (ws' ++ second)) :=
      List.append_cancel_left (huv.symm.trans (List.cons.inj hvalue).2)
    obtain ⟨-, -, -, -, -, hdigit, hline'⟩ := fits_iff.1 hfits
    refine ⟨u, _, huv, fun c hc hcn => hline (hcn ▸ hc), ?_, fun u' v' huv' hlt q' hq' => ?_⟩
    · exact (answers_second hlast (hcut huv)).2 ⟨ws, op, ws', second, rfl, hws, hws', hdigit, hline', rfl⟩
    · obtain ⟨ws₂, op', ws₂', second', hv', hws₂, hws₂', hdigit', hline', -⟩ :=
        (answers_second hlast (hcut huv')).1 hq'
      exact hleast u' v' huv' hlt op' second' (fits_iff.2 ⟨ws₂, ws₂', hv', hws₂, hws₂', hdigit', hline'⟩)

end

/-! ### The texts of the groups -/

/-- The text of a group. -/
def groupText (t : Text) (span : Span) : Option Text :=
  span.ends?.map fun (a, b) => (t.drop a).take (b - a)

theorem groupTexts_eq (t : Text) (q : Regex.Place) :
    Match.groupTexts ⟨0, q.pos, q.groups.map Span.ends?⟩ t = q.groups.map (groupText t) := by
  simp only [Match.groupTexts, List.map_map]
  rfl

section

variable {t x y z : Text}

theorem groupText_middle (h : t = x ++ (y ++ z)) : groupText t ⟨some x.length, some (x ++ y).length⟩ = some y := by
  subst h
  simp [groupText, Span.ends?]

theorem groupText_front (h : t = x ++ y) : groupText t ⟨some 0, some x.length⟩ = some x := by
  subst h
  simp [groupText, Span.ends?]

theorem groupText_back (h : t = x ++ y) : groupText t ⟨some x.length, some t.length⟩ = some y := by
  subst h
  simp [groupText, Span.ends?]

end

theorem operatorOf_symbol (op : Operator) : operatorOf (some op.symbol) = .ok op := by
  cases op <;> rfl

theorem clausesOf_cons {symbol value : Text} {op : Operator} {rest : List (Option Text)}
    {clauses : List (Operator × Text)} (hop : operatorOf (some symbol) = .ok op)
    (hrest : clausesOf rest = .ok clauses) :
    clausesOf (some symbol :: some value :: rest) = .ok ((op, value.strip) :: clauses) := by
  simp [clausesOf, hop, hrest, valueOf, bind, Except.bind, pure, Except.pure]

/-! ### What the patterns find -/

/-- From the start of a text on the nodes find the answer `q`. -/
def Finds (nodes : List Node) (count : Nat) (t : Text) (q : Regex.Place) : Prop :=
  Follow.Answers (runAll t.toArray mode nodes some) (List.replicate count {}) [] q

/-- The groups of an answer are read as what the text denotes. -/
def IsReading (t : Text) (q : Regex.Place) : Prop :=
  ∃ clauses, clausesOf (q.groups.map (groupText t)) = .ok clauses ∧ Denotes t clauses

/-- A pattern that begins with the start of the text finds what its nodes find there, or nothing. -/
theorem searchText_cases {p : Pattern} {nodes : List Node} {count : Nat} (hu : p.isUnicode = false)
    (hp : p.engine = .ok ⟨.seq (.anchor .lineStart) (Node.ofList nodes), count, mode⟩) (t : Text) :
    (∃ q, Finds nodes count t q ∧ p.searchText t 0 = .ok (some ⟨t, ⟨0, q.pos, q.groups.map Span.ends?⟩⟩)) ∨
      (∀ q, ¬Finds nodes count t q) ∧ p.searchText t 0 = .ok none := by
  have hsearch (found : Match) : (Parsed.mk (.seq (.anchor .lineStart) (Node.ofList nodes)) count mode).search? t 0 =
      some found ↔ ∃ q, Finds nodes count t q ∧ found = ⟨0, q.pos, q.groups.map Span.ends?⟩ := by
    rw [search_lineStart rfl rfl, run_ofList]
    rfl
  rw [Pattern.searchText_eq hu hp]
  cases hfound : (Parsed.mk (.seq (.anchor .lineStart) (Node.ofList nodes)) count mode).search? t 0 with
  | some found =>
    obtain ⟨q, hq, rfl⟩ := (hsearch found).1 hfound
    exact .inl ⟨q, hq, rfl⟩
  | none =>
    refine .inr ⟨fun q hq => ?_, rfl⟩
    have hsome := (hsearch _).2 ⟨q, hq, rfl⟩
    rw [hfound] at hsome
    exact Option.some_ne_none _ hsome.symm

section

variable {s : Text} {q : Regex.Place}

/-- What the pattern of two comparisons finds is read as two clauses. -/
theorem Finds.two (h : Finds twoNodes 4 s.strip q) : IsReading s.strip q := by
  rw [Finds, twoNodes, runAll_append, answers_comparison (List.nil_append s.strip).symm] at h
  obtain ⟨ws, op, ws', d, rest, ht, hws, hws', hd, hq⟩ := h
  obtain rfl := nil_of_spaces ht hws
  simp only [List.nil_append] at ht hq
  have hopens : Opens op (d :: rest) s.strip := ⟨⟨d, rest, rfl, hd⟩, ws', hws', by simp [ht]⟩
  have hfront : s.strip = op.symbol ++ ws' ++ [d] ++ rest := by simp [ht]
  obtain ⟨body, op', second, ws₂, ws₂', hstops, hvalue, hws₂, hws₂', rfl⟩ :=
    (answers_first last_strip_ne hd hfront).1 hq
  rw [hvalue] at ht
  have hbody : s.strip = (op.symbol ++ ws') ++ (body ++ (ws₂ ++ (op'.symbol ++ (ws₂' ++ second)))) := by simp [ht]
  have hop' : s.strip = (op.symbol ++ ws' ++ body ++ ws₂) ++ (op'.symbol ++ (ws₂' ++ second)) := by simp [ht]
  have hsecond : s.strip = (op.symbol ++ ws' ++ body ++ ws₂ ++ op'.symbol ++ ws₂') ++ second := by simp [ht]
  have htexts : [groupText s.strip _, groupText s.strip _, groupText s.strip _, groupText s.strip _] =
      [some op.symbol, some body, some op'.symbol, some second] :=
    congrArg₂ List.cons (groupText_front ht) (congrArg₂ List.cons (groupText_middle hbody)
      (congrArg₂ List.cons (groupText_middle hop') (congrArg₂ List.cons (groupText_back hsecond) rfl)))
  obtain ⟨ws₃, hws₃, hcut⟩ := hstops.firstCut hopens.digit
  refine ⟨_, (congrArg clausesOf htexts).trans ?_, .two hopens hcut⟩
  rw [clausesOf_cons (operatorOf_symbol op) (clausesOf_cons (operatorOf_symbol op') rfl), strip_append_spaces hws₃,
    strip_of_append hsecond hcut.rest.choose_spec.2.digit]

/-- What can be cut is found by the pattern of two comparisons. -/
theorem exists_finds_two (h : IsTwofold s.strip) : ∃ q, Finds twoNodes 4 s.strip q := by
  obtain ⟨op, value, first, op', second, hopens, hcut⟩ := h
  obtain ⟨ws', hws', ht⟩ := hopens.front
  obtain ⟨body, op₂, second₂, hstops⟩ := hcut.stops hopens.digit
  obtain ⟨d, rest, rfl, hd⟩ := hopens.digit
  obtain ⟨v, hvalue, hfits⟩ := hstops.fits
  obtain ⟨ws₂, ws₂', rfl, hws₂, hws₂', -⟩ := fits_iff.1 hfits
  have hfront : s.strip = op.symbol ++ ws' ++ [d] ++ rest := by simp [ht]
  simp only [Finds, twoNodes, runAll_append]
  exact ⟨_, (answers_comparison (List.nil_append s.strip).symm).2
    ⟨[], op, ws', d, rest, by simp [ht], List.forall_mem_nil _, hws', hd, (answers_first last_strip_ne hd hfront).2
      ⟨body, op₂, second₂, ws₂, ws₂', hstops, hvalue, hws₂, hws₂', rfl⟩⟩⟩

/-- What the pattern of one comparison finds is read as one clause, unless the text is two comparisons. -/
theorem Finds.one (h : Finds oneNodes 2 s.strip q) (hno : ¬IsTwofold s.strip) : IsReading s.strip q := by
  obtain ⟨ws, op, ws', value, ht, hws, hws', hdigit, hline, rfl⟩ :=
    (answers_last last_strip_ne (List.nil_append s.strip).symm).1 h
  obtain rfl := nil_of_spaces ht hws
  rw [List.nil_append] at ht
  have hvalue : s.strip = (op.symbol ++ ws') ++ value := by simp [ht]
  have htexts : [groupText s.strip _, groupText s.strip _] = [some op.symbol, some value] :=
    congrArg₂ List.cons (groupText_front ht) (congrArg₂ List.cons (groupText_back hvalue) rfl)
  refine ⟨_, (congrArg clausesOf htexts).trans ?_, .one hno ⟨⟨hdigit, ws', hws', hvalue⟩, hline⟩⟩
  rw [clausesOf_cons (operatorOf_symbol op) rfl, strip_of_append hvalue hdigit]

theorem exists_finds_one {op : Operator} {value : Text} (h : Comparison op value s.strip) :
    ∃ q, Finds oneNodes 2 s.strip q := by
  obtain ⟨ws', hws', ht⟩ := h.front
  exact ⟨_, (answers_last last_strip_ne (List.nil_append s.strip).symm).2
    ⟨[], op, ws', value, by simp [ht], List.forall_mem_nil _, hws', h.digit, h.line, rfl⟩⟩

/-- The pattern of a value alone finds a line that begins with a digit. -/
theorem finds_bare : Finds bareNodes 2 s.strip q ↔ BeginsWithDigit s.strip ∧ ('\n' : CodePoint) ∉ s.strip ∧
    q = ⟨s.strip.length, [⟨some 0, some 0⟩, ⟨some 0, some s.strip.length⟩]⟩ := by
  -- Nothing is asked of the group in front of the value.
  have hvalue : Finds bareNodes 2 s.strip q ↔
      Follow.Answers (runAll s.strip.toArray mode [.group 2 (valueNode .greedy), .anchor .lineEnd] some)
        [⟨some 0, some 0⟩, {}] [] q := Iff.rfl
  rw [hvalue, runAll_cons, answers_value (List.nil_append s.strip).symm]
  constructor
  · rintro ⟨d, rest, hs, hd, hq⟩
    have hrest : s.strip = [] ++ [d] ++ rest := by simp [hs]
    obtain ⟨hline, rfl⟩ := (answers_line last_strip_ne hrest).1 hq
    exact ⟨⟨d, rest, hs, hd⟩, hs ▸ (newline_cons hd).2 hline, rfl⟩
  · rintro ⟨⟨d, rest, hs, hd⟩, hline, rfl⟩
    have hrest : s.strip = [] ++ [d] ++ rest := by simp [hs]
    rw [hs, newline_cons hd] at hline
    exact ⟨d, rest, hs, hd, (answers_line last_strip_ne hrest).2 ⟨hline, rfl⟩⟩

/-- What the pattern of a value alone finds is read as one clause, with nothing in place of the symbol. -/
theorem Finds.bare (h : Finds bareNodes 2 s.strip q) : IsReading s.strip q := by
  obtain ⟨hdigit, hline, rfl⟩ := finds_bare.1 h
  have htexts : [groupText s.strip _, groupText s.strip _] = [some [], some s.strip] :=
    congrArg₂ List.cons (groupText_front (List.nil_append _).symm)
      (congrArg₂ List.cons (groupText_front (List.append_nil _).symm) rfl)
  have heq : operatorOf (some []) = .ok .eq := rfl
  refine ⟨_, (congrArg clausesOf htexts).trans ?_, .bare hdigit hline⟩
  rw [clausesOf_cons heq rfl, strip_of_append (List.nil_append _).symm hdigit]

end

/-! ### Reading a predicate -/

section

variable {t : Text} {p : Pattern}

/-- The first pattern that is found decides. -/
theorem firstFound_of_some {found : Pattern.Found} (h : p.searchText t 0 = .ok (some found)) (rest : List Pattern) :
    firstFound t (p :: rest) = .ok (some found) := by
  simp [firstFound, h, bind, Except.bind, pure, Except.pure]

/-- A pattern that is not found leaves the others to decide. -/
theorem firstFound_of_none (h : p.searchText t 0 = .ok none) (rest : List Pattern) :
    firstFound t (p :: rest) = firstFound t rest := by
  simp [firstFound, h, bind, Except.bind]

theorem read_of_found {q : Regex.Place}
    (h : firstFound t.strip grammar = .ok (some ⟨t.strip, ⟨0, q.pos, q.groups.map Span.ends?⟩⟩))
    (hq : IsReading t.strip q) : ∃ clauses, read t = .ok clauses ∧ Denotes t.strip clauses := by
  obtain ⟨clauses, hclauses, hdenotes⟩ := hq
  rw [← groupTexts_eq] at hclauses
  exact ⟨clauses, by simp [read, h, hclauses, Except.mapError, bind, Except.bind], hdenotes⟩

theorem read_of_not_found (h : firstFound t.strip grammar = .ok none) : read t = .error (.format ⟨t⟩) := by
  simp [read, h, Except.mapError, bind, Except.bind]

end

/-- A predicate is read as what it denotes, or denotes nothing and is refused. -/
theorem read_cases (t : Text) :
    (∃ clauses, read t = .ok clauses ∧ Denotes t.strip clauses) ∨
      read t = .error (.format ⟨t⟩) ∧ ∀ clauses, ¬Denotes t.strip clauses := by
  rcases searchText_cases rfl engine_two t.strip with ⟨q, hq, hfound⟩ | ⟨hnone, htwo⟩
  · exact .inl (read_of_found (firstFound_of_some hfound _) hq.two)
  have htwofold : ¬IsTwofold t.strip := fun h => (exists_finds_two h).elim hnone
  have hsecond : firstFound t.strip grammar = firstFound t.strip [oneComparison, bareValue] :=
    firstFound_of_none htwo _
  rcases searchText_cases rfl engine_one t.strip with ⟨q, hq, hfound⟩ | ⟨hnone', hone⟩
  · exact .inl (read_of_found (hsecond.trans (firstFound_of_some hfound _)) (hq.one htwofold))
  have hthird : firstFound t.strip grammar = firstFound t.strip [bareValue] :=
    hsecond.trans (firstFound_of_none hone _)
  rcases searchText_cases rfl engine_bare t.strip with ⟨q, hq, hfound⟩ | ⟨hnone'', hbare⟩
  · exact .inl (read_of_found (hthird.trans (firstFound_of_some hfound _)) hq.bare)
  refine .inr ⟨read_of_not_found (hthird.trans (firstFound_of_none hbare _)), fun clauses hdenotes => ?_⟩
  cases hdenotes with
  | two hopens hcut => exact htwofold ⟨_, _, _, _, _, hopens, hcut.toCut⟩
  | one _ hcomparison => exact (exists_finds_one hcomparison).elim hnone'
  | bare hdigit hline => exact hnone'' _ (finds_bare.2 ⟨hdigit, hline, rfl⟩)

/-- A predicate is read as the clauses that it denotes without the white space around it, and a text that denotes none
is refused for its format: no symbol turns out to be of no operator, and no search fails. -/
theorem read_decides (t : Text) :
    (∀ clauses, read t = .ok clauses ↔ Denotes t.strip clauses) ∧
      ∀ fault, read t = .error fault ↔ fault = .format ⟨t⟩ ∧ ∀ clauses, ¬Denotes t.strip clauses := by
  rcases read_cases t with ⟨clauses, hread, hdenotes⟩ | ⟨hread, hnone⟩
  · rw [hread]
    refine ⟨fun clauses' => ⟨?_, fun h => congrArg Except.ok (hdenotes.unique h)⟩, fun fault => ⟨nofun, ?_⟩⟩
    · rintro ⟨⟩
      exact hdenotes
    · exact fun h => absurd hdenotes (h.2 clauses)
  · rw [hread]
    refine ⟨fun clauses => ⟨nofun, fun h => absurd h (hnone clauses)⟩, fun fault => ⟨?_, ?_⟩⟩
    · rintro ⟨⟩
      exact ⟨rfl, hnone⟩
    · rintro ⟨rfl, -⟩
      rfl

/-- The first value ends in front of the first comparison, and the second goes on over another symbol. -/
example : (read " > 1 KB <> 5 < 1 MB ").toOption =
    some [(Operator.gt, ("1 KB" : Text)), (Operator.ne, ("5 < 1 MB" : Text))] := by
  decide +kernel

/-- Every fault is one of the format, so nothing is lost when all faults are taken for one. -/
theorem parse_mapError (t : Text) : (parse t).mapError Fault.format = read t := by
  rcases read_cases t with ⟨clauses, hread, -⟩ | ⟨hread, -⟩
  all_goals
    rw [parse, hread]
    rfl

end FileSieve.Predicate
