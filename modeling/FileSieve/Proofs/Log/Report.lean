import FileSieve.Proofs.Log.Nesting

/-!
# Entries that cannot be logged

The pairs of an entry are texts, but in front of them stand the pairs of the open contexts, and not every value can be
written. So an entry that is taken at all is logged exactly when it has a value of its own for each key under which the
contexts have one that cannot be written, and entries are reported when each of them is logged (`Board.report_ok_iff`).
What has been logged before makes no difference (`Board.sameLogging_report`), and what goes wrong is what goes wrong with a
value of the contexts (`Board.refuses_of_report`).
-/

namespace FileSieve.Log

namespace Pairs

theorem isSome_lookup_reverse (all : Pairs) (key : Text) :
    (all.reverse.lookup key).isSome = true ↔ key ∈ all.map Prod.fst := by
  rw [List.lookup_isSome_iff, List.mem_map]
  refine exists_congr fun pair => and_congr List.mem_reverse ?_
  rw [beq_iff_eq, eq_comm]

theorem mem_inOrder {all : Pairs} {key : Text} {value : Value} :
    (key, value) ∈ inOrder all ↔ all.reverse.lookup key = some value := by
  rw [inOrder, List.mem_map]
  constructor
  · rintro ⟨key', hkey, heq⟩
    obtain ⟨rfl, rfl⟩ := Prod.mk.inj heq
    obtain ⟨value, hvalue⟩ := Option.isSome_iff_exists.mp
      ((isSome_lookup_reverse all key').mpr (List.mem_eraseDups.mp hkey))
    rw [hvalue, Option.getD_some]
  · intro h
    exact ⟨key, List.mem_eraseDups.mpr ((isSome_lookup_reverse all key).mp (Option.isSome_of_eq_some h)),
      by rw [h, Option.getD_some]⟩

/-- Pairs can be written when the last value of each key can. -/
theorem context_inOrder_iff (all : Pairs) : (∃ context, (inOrder all).context = .ok context) ↔
    ∀ key value, all.reverse.lookup key = some value → ∃ t, value.plain = .ok t := by
  rw [context, mapM_ok_iff]
  constructor
  · intro h key value hvalue
    obtain ⟨pair, hpair⟩ := h (key, value) (mem_inOrder.mpr hvalue)
    obtain ⟨t, ht, -⟩ := map_eq_ok.mp hpair
    exact ⟨t, ht⟩
  · rintro h ⟨key, value⟩ hmem
    obtain ⟨t, ht⟩ := h key value (mem_inOrder.mp hmem)
    exact ⟨(key, t), map_eq_ok.mpr ⟨t, ht, rfl⟩⟩

end Pairs

namespace Board

variable {b c : Board} {name : Text} {level : Level} {entries : List Entry} {m : Misuse}

/-- The open contexts have a value under a key that cannot be written. -/
def Stuck (b : Board) (key : Text) : Prop :=
  ∃ value, b.contexts.flatten.reverse.lookup key = some value ∧ ∀ t, value.plain ≠ .ok t

/-- Entries are not taken at all, or each of them has a value of its own where the contexts have one that cannot be
written. -/
def Takes (b : Board) (name : Text) (level : Level) (entries : List Entry) : Prop :=
  b.isEnabled name level.number = true → ∀ e ∈ entries, ∀ key, b.Stuck key → key ∈ e.context.map Prod.fst

/-- A value of the open contexts cannot be written, and this is why. -/
def StuckBy (b : Board) (m : Misuse) : Prop :=
  ∃ key value, b.contexts.flatten.reverse.lookup key = some value ∧ value.plain = .error m

/-- An entry can be refused: entries are taken, and a value of the open contexts cannot be written. -/
def Refuses (b : Board) (name : Text) (level : Level) (m : Misuse) : Prop :=
  b.isEnabled name level.number = true ∧ b.StuckBy m

/-- The pairs of an entry. -/
def pairsOf (e : Entry) : Pairs :=
  e.context.map fun (key, shown) => (key, .text shown)

/-- The values of an entry are texts. -/
theorem exists_plain_of_pairsOf {e : Entry} {key : Text} {value : Value}
    (h : (pairsOf e).reverse.lookup key = some value) : ∃ t, value.plain = .ok t := by
  obtain ⟨front, back, hpairs, -⟩ := List.lookup_eq_some_iff.mp h
  have hmem : (key, value) ∈ pairsOf e := List.mem_reverse.mp (by simp [hpairs])
  obtain ⟨pair, -, heq⟩ := List.mem_map.mp hmem
  obtain ⟨-, rfl⟩ := Prod.mk.inj heq
  exact ⟨pair.2, rfl⟩

/-- Behind the contexts the pairs of an entry can be written when it has values of its own where they cannot. -/
theorem context_entry_iff (b : Board) (e : Entry) :
    (∃ context, (Pairs.update (Pairs.merged b.contexts) (pairsOf e)).context = .ok context) ↔
      ∀ key, b.Stuck key → key ∈ e.context.map Prod.fst := by
  rw [Pairs.update_merged, Pairs.context_inOrder_iff]
  simp only [List.reverse_append, List.lookup_append]
  have hkeys : (pairsOf e).map Prod.fst = e.context.map Prod.fst := by
    rw [pairsOf, List.map_map]
    rfl
  have hnone (key : Text) : (pairsOf e).reverse.lookup key = none ↔ key ∉ e.context.map Prod.fst := by
    rw [← hkeys, ← Pairs.isSome_lookup_reverse, Bool.not_eq_true, Option.isSome_eq_false_iff, Option.isNone_iff_eq_none]
  constructor
  · rintro h key ⟨value, hvalue, hstuck⟩
    by_contra hkey
    obtain ⟨t, ht⟩ := h key value (by rw [(hnone key).mpr hkey, Option.none_or, hvalue])
    exact hstuck t ht
  · intro h key value hvalue
    cases howned : (pairsOf e).reverse.lookup key with
    | some own =>
      rw [howned, Option.some_or] at hvalue
      exact exists_plain_of_pairsOf (howned.trans hvalue)
    | none =>
      rw [howned, Option.none_or] at hvalue
      by_contra hstuck
      exact (hnone key).mp howned (h key ⟨value, hvalue, fun t ht => hstuck ⟨t, ht⟩⟩)

/-- What goes wrong when they cannot is what goes wrong with a value of the contexts. -/
theorem stuckBy_of_context {e : Entry}
    (h : (Pairs.update (Pairs.merged b.contexts) (pairsOf e)).context = .error m) : b.StuckBy m := by
  rw [Pairs.update_merged] at h
  obtain ⟨front, ⟨key, value⟩, back, hpairs, -, hvalue⟩ := mapM_eq_error_iff.mp h
  have hplain : value.plain = .error m := by
    change value.plain.map _ = _ at hvalue
    cases hvalue' : value.plain with
    | error m' => rw [hvalue'] at hvalue; exact congrArg Except.error (Except.error.inj hvalue)
    | ok t => rw [hvalue'] at hvalue; cases hvalue
  have hlookup := Pairs.mem_inOrder.mp (hpairs ▸ List.mem_append_right front List.mem_cons_self)
  rw [List.reverse_append, List.lookup_append] at hlookup
  cases howned : (pairsOf e).reverse.lookup key with
  | some own =>
    rw [howned, Option.some_or] at hlookup
    obtain ⟨t, ht⟩ := exists_plain_of_pairsOf (howned.trans hlookup)
    cases hplain.symm.trans ht
  | none =>
    rw [howned, Option.none_or] at hlookup
    exact ⟨key, value, hlookup, hplain⟩

/-- Writing a message changes nothing about which messages are taken. -/
theorem isEnabled_write (b : Board) (channel : Text) (level' : Level) (message : Text) (incident : Option Text)
    (name : Text) (level : Level) :
    (b.write channel level' message incident).isEnabled name level.number = b.isEnabled name level.number :=
  congrFun (congrFun (congrArg Routing.takes
    (routing_congr (b.level_channel_keep ⟨channel, level', message, incident⟩) rfl)) name) level

/-- Two boards with the same open contexts that take messages of the same levels. -/
structure SameLogging (b c : Board) : Prop where
  /-- The same contexts are open. -/
  contexts : c.contexts = b.contexts
  /-- The same levels are taken. -/
  isEnabled : ∀ name (level : Level), c.isEnabled name level.number = b.isEnabled name level.number

namespace SameLogging

theorem refl (b : Board) : SameLogging b b :=
  ⟨rfl, fun _ _ => rfl⟩

theorem trans {d : Board} (h : SameLogging b c) (h' : SameLogging c d) : SameLogging b d :=
  ⟨h'.contexts.trans h.contexts, fun name level => (h'.isEnabled name level).trans (h.isEnabled name level)⟩

theorem takes_iff (h : SameLogging b c) (entries : List Entry) :
    c.Takes name level entries ↔ b.Takes name level entries := by
  simp only [Takes, Stuck, h.contexts, h.isEnabled]

theorem refuses_iff (h : SameLogging b c) : c.Refuses name level m ↔ b.Refuses name level m := by
  simp only [Refuses, StuckBy, h.contexts, h.isEnabled]

end SameLogging

/-- An entry that is logged changes nothing about what is logged. -/
theorem sameLogging_log {e : Entry} (h : b.log name level e.message (pairsOf e) none = .ok c) : SameLogging b c := by
  cases henabled : b.isEnabled name level.number with
  | false =>
    obtain rfl : b = c := by simpa [log, henabled, pure, Except.pure] using h
    exact .refl b
  | true =>
    rw [log, henabled] at h
    obtain ⟨context, -, h⟩ := bind_eq_ok.mp h
    obtain ⟨line, -, h⟩ := bind_eq_ok.mp h
    obtain rfl := Except.ok.inj h
    exact ⟨rfl, b.isEnabled_write _ _ _ _⟩

/-- An entry is logged when it is taken, -/
theorem log_entry_iff (b : Board) (name : Text) (level : Level) (e : Entry) :
    (∃ c, b.log name level e.message (pairsOf e) none = .ok c) ↔ b.Takes name level [e] := by
  rw [Takes, List.forall_mem_singleton, ← context_entry_iff, log]
  cases b.isEnabled name level.number with
  | false => exact iff_of_true ⟨b, rfl⟩ fun h => absurd h Bool.false_ne_true
  | true =>
    simp only [Bool.not_true, Bool.false_eq_true, if_false, forall_const]
    constructor
    · rintro ⟨c, hc⟩
      obtain ⟨context, hcontext, -⟩ := bind_eq_ok.mp hc
      exact ⟨context, hcontext⟩
    · rintro ⟨context, hcontext⟩
      exact ⟨_, by rw [hcontext]; rfl⟩

/-- and else it is refused. -/
theorem refuses_of_log {e : Entry} (h : b.log name level e.message (pairsOf e) none = .error m) :
    b.Refuses name level m := by
  cases henabled : b.isEnabled name level.number with
  | false =>
    rw [log, henabled] at h
    cases h
  | true =>
    rw [log, henabled] at h
    refine ⟨henabled, stuckBy_of_context (e := e) ?_⟩
    cases hcontext : (Pairs.update (Pairs.merged b.contexts) (pairsOf e)).context with
    | error m' => rw [hcontext] at h; exact congrArg Except.error (Except.error.inj h)
    | ok context => rw [hcontext] at h; cases h

theorem takes_cons (b : Board) (name : Text) (level : Level) (e : Entry) (entries : List Entry) :
    b.Takes name level (e :: entries) ↔ b.Takes name level [e] ∧ b.Takes name level entries := by
  rw [Takes, Takes, Takes, List.forall_mem_cons, List.forall_mem_singleton]
  exact imp_and

/-- Entries are reported exactly when they are taken, -/
theorem report_ok_iff (b : Board) (name : Text) (level : Level) (entries : List Entry) :
    (b.report name level entries).2 = none ↔ b.Takes name level entries := by
  induction entries generalizing b with
  | nil => exact iff_of_true rfl fun _ => List.forall_mem_nil _
  | cons e entries ih =>
    rw [takes_cons, ← log_entry_iff, report]
    cases hlog : b.log name level e.message (pairsOf e) none with
    | error m =>
      rw [pairsOf] at hlog
      simp [hlog]
    | ok c =>
      rw [← (sameLogging_log hlog).takes_iff entries]
      rw [pairsOf] at hlog
      simp [hlog, ih]

/-- and change nothing about what is logged. -/
theorem sameLogging_report (h : b.report name level entries = (c, none)) : SameLogging b c := by
  induction entries generalizing b with
  | nil =>
    obtain ⟨rfl, -⟩ := Prod.mk.inj h
    exact .refl b
  | cons e entries ih =>
    rw [report] at h
    split at h
    · cases (Prod.mk.inj h).2
    · next d hlog => exact (sameLogging_log hlog).trans (ih h)

/-- What goes wrong when entries are reported is what goes wrong with a value of the contexts. -/
theorem refuses_of_report (h : b.report name level entries = (c, some m)) : b.Refuses name level m := by
  induction entries generalizing b with
  | nil => cases (Prod.mk.inj h).2
  | cons e entries ih =>
    rw [report] at h
    split at h
    · next hlog =>
      obtain rfl := Option.some.inj (Prod.mk.inj h).2
      exact refuses_of_log hlog
    · next d hlog => exact (sameLogging_log hlog).refuses_iff.mp (ih h)

end Board

end FileSieve.Log
