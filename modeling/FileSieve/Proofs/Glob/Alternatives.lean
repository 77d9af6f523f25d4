import FileSieve.Proofs.Glob.Joining

/-!
# Several globs together

The pattern of several globs reads as the alternatives of the parts of those that result where one leaves a bracket
open (`matchesText_joined`), or it is no regular expression (`matchesText_joined_fault`). A glob that has parts leaves
no bracket open. So a list of globs that are regular expressions each for itself matches what one of them matches alone,
and nothing else of the list matters (`compileAll_iff_exists`).
-/

namespace FileSieve.Glob

open Regex

variable (separators glob : Text) (caseFold : Bool)

/-! ### The pattern of several globs -/

theorem textOf_alternativesSymbols (globs : List Text) :
    Symbol.textOf (alternativesSymbols separators (pieces glob) (globs.map pieces)) =
      alternatives ((glob :: globs).map fun glob => toRegex glob separators) := by
  induction globs generalizing glob with
  | nil =>
    simp [alternativesSymbols, alternatives, Text.join, textOf_anchoredSymbols]
    rfl
  | cons next globs ih =>
    have h := ih next
    simp only [alternatives, List.map_cons] at h ⊢
    simp [alternativesSymbols, Text.join, textOf_anchoredSymbols, h]
    rfl

theorem haveParts_of_forall {globs : List (List Piece)} (h : ∀ ps ∈ globs, (parts separators none ps).isSome = true) :
    ∃ rows, HaveParts separators globs rows := by
  induction globs with
  | nil => exact ⟨[], .nil⟩
  | cons ps globs ih =>
    obtain ⟨row, hrow⟩ := Option.isSome_iff_exists.mp (h ps (by simp))
    obtain ⟨rows, hrows⟩ := ih fun qs hq => h qs (.tail _ hq)
    exact ⟨row :: rows, .cons hrow hrows⟩

theorem exists_row_iff {globs : List (List Piece)} {rows : List (List Part)} (h : HaveParts separators globs rows)
    (P : List Part → Prop) :
    (∃ row ∈ rows, P row) ↔ ∃ ps ∈ globs, ∃ row, parts separators none ps = some row ∧ P row := by
  induction h with
  | nil => simp
  | cons hrow _ ih => simp [hrow, ih]

theorem fault_alternativesNode (index : Nat) (row : List Part) (rows : List (List Part)) :
    (alternativesNode index row rows).fault? false = none := by
  induction rows generalizing index row with
  | nil => exact fault_anchoredNodes row
  | cons next rest ih =>
    simp [alternativesNode, Node.fault?, fault_anchoredNodes row, ih]

theorem body_compileAll (globs : List Text) : (compileAll (glob :: globs) separators caseFold).body =
    (Symbol.textOf (alternativesSymbols separators (pieces glob) (globs.map pieces))).replacePoint Pattern.delimiter
      ['\\', Pattern.delimiter] := by
  rw [textOf_alternativesSymbols]
  rfl

theorem fuel_compileAll (globs : List Text) : ∃ fuel,
    3 * (compileAll (glob :: globs) separators caseFold).body.length + 3 =
      fuel + 9 + (symbolsOf separators (pieces glob)).length + (tailSymbols separators (globs.map pieces)).length := by
  have hlength := length_le_textOf (alternativesSymbols separators (pieces glob) (globs.map pieces))
  rw [← body_compileAll separators glob caseFold globs, alternativesSymbols_eq] at hlength
  have htail : 2 ≤ (tailSymbols separators (globs.map pieces)).length := by
    cases globs <;> simp only [List.map_nil, List.map_cons, tailSymbols, glueMarks, List.length_append, List.length_cons,
      List.length_nil] <;> omega
  simp only [List.length_cons, List.length_append] at hlength
  exact ⟨3 * (compileAll (glob :: globs) separators caseFold).body.length + 3 - 9 -
    (symbolsOf separators (pieces glob)).length - (tailSymbols separators (globs.map pieces)).length, by omega⟩

theorem verbose_atStart (body : Text) : (Reading.atStart body (mode caseFold)).mode.verbose = false := by
  rw [Reading.atStart, mode_eq]

/-- The pattern of several globs reads as the alternatives of those that result from open brackets. -/
theorem engine_compileAll {globs : List Text} {row : List Part} {rows : List (List Part)}
    (h : HaveParts separators (joined separators (pieces glob) (globs.map pieces)) (row :: rows)) : ∃ groups,
    (compileAll (glob :: globs) separators caseFold).engine =
      .ok { node := alternativesNode 1 row rows, groups, mode := mode caseFold } := by
  obtain ⟨fuel, hfuel⟩ := fuel_compileAll separators glob caseFold globs
  obtain ⟨widths, q, hchoice⟩ := choice_joined separators
    (Reading.atStart (compileAll (glob :: globs) separators caseFold).body (mode caseFold)) 0 fuel true
    (verbose_atStart caseFold _) (readsAs_symbolsOf separators (pieces glob)) _ h
  rw [← hfuel, ← alternativesSymbols_eq] at hchoice
  exact ⟨widths.length, engine_eq rfl (parse_eq (body_compileAll separators glob caseFold globs) widths (q := q) hchoice
    (fault_alternativesNode 1 row rows))⟩

/-- The pattern of several globs is refused, if one of those that result from open brackets has no parts. -/
theorem engine_compileAll_none {globs : List Text}
    (h : ∃ ps ∈ joined separators (pieces glob) (globs.map pieces), parts separators none ps = none) : ∃ cause q,
    (compileAll (glob :: globs) separators caseFold).engine =
      (compileAll (glob :: globs) separators caseFold).impossible (.refused (.malformed cause q)) := by
  obtain ⟨fuel, hfuel⟩ := fuel_compileAll separators glob caseFold globs
  obtain ⟨cause, q, hchoice⟩ := choice_joined_fault separators
    (Reading.atStart (compileAll (glob :: globs) separators caseFold).body (mode caseFold)) 0 fuel true
    (verbose_atStart caseFold _) (readsAs_symbolsOf separators (pieces glob)) _ h
  rw [← hfuel, ← alternativesSymbols_eq] at hchoice
  exact ⟨cause, q, engine_error rfl (parse_error (body_compileAll separators glob caseFold globs) hchoice)⟩

/-- A pattern of alternatives finds the texts that fit one of them. -/
theorem search_alternativesNode (row : List Part) (rows : List (List Part)) (groups : Nat) (s : Text) :
    (Parsed.search? { node := alternativesNode 1 row rows, groups, mode := mode caseFold } s 0).isSome = true ↔
      ∃ found ∈ row :: rows, Fits caseFold found s := by
  have hm : (mode caseFold).multiline = false := by rw [mode_eq]
  refine isSome_search_of_start (P := fun t => ∃ found ∈ row :: rows, Fits caseFold found t) fun hs => ?_
  exact accepts_alternatives 1 row rows hm accepts_some hs

/-- Several globs match together what one of those matches that result from open brackets, if each of these has parts. -/
theorem matchesText_joined {globs : List Text}
    (h : ∀ ps ∈ joined separators (pieces glob) (globs.map pieces), (parts separators none ps).isSome = true) (s : Text) :
    ∃ found, (compileAll (glob :: globs) separators caseFold).matchesText s = .ok found ∧
      (found = true ↔ ∃ ps ∈ joined separators (pieces glob) (globs.map pieces), ∃ row,
        parts separators none ps = some row ∧ Fits caseFold row s) := by
  obtain ⟨rows, hrows⟩ := haveParts_of_forall separators h
  cases rows with
  | nil => exact absurd (List.forall₂_nil_right_iff.mp hrows) (joined_ne_nil separators _ _)
  | cons row rows =>
    obtain ⟨groups, hengine⟩ := engine_compileAll separators glob caseFold hrows
    refine ⟨_, Pattern.matchesText_eq (isUnicode_of_flags rfl) hengine s, ?_⟩
    rw [search_alternativesNode, exists_row_iff separators hrows]

/-- Several globs never give an answer, if one of those that result from open brackets has no parts. -/
theorem matchesText_joined_fault {globs : List Text}
    (h : ∃ ps ∈ joined separators (pieces glob) (globs.map pieces), parts separators none ps = none) :
    ∃ e : Pattern.Error, e.kind = .compilationFailed ∧
      ∀ s, (compileAll (glob :: globs) separators caseFold).matchesText s = .error (.pattern e) := by
  obtain ⟨cause, q, hengine⟩ := engine_compileAll_none separators glob caseFold h
  exact ⟨_, rfl, Pattern.matchesText_error (isUnicode_of_flags rfl) hengine⟩

/-- Globs that have parts match together what one of them matches, and never fail to give an answer. -/
theorem matchesText_compileAll {globs : List Text} (hne : globs ≠ [])
    (h : ∀ glob ∈ globs, (partsOf separators glob).isSome = true) (s : Text) : ∃ found,
    (compileAll globs separators caseFold).matchesText s = .ok found ∧
      (found = true ↔ ∃ glob ∈ globs, ∃ row, partsOf separators glob = some row ∧ Fits caseFold row s) := by
  cases globs with
  | nil => exact absurd rfl hne
  | cons glob globs =>
    have hparts : ∀ ps ∈ (glob :: globs).map pieces, (parts separators none ps).isSome = true := by
      simpa [partsOf] using h
    have hjoined : joined separators (pieces glob) (globs.map pieces) = (glob :: globs).map pieces :=
      joined_eq separators fun ps hp => by
        obtain ⟨row, hrow⟩ := Option.isSome_iff_exists.mp (hparts ps ((List.dropLast_sublist _).subset hp))
        exact leavesOpen_of_parts separators hrow
    obtain ⟨found, hf, hiff⟩ := matchesText_joined separators glob caseFold (by rwa [hjoined]) s
    refine ⟨found, hf, hiff.trans ?_⟩
    rw [hjoined]
    simp [partsOf]

/-! ### Globs given as values -/

/-- Globs that are given as texts compile to the pattern of those texts. -/
theorem compileAll_texts {separators : Text} {o : Options} (h : o.separators = .text separators) (globs : List Text) :
    o.compileAll (globs.map .text) = .ok (compileAll globs separators o.caseFold.truth) := by
  have hregexes : (globs.map Value.text).mapM o.regexOf = .ok (globs.map fun glob => toRegex glob separators) := by
    have hregex : o.regexOf ∘ Value.text = fun glob => .ok (toRegex glob separators) :=
      funext fun glob => regexOf_text glob h
    rw [List.mapM_map, hregex]
    exact List.mapM_pure
  simp only [Options.compileAll, hregexes, bind, Except.bind]
  rfl

/-! ### Independence -/

/-- Globs that are regular expressions each for itself match together what one of them matches alone. -/
theorem matchesText_compileAll_iff {globs : List Text} (hne : globs ≠ [])
    (hvalid : ∀ glob ∈ globs, (compile glob separators caseFold).isWellFormed = .ok true) (s : Text) : ∃ found,
    (compileAll globs separators caseFold).matchesText s = .ok found ∧
      (found = true ↔ ∃ glob ∈ globs, (compile glob separators caseFold).matchesText s = .ok true) := by
  have hparts : ∀ glob ∈ globs, (partsOf separators glob).isSome = true := fun glob hg => by
    have h := hvalid glob hg
    rw [isWellFormed_compile] at h
    exact Except.ok.inj h
  obtain ⟨found, hf, hiff⟩ := matchesText_compileAll separators caseFold hne hparts s
  refine ⟨found, hf, hiff.trans ?_⟩
  simp only [matchesText_compile_iff]

/-- A list of globs each of which is a regular expression always gives an answer: what any of its globs gives alone.
So neither order nor repetition matters, and lists that share a glob that matches agree, whatever else is in them. -/
theorem compileAll_iff_exists {globs : List Text} (hne : globs ≠ [])
    (hvalid : ∀ glob ∈ globs, (compile glob separators caseFold).isWellFormed = .ok true) :
    (∀ s, ∃ found, (compileAll globs separators caseFold).matchesText s = .ok found ∧
      (found = true ↔ ∃ glob ∈ globs, (compile glob separators caseFold).matchesText s = .ok true)) ∧
    (∀ others, (∀ glob, glob ∈ others ↔ glob ∈ globs) → ∀ s,
      (compileAll others separators caseFold).matchesText s = (compileAll globs separators caseFold).matchesText s) ∧
    (∀ others, (∀ glob ∈ others, (compile glob separators caseFold).isWellFormed = .ok true) → ∀ s,
      (∃ glob ∈ globs, glob ∈ others ∧ (compile glob separators caseFold).matchesText s = .ok true) →
      (compileAll others separators caseFold).matchesText s = (compileAll globs separators caseFold).matchesText s) := by
  refine ⟨matchesText_compileAll_iff separators caseFold hne hvalid, fun others hsame s => ?_,
    fun others hothers s hshared => ?_⟩
  · obtain ⟨glob, hg⟩ := List.exists_mem_of_ne_nil globs hne
    obtain ⟨found, hf, hiff⟩ := matchesText_compileAll_iff separators caseFold hne hvalid s
    obtain ⟨found', hf', hiff'⟩ := matchesText_compileAll_iff separators caseFold
      (List.ne_nil_of_mem ((hsame glob).mpr hg)) (fun g hg => hvalid g ((hsame g).mp hg)) s
    have hfound : found' = true ↔ found = true := by
      rw [hiff, hiff']
      simp only [hsame]
    rw [hf, hf', Bool.eq_iff_iff.mpr hfound]
  · obtain ⟨glob, hg, hg', hm⟩ := hshared
    obtain ⟨found, hf, hiff⟩ := matchesText_compileAll_iff separators caseFold hne hvalid s
    obtain ⟨found', hf', hiff'⟩ := matchesText_compileAll_iff separators caseFold (List.ne_nil_of_mem hg') hothers s
    rw [hf, hf', hiff.mpr ⟨glob, hg, hm⟩, hiff'.mpr ⟨glob, hg', hm⟩]

theorem compileAll_set_or_run :
    (compileAll [['[', 'a', 'b', ']'], ['*', 'c']] ['/'] true).matchesText ['B'] = .ok true := by
  have hvalid : ∀ glob ∈ ([['[', 'a', 'b', ']'], ['*', 'c']] : List Text),
      (compile glob ['/'] true).isWellFormed = .ok true := by
    simp only [isWellFormed_compile]
    decide
  obtain ⟨found, hf, hiff⟩ := (compileAll_iff_exists ['/'] true (by simp) hvalid).1 ['B']
  have hcovers : Covers (mode true) [.single (.oneOf false [.point 'a', .point 'b']) ['/']] ['B'] :=
    .cons (t := ['B']) (u := []) ⟨'B', rfl, by decide, by simp only [List.mem_singleton, forall_eq]; decide⟩ .nil
  have hset : (compile ['[', 'a', 'b', ']'] ['/'] true).matchesText ['B'] = .ok true :=
    (matchesText_compile_iff ['/'] _ true ['B']).mpr ⟨_, by decide, ['B'], hcovers, .inl rfl⟩
  rw [hf, hiff.mpr ⟨_, by simp, hset⟩]

end FileSieve.Glob
