import FileSieve.Pattern.Basic
import FileSieve.Proofs.Pattern.Substitution

/-!
# Templates

A template is scanned once from the left. The longest name that begins at a place gives way to its quoted value, and
the scan goes on behind the name in the template, so no part of a value is looked at; a code point where no name begins
is copied (`Scanned`). One text comes out of every template (`Scanned.eq_walk`), and it is the one that the names make
as a table of keys (`ofTemplate_scans`).
-/

namespace FileSieve.Pattern

/-- A text that stands for a value in templates. -/
def IsName (binds : List (Text × Text)) (name : Text) : Prop :=
  name ≠ [] ∧ ∃ value, (name, value) ∈ binds

/-- The text that a template becomes when it is scanned from the left. -/
inductive Scanned (binds : List (Text × Text)) : (template out : Text) → Prop where
  /-- Nothing is left. -/
  | nil : Scanned binds [] []
  /-- The longest name at a place gives way to its quoted value, and the scan goes on behind the name. -/
  | name {name value rest out : Text} : name ≠ [] → (name, value) ∈ binds →
      (∀ other, IsName binds other → other <+: name ++ rest → other.length ≤ name.length) →
      Scanned binds rest out → Scanned binds (name ++ rest) (value.quotedLiteral ++ out)
  /-- Where no name begins a code point is copied. -/
  | copy {c : CodePoint} {rest out : Text} : (∀ other, IsName binds other → ¬other <+: c :: rest) →
      Scanned binds rest out → Scanned binds (c :: rest) (c :: out)

/-! ### Names as keys -/

/-- The table of the names: what takes their place is quoted. -/
def keysOf (binds : List (Text × Text)) : Substitution :=
  (binds.filter fun bind => !bind.1.isEmpty).map fun (key, value) => (key, value.quotedLiteral)

variable {binds others : List (Text × Text)} {template out key new : Text}

theorem mem_keysOf_iff :
    (key, new) ∈ keysOf binds ↔ key ≠ [] ∧ ∃ value, (key, value) ∈ binds ∧ value.quotedLiteral = new := by
  simp only [keysOf, List.mem_map, List.mem_filter, Bool.not_eq_true', List.isEmpty_eq_false_iff, Prod.mk.injEq,
    Prod.exists]
  constructor
  · rintro ⟨key', value, ⟨hmem, hne⟩, rfl, hnew⟩
    exact ⟨hne, value, hmem, hnew⟩
  · rintro ⟨hne, value, hmem, hnew⟩
    exact ⟨key, value, ⟨hmem, hne⟩, rfl, hnew⟩

theorem exists_mem_keysOf_iff : (∃ new, (key, new) ∈ keysOf binds) ↔ IsName binds key := by
  simp only [mem_keysOf_iff, IsName]
  constructor
  · rintro ⟨new, hne, value, hmem, -⟩
    exact ⟨hne, value, hmem⟩
  · rintro ⟨hne, value, hmem⟩
    exact ⟨_, hne, value, hmem, rfl⟩

theorem proper_keysOf (binds : List (Text × Text)) : (keysOf binds).Proper :=
  fun _ hentry => (mem_keysOf_iff.mp hentry).1

/-! ### Scanning -/

/-- A walk with the names as keys scans the template. -/
theorem scanned_walk (binds : List (Text × Text)) (template : Text) :
    Scanned binds template ((keysOf binds).walk template 0) := by
  induction template using Substitution.walk_induction (proper_keysOf binds) with
  | nil => exact .nil
  | copy c rest hlongest ih =>
    rw [Substitution.walk_copy hlongest]
    refine .copy (fun other hother hbegins => ?_) ih
    obtain ⟨new, hnew⟩ := exists_mem_keysOf_iff.mpr hother
    exact Substitution.longest?_eq_none_iff.mp hlongest _ hnew hbegins
  | found name new rest hne hlongest ih =>
    have hentry := Substitution.isLongest_of_longest? hlongest
    obtain ⟨-, value, hbind, rfl⟩ := mem_keysOf_iff.mp hentry.mem
    rw [Substitution.walk_found hne hlongest]
    refine .name hne hbind (fun other hother hbegins => ?_) ih
    obtain ⟨new, hnew⟩ := exists_mem_keysOf_iff.mpr hother
    exact hentry.longest _ hnew hbegins

/-- Where every name has one value, nothing else comes out of a scan. -/
theorem Scanned.eq_walk (hbinds : (binds.map Prod.fst).Nodup) (h : Scanned binds template out) :
    (keysOf binds).walk template 0 = out := by
  induction h with
  | nil => rfl
  | @name name value rest out hne hbind hlongest _ ih =>
    have hkey : (name, value.quotedLiteral) ∈ keysOf binds := mem_keysOf_iff.mpr ⟨hne, value, hbind, rfl⟩
    have hbegins : name <+: name ++ rest := List.prefix_append name rest
    have hfound : (keysOf binds).longest? (name ++ rest) = some (name, value.quotedLiteral) := by
      cases hlongest' : (keysOf binds).longest? (name ++ rest) with
      | none => exact absurd hbegins (Substitution.longest?_eq_none_iff.mp hlongest' _ hkey)
      | some entry =>
        have hentry := Substitution.isLongest_of_longest? hlongest'
        obtain ⟨other, new⟩ := entry
        obtain ⟨hother, value', hbind', rfl⟩ := mem_keysOf_iff.mp hentry.mem
        have hle : other.length ≤ name.length := hlongest other ⟨hother, value', hbind'⟩ hentry.begins
        have hge : name.length ≤ other.length := hentry.longest _ hkey hbegins
        obtain rfl : other = name := (List.prefix_of_prefix_length_le hentry.begins hbegins hle).eq_of_length_le hge
        have hsame := List.inj_on_of_nodup_map hbinds hbind' hbind rfl
        rw [(Prod.mk.inj hsame).2]
    rw [Substitution.walk_found hne hfound, ih]
  | copy hnone _ ih =>
    rw [Substitution.walk_copy, ih]
    exact Substitution.longest?_eq_none_iff.mpr fun entry hentry => hnone _ (exists_mem_keysOf_iff.mp ⟨_, hentry⟩)

/-- A scan asks of the bindings only which there are. -/
theorem Scanned.of_mem_iff (hmem : ∀ bind, bind ∈ binds ↔ bind ∈ others) (h : Scanned binds template out) :
    Scanned others template out := by
  have hname (name : Text) : IsName others name → IsName binds name :=
    And.imp_right fun ⟨value, hbind⟩ => ⟨value, (hmem _).mpr hbind⟩
  induction h with
  | nil => exact .nil
  | name hne hbind hlongest _ ih =>
    exact .name hne ((hmem _).mp hbind) (fun other hother => hlongest other (hname other hother)) ih
  | copy hnone _ ih => exact .copy (fun other hother => hnone other (hname other hother)) ih

theorem regex_ofTemplate (template : Text) (flags : Flags) (binds : List (Text × Text)) :
    (ofTemplate template flags binds).regex = (keysOf binds).walk template 0 :=
  Substitution.apply_eq_walk (proper_keysOf binds) template

/-- Placeholders are bound in one pass from the left, in which the longest name wins and no value is looked at, so the
order of the bindings does not matter. -/
theorem ofTemplate_scans (template : Text) (flags : Flags) (binds : List (Text × Text))
    (hbinds : (binds.map Prod.fst).Nodup) :
    (∀ out, (ofTemplate template flags binds).regex = out ↔ Scanned binds template out) ∧
      ∀ others, others.Perm binds → ofTemplate template flags others = ofTemplate template flags binds := by
  refine ⟨fun out => ?_, fun others hperm => ?_⟩
  · rw [regex_ofTemplate]
    constructor
    · rintro rfl
      exact scanned_walk binds template
    · exact Scanned.eq_walk hbinds
  · have hscan : Scanned others template ((keysOf binds).walk template 0) :=
      (scanned_walk binds template).of_mem_iff fun _ => hperm.mem_iff.symm
    have hregex : (ofTemplate template flags others).regex = (ofTemplate template flags binds).regex := by
      rw [regex_ofTemplate, regex_ofTemplate, hscan.eq_walk ((hperm.map Prod.fst).nodup_iff.mpr hbinds)]
    exact congrArg (Pattern.mk · flags) hregex

/-- Names that begin with one another or overlap, values that hold names, and a name that is empty. -/
theorem ofTemplate_overlapping_names :
    (([("@a", "@b"), ("", "z"), ("@ab", "x.@a"), ("b@", "?"), ("@b", "@ab")] : List (Text × Text)).map Prod.fst).Nodup ∧
      Scanned [("@a", "@b"), ("", "z"), ("@ab", "x.@a"), ("b@", "?"), ("@b", "@ab")] "@abb@@a@b~"
        "x\\.@a\\?@b@ab~" ∧
      ofTemplate "@abb@@a@b~" .none [("b@", "?"), ("@b", "@ab"), ("@a", "@b"), ("@ab", "x.@a"), ("", "z")] =
        ofTemplate "@abb@@a@b~" .none [("@a", "@b"), ("", "z"), ("@ab", "x.@a"), ("b@", "?"), ("@b", "@ab")] :=
  have hbinds : (([("@a", "@b"), ("", "z"), ("@ab", "x.@a"), ("b@", "?"), ("@b", "@ab")] :
      List (Text × Text)).map Prod.fst).Nodup := by decide
  ⟨hbinds, ((ofTemplate_scans _ .none _ hbinds).1 _).mp (by decide +kernel),
    (ofTemplate_scans _ .none _ hbinds).2 _ (by decide)⟩

end FileSieve.Pattern
