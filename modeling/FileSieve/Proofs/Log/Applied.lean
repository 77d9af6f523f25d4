import FileSieve.Proofs.Config.Logging
import FileSieve.Proofs.Config.Manager
import FileSieve.Proofs.Log.Configure

/-!
# Setting up the log from a manager

A manager gives the loggers the level and the file of its section of the log. That section is valid, so its level is one
that loggers take: each of them gets it, or the file cannot be opened (`applied_of_reached`). But nobody looks at the
file of a section before the first logger is given it. Then it is found out whether it can be the name of a file at all
(`Path.Nameable`), by a failure that says nothing of the configuration.
-/

namespace FileSieve

variable {t : Text} {path : Path}

/-! ### Names of files -/

theorem Utf8.nameFaultFrom?_eq_none_iff {place : Nat} :
    nameFaultFrom? place t = none ↔ ∀ c ∈ t, c.isSurrogate = true → isStandIn c = true := by
  induction t generalizing place with
  | nil => simp [nameFaultFrom?]
  | cons c rest ih =>
    rw [nameFaultFrom?, List.forall_mem_cons]
    split_ifs with hc
    · simp_all
    · rw [ih, iff_and_self]
      intro _
      simpa using hc

/-- What holds of all code points of texts, and of those between them, holds of all when the texts are joined. -/
theorem Text.forall_mem_join {p : CodePoint → Prop} {sep : Text} (hsep : ∀ c ∈ sep, p c) (parts : List Text) :
    (∀ c ∈ Text.join sep parts, p c) ↔ ∀ part ∈ parts, ∀ c ∈ part, p c := by
  induction parts with
  | nil => simp [Text.join]
  | cons part rest ih =>
    cases rest with
    | nil => simp [Text.join]
    | cons next rest =>
      have hjoin : Text.join sep (part :: next :: rest) = part ++ sep ++ Text.join sep (next :: rest) := rfl
      rw [hjoin, List.forall_mem_append, List.forall_mem_append, ih, and_iff_left hsep,
        List.forall_mem_cons (l := next :: rest)]

namespace Path

/-- A code point that may stand in the name of a file: not NUL, and a surrogate only in the place of an octet that
encodes nothing. -/
def MayName (c : CodePoint) : Prop :=
  c.val ≠ 0 ∧ (c.isSurrogate = true → Utf8.isStandIn c = true)

/-- A text that can be the path of a file: what is left of it when its points are resolved may stand in names. -/
def Nameable (t : Text) : Prop :=
  ∀ part ∈ (resolve [] (parts t)).2, ∀ c ∈ part, MayName c

theorem nameable_iff : Nameable t ↔ ∀ c ∈ Text.join "/" (resolve [] (parts t)).2, MayName c := by
  have hslash : ∀ c ∈ ("/" : Text), MayName c := by
    intro c hc
    obtain rfl := List.mem_singleton.mp hc
    exact ⟨by decide, by decide⟩
  exact (Text.forall_mem_join hslash _).symm

theorem named_eq_ok_iff : named t = .ok path ↔ Nameable t ∧ path = ofText t := by
  rw [nameable_iff, named]
  generalize Text.join "/" (resolve [] (parts t)).2 = name
  have hmayName : (∀ c ∈ name, MayName c) ↔ Utf8.nameFault? name = none ∧ name.any (fun c => c.val = 0) = false := by
    rw [Utf8.nameFault?, Utf8.nameFaultFrom?_eq_none_iff, List.any_eq_false]
    simp only [MayName, forall_and, decide_eq_true_eq, ne_eq]
    exact and_comm
  rw [hmayName]
  cases Utf8.nameFault? name with
  | some fault => simp
  | none =>
    cases name.any fun c => c.val = 0 with
    | true => simp
    | false => simp [eq_comm]

end Path

namespace Log.Board

open Config

variable {b c : Board} {level file : Value} {least : Int} {name : Text} {loggers : List Nat} {first : Nat}

/-- The text of a value that can be a path. -/
inductive Names : Value → Text → Prop
  /-- A text is its own. -/
  | text (t : Text) : Names (.text t) t
  /-- Octets stand for a text. -/
  | octets (o : Octets) : Names (.octets o) (Utf8.ofName o)

theorem pathOf_eq_ok_iff : pathOf file = .ok path ↔ ∃ t, Names file t ∧ Path.Nameable t ∧ path = .ofText t := by
  constructor
  · intro h
    cases file with
    | text t => exact ⟨t, .text t, Path.named_eq_ok_iff.mp h⟩
    | octets o => exact ⟨_, .octets o, Path.named_eq_ok_iff.mp h⟩
    | _ => cases h
  · rintro ⟨t, hnames, h⟩
    cases hnames with
    | text => exact Path.named_eq_ok_iff.mpr h
    | octets => exact Path.named_eq_ok_iff.mpr h

/-! ### Levels -/

/-- A board after loggers have been given a level, which may have been given further handlers too. -/
structure Levelled (least : Int) (loggers : List Nat) (b c : Board) : Prop where
  /-- The loggers have the level. -/
  levels : ∀ logger ∈ loggers, (c.channel (b.channelOf logger)).level = least
  /-- The channels of other loggers are as they were, -/
  others : ∀ name, (∀ logger ∈ loggers, b.channelOf logger ≠ name) → c.channel name = b.channel name
  /-- and there are the same loggers, -/
  loggers : c.loggers = b.loggers
  /-- registered alike. -/
  registry : c.registry = b.registry

theorem withLevel_of_threshold (h : threshold level = .ok least) (b : Board) (name : Text) :
    b.withLevel name level = .ok (b.onChannel name fun c => { c with level := least }) := by
  rw [withLevel, h]
  rfl

theorem Added.levelled {handler : Handler} {storage : Storage}
    (h : Added least handler storage (fun name => loggers.countP (b.channelOf · == name)) b c) :
    Levelled least loggers b c where
  levels logger hlogger := by
    have hpos : 0 < loggers.countP (b.channelOf · == b.channelOf logger) :=
      List.countP_pos_iff.mpr ⟨logger, hlogger, beq_self_eq_true _⟩
    rw [h.channel]
    exact if_neg hpos.ne'
  others name hothers := by
    have hnone : loggers.countP (b.channelOf · == name) = 0 :=
      List.countP_eq_zero.mpr fun logger hlogger => by simpa using hothers logger hlogger
    rw [h.channel, if_pos hnone, hnone, List.replicate_zero, List.append_nil]
  loggers := h.loggers
  registry := h.registry

/-- Without a file each of the loggers is given the level. -/
theorem levelled_configureAll (h : threshold level = .ok least) (loggers : List Nat) (b : Board) :
    ∃ c, configureAll level .none loggers b = (c, none) ∧ Levelled least loggers b c := by
  induction loggers generalizing b with
  | nil => exact ⟨b, rfl, fun _ hlogger => absurd hlogger List.not_mem_nil, fun _ _ => rfl, rfl, rfl⟩
  | cons logger loggers ih =>
    obtain ⟨c, hall, hrest⟩ := ih (b.onChannel (b.channelOf logger) fun c => { c with level := least })
    refine ⟨c, ?_, ?_, ?_, hrest.loggers, hrest.registry⟩
    · rw [configureAll, withLevel_of_threshold h]
      exact hall
    · intro other hother
      -- a later logger of the same channel gives it the level once more
      by_cases hlater : ∃ later ∈ loggers, b.channelOf later = b.channelOf other
      · obtain ⟨later, hmem, hlater⟩ := hlater
        exact hlater ▸ hrest.levels later hmem
      · have hlater : ∀ later ∈ loggers, b.channelOf later ≠ b.channelOf other := by simpa using hlater
        have hfirst : other = logger := (List.mem_cons.mp hother).resolve_right fun hmem => hlater other hmem rfl
        rw [hrest.others _ hlater, channel_onChannel, if_pos (congrArg b.channelOf hfirst)]
    · intro name hname
      obtain ⟨hfirst, hlater⟩ := List.forall_mem_cons.mp hname
      rw [hrest.others name hlater, channel_onChannel, if_neg (Ne.symm hfirst)]

theorem addFile_of_unnamed {m : Misuse} (h : pathOf file = .error m) {limit backups : Int} :
    b.addFile name file limit backups = .error (.misuse m) := by
  rw [addFile, h]
  rfl

theorem addFile_of_unopened {fault : Storage.Fault} (hpath : pathOf file = .ok path)
    (hopen : b.storage.openToAppend path = .error fault) {limit backups : Int} :
    b.addFile name file limit backups = .error (.storage fault) := by
  rw [addFile, hpath]
  simp only [Except.mapError, hopen, bind, Except.bind]

/-- The first logger is given the level, and then it is as far as the file lets it come. -/
theorem configureAll_of_not_added {fault : Fault} (h : threshold level = .ok least) (hfile : file ≠ .none)
    (hadd : ∀ c : Board, c.storage = b.storage →
      c.addFile (b.channelOf first) file defaultLimit defaultBackups = .error fault) (rest : List Nat) :
    configureAll level file (first :: rest) b =
      (b.onChannel (b.channelOf first) fun c => { c with level := least }, some fault) := by
  have hisNone : file.isNone = false := by
    cases file with
    | none => exact absurd rfl hfile
    | _ => rfl
  have hlevelled := hadd (b.onChannel (b.channelOf first) fun c => { c with level := least }) rfl
  rw [configureAll, withLevel_of_threshold h]
  simp only [hisNone, hlevelled, Bool.false_eq_true, if_false]

/-! ### What setting up comes to -/

/-- What it comes to when the registered loggers are given a level and a file: how the board is afterwards, and what
went wrong. -/
inductive Applied (level : Level) (file : Value) (b : Board) : Board → Option Config.Failure → Prop
  /-- All registered loggers have the level, and the file is open, if there are any of both. -/
  | all {c : Board} : Levelled level.number (b.registry.map Prod.snd) b c →
    (b.registry ≠ [] → file ≠ .none → ∃ path number storage, pathOf file = .ok path ∧
      b.storage.openToAppend path = .ok (number, storage) ∧ c.storage = storage) →
    Applied level file b c none
  /-- The file cannot be opened. Only the first logger has been given the level. -/
  | unopened {first : Nat} {rest : List Nat} {path : Path} {fault : Storage.Fault} :
    b.registry.map Prod.snd = first :: rest → pathOf file = .ok path → b.storage.openToAppend path = .error fault →
    Applied level file b (b.onChannel (b.channelOf first) fun c => { c with level := level.number })
      (some (.logging fault))
  /-- The file is no value that can be the name of one. Only the first logger has been given the level. -/
  | unnamed {first : Nat} {rest : List Nat} {m : Misuse} :
    b.registry.map Prod.snd = first :: rest → file ≠ .none → pathOf file = .error m →
    Applied level file b (b.onChannel (b.channelOf first) fun c => { c with level := level.number })
      (some (.misuse m))

/-- What is said of a fault of the loggers. -/
def failureOf : Fault → Config.Failure
  | .misuse m => .misuse m
  | .storage f => .logging f

/-- The registered loggers are given a level that they take. -/
theorem applied_configure {lvl : Level} (h : threshold level = .ok lvl.number) (file : Value) (b : Board) :
    Applied lvl file b (b.configure level file).1 ((b.configure level file).2.map failureOf) := by
  rw [configure]
  cases hloggers : b.registry.map Prod.snd with
  | nil =>
    refine .all ?_ fun hne => absurd (List.map_eq_nil_iff.mp hloggers) hne
    rw [hloggers]
    exact ⟨fun _ hlogger => absurd hlogger List.not_mem_nil, fun _ _ => rfl, rfl, rfl⟩
  | cons first rest =>
    by_cases hfile : file = .none
    · obtain ⟨c, hall, hlevelled⟩ := levelled_configureAll h (first :: rest) b
      rw [hfile, hall]
      exact .all (hloggers ▸ hlevelled) fun _ hne => absurd rfl hne
    · cases hpath : pathOf file with
      | error m =>
        rw [configureAll_of_not_added h hfile fun _ _ => addFile_of_unnamed hpath]
        exact .unnamed hloggers hfile hpath
      | ok path =>
        cases hopen : b.storage.openToAppend path with
        | error fault =>
          rw [configureAll_of_not_added h hfile fun c hc => addFile_of_unopened hpath (hc ▸ hopen)]
          exact .unopened hloggers hpath hopen
        | ok opened =>
          obtain ⟨number, storage⟩ := opened
          obtain ⟨c, hall, hadded⟩ := added_configureAll h hpath (first :: rest) hopen
          have hfirst : 0 < (first :: rest).countP (b.channelOf · == b.channelOf first) :=
            List.countP_pos_iff.mpr ⟨first, List.mem_cons_self, beq_self_eq_true _⟩
          rw [hall]
          exact .all (hloggers ▸ hadded.levelled) fun _ _ =>
            ⟨path, number, storage, hpath, hopen, hadded.opened _ hfirst⟩

theorem Applied.levelled {lvl : Level} (h : Applied lvl file b c none) :
    Levelled lvl.number (b.registry.map Prod.snd) b c := by
  cases h with
  | all hlevelled _ => exact hlevelled

theorem Applied.misuse_iff {lvl : Level} {failure : Option Config.Failure} (h : Applied lvl file b c failure) :
    (∃ m, failure = some (.misuse m)) ↔ b.registry ≠ [] ∧ file ≠ .none ∧ ¬∃ t, Names file t ∧ Path.Nameable t := by
  have hnames {path : Path} (hpath : pathOf file = .ok path) : ∃ t, Names file t ∧ Path.Nameable t := by
    obtain ⟨t, hnames, hnameable, -⟩ := pathOf_eq_ok_iff.mp hpath
    exact ⟨t, hnames, hnameable⟩
  constructor
  · rintro ⟨m, rfl⟩
    cases h with
    | unnamed hloggers hfile hpath =>
      refine ⟨?_, hfile, ?_⟩
      · intro hnil
        simp [hnil] at hloggers
      · rintro ⟨t, hnames, hnameable⟩
        rw [pathOf_eq_ok_iff.mpr ⟨t, hnames, hnameable, rfl⟩] at hpath
        cases hpath
  · rintro ⟨hloggers, hfile, hnot⟩
    cases h with
    | all _ hopened =>
      obtain ⟨path, -, -, hpath, -, -⟩ := hopened hloggers hfile
      exact absurd (hnames hpath) hnot
    | unopened _ hpath _ => exact absurd (hnames hpath) hnot
    | unnamed _ _ _ => exact ⟨_, rfl⟩

theorem setUpLogging_of_logging {s : Session} {number : Nat} (h : (s.manager number).logging = .ok (level, file)) :
    s.setUpLogging number =
      ({ s with board := (s.board.configure level file).1 }, (s.board.configure level file).2.map failureOf) := by
  rw [Session.setUpLogging, h]
  rfl

/-- However a manager has been made and called, its section of the log chooses a level. When the manager sets up the
log, all registered loggers get this level, or the file of the section cannot be opened; or the file is given and can be
the name of none, where there is a logger to be given it. -/
theorem applied_of_reached {s : Session} {number : Nat} (h : Layers.Reached (s.manager number)) :
    ∃ entries lvl, (s.manager number).loggingConfig = .dict entries ∧ Level.Chosen (field entries Key.level) lvl ∧
      Applied lvl (field entries Key.file) s.board (s.setUpLogging number).1.board (s.setUpLogging number).2 ∧
      ((∃ m, (s.setUpLogging number).2 = some (.misuse m)) ↔ s.board.registry ≠ [] ∧ field entries Key.file ≠ .none ∧
        ¬∃ t, Names (field entries Key.file) t ∧ Path.Nameable t) := by
  have hvalid := (Layers.valid_of_reached h).loggingConfig
  obtain ⟨entries, hentries⟩ := Value.exists_dict (kind_of_checkLogging hvalid)
  rw [hentries] at hvalid
  obtain ⟨lvl, hchosen⟩ := checkLogging_ok_iff.mp hvalid
  have hlogging : (s.manager number).logging = .ok
      (if (field entries Key.level).truth then field entries Key.level else .text Level.info.name,
        field entries Key.file) := by
    rw [Layers.logging, hentries]
  have happlied := applied_configure (threshold_of_chosen hchosen) (field entries Key.file) s.board
  rw [setUpLogging_of_logging hlogging]
  exact ⟨entries, lvl, hentries, hchosen, happlied, happlied.misuse_iff⟩

/-- A manager without a file and an environment that has been given a file of the log. -/
def filed (file : Value) : Session where
  loader := Document.read
  board := atStart
  managers := [((Layers.Call.loadDict (.dict (rooted [(.text Key.logging, .dict [(.text Key.file, file)])])) .runtime
    []).apply {}).1]

theorem reached_filed {file : Value} (h : file.Proper) : Layers.Reached ((filed file).manager 0) :=
  Layers.reached_start.called (by simp [Layers.Call.Proper, rooted, Entries.Proper, Value.Proper, Entries.get?_nil, h])

/-- A name as the file: it is opened, and the loggers of a program get the usual level. -/
theorem applied_of_reached_filed : Layers.Reached ((filed (.text "a.log")).manager 0) ∧
    ((filed (.text "a.log")).setUpLogging 0).2 = none ∧
    Levelled Level.info.number [0, 1] atStart ((filed (.text "a.log")).setUpLogging 0).1.board := by
  have hreached : Layers.Reached ((filed (.text "a.log")).manager 0) := reached_filed trivial
  have hconfig : ((filed (.text "a.log")).manager 0).loggingConfig =
      .dict [(.text Key.level, .text "INFO"), (.text Key.file, .text "a.log")] := by with_unfolding_all rfl
  have hnone : ((filed (.text "a.log")).setUpLogging 0).2 = none := by decide +kernel
  obtain ⟨entries, lvl, hentries, hchosen, happlied, -⟩ := applied_of_reached hreached
  obtain rfl := Value.dict.inj (hconfig.symm.trans hentries)
  have hlevel : field [(.text Key.level, .text "INFO"), (.text Key.file, .text "a.log")] Key.level = .text "INFO" := by
    with_unfolding_all rfl
  have husual : Level.Chosen (.text "INFO") .info := .named (by decide +kernel)
  rw [hlevel] at hchosen
  obtain rfl : lvl = .info := hchosen.unique husual
  rw [hnone] at happlied
  exact ⟨hreached, hnone, happlied.levelled⟩

/-- A number as the file is the name of none: the log cannot be set up, and no file is at fault. -/
theorem number_no_file : Layers.Reached ((filed (.int 5)).manager 0) ∧
    ((filed (.int 5)).setUpLogging 0).2 = some (.misuse (.notPath .int)) :=
  ⟨reached_filed trivial, by decide +kernel⟩

end Log.Board

end FileSieve
