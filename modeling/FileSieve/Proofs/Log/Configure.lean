import FileSieve.Config.Session
import FileSieve.Proofs.Log.Writing
import Mathlib.Tactic.Ring

/-!
# Setting up the log several times

Giving all registered loggers a level and a file opens the file once more for each of them: each time a channel gets a
further handler of the file for every logger that writes to it, and handlers that it has already are not looked at
(`Added`). The level and the file are the same after several times as after the first one, but what is logged then stands
in the file once for each handler (`configured_copies`): `n` times for a logger with a channel of its own, where nothing
has written to the file before.
-/

namespace FileSieve

/-- A step several times, up to the first time that it fails. -/
def times {σ φ : Type} (step : σ → σ × Option φ) : Nat → σ → σ × Option φ
  | 0, s => (s, none)
  | n + 1, s =>
    match step s with
    | (s, none) => times step n s
    | (s, some e) => (s, some e)

namespace Log.Board

variable {b c d : Board} {level file : Value} {least : Int} {path : Path} {number : Nat} {storage : Storage}
  {handler : Handler} {name : Text} {count count' : Text → Nat}

/-! ### One time -/

/-- The file of a path as all loggers are given it. -/
def logFile (path : Path) (number : Nat) : LogFile where
  parts := match path with
    | .inside parts => parts
    | .elsewhere _ => []
  number := number
  limit := defaultLimit
  backups := defaultBackups

/-- A board with so many further handlers of each channel, which has a new level if there are any. -/
structure Added (least : Int) (handler : Handler) (storage : Storage) (count : Text → Nat) (b c : Board) : Prop where
  /-- The channels have the level and the handlers. -/
  channel : ∀ name, c.channel name =
    { level := if count name = 0 then (b.channel name).level else least
      handlers := (b.channel name).handlers ++ List.replicate (count name) handler }
  /-- The files are as they are after opening, if there are further handlers, -/
  opened : ∀ name, 0 < count name → c.storage = storage
  /-- and as they were, if there are none. -/
  unopened : (∀ name, count name = 0) → c.storage = b.storage
  /-- Nothing else is different. -/
  rest : { c with storage := b.storage, channels := b.channels } = b

theorem Added.refl (b : Board) : Added least handler storage (fun _ => 0) b b where
  channel _ := by simp
  opened _ h := absurd h (Nat.lt_irrefl 0)
  unopened _ := rfl
  rest := rfl

theorem Added.trans (h : Added least handler storage count b c) (h' : Added least handler storage count' c d) :
    Added least handler storage (fun name => count name + count' name) b d where
  channel name := by
    rw [h'.channel, h.channel, List.append_assoc, List.replicate_append_replicate]
    by_cases hnone : count' name = 0
    · rw [if_pos hnone, hnone, Nat.add_zero]
    · rw [if_neg hnone, if_neg (show count name + count' name ≠ 0 by omega)]
  opened name hname := by
    by_cases hmore : ∃ name, 0 < count' name
    · obtain ⟨other, hother⟩ := hmore
      exact h'.opened other hother
    · have hnone : ∀ name, count' name = 0 := by simpa using hmore
      rw [h'.unopened hnone]
      exact h.opened name (by simpa [hnone name] using hname)
  unopened hnone := by
    rw [h'.unopened fun name => (Nat.add_eq_zero_iff.mp (hnone name)).2]
    exact h.unopened fun name => (Nat.add_eq_zero_iff.mp (hnone name)).1
  rest := (congrArg (fun x : Board => { x with storage := b.storage, channels := b.channels }) h'.rest).trans h.rest

theorem Added.loggers (h : Added least handler storage count b c) : c.loggers = b.loggers := by
  have hrest := congrArg Board.loggers h.rest
  exact hrest

theorem Added.registry (h : Added least handler storage count b c) : c.registry = b.registry := by
  have hrest := congrArg Board.registry h.rest
  exact hrest

theorem Added.channelOf (h : Added least handler storage count b c) (logger : Nat) :
    c.channelOf logger = b.channelOf logger := by
  rw [Board.channelOf, nameOf, h.loggers]
  rfl

/-- The file can be opened again. -/
theorem Added.opens (h : Added least handler storage count b c)
    (hopen : b.storage.openToAppend path = .ok (number, storage)) :
    c.storage.openToAppend path = .ok (number, storage) := by
  by_cases hmore : ∃ name, 0 < count name
  · obtain ⟨name, hname⟩ := hmore
    rw [h.opened name hname]
    exact Storage.openToAppend_again hopen
  · rw [h.unopened (by simpa using hmore)]
    exact hopen

/-- One logger is given the level and the file. -/
theorem added_addFile (least : Int) (hpath : pathOf file = .ok path)
    (hopen : b.storage.openToAppend path = .ok (number, storage)) (name : Text) : ∃ c,
    (b.onChannel name fun c => { c with level := least }).addFile name file defaultLimit defaultBackups = .ok c ∧
      Added least (.file (logFile path number)) storage (fun other => if name = other then 1 else 0) b c := by
  have hopen' : (b.onChannel name fun c => { c with level := least }).storage.openToAppend path = .ok (number, storage) :=
    hopen
  have hlevel (other : Text) : ({ b.onChannel name fun c => { c with level := least } with storage }).channel other =
      if other = name then { b.channel name with level := least } else b.channel other :=
    channel_onChannel b name (fun c => { c with level := least }) other
  refine ⟨({ b.onChannel name fun c => { c with level := least } with storage }).onChannel name fun c =>
    { c with handlers := c.handlers ++ [Handler.file (logFile path number)] }, ?_, ?_, fun _ _ => rfl, ?_, rfl⟩
  · rw [addFile, hpath]
    simp only [Except.mapError, hopen', bind, Except.bind]
    rfl
  · intro other
    rw [channel_onChannel, hlevel, hlevel]
    by_cases hother : other = name
    · simp [hother]
    · simp [hother, Ne.symm hother]
  · intro hnone
    exact absurd (hnone name) (by simp)

/-- Each of the loggers is given the level and the file. -/
theorem added_configureAll (hlevel : threshold level = .ok least) (hpath : pathOf file = .ok path) (loggers : List Nat)
    (hopen : b.storage.openToAppend path = .ok (number, storage)) : ∃ c, configureAll level file loggers b = (c, none) ∧
      Added least (.file (logFile path number)) storage (fun name => loggers.countP (b.channelOf · == name)) b c := by
  have hfile : file.isNone = false := by
    cases file with
    | none => cases hpath
    | _ => rfl
  induction loggers generalizing b with
  | nil => exact ⟨b, rfl, .refl b⟩
  | cons logger loggers ih =>
    obtain ⟨c, hadd, hfirst⟩ := added_addFile least hpath hopen (b.channelOf logger)
    obtain ⟨d, hall, hrest⟩ := ih (hfirst.opens hopen)
    refine ⟨d, ?_, ?_⟩
    · simp only [configureAll, withLevel, hlevel, hfile, bind, Except.bind, pure, Except.pure, hadd, hall,
        Bool.false_eq_true, if_false]
    · have hcount (name : Text) : (logger :: loggers).countP (b.channelOf · == name) =
          (if b.channelOf logger = name then 1 else 0) + loggers.countP (c.channelOf · == name) := by
        simp only [List.countP_cons, beq_iff_eq, hfirst.channelOf, Nat.add_comm]
      simp only [hcount]
      exact hfirst.trans hrest

/-- How many registered loggers write to a channel. -/
def writers (b : Board) (name : Text) : Nat :=
  (b.registry.map Prod.snd).countP (b.channelOf · == name)

/-! ### Several times -/

/-- Several times add so many times the handlers. -/
theorem added_times (hlevel : threshold level = .ok least) (hpath : pathOf file = .ok path) (n : Nat)
    (hopen : b.storage.openToAppend path = .ok (number, storage)) :
    ∃ c, times (·.configure level file) n b = (c, none) ∧
      Added least (.file (logFile path number)) storage (fun name => n * b.writers name) b c := by
  induction n generalizing b with
  | zero => exact ⟨b, rfl, by simpa using Added.refl b⟩
  | succ n ih =>
    obtain ⟨c, hconfigure, hfirst⟩ := added_configureAll hlevel hpath (b.registry.map Prod.snd) hopen
    obtain ⟨d, htimes, hrest⟩ := ih (hfirst.opens hopen)
    refine ⟨d, ?_, ?_⟩
    · rw [times, configure, hconfigure]
      exact htimes
    · have hcount (name : Text) : (n + 1) * b.writers name = b.writers name + n * c.writers name := by
        simp only [writers, hfirst.registry, hfirst.channelOf]
        ring
      simp only [hcount]
      exact hfirst.trans hrest

/-- A manager that gives the loggers its level and its file several times does what several times do. -/
theorem times_setUpLogging {s : Config.Session} {manager n : Nat} (hlogging : (s.manager manager).logging = .ok (level, file))
    (h : times (·.configure level file) n s.board = (c, none)) :
    times (·.setUpLogging manager) n s = ({ s with board := c }, none) := by
  induction n generalizing s with
  | zero =>
    obtain rfl : s.board = c := congrArg Prod.fst h
    rfl
  | succ n ih =>
    rw [times] at h
    cases hconfigure : s.board.configure level file with
    | mk b fault =>
      rw [hconfigure] at h
      cases fault with
      | some fault => cases congrArg Prod.snd h
      | none =>
        have hsetUp : s.setUpLogging manager = ({ s with board := b }, none) := by
          simp only [Config.Session.setUpLogging, hlogging, hconfigure, Option.map_none]
        rw [times, hsetUp]
        exact ih (s := { s with board := b }) hlogging h

/-! ### What is logged afterwards -/

theorem Level.number_ne_zero (level : Level) : level.number ≠ 0 := by
  cases level <;> decide

/-- A channel with a level takes the messages from this level on. -/
theorem isEnabled_of_level {least level : Level} (h : (b.channel name).level = least.number)
    (hle : least.number ≤ level.number) : b.isEnabled name level.number = true := by
  have hfirst (around : List Text) : b.firstLevel (name :: around) = least.number := by
    rw [firstLevel, h, if_pos (Level.number_ne_zero least)]
  rw [isEnabled]
  split_ifs
  · rw [hfirst]
    exact decide_eq_true hle
  · rw [hfirst]
    exact decide_eq_true hle

theorem writers_pos {logger : Nat} (h : logger ∈ b.registry.map Prod.snd) : 0 < b.writers (b.channelOf logger) :=
  List.countP_pos_iff.mpr ⟨logger, h, beq_self_eq_true _⟩

theorem Added.copies (h : Added least (.file (logFile path number)) storage count b c) (name : Text) :
    c.copies name number = b.copies name number + count name := by
  rw [Board.copies, h.channel, List.countP_append, List.countP_replicate, Board.copies]
  simp [Handler.writesTo, logFile]

/-- After the loggers have been given a level and a file several times, each registered logger has the level, and its
channel has the file once more for each time and each logger that writes to it. So a message of the level or a graver one
is written to the file by all these handlers, and by those that wrote to it before. This is once exactly if it was one
time, the logger has its channel for itself, and nothing wrote to the file before. -/
theorem configured_copies {least : Level} (hsound : b.storage.Sound) (hlevel : threshold level = .ok least.number)
    (hpath : pathOf file = .ok path) (hopen : b.storage.openToAppend path = .ok (number, storage)) {n : Nat} (hn : 0 < n) :
    ∃ c, times (·.configure level file) n b = (c, none) ∧
      (∀ (s : Config.Session) (manager : Nat), s.board = b → (s.manager manager).logging = .ok (level, file) →
        times (·.setUpLogging manager) n s = ({ s with board := c }, none)) ∧
      Added least.number (.file (logFile path number)) storage (fun name => n * b.writers name) b c ∧
      ∀ logger ∈ b.registry.map Prod.snd, ∃ copies,
        copies = b.copies (b.channelOf logger) number + n * b.writers (b.channelOf logger) ∧
        (copies = 1 ↔ n = 1 ∧ b.writers (b.channelOf logger) = 1 ∧ b.copies (b.channelOf logger) number = 0) ∧
        (c.channel (b.channelOf logger)).level = least.number ∧
        ∀ d, Logged c d → ∀ level message pairs incident context line, least.number ≤ level.number →
          (Pairs.update (Pairs.merged d.contexts) pairs).context = .ok context →
          incident.mapM Incident.line = .ok line →
          d.HasRoomFor (b.channelOf logger) level message pairs incident →
          ∃ before e, d.storage.read path = .ok before ∧
            d.log (b.channelOf logger) level message pairs incident = .ok e ∧
            e.storage.read path = .ok (before ++ (List.replicate copies
              (octetsOf (d.fileLine (b.channelOf logger) level (withContext message context) line))).flatten) := by
  obtain ⟨c, htimes, hadded⟩ := added_times (b := b) hlevel hpath n hopen
  refine ⟨c, htimes, ?_, hadded, fun logger hlogger => ⟨_, rfl, ?_, ?_, ?_⟩⟩
  · rintro s manager rfl hlogging
    exact times_setUpLogging hlogging htimes
  · have hwriters := writers_pos hlogger
    constructor
    · intro hone
      have hproduct : n * b.writers (b.channelOf logger) = 1 := by
        have hpos : 0 < n * b.writers (b.channelOf logger) := Nat.mul_pos hn hwriters
        omega
      exact ⟨Nat.eq_one_of_mul_eq_one_right hproduct, Nat.eq_one_of_mul_eq_one_left hproduct, by omega⟩
    · rintro ⟨hn, hwriters, hcopies⟩
      rw [hn, hwriters, hcopies]
  · rw [hadded.channel]
    exact if_neg (Nat.mul_pos hn (writers_pos hlogger)).ne'
  · intro d hlogged lvl message pairs incident context line hle hcontext hline hroom
    have hsame := hlogged.sameLoggers
    have hadds : 0 < n * b.writers (b.channelOf logger) := Nat.mul_pos hn (writers_pos hlogger)
    have hchannel : (d.channel (b.channelOf logger)).level = least.number := by
      rw [hsame.channel, hadded.channel]
      exact if_neg hadds.ne'
    have hstorage : c.storage = storage := hadded.opened _ hadds
    have hplace : d.storage.place? path = some (.file number) := by
      rw [hsame.files.place?_eq, hstorage]
      exact Storage.place?_of_openToAppend hopen
    have hnumber : number < d.storage.contents.length := by
      rw [hsame.files.length, hstorage]
      exact Storage.lt_of_openToAppend hsound hopen
    have hcopies : d.copies (b.channelOf logger) number =
        b.copies (b.channelOf logger) number + n * b.writers (b.channelOf logger) := by
      rw [← hadded.copies, Board.copies, hsame.channel, Board.copies]
    rw [← hcopies]
    exact read_after_log (isEnabled_of_level hchannel hle) hcontext hline hroom hplace hnumber

/-- The loggers that a program starts with, before it has files. -/
def atStart : Board :=
  Config.startBoard { root := "/work" } "2024-05-01 12:00:00"

/-- A message of one of them in a file. -/
def greeting : Text :=
  "2024-05-01 12:00:00 - filefilter.rules - INFO - hello\n"

theorem sound_atStart : atStart.storage.Sound := by
  intro path number h
  cases path with
  | elsewhere shown => cases h
  | inside parts => cases parts <;> cases h

/-- After three times a message stands in the file three times. -/
theorem configured_copies_start :
    ∃ c, times (·.configure (.text "info") (.text "a.log")) 3 atStart = (c, none) ∧ ∃ d,
      c.log Log.rulesLogger .info "hello" [] none = .ok d ∧
      d.storage.read (.inside ["a.log"]) = .ok (List.replicate 3 (octetsOf greeting)).flatten := by
  have hlevel : threshold (.text "info") = .ok Level.info.number := by decide +kernel
  have hpath : pathOf (.text "a.log") = .ok (.inside ["a.log"]) := by decide +kernel
  obtain ⟨c, htimes, -, -, hloggers⟩ := configured_copies sound_atStart hlevel hpath rfl (Nat.zero_lt_succ 2)
  obtain rfl : (times (·.configure (.text "info") (.text "a.log")) 3 atStart).1 = c := congrArg Prod.fst htimes
  obtain ⟨copies, hcopies, -, -, hmessages⟩ := hloggers 1 (by decide +kernel)
  obtain ⟨before, d, hbefore, hlog, hread⟩ := hmessages _ .nothing .info "hello" [] none [] none le_rfl rfl rfl (by
    intro context line hcontext hline
    obtain rfl := Except.ok.inj hcontext
    obtain rfl := Except.ok.inj hline
    decide +kernel)
  have hempty : before = [] := by
    have hread :
        ((times (·.configure (.text "info") (.text "a.log")) 3 atStart).1.storage.read (.inside ["a.log"])).toOption =
          some [] := by
      decide +kernel
    rw [hbefore] at hread
    exact Option.some.inj hread
  have hthree : copies = 3 := hcopies.trans (by decide +kernel)
  have hname : atStart.channelOf 1 = Log.rulesLogger := by decide +kernel
  have hline : (times (·.configure (.text "info") (.text "a.log")) 3 atStart).1.fileLine Log.rulesLogger .info
      (withContext "hello" []) none = greeting := by
    decide +kernel
  rw [hname] at hlog hread
  rw [hempty, hthree, hline, List.nil_append] at hread
  exact ⟨_, htimes, d, hlog, hread⟩

/-- The loggers that a program starts with and one that it asks for by a new name. -/
def withOwn : Board :=
  ((atStart.registered "app").toOption.map Prod.snd).getD atStart

/-- A message of the new one in a file. -/
def ownGreeting : Text :=
  "2024-05-01 12:00:00 - app - INFO - hello\n"

/-- What stands in the file after the message, if it can be logged. -/
def readAfter (b : Board) : Option Octets := do
  let c ← (b.log "app" .info "hello" [] none).toOption
  (c.storage.read (.inside ["a.log"])).toOption

/-- The message stands in the file twice after two times, where it stands once after one time. -/
theorem logged_twice :
    readAfter (times (·.configure (.text "INFO") (.text "a.log")) 1 withOwn).1 = some (Utf8.encode ownGreeting) ∧
      readAfter (times (·.configure (.text "INFO") (.text "a.log")) 2 withOwn).1 =
        some (Utf8.encode (ownGreeting ++ ownGreeting)) := by
  decide +kernel

end Log.Board

end FileSieve
