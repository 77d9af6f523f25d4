import FileSieve.Log.Board
import FileSieve.Proofs.Result
import Mathlib.Data.List.Basic
import Mathlib.Tactic.SplitIfs

/-!
# What a message writes

Each handler of a channel writes a message for itself, so a message stands in a file as often as there are handlers of
its channel that write to it (`read_after_log`). The file is the one that is open: as long as none of the files gets full
by the message, every handler stays with its own, and so do the handlers of every message after it (`Logged`).
-/

namespace FileSieve

/-! ### Octets of files -/

namespace Storage

variable {s t : Storage} {path : Path} {parts : List Text} {number : Nat} {o : Octets}

/-- Names lead to files that are there. -/
def Sound (s : Storage) : Prop :=
  ∀ path number, s.place? path = some (.file number) → number < s.contents.length

/-- Files of which at most the octets differ: names lead to the same, and there are as many. -/
structure SameFiles (s t : Storage) : Prop where
  /-- Names lead to the same. -/
  places : t.places = s.places
  /-- There are as many files. -/
  length : t.contents.length = s.contents.length

theorem SameFiles.refl (s : Storage) : SameFiles s s := ⟨rfl, rfl⟩

theorem SameFiles.trans {u : Storage} (h : SameFiles s t) (h' : SameFiles t u) : SameFiles s u :=
  ⟨h'.places.trans h.places, h'.length.trans h.length⟩

theorem sameFiles_append (s : Storage) (number : Nat) (o : Octets) : SameFiles s (s.append number o) :=
  ⟨rfl, List.length_modify _ _ _⟩

theorem octets_append (h : number < s.contents.length) (other : Nat) :
    (s.append other o).octets number = if number = other then s.octets number ++ o else s.octets number := by
  have hget : s.contents[number]? = some s.contents[number] := List.getElem?_eq_getElem h
  simp only [octets, append, List.getD_eq_getElem?_getD, List.getElem?_modify, hget]
  by_cases hother : number = other
  · simp [hother]
  · simp [hother, Ne.symm hother]

theorem append_nil (s : Storage) (number : Nat) : s.append number [] = s := by
  obtain ⟨root, places, contents⟩ := s
  simp only [append, List.append_nil]
  congr 1
  exact List.modify_id number contents

/-! ### Opening files -/

/-- What is at the end of the way to a file is no obstacle. -/
theorem obstacle?_cons (shown : Text) {place : Place} (hplaces : t.places = (parts, place) :: s.places)
    {before rest : List Text} (h : before ++ rest = parts) :
    obstacle? t shown before rest = obstacle? s shown before rest := by
  induction rest generalizing before with
  | nil => rfl
  | cons part rest ih =>
    cases rest with
    | nil => rfl
    | cons next rest =>
      have hlookup : t.places.lookup (before ++ [part]) = s.places.lookup (before ++ [part]) := by
        have hne : (before ++ [part] == parts) = false := by
          rw [beq_eq_false_iff_ne, ← h]
          simp
        rw [hplaces, List.lookup_cons, hne]
      have hrest := @ih (before ++ [part]) (by rw [List.append_assoc, List.singleton_append, h])
      unfold obstacle?
      simp only [hlookup, hrest]

theorem openToAppend_of_place (hobstacle : obstacle? s (s.shown (.inside parts)) [] parts = none)
    (hplace : s.place? (.inside parts) = some (.file number)) : s.openToAppend (.inside parts) = .ok (number, s) := by
  simp only [openToAppend, hobstacle, hplace]

/-- A file that has been opened was there, or it is a new one. -/
theorem openToAppend_cases (h : s.openToAppend path = .ok (number, t)) :
    s.place? path = some (.file number) ∧ t = s ∨
      ∃ parts, path = .inside parts ∧ parts ≠ [] ∧ obstacle? s (s.shown path) [] parts = none ∧
        s.create parts [] = (number, t) := by
  cases path with
  | elsewhere shown => cases h
  | inside parts =>
    simp only [openToAppend] at h
    split at h
    · cases h
    · cases h
    · rename_i hobstacle hplace
      obtain ⟨rfl, rfl⟩ := Prod.mk.inj (Except.ok.inj h)
      exact .inl ⟨hplace, rfl⟩
    · rename_i hobstacle hplace
      have hne : parts ≠ [] := by
        rintro rfl
        cases hplace
      exact .inr ⟨parts, rfl, hne, hobstacle, Except.ok.inj h⟩

/-- A file that has been opened is found again. -/
theorem openToAppend_again (h : s.openToAppend path = .ok (number, t)) : t.openToAppend path = .ok (number, t) := by
  rcases openToAppend_cases h with ⟨-, rfl⟩ | ⟨parts, rfl, hne, hobstacle, hcreate⟩
  · exact h
  · obtain ⟨rfl, rfl⟩ := Prod.mk.inj hcreate
    obtain ⟨part, rest, rfl⟩ := List.exists_cons_of_ne_nil hne
    refine openToAppend_of_place ?_ List.lookup_cons_self
    exact (obstacle?_cons _ rfl (List.nil_append _)).trans hobstacle

/-- The name of a file that has been opened leads to it. -/
theorem place?_of_openToAppend (h : s.openToAppend path = .ok (number, t)) : t.place? path = some (.file number) := by
  rcases openToAppend_cases h with ⟨hplace, rfl⟩ | ⟨parts, rfl, hne, -, hcreate⟩
  · exact hplace
  · obtain ⟨rfl, rfl⟩ := Prod.mk.inj hcreate
    obtain ⟨part, rest, rfl⟩ := List.exists_cons_of_ne_nil hne
    exact List.lookup_cons_self

theorem SameFiles.place?_eq (h : SameFiles s t) (path : Path) : t.place? path = s.place? path := by
  cases path with
  | elsewhere shown => rfl
  | inside parts =>
    cases parts with
    | nil => rfl
    | cons part parts => simp only [place?, h.places]

theorem read_of_place (h : s.place? path = some (.file number)) : s.read path = .ok (s.octets number) := by
  rw [read, h]

theorem lt_of_openToAppend (hsound : s.Sound) (h : s.openToAppend path = .ok (number, t)) :
    number < t.contents.length := by
  rcases openToAppend_cases h with ⟨hplace, rfl⟩ | ⟨parts, -, -, -, hcreate⟩
  · exact hsound path number hplace
  · obtain ⟨rfl, rfl⟩ := Prod.mk.inj hcreate
    simp

end Storage

namespace Log

/-! ### Handlers -/

/-- Whether a handler writes to the file of a number. -/
def Handler.writesTo (number : Nat) : Handler → Bool
  | .file f => f.number == number
  | _ => false

namespace Board

variable {b c d : Board} {handlers : List Handler} {storage : Storage} {line name message : Text} {level : Level}
  {pairs : Pairs} {incident : Option Incident}

/-- What a line comes to in a file: nothing if it cannot be encoded. -/
def octetsOf (line : Text) : Octets :=
  if Utf8.encodable line then Utf8.encode line else []

/-- A message as a line of a file. -/
def fileLine (b : Board) (name : Text) (level : Level) (message : Text) (incident : Option Text) : Text :=
  written (b.stamp ++ (" - " : Text) ++ name ++ (" - " : Text) ++ level.name ++ (" - " : Text)) message incident

/-- No file is full when its handler comes to write a line. -/
def HasRoom (line : Text) : List Handler → Storage → Prop
  | [], _ => True
  | .file f :: rest, s => isFull f s line.length = false ∧ HasRoom line rest (s.append f.number (octetsOf line))
  | _ :: rest, s => HasRoom line rest s

instance HasRoom.decidable (line : Text) : (handlers : List Handler) → (s : Storage) → Decidable (HasRoom line handlers s)
  | [], _ => .isTrue trivial
  | .file f :: rest, s =>
    have := HasRoom.decidable line rest (s.append f.number (octetsOf line))
    inferInstanceAs (Decidable (isFull f s line.length = false ∧ HasRoom line rest (s.append f.number (octetsOf line))))
  | .console :: rest, s => HasRoom.decidable line rest s
  | .stream :: rest, s => HasRoom.decidable line rest s

theorem writeFile_of_not_full {f : LogFile} (h : isFull f storage line.length = false) :
    writeFile f storage line = (f, storage.append f.number (octetsOf line)) := by
  simp only [writeFile, prepare, h, Bool.false_eq_true, if_false, octetsOf]
  split_ifs
  · rfl
  · rw [Storage.append_nil]

theorem writeAll_of_hasRoom (b : Board) (name : Text) (level : Level) (message : Text) (incident : Option Text)
    (stream : Text) (h : HasRoom (b.fileLine name level message incident) handlers storage) :
    ∃ stream' storage',
      b.writeAll name level message incident handlers (stream, storage) = (handlers, stream', storage') ∧
      Storage.SameFiles storage storage' ∧ ∀ number < storage.contents.length,
        storage'.octets number = storage.octets number ++
          (List.replicate (handlers.countP (Handler.writesTo number))
            (octetsOf (b.fileLine name level message incident))).flatten := by
  induction handlers generalizing stream storage with
  | nil => exact ⟨stream, storage, rfl, .refl storage, fun number _ => by simp⟩
  | cons handler rest ih =>
    cases handler with
    | console =>
      obtain ⟨stream', storage', hwrite, hfiles, hoctets⟩ := ih stream h
      exact ⟨stream', storage', by rw [writeAll, hwrite], hfiles, by simpa [Handler.writesTo] using hoctets⟩
    | stream =>
      obtain ⟨stream', storage', hwrite, hfiles, hoctets⟩ := ih _ h
      exact ⟨stream', storage', by rw [writeAll, hwrite], hfiles, by simpa [Handler.writesTo] using hoctets⟩
    | file f =>
      obtain ⟨hroom, hrest⟩ := h
      obtain ⟨stream', storage', hwrite, hfiles, hoctets⟩ := ih stream hrest
      have hfile := writeFile_of_not_full hroom
      have happend := storage.sameFiles_append f.number (octetsOf (b.fileLine name level message incident))
      refine ⟨stream', storage', ?_, happend.trans hfiles, fun number hnumber => ?_⟩
      · rw [fileLine] at hfile hwrite
        simp only [writeAll, hfile, hwrite]
      · rw [hoctets number (by rwa [happend.length]), Storage.octets_append hnumber, List.countP_cons]
        by_cases hsame : number = f.number
        · simp [Handler.writesTo, hsame, List.replicate_succ]
        · simp [Handler.writesTo, hsame, Ne.symm hsame]

/-! ### Channels -/

theorem lookup_filter {other : Text} (h : other ≠ name) (channels : List (Text × Channel)) :
    (channels.filter fun (n, _) => n != name).lookup other = channels.lookup other := by
  induction channels with
  | nil => rfl
  | cons entry channels ih =>
    obtain ⟨n, c⟩ := entry
    by_cases hn : n = name
    · have hother : (other == n) = false := by
        rw [beq_eq_false_iff_ne, hn]
        exact h
      rw [List.filter_cons_of_neg (by simpa using hn), ih, List.lookup_cons, hother]
    · rw [List.filter_cons_of_pos (by simpa using hn), List.lookup_cons, List.lookup_cons, ih]

theorem channel_onChannel (b : Board) (name : Text) (change : Channel → Channel) (other : Text) :
    (b.onChannel name change).channel other = if other = name then change (b.channel name) else b.channel other := by
  split_ifs with hother
  · rw [hother, channel, onChannel, List.lookup_cons_self, Option.getD_some]
  · have hne : (other == name) = false := beq_eq_false_iff_ne.mpr hother
    rw [channel, onChannel, List.lookup_cons, hne]
    simp only [lookup_filter hother, channel]

/-- Boards on which the same loggers write to the same handlers. -/
structure SameLoggers (b c : Board) : Prop where
  /-- The channels are the same. -/
  channel : ∀ name, c.channel name = b.channel name
  /-- The loggers are the same -/
  loggers : c.loggers = b.loggers
  /-- and registered alike. -/
  registry : c.registry = b.registry
  /-- At most the octets of files differ. -/
  files : b.storage.SameFiles c.storage

theorem SameLoggers.refl (b : Board) : SameLoggers b b := ⟨fun _ => rfl, rfl, rfl, .refl _⟩

theorem SameLoggers.trans (h : SameLoggers b c) (h' : SameLoggers c d) : SameLoggers b d :=
  ⟨fun name => (h'.channel name).trans (h.channel name), h'.loggers.trans h.loggers, h'.registry.trans h.registry,
    h.files.trans h'.files⟩

/-- How many handlers of a channel write to a file. -/
def copies (b : Board) (name : Text) (number : Nat) : Nat :=
  (b.channel name).handlers.countP (Handler.writesTo number)

theorem write_of_hasRoom (b : Board) (name : Text) (level : Level) (message : Text) (incident : Option Text)
    (h : HasRoom (b.fileLine name level message incident) (b.channel name).handlers b.storage) :
    SameLoggers b (b.write name level message incident) ∧
      ∀ number < b.storage.contents.length, (b.write name level message incident).storage.octets number =
        b.storage.octets number ++
          (List.replicate (b.copies name number) (octetsOf (b.fileLine name level message incident))).flatten := by
  obtain ⟨stream, storage, hwrite, hfiles, hoctets⟩ := b.writeAll_of_hasRoom name level message incident b.stream h
  rw [write, hwrite]
  refine ⟨⟨fun other => ?_, rfl, rfl, hfiles⟩, hoctets⟩
  rw [channel_onChannel]
  split_ifs with hother
  · rw [hother]
    rfl
  · rfl

/-! ### Messages -/

/-- No file is full when its handler comes to write a message, if there is anything to be written. -/
def HasRoomFor (b : Board) (name : Text) (level : Level) (message : Text) (pairs : Pairs) (incident : Option Incident) :
    Prop :=
  ∀ context line, (Pairs.update (Pairs.merged b.contexts) pairs).context = .ok context →
    incident.mapM Incident.line = .ok line →
    HasRoom (b.fileLine name level (withContext message context) line) (b.channel name).handlers b.storage

theorem log_eq {context : Context} {line : Option Text} (henabled : b.isEnabled name level.number = true)
    (hcontext : (Pairs.update (Pairs.merged b.contexts) pairs).context = .ok context)
    (hline : incident.mapM Incident.line = .ok line) :
    b.log name level message pairs incident = .ok (b.write name level (withContext message context) line) := by
  simp [log, henabled, hcontext, hline, bind, Except.bind, pure, Except.pure]

/-- A message that is taken stands in a file as often as there are handlers that write to it. -/
theorem read_after_log {context : Context} {line : Option Text} {path : Path} {number : Nat}
    (henabled : b.isEnabled name level.number = true)
    (hcontext : (Pairs.update (Pairs.merged b.contexts) pairs).context = .ok context)
    (hline : incident.mapM Incident.line = .ok line) (hroom : b.HasRoomFor name level message pairs incident)
    (hplace : b.storage.place? path = some (.file number)) (hnumber : number < b.storage.contents.length) :
    ∃ before c, b.storage.read path = .ok before ∧ b.log name level message pairs incident = .ok c ∧
      c.storage.read path = .ok (before ++ (List.replicate (b.copies name number)
        (octetsOf (b.fileLine name level (withContext message context) line))).flatten) := by
  obtain ⟨hsame, hoctets⟩ := b.write_of_hasRoom name level _ _ (hroom context line hcontext hline)
  refine ⟨_, _, Storage.read_of_place hplace, log_eq henabled hcontext hline, ?_⟩
  rw [Storage.read_of_place ((hsame.files.place?_eq path).trans hplace), hoctets number hnumber]

/-- A message leaves the loggers as they are. -/
theorem sameLoggers_of_log (hroom : b.HasRoomFor name level message pairs incident)
    (h : b.log name level message pairs incident = .ok c) : SameLoggers b c := by
  cases henabled : b.isEnabled name level.number with
  | false =>
    obtain rfl : b = c := by simpa [log, henabled, pure, Except.pure] using h
    exact .refl b
  | true =>
    rw [log, henabled] at h
    obtain ⟨context, hcontext, h⟩ := bind_eq_ok.mp h
    obtain ⟨line, hline, h⟩ := bind_eq_ok.mp h
    obtain rfl := Except.ok.inj h
    exact (b.write_of_hasRoom _ _ _ _ (hroom context line hcontext hline)).1

/-- What may become of a board by messages that fill none of the files, with contexts opened and closed between them. -/
inductive Logged (b : Board) : Board → Prop where
  /-- No message. -/
  | nothing : Logged b b
  /-- Contexts are opened or closed. -/
  | contexts {c : Board} (contexts : List Pairs) : Logged b c → Logged b { c with contexts }
  /-- A message. -/
  | message {c d : Board} {name : Text} {level : Level} {message : Text} {pairs : Pairs} {incident : Option Incident} :
    Logged b c → c.HasRoomFor name level message pairs incident → c.log name level message pairs incident = .ok d →
    Logged b d

theorem Logged.sameLoggers (h : Logged b c) : SameLoggers b c := by
  induction h with
  | nothing => exact .refl b
  | contexts contexts _ ih => exact ⟨ih.channel, ih.loggers, ih.registry, ih.files⟩
  | message _ hroom hlog ih => exact ih.trans (sameLoggers_of_log hroom hlog)

end Board

end Log

end FileSieve
