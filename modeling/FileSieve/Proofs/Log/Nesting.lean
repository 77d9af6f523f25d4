import FileSieve.Proofs.Log.Writing
import Mathlib.Data.List.Induction
import Mathlib.Data.List.Nodup

/-!
# Contexts within contexts

A program opens contexts for parts of itself, in which there may be further ones; it logs messages and incidents by
any loggers, and it may be interrupted anywhere, and go on after that (`Program`). All loggers share one pile of
contexts, on which a context is put before its part, and from which the uppermost one is taken however the part ends
(`run`).

But what the program logs can be told from its text without a pile (`Program.shown`): a message shows the pairs of the
contexts that it stands in, from the outermost to the innermost, and then its own, and each key once, with its last
value at the place of the first (`Pairs.inOrder`). Both are the same, and in the end the contexts are those of the
beginning (`contexts_nest`).
-/

namespace FileSieve.Log

/-! ### Pairs -/

namespace Pairs

variable {pairs : Pairs}

/-- Pairs with each key once: the keys in the order in which they first appear, each with its last value. -/
def inOrder (all : Pairs) : Pairs :=
  (all.map Prod.fst).eraseDups.map fun key => (key, (all.reverse.lookup key).getD .none)

/-- A key keeps its place, and a new one comes last. -/
theorem map_fst_insert (key : Text) (value : Value) (pairs : Pairs) :
    (insert key value pairs).map Prod.fst =
      if (pairs.map Prod.fst).contains key then pairs.map Prod.fst else pairs.map Prod.fst ++ [key] := by
  induction pairs with
  | nil => rfl
  | cons pair pairs ih =>
    obtain ⟨k, v⟩ := pair
    rw [insert]
    by_cases hk : k = key
    · simp [hk]
    · have hcontains : (((k, v) :: pairs).map Prod.fst).contains key = (pairs.map Prod.fst).contains key := by
        simp [Ne.symm hk]
      rw [if_neg hk, hcontains, List.map_cons, ih]
      split_ifs
      · rfl
      · rfl

theorem lookup_cons (key : Text) (value : Value) (pairs : Pairs) (other : Text) :
    ((key, value) :: pairs).lookup other = if other = key then some value else pairs.lookup other := by
  rw [List.lookup_cons]
  by_cases hother : other = key
  · rw [if_pos hother, beq_iff_eq.mpr hother]
  · rw [if_neg hother, beq_eq_false_iff_ne.mpr hother]

theorem lookup_insert (key : Text) (value : Value) (pairs : Pairs) (other : Text) :
    (insert key value pairs).lookup other = if other = key then some value else pairs.lookup other := by
  induction pairs with
  | nil => exact lookup_cons key value [] other
  | cons pair pairs ih =>
    obtain ⟨k, v⟩ := pair
    rw [insert, lookup_cons k v]
    by_cases hk : k = key
    · rw [if_pos hk, hk, lookup_cons]
      split_ifs
      · rfl
      · rfl
    · rw [if_neg hk, lookup_cons, ih]
      by_cases hother : other = k
      · rw [if_pos hother, if_pos hother, if_neg (hother ▸ hk)]
      · rw [if_neg hother, if_neg hother]

theorem eraseDups_concat (keys : List Text) (key : Text) :
    (keys ++ [key]).eraseDups = if keys.contains key then keys.eraseDups else keys.eraseDups ++ [key] := by
  have hnew : [key].removeAll keys = if keys.contains key then [] else [key] := by
    rw [List.removeAll, List.filter_cons, List.elem_eq_contains]
    cases keys.contains key with
    | true => rfl
    | false => rfl
  rw [List.eraseDups_append, hnew]
  split_ifs
  · rw [List.eraseDups_nil, List.append_nil]
  · rw [List.eraseDups_cons, List.filter_nil, List.eraseDups_nil]

theorem nodup_eraseDups (keys : List Text) : keys.eraseDups.Nodup := by
  induction keys using List.reverseRecOn with
  | nil => exact List.nodup_nil
  | append_singleton keys key ih =>
    rw [eraseDups_concat]
    split_ifs with hkey
    · exact ih
    · rw [← List.concat_eq_append]
      exact ih.concat fun hmem => hkey (List.contains_iff_mem.mpr (List.mem_eraseDups.mp hmem))

/-- Pairs with different keys are told by their keys and by what is under each of them. -/
theorem eq_map_lookup (h : (pairs.map Prod.fst).Nodup) :
    pairs = (pairs.map Prod.fst).map fun key => (key, (pairs.lookup key).getD .none) := by
  induction pairs with
  | nil => rfl
  | cons pair pairs ih =>
    obtain ⟨key, value⟩ := pair
    obtain ⟨hkey, hkeys⟩ := List.nodup_cons.mp h
    have hrest : ∀ other ∈ pairs.map Prod.fst, ((key, value) :: pairs).lookup other = pairs.lookup other := by
      intro other hother
      have hne : other ≠ key := by
        rintro rfl
        exact hkey hother
      rw [lookup_cons, if_neg hne]
    rw [List.map_cons, List.map_cons, List.lookup_cons_self]
    refine congrArg (List.cons (key, value)) ((ih hkeys).trans (List.map_congr_left fun other hother => ?_))
    rw [hrest other hother]

/-- Values that are put under their keys one after the other give each key its last value, in the place of its first. -/
theorem update_nil (all : Pairs) : update [] all = inOrder all := by
  have hconcat (all : Pairs) (pair : Text × Value) :
      update [] (all ++ [pair]) = insert pair.1 pair.2 (update [] all) := by
    rw [update, List.foldl_append]
    rfl
  have hkeys (all : Pairs) : (update [] all).map Prod.fst = (all.map Prod.fst).eraseDups := by
    induction all using List.reverseRecOn with
    | nil => rfl
    | append_singleton all pair ih =>
      rw [hconcat, map_fst_insert, ih, List.map_append, List.map_singleton, eraseDups_concat]
      simp only [List.contains_iff_mem, List.mem_eraseDups]
  have hvalues (all : Pairs) (key : Text) : (update [] all).lookup key = all.reverse.lookup key := by
    induction all using List.reverseRecOn with
    | nil => rfl
    | append_singleton all pair ih =>
      rw [hconcat, lookup_insert, ih, List.reverse_concat, lookup_cons]
  have hnodup : ((update [] all).map Prod.fst).Nodup := hkeys all ▸ nodup_eraseDups _
  have hmap := eq_map_lookup hnodup
  simp only [hkeys, hvalues] at hmap
  exact hmap

/-- The pairs of contexts and then those of a message. -/
theorem update_merged (contexts : List Pairs) (pairs : Pairs) :
    update (merged contexts) pairs = inOrder (contexts.flatten ++ pairs) := by
  have hmerged : merged contexts = update [] contexts.flatten := by
    rw [update, List.foldl_flatten]
    rfl
  rw [hmerged, ← update_nil, update, update, update, List.foldl_append]

end Pairs

/-! ### Messages without a pile -/

/-- What decides whether a message is written, and where. -/
structure Routing where
  /-- The channel of a logger. -/
  channelOf : Nat → Text
  /-- Whether a channel takes messages of a level. -/
  takes : Text → Level → Bool

/-- What a logger is called for, with the pairs of the call itself. -/
structure Request where
  /-- The channel of the logger. -/
  channel : Text
  /-- How grave the message is. -/
  level : Level
  /-- The message. -/
  message : Text
  /-- The pairs of the call. -/
  pairs : Pairs
  /-- The incident that it tells. -/
  incident : Option Incident := none

/-- A message as the handlers of a channel get it. -/
structure Record where
  /-- The channel. -/
  channel : Text
  /-- How grave the message is. -/
  level : Level
  /-- The message, with its context behind it. -/
  message : Text
  /-- The line of an incident. -/
  incident : Option Text
  deriving DecidableEq, Repr

/-- A request with all pairs that it is to show, if its channel takes it. -/
def Request.record (routing : Routing) (r : Request) (pairs : Pairs) : Except Misuse (Option Record) := do
  if !routing.takes r.channel r.level then return none
  else
    let context ← pairs.context
    let line ← r.incident.mapM Incident.line
    return some { channel := r.channel, level := r.level, message := withContext r.message context, incident := line }

/-- A call of a logger. -/
inductive Call
  /-- A message. -/
  | message (logger : Nat) (action : Text) (level : Level) (text : Text) (pairs : Pairs)
  /-- An incident with a message. -/
  | incident (logger : Nat) (text : Text) (i : Incident) (pairs : Pairs)

/-- What a call asks for. An incident brings its kind and its text with it, under keys of their own. -/
def Call.request (routing : Routing) : Call → Except Misuse Request
  | .message logger action level text pairs => do
    Board.checkParts action ["self", "msg"] pairs
    return { channel := routing.channelOf logger, level, message := text, pairs }
  | .incident logger text i pairs => do
    Board.checkParts "exception" ["self", "msg", "exc"] pairs
    let pairs := pairs.insert "exception_type" (.text i.name)
    let pairs := pairs.insert "exception_message" (.text (← i.text))
    return { channel := routing.channelOf logger, level := .error, message := text, pairs, incident := some i }

/-- What a call writes in contexts: their pairs, the outermost first, and then its own. -/
def Call.record (routing : Routing) (around : List Pairs) (c : Call) : Except Misuse (Option Record) := do
  let r ← c.request routing
  r.record routing (Pairs.inOrder (around.flatten ++ r.pairs))

/-- What ends a part of a program before its time. -/
inductive Interruption
  /-- An incident. -/
  | incident (i : Incident)
  /-- A value that cannot be worked with. -/
  | misuse (m : Misuse)

/-- A program that logs. -/
inductive Program
  /-- There is nothing to be done. -/
  | nothing
  /-- A logger is called. -/
  | call (c : Call)
  /-- The program is interrupted. -/
  | interrupt (i : Interruption)
  /-- A part in a context, which is opened by a logger for all of them. -/
  | within (logger : Nat) (pairs : Pairs) (body : Program)
  /-- One part after the other, unless the first one is interrupted. -/
  | followed (first next : Program)
  /-- A part, and another one if it is interrupted. -/
  | caught (body : Program) (handler : Interruption → Program)

namespace Program

/-- What a program writes and what interrupts it, by its text alone: `around` are the contexts that it stands in, the
outermost first. -/
def shown (routing : Routing) : Program → (around : List Pairs) → List Record × Option Interruption
  | .nothing, _ => ([], none)
  | .call c, around =>
    match c.record routing around with
    | .ok record => (record.toList, none)
    | .error m => ([], some (.misuse m))
  | .interrupt i, _ => ([], some i)
  | .within _ pairs body, around =>
    match Board.checkParts "add_context" ["self"] pairs with
    | .ok () => shown routing body (around ++ [pairs])
    | .error m => ([], some (.misuse m))
  | .followed first next, around =>
    match shown routing first around with
    | (records, none) => (records ++ (shown routing next around).1, (shown routing next around).2)
    | (records, some i) => (records, some i)
  | .caught body handler, around =>
    match shown routing body around with
    | (records, none) => (records, none)
    | (records, some i) => (records ++ (shown routing (handler i) around).1, (shown routing (handler i) around).2)

end Program

/-! ### Messages with a pile -/

namespace Board

variable {b c : Board}

/-- What a call does to a board. -/
def call (b : Board) : Call → Except Misuse Board
  | .message logger action level text pairs => b.message logger action level text pairs
  | .incident logger text i pairs => b.incident logger text i pairs

/-- What a program does to a board, and what interrupts it. A context is closed whether its part is interrupted or
not. -/
def run : Program → Board → Board × Option Interruption
  | .nothing, b => (b, none)
  | .call c, b =>
    match b.call c with
    | .ok b => (b, none)
    | .error m => (b, some (.misuse m))
  | .interrupt i, b => (b, some i)
  | .within _ pairs body, b =>
    match b.openContext pairs with
    | .ok opened => ((run body opened).1.closeContext, (run body opened).2)
    | .error m => (b, some (.misuse m))
  | .followed first next, b =>
    match run first b with
    | (b, none) => run next b
    | (b, some i) => (b, some i)
  | .caught body handler, b =>
    match run body b with
    | (b, none) => (b, none)
    | (b, some i) => run (handler i) b

/-- What decides on a board whether messages are written, and where. -/
def routing (b : Board) : Routing where
  channelOf := b.channelOf
  takes name level := b.isEnabled name level.number

/-- The board with a message written to its channel. -/
def keep (b : Board) (r : Record) : Board :=
  b.write r.channel r.level r.message r.incident

/-- The board with messages written one after the other. -/
def keepAll (b : Board) (records : List Record) : Board :=
  records.foldl keep b

theorem keepAll_append (b : Board) (records more : List Record) :
    b.keepAll (records ++ more) = (b.keepAll records).keepAll more :=
  List.foldl_append

/-! ### What a message leaves as it is -/

theorem level_channel_keep (b : Board) (r : Record) (name : Text) :
    ((b.keep r).channel name).level = (b.channel name).level := by
  rw [keep, write, channel_onChannel]
  split_ifs with hname
  · rw [hname]
    rfl
  · rfl

/-- Boards with the same loggers and the same levels of channels write the same messages. -/
theorem routing_congr (hlevels : ∀ name, (c.channel name).level = (b.channel name).level)
    (hloggers : c.loggers = b.loggers) : c.routing = b.routing := by
  have hfirst (names : List Text) : c.firstLevel names = b.firstLevel names := by
    induction names with
    | nil => rfl
    | cons name names ih => rw [firstLevel, firstLevel, hlevels, ih]
  have hchannelOf : c.channelOf = b.channelOf := by
    funext logger
    rw [channelOf, channelOf, nameOf, nameOf, hloggers]
  have htakes (name : Text) (level : Level) : c.isEnabled name level.number = b.isEnabled name level.number := by
    rw [isEnabled, isEnabled, hfirst]
  rw [routing, routing, hchannelOf]
  simp only [htakes]

theorem routing_contexts (b : Board) (contexts : List Pairs) : ({ b with contexts }).routing = b.routing :=
  routing_congr (fun _ => rfl) rfl

/-- Messages change neither the channels of loggers nor the levels of channels. -/
theorem routing_keepAll (b : Board) (records : List Record) : (b.keepAll records).routing = b.routing := by
  induction records generalizing b with
  | nil => rfl
  | cons r records ih => exact (ih (b.keep r)).trans (routing_congr (b.level_channel_keep r) rfl)

theorem writeAll_contexts (b : Board) (contexts : List Pairs) (name : Text) (level : Level) (message : Text)
    (incident : Option Text) (handlers : List Handler) (out : Text × Storage) :
    writeAll { b with contexts } name level message incident handlers out =
      writeAll b name level message incident handlers out := by
  induction handlers generalizing out with
  | nil => rfl
  | cons handler handlers ih =>
    cases handler with
    | console => simp only [writeAll, ih]
    | stream => simp only [writeAll, ih]
    | file f => simp only [writeAll, ih]

theorem keep_contexts (b : Board) (contexts : List Pairs) (r : Record) :
    ({ b with contexts }).keep r = { b.keep r with contexts } := by
  have hchannel : ({ b with contexts }).channel r.channel = b.channel r.channel := rfl
  rw [keep, write, hchannel, writeAll_contexts]
  rfl

/-- Messages that have been made up are written whatever contexts are open, and leave them open. -/
theorem keepAll_contexts (b : Board) (contexts : List Pairs) (records : List Record) :
    ({ b with contexts }).keepAll records = { b.keepAll records with contexts } := by
  induction records generalizing b with
  | nil => rfl
  | cons r records ih =>
    rw [keepAll, List.foldl_cons, keep_contexts]
    exact ih (b.keep r)

theorem contexts_keepAll (b : Board) (records : List Record) : (b.keepAll records).contexts = b.contexts := by
  have hsame := congrArg Board.contexts (b.keepAll_contexts b.contexts records)
  exact hsame

/-- A context that has been put on the pile is the one that is taken off after messages. -/
theorem closeContext_keepAll (b : Board) (pairs : Pairs) (records : List Record) :
    (({ b with contexts := b.contexts ++ [pairs] }).keepAll records).closeContext = b.keepAll records := by
  rw [keepAll_contexts, closeContext]
  simp only [List.dropLast_concat]
  exact (b.keepAll_contexts b.contexts records).symm

/-! ### Both are the same -/

/-- A message shows the pairs of the contexts that are open, and then its own. -/
theorem log_request (b : Board) (r : Request) :
    b.log r.channel r.level r.message r.pairs r.incident =
      (r.record b.routing (Pairs.inOrder (b.contexts.flatten ++ r.pairs))).map
        fun record => b.keepAll record.toList := by
  have htakes : b.routing.takes r.channel r.level = b.isEnabled r.channel r.level.number := rfl
  rw [log, Request.record, Pairs.update_merged, htakes]
  cases b.isEnabled r.channel r.level.number with
  | false => rfl
  | true =>
    cases Pairs.context (Pairs.inOrder (b.contexts.flatten ++ r.pairs)) with
    | error m => rfl
    | ok context =>
      cases r.incident.mapM Incident.line with
      | error m => rfl
      | ok line => rfl

theorem call_eq (b : Board) (c : Call) :
    b.call c = (c.record b.routing b.contexts).map fun record => b.keepAll record.toList := by
  cases c with
  | message logger action level text pairs =>
    rw [call, message, Call.record, Call.request]
    cases checkParts action ["self", "msg"] pairs with
    | error m => rfl
    | ok _ => exact b.log_request { channel := b.channelOf logger, level, message := text, pairs }
  | incident logger text i pairs =>
    rw [call, incident, Call.record, Call.request]
    cases checkParts "exception" ["self", "msg", "exc"] pairs with
    | error m => rfl
    | ok _ =>
      cases i.text with
      | error m => rfl
      | ok told =>
        exact b.log_request
          { channel := b.channelOf logger, level := .error, message := text, pairs := _, incident := some i }

/-- A program writes what its text shows, and is interrupted by the same. -/
theorem run_eq_shown (p : Program) (b : Board) :
    run p b = (b.keepAll (p.shown b.routing b.contexts).1, (p.shown b.routing b.contexts).2) := by
  induction p generalizing b with
  | nothing => rfl
  | call c =>
    rw [run, Program.shown, call_eq]
    cases c.record b.routing b.contexts with
    | error m => rfl
    | ok record => rfl
  | interrupt i => rfl
  | within logger pairs body ih =>
    rw [run, Program.shown, openContext]
    cases checkParts "add_context" ["self"] pairs with
    | error m => rfl
    | ok _ =>
      -- the part is shown among the contexts around it and its own
      have hbody := ih { b with contexts := b.contexts ++ [pairs] }
      rw [routing_contexts] at hbody
      show ((run body { b with contexts := b.contexts ++ [pairs] }).1.closeContext,
        (run body { b with contexts := b.contexts ++ [pairs] }).2) = _
      rw [hbody, closeContext_keepAll]
  | followed first next ihFirst ihNext =>
    rw [run, Program.shown, ihFirst]
    cases first.shown b.routing b.contexts with
    | mk records left =>
      cases left with
      | some i => rfl
      | none =>
        show run next (b.keepAll records) = _
        rw [ihNext, routing_keepAll, contexts_keepAll, keepAll_append]
  | caught body handler ihBody ihHandler =>
    rw [run, Program.shown, ihBody]
    cases body.shown b.routing b.contexts with
    | mk records left =>
      cases left with
      | none => rfl
      | some i =>
        show run (handler i) (b.keepAll records) = _
        rw [ihHandler, routing_keepAll, contexts_keepAll, keepAll_append]

/-- Logging contexts nest. However a program opens contexts, calls loggers and is interrupted, what it writes are the
messages that it shows, each with the pairs of the contexts that it stands in and its own, on top of those that were
open before the program; it is interrupted by what its text says; and afterwards the contexts are those from before. -/
theorem contexts_nest (p : Program) (b : Board) :
    run p b = (b.keepAll (p.shown b.routing b.contexts).1, (p.shown b.routing b.contexts).2) ∧
      (run p b).1.contexts = b.contexts := by
  have hrun := run_eq_shown p b
  refine ⟨hrun, ?_⟩
  rw [hrun]
  exact b.contexts_keepAll _

/-- The inner context covers a value of the outer one as long as it is open, and the call covers one of both. -/
example : (({ storage := { root := "/" }, stamp := [] } : Board).create "app" (.text "INFO") [.stream]).toOption.map
    (fun (logger, b) => (run
      (.within logger [("a", .int 1), ("b", .int 2)]
        (.caught
          (.within logger [("b", .int 3), ("c", .int 4)]
            (.followed (.call (.message logger "info" .info "inside" [("a", .int 5)]))
              (.interrupt (.incident { kind := "ValueError", about := [] }))))
          fun _ => .call (.message logger "info" .info "outside" []))) b).1.stream) =
    some ("app INFO inside | a=5 b=3 c=4\napp INFO outside | a=1 b=2\n" : Text) := by
  decide +kernel

end Board

end FileSieve.Log
