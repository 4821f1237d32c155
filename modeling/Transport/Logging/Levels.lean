import Transport.Logging.Logger

/-
  Transport.Logging.Levels — `Logger::level()`, `log_record`, and the names of the levels.

      Level level() const {
          if (_level == UNKNOWN) { if (_parent) return _parent->level(); return INFO; }
          return _level;
      }
      void log_record(const Record& record) {
          if (record.level < level()) return;
          if (!_streams.empty()) for (auto& stream : _streams) write_record(*stream, record);
          else if (_parent) _parent->log_record(record);
          else write_record(default_stream, record);
      }

  `log_message(level, msg)` and `vlog(level, fmt, args)` test `level < this->level()` and then
  hand on `Record(name(), level, msg)`.  Both recursions climb `_parent`; a chain of parents that
  came back on itself would never return, so each takes a `fuel` argument and gives `none` when it
  runs out.  Levels compare by their `uint8_t` values, the `LOG_LEVEL_*` constants of `level.h`;
  that header is not in the source tree, so the constants are a parameter `k` of every result.

  Over the chain of a logger's parents both recursions have a closed form, the abstract model of
  this module: `level()` is the first `_level` on the chain that is not `UNKNOWN` (`INFO` when
  there is none), and a record climbs the chain up to the first logger with streams and is written
  to each of them (to `std::cerr` when no logger of the chain has any), unless its level is below
  the effective level of a logger it climbs through.

  `str2level` reads a level's name with `strcasecmp`; `operator<<` prints it.  `write_record`
  prints a record as one line, `time [name] [LEVEL] msg`, without `[name] ` for a logger without
  a name; `readRecordLine` reads such a line back.

  Main results:
    * `level_of_chain`, `effective_ne_unknown` — `level()` is the chain's effective level.
    * `logRecord_of_chain`, `logMessage_of_chain` — `log_record` and `log_message` are `route`.
    * `write_record_reads_back` — a line of `write_record` gives back its record, unless a
      logger without a name logs a message that starts with `[`: that line can be another
      logger's.
-/

namespace Transport

/-! ## §1. Level values and names. -/

/-- The `LOG_LEVEL_*` constants of `level.h` that `Logger::Level` takes its values from.  The
header is not in the source tree: every result holds whatever they are. -/
structure LevelCodes where
  debug : Nat
  info : Nat
  warn : Nat
  error : Nat
  fatal : Nat

/-- The value of a `Logger::Level`, which `level < this->level()` compares; `UNKNOWN` is 0. -/
def Level.code (k : LevelCodes) : Level → Nat
  | .unknown => 0
  | .debug => k.debug
  | .info => k.info
  | .warn => k.warn
  | .error => k.error
  | .fatal => k.fatal

/-- `operator<<(std::ostream&, Logger::Level)`: the name a level is printed with. -/
def levelName : Level → List Char
  | .debug => "DEBUG".toList
  | .info => "INFO".toList
  | .warn => "WARN".toList
  | .error => "ERROR".toList
  | .fatal => "FATAL".toList
  | .unknown => "UNKNOWN".toList

/-- `strcasecmp(a, b) == 0`: the strings agree once ASCII capitals are lowered. -/
def strcasecmp (a b : List Char) : Bool := a.map Char.toLower == b.map Char.toLower

/-- `str2level(level)`: `INFO` for a null pointer, the level whose name `level` spells, case
ignored, and `UNKNOWN` for anything else, after `log_error("Unknown log level: %s", level)`. -/
def str2level : Option (List Char) → Level
  | none => .info
  | some s =>
    if strcasecmp s "debug".toList then .debug
    else if strcasecmp s "info".toList then .info
    else if strcasecmp s "warn".toList then .warn
    else if strcasecmp s "error".toList then .error
    else if strcasecmp s "fatal".toList then .fatal
    else .unknown

/-- The string `log_init(level)` hands `str2level`: `"info"` for a null or empty `level`, the
environment's `LOG_LEVEL` (null when unset) for `"env"` or `"auto"`, case ignored, and `level`
itself otherwise. -/
def logInitLevel (level env : Option (List Char)) : Option (List Char) :=
  match level with
  | none | some [] => some "info".toList
  | some s => if strcasecmp s "env".toList || strcasecmp s "auto".toList then env else some s

/-! ## §2. `Logger::level()`. -/

namespace Loggers

variable (L : Loggers)

/-- `Logger::level()` at `j`: `_level`, or, when that is `UNKNOWN`, the parent's `level()`, and
`INFO` at a logger without a parent; `none` when `fuel` calls do not reach an answer. -/
def level : Nat → Nat → Option Level
  | 0, _ => none
  | fuel + 1, j =>
    match (L.nodes j).level with
    | .unknown =>
      match (L.nodes j).parent with
      | some p => level fuel p
      | none => some .info
    | l => some l

/-- The chain of `_parent`s from `j`: `j`, its parent, and so on up to a logger without a parent;
`none` when `fuel` loggers do not reach one. -/
def chain : Nat → Nat → Option (List Nat)
  | 0, _ => none
  | fuel + 1, j =>
    match (L.nodes j).parent with
    | some p => (chain fuel p).map (j :: ·)
    | none => some [j]

/-- The level a chain of loggers gives its first one: the first `_level` on it that is not
`UNKNOWN`, and `INFO` when there is none. -/
def effective (c : List Nat) : Level :=
  ((c.map fun i => (L.nodes i).level).find? (· != .unknown)).getD .info

variable {L}

@[simp] theorem effective_nil : L.effective [] = .info := rfl

theorem effective_cons (i : Nat) (c : List Nat) :
    L.effective (i :: c) =
      if (L.nodes i).level = .unknown then L.effective c else (L.nodes i).level := by
  unfold effective
  rw [List.map_cons, List.find?_cons]
  cases (L.nodes i).level <;> rfl

/-- The effective level is never `UNKNOWN`. -/
theorem effective_ne_unknown (c : List Nat) : L.effective c ≠ .unknown := by
  induction c with
  | nil => simp
  | cons i c ih =>
    rw [effective_cons]
    split
    · exact ih
    · assumption

/-- A chain starts at its logger. -/
theorem chain_head {fuel j : Nat} {c : List Nat} (h : L.chain fuel j = some c) :
    ∃ c', c = j :: c' := by
  cases fuel with
  | zero => cases h
  | succ fuel =>
    simp only [chain] at h
    split at h
    · obtain ⟨c', -, rfl⟩ := Option.map_eq_some'.mp h
      exact ⟨c', rfl⟩
    · exact ⟨[], (Option.some.inj h).symm⟩

/-- More fuel finds the same chain. -/
theorem chain_mono {fuel fuel' j : Nat} {c : List Nat} (h : L.chain fuel j = some c)
    (hle : fuel ≤ fuel') : L.chain fuel' j = some c := by
  induction fuel generalizing fuel' j c with
  | zero => cases h
  | succ fuel ih =>
    obtain ⟨fuel', rfl⟩ : ∃ f, fuel' = f + 1 := ⟨fuel' - 1, by omega⟩
    simp only [chain] at h ⊢
    split at h
    · obtain ⟨c', hc', rfl⟩ := Option.map_eq_some'.mp h
      rw [ih hc' (by omega)]
      rfl
    · exact h

/-- **`level()` on a chain.**  Where the chain of parents from `j` fits in `fuel`, `level()`
returns the chain's effective level. -/
theorem level_of_chain {fuel j : Nat} {c : List Nat} (h : L.chain fuel j = some c) :
    L.level fuel j = some (L.effective c) := by
  induction fuel generalizing j c with
  | zero => cases h
  | succ fuel ih =>
    simp only [chain] at h
    cases hp : (L.nodes j).parent with
    | none =>
      obtain rfl : [j] = c := by simpa [hp] using h
      simp only [level, hp, effective_cons, effective_nil]
      cases (L.nodes j).level <;> rfl
    | some p =>
      obtain ⟨c', hc', rfl⟩ := Option.map_eq_some'.mp (by simpa [hp] using h)
      simp only [level, hp, effective_cons]
      cases (L.nodes j).level <;> simp [ih hc']

/-! ## §3. `log_record`, `log_message` and `vlog`. -/

/-- What `write_record` is called on: a stream of `_streams`, by the number it was added under,
or `default_stream`, which is `std::cerr`. -/
inductive Sink where
  | stream (id : Nat)
  | cerr
  deriving DecidableEq, Repr

/-- `Record(name, level, msg)`; its `time` is the clock's, and nothing here reads it. -/
structure Record where
  name : List Char
  level : Level
  msg : List Char
  deriving DecidableEq, Repr

variable (L) (k : LevelCodes) (streams : Nat → List Nat)

/-- `Logger::log_record(record)` at `j`, for a record of level `lv`: the sinks `write_record` is
called on, in order; `none` when the recursion runs out of `fuel`. -/
def logRecord : Nat → Nat → Level → Option (List Sink)
  | 0, _, _ => none
  | fuel + 1, j, lv =>
    (L.level (fuel + 1) j).bind fun eff =>
      if lv.code k < eff.code k then some []
      else if !(streams j).isEmpty then some ((streams j).map .stream)
      else
        match (L.nodes j).parent with
        | some p => logRecord fuel p lv
        | none => some [.cerr]

/-- `Logger::log_message(level, msg)` at `j`: nothing below `level()`, and otherwise
`log_record(Record(name(), level, msg))`, each sink with the record written to it. -/
def logMessage (fuel j : Nat) (lv : Level) (msg : List Char) : Option (List (Sink × Record)) :=
  (L.level fuel j).bind fun eff =>
    if lv.code k < eff.code k then some []
    else (L.logRecord k streams fuel j lv).map fun sinks =>
      sinks.map fun s => (s, ⟨(L.nodes j).name, lv, msg⟩)

/-- `Logger::vlog(level, fmt, args)` at `j`, `msg` being the text `vsnprintf` formats: nothing
below `level()`, and otherwise `log_message(level, msg)`. -/
def vlog (fuel j : Nat) (lv : Level) (msg : List Char) : Option (List (Sink × Record)) :=
  (L.level fuel j).bind fun eff =>
    if lv.code k < eff.code k then some [] else L.logMessage k streams fuel j lv msg

/-- The abstract `log_record` on a chain `c` whose first logger logs: the record climbs `c` up to
the first logger with streams and is written to each of them, or to `std::cerr` when no logger
of `c` has any; it is dropped if its level is below the effective level of a logger it climbs
through (the `n`-th logger's is that of `c.drop n`). -/
def route (c : List Nat) (lv : Level) : List Sink :=
  let hasStreams := fun i => !(streams i).isEmpty
  if ((List.range c.length).take (c.findIdx hasStreams + 1)).all
      (fun n => (L.effective (c.drop n)).code k ≤ lv.code k) then
    match c.find? hasStreams with
    | some h => (streams h).map .stream
    | none => [.cerr]
  else []

variable {L k streams}

@[simp] theorem route_nil (lv : Level) : L.route k streams [] lv = [.cerr] := rfl

/-- The record passes the first logger of the chain, stops at its streams, or climbs on. -/
theorem route_cons (i : Nat) (c : List Nat) (lv : Level) :
    L.route k streams (i :: c) lv =
      if lv.code k < (L.effective (i :: c)).code k then []
      else if !(streams i).isEmpty then (streams i).map .stream
      else L.route k streams c lv := by
  have hrange : List.range (c.length + 1) = 0 :: (List.range c.length).map (· + 1) :=
    List.range_succ_eq_map _
  unfold route
  simp only [List.length_cons, hrange, List.findIdx_cons, List.find?_cons]
  by_cases hlt : lv.code k < (L.effective (i :: c)).code k
  · have : ¬ (L.effective (i :: c)).code k ≤ lv.code k := by omega
    cases (streams i).isEmpty <;> simp [this, hlt]
  · have : (L.effective (i :: c)).code k ≤ lv.code k := by omega
    cases (streams i).isEmpty <;>
      simp [this, hlt, ← List.map_take, List.all_map, Function.comp_def]

/-- **`log_record` is `route`.**  Where the chain of parents from `j` fits in `fuel`,
`log_record` writes a record of level `lv` to the sinks `route` gives on that chain. -/
theorem logRecord_of_chain {fuel j : Nat} {c : List Nat} (h : L.chain fuel j = some c)
    (lv : Level) : L.logRecord k streams fuel j lv = some (L.route k streams c lv) := by
  induction fuel generalizing j c with
  | zero => cases h
  | succ fuel ih =>
    rw [logRecord, level_of_chain h, Option.some_bind]
    simp only [chain] at h
    cases hp : (L.nodes j).parent with
    | none =>
      obtain rfl : [j] = c := by simpa [hp] using h
      rw [route_cons, route_nil]
      split_ifs <;> rfl
    | some p =>
      obtain ⟨c', hc', rfl⟩ := Option.map_eq_some'.mp (by simpa [hp] using h)
      simp only [route_cons, ih hc']
      split_ifs <;> rfl

/-- **`log_message` is `route`, with the record.**  Where the chain of parents from `j` fits in
`fuel`, `log_message(lv, msg)` at `j` writes `Record(j's name, lv, msg)` to the sinks `route`
gives on that chain. -/
theorem logMessage_of_chain {fuel j : Nat} {c : List Nat} (h : L.chain fuel j = some c)
    (lv : Level) (msg : List Char) :
    L.logMessage k streams fuel j lv msg =
      some ((L.route k streams c lv).map (·, ⟨(L.nodes j).name, lv, msg⟩)) := by
  obtain ⟨c', rfl⟩ := chain_head h
  rw [logMessage, level_of_chain h, Option.some_bind, logRecord_of_chain h, route_cons]
  split_ifs <;> rfl

/-- `vlog`'s own test repeats `log_message`'s. -/
theorem vlog_eq_logMessage (fuel j : Nat) (lv : Level) (msg : List Char) :
    L.vlog k streams fuel j lv msg = L.logMessage k streams fuel j lv msg := by
  unfold vlog logMessage
  cases L.level fuel j with
  | none => rfl
  | some eff => by_cases h : lv.code k < eff.code k <;> simp [h]

/-! ## §4. `write_record`. -/

/-- `Logger::write_record(os, record)`: the line written to `os`, `stamp` being the time in
`ss.str()` ("%Y-%m-%d %H:%M:%S" and the milliseconds); `std::endl` ends it. -/
def writeRecord (stamp : List Char) (record : Record) : List Char :=
  if record.name.isEmpty then
    stamp ++ " [".toList ++ levelName record.level ++ "] ".toList ++ record.msg ++ ['\n']
  else
    stamp ++ " [".toList ++ record.name ++ "] [".toList ++ levelName record.level ++
      "] ".toList ++ record.msg ++ ['\n']

/-- The level a printed name stands for. -/
def levelOfName (s : List Char) : Option Level :=
  [Level.debug, .info, .warn, .error, .fatal, .unknown].find? fun l => levelName l == s

/-- The text up to the first `]`, and what follows the `"] "` there. -/
def bracketed (s : List Char) : Option (List Char × List Char) :=
  match s.drop (s.takeWhile (· ≠ ']')).length with
  | ']' :: ' ' :: rest => some (s.takeWhile (· ≠ ']'), rest)
  | _ => none

/-- A `"[LEVEL] "` tag, and what follows it. -/
def readLevelTag : List Char → Option (Level × List Char)
  | '[' :: rest => (bracketed rest).bind fun p => (levelOfName p.1).map (·, p.2)
  | _ => none

/-- A reader of `write_record`'s lines, the time taking their first `n` characters: after
`" ["`, the text up to `"] "` is the logger's name when a level tag follows it, and otherwise
the level of a logger without a name; the line's last character is `std::endl`'s. -/
def readRecordLine (n : Nat) (line : List Char) : Option (List Char × Record) :=
  match line.drop n with
  | ' ' :: '[' :: rest =>
    (bracketed rest).bind fun p =>
      match readLevelTag p.2 with
      | some (lv, msg) => some (line.take n, ⟨p.1, lv, msg.dropLast⟩)
      | none => (levelOfName p.1).map fun lv => (line.take n, ⟨[], lv, p.2.dropLast⟩)
  | _ => none

theorem levelName_bracket (l : Level) : ']' ∉ levelName l := by cases l <;> decide

@[simp] theorem levelOfName_levelName (l : Level) : levelOfName (levelName l) = some l := by
  cases l <;> rfl

theorem bracketed_append {x : List Char} (hx : ']' ∉ x) (rest : List Char) :
    bracketed (x ++ ']' :: ' ' :: rest) = some (x, rest) := by
  have hall : ∀ a ∈ x, decide (a ≠ ']') = true := fun a ha =>
    decide_eq_true fun h => hx (h ▸ ha)
  have ht : (x ++ ']' :: ' ' :: rest).takeWhile (· ≠ ']') = x := by
    rw [List.takeWhile_append_of_pos hall]
    simp
  unfold bracketed
  rw [ht, List.drop_left]
  rfl

/-- The line, with the name's brackets only when there is a name. -/
theorem writeRecord_eq (stamp : List Char) (record : Record) :
    writeRecord stamp record = stamp ++ ' ' :: '[' ::
      if record.name.isEmpty then levelName record.level ++ ']' :: ' ' :: (record.msg ++ ['\n'])
      else record.name ++ ']' :: ' ' ::
        ('[' :: levelName record.level ++ ']' :: ' ' :: (record.msg ++ ['\n'])) := by
  unfold writeRecord
  split <;> simp

theorem readLevelTag_levelName (l : Level) (msg : List Char) :
    readLevelTag ('[' :: levelName l ++ ']' :: ' ' :: msg) = some (l, msg) := by
  simp [readLevelTag, bracketed_append (levelName_bracket l)]

theorem readLevelTag_eq_none {s : List Char} (h : s.head? ≠ some '[') : readLevelTag s = none := by
  unfold readLevelTag
  split
  · exact absurd rfl h
  · rfl

/-- **`write_record`'s lines read back.**  Whatever the time, a line `write_record` writes gives
back its record, when the logger's name holds no `]` and, for a logger without a name, the
message does not start with `[`.  The second condition cannot go: the line of a logger without a
name whose message starts with a level tag is, character for character, the line of a logger
named after its level. -/
theorem write_record_reads_back (stamp : List Char) :
    (∀ record : Record, ']' ∉ record.name → (record.name = [] → record.msg.head? ≠ some '[') →
      readRecordLine stamp.length (writeRecord stamp record) = some (stamp, record)) ∧
    ∀ (l l' : Level) (msg : List Char),
      writeRecord stamp ⟨[], l, '[' :: levelName l' ++ ']' :: ' ' :: msg⟩ =
        writeRecord stamp ⟨levelName l, l', msg⟩ := by
  refine ⟨fun ⟨name, lv, msg⟩ hname hmsg => ?_, fun l l' msg => ?_⟩
  · rw [writeRecord_eq]
    simp only [readRecordLine, List.drop_left, List.take_left]
    cases name with
    | nil =>
      have hhead : (msg ++ ['\n']).head? ≠ some '[' := by cases msg <;> simp_all
      simp only [List.isEmpty_nil, if_true, bracketed_append (levelName_bracket lv),
        Option.some_bind, readLevelTag_eq_none hhead, levelOfName_levelName, Option.map_some',
        List.dropLast_concat]
    | cons c cs =>
      simp only [List.isEmpty_cons, Bool.false_eq_true, if_false, bracketed_append hname,
        Option.some_bind, readLevelTag_levelName, List.dropLast_concat]
  · have hne : (levelName l).isEmpty = false := by cases l <;> rfl
    simp [writeRecord, hne]

/-- The line of logger "transport" at `INFO` with the message "open" reads back. -/
theorem write_record_line_of_transport_reads_back :
    readRecordLine "t00".toList.length
        (writeRecord "t00".toList ⟨"transport".toList, .info, "open".toList⟩) =
      some ("t00".toList, ⟨"transport".toList, .info, "open".toList⟩) :=
  (write_record_reads_back "t00".toList).1 _ (by decide) (by decide)

end Loggers

end Transport
