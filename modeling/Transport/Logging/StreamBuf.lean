import Mathlib.Data.List.Basic

/-
  Transport.Logging.StreamBuf — `LoggerStreamBuf`, the line splitter behind `logger[level] << ...`.

  The buffer has no put area, so every character reaches it through one of two members:

      overflow(c)      a newline calls flush_line(); any other character is appended
      xsputn(s, n)     for each newline at i: _lineBuffer.append(s + lineStart, i - lineStart + 1),
                       flush_line(), lineStart = i + 1; then the rest after the last newline
      flush_line()     a non-empty _lineBuffer goes to _logger.log_message(_level, ...), then clear
      sync()           return 0

  (`operator<<` on a string or a character reaches `xsputn`; `std::endl` puts its newline
  through `overflow` and then calls `sync`.)  The run `xsputn` appends to `_lineBuffer` includes the
  newline it stops at, so a line ended inside `xsputn` is logged with its newline, and is logged
  even when empty; a newline through `overflow` is dropped, and so is an empty line.

  The model reads `xsputn`'s loop as it is written, then shows it treats its characters one at a
  time.  The buffer then runs as a machine over the text, each character tagged with the member
  it came through, and its output is read against the text's pieces between newlines
  (`List.splitOn`).

  Main results:
    * `xsputn_eq_foldl` — `xsputn` is its characters, one at a time.
    * `stream_buf_splits_lines` — after any writes, `_lineBuffer` is the text after the last
      newline, and the messages are the lines in order, each as the member that ended it logs it.
    * `overflow_newlines_log_nonempty_lines` — when every newline comes through `overflow`, the
      messages are exactly the non-empty lines.
    * `xsputn_keeps_newlines` — the two members log the same text differently.
-/

namespace Transport

/-! ## §1. The buffer and its members. -/

/-- A `LoggerStreamBuf`: `_lineBuffer`, and the messages it passed to `_logger.log_message`, in
order (all with the buffer's one `_level`). -/
structure LoggerStreamBuf where
  lineBuffer : List Char
  logged : List (List Char)
  deriving DecidableEq, Repr

namespace LoggerStreamBuf

/-- `LoggerStreamBuf(logger, level)`: an empty `_lineBuffer`. -/
def empty : LoggerStreamBuf := ⟨[], []⟩

/-- `flush_line()`: a non-empty `_lineBuffer` is logged and cleared. -/
def flushLine (b : LoggerStreamBuf) : LoggerStreamBuf :=
  if b.lineBuffer.isEmpty then b else ⟨[], b.logged ++ [b.lineBuffer]⟩

/-- `overflow(c)`, `none` being `EOF`: a newline flushes the line, any other character is
appended. -/
def overflow (b : LoggerStreamBuf) : Option Char → LoggerStreamBuf
  | none => b
  | some c => if c = '\n' then b.flushLine else { b with lineBuffer := b.lineBuffer ++ [c] }

/-- The `for` loop of `xsputn(s, n)` at index `i`, `rest` being `s` from `i` on: at a newline,
`_lineBuffer.append(s + lineStart, i - lineStart + 1)`, `flush_line()`, `lineStart = i + 1`.  It
returns the buffer and `lineStart`. -/
def xsputnLoop (s : List Char) : List Char → Nat → Nat → LoggerStreamBuf → LoggerStreamBuf × Nat
  | [], _, lineStart, b => (b, lineStart)
  | c :: rest, i, lineStart, b =>
    if c = '\n' then
      xsputnLoop s rest (i + 1) (i + 1)
        { b with lineBuffer := b.lineBuffer ++ ((s.drop lineStart).take (i - lineStart + 1)) }.flushLine
    else xsputnLoop s rest (i + 1) lineStart b

/-- The end of `xsputn`: `if (lineStart < n) _lineBuffer.append(s + lineStart, n - lineStart)`. -/
def xsputnRest (s : List Char) : LoggerStreamBuf × Nat → LoggerStreamBuf
  | (b, lineStart) =>
    if lineStart < s.length then { b with lineBuffer := b.lineBuffer ++ s.drop lineStart } else b

/-- `xsputn(s, n)`. -/
def xsputn (b : LoggerStreamBuf) (s : List Char) : LoggerStreamBuf :=
  xsputnRest s (xsputnLoop s s 0 0 b)

end LoggerStreamBuf

/-- A call the stream makes on the buffer: `overflow(c)`, `xsputn(s, n)` or `sync()`. -/
inductive BufWrite where
  | overflow (c : Option Char)
  | xsputn (s : List Char)
  | sync
  deriving DecidableEq, Repr

namespace LoggerStreamBuf

/-- One call. -/
def put (b : LoggerStreamBuf) : BufWrite → LoggerStreamBuf
  | .overflow c => b.overflow c
  | .xsputn s => b.xsputn s
  | .sync => b

/-- The calls of a sequence, in order. -/
def run (b : LoggerStreamBuf) (ws : List BufWrite) : LoggerStreamBuf := ws.foldl put b

/-! ## §2. One character at a time. -/

/-- One character as the buffer treats it, `viaRun` telling whether it came through `xsputn`:
a newline ends the line — with the newline kept when it came through `xsputn` — and any other
character is appended. -/
def putChar (b : LoggerStreamBuf) : Char × Bool → LoggerStreamBuf
  | (c, viaRun) =>
    if c = '\n' then
      (if viaRun then { b with lineBuffer := b.lineBuffer ++ ['\n'] } else b).flushLine
    else { b with lineBuffer := b.lineBuffer ++ [c] }

/-- The loop of `xsputn` at index `i`, its part `[lineStart, i)` not yet appended: what is left
of the call is the rest of `s`, one character at a time, from the buffer with that part
appended. -/
theorem xsputnRest_loop (s : List Char) (rest : List Char) (i lineStart : Nat)
    (b : LoggerStreamBuf) (hrest : s.drop i = rest) (hle : lineStart ≤ i) :
    xsputnRest s (xsputnLoop s rest i lineStart b) = (rest.map (·, true)).foldl putChar
      { b with lineBuffer := b.lineBuffer ++ (s.drop lineStart).take (i - lineStart) } := by
  induction rest generalizing i lineStart b with
  | nil =>
    have hi : s.length ≤ i := List.drop_eq_nil_iff.mp hrest
    have htake : (s.drop lineStart).take (i - lineStart) = s.drop lineStart :=
      List.take_of_length_le (by simp; omega)
    simp only [xsputnLoop, xsputnRest, List.map_nil, List.foldl_nil, htake]
    split
    · rfl
    · simp [List.drop_eq_nil_of_le (show s.length ≤ lineStart by omega)]
  | cons c rest ih =>
    have hc : s[i]? = some c := by rw [← List.head?_drop, hrest]; rfl
    have hnext : (s.drop lineStart).take (i - lineStart + 1) =
        (s.drop lineStart).take (i - lineStart) ++ [c] := by
      rw [List.take_succ, List.getElem?_drop, Nat.add_sub_cancel' hle, hc]; rfl
    have hdrop : s.drop (i + 1) = rest := by
      rw [← List.drop_drop, hrest, List.drop_one, List.tail_cons]
    simp only [xsputnLoop, List.map_cons, List.foldl_cons, putChar]
    split
    · rename_i hnl
      subst hnl
      rw [ih (i + 1) (i + 1) _ hdrop le_rfl]
      simp only [Nat.sub_self, List.take_zero, List.append_nil, hnext, ↓reduceIte,
        List.append_assoc]
    · rw [ih (i + 1) lineStart b hdrop (by omega), show i + 1 - lineStart = i - lineStart + 1 by
        omega, hnext]
      simp [List.append_assoc]

/-- **`xsputn` is its characters, one at a time.** -/
theorem xsputn_eq_foldl (b : LoggerStreamBuf) (s : List Char) :
    b.xsputn s = (s.map (·, true)).foldl putChar b := by
  simpa using xsputnRest_loop s s 0 0 b rfl le_rfl

end LoggerStreamBuf

/-- The characters a call delivers, each tagged with whether it came through `xsputn`. -/
def BufWrite.chars : BufWrite → List (Char × Bool)
  | .overflow (some c) => [(c, false)]
  | .overflow none => []
  | .xsputn s => s.map (·, true)
  | .sync => []

/-- The text a call delivers. -/
def BufWrite.text (w : BufWrite) : List Char := w.chars.map Prod.fst

/-- Whether a call is an `xsputn` run holding a newline. -/
def BufWrite.runsNewline : BufWrite → Bool
  | .xsputn s => s.contains '\n'
  | _ => false

namespace LoggerStreamBuf

/-- Each call is its characters, one at a time. -/
theorem put_eq_foldl (b : LoggerStreamBuf) (w : BufWrite) : b.put w = w.chars.foldl putChar b := by
  cases w with
  | overflow c => cases c <;> simp [put, overflow, BufWrite.chars, putChar]
  | xsputn s => exact xsputn_eq_foldl b s
  | sync => rfl

/-- A sequence of calls is the characters of all of them, one at a time. -/
theorem run_eq_foldl (b : LoggerStreamBuf) (ws : List BufWrite) :
    b.run ws = (ws.flatMap BufWrite.chars).foldl putChar b := by
  induction ws generalizing b with
  | nil => rfl
  | cons w ws ih =>
    show run (b.put w) ws = _
    rw [ih, put_eq_foldl, List.flatMap_cons, List.foldl_append]

/-! ## §3. The lines of the text. -/

/-- How a line is logged, by the member its newline came through: with the newline through
`xsputn`, and only when non-empty through `overflow`. -/
def lineMessage : List Char × Bool → List (List Char)
  | (line, true) => [line ++ ['\n']]
  | (line, false) => if line = [] then [] else [line]

/-- Which member each newline of a tagged text came through, in order. -/
def newlineTags (u : List (Char × Bool)) : List Bool :=
  (u.filter fun x => x.1 == '\n').map Prod.snd

/-- A newline logs the line before it, as `lineMessage` says, and empties `_lineBuffer`. -/
theorem putChar_newline (b : LoggerStreamBuf) (viaRun : Bool) :
    b.putChar ('\n', viaRun) = ⟨[], b.logged ++ lineMessage (b.lineBuffer, viaRun)⟩ := by
  rcases b with ⟨_ | ⟨c, line⟩, logged⟩ <;> cases viaRun <;>
    simp [putChar, flushLine, lineMessage]

/-- A text ended by a newline-free `line` splits into that line and the pieces after it. -/
theorem splitOn_newline {line : List Char} (hline : '\n' ∉ line) (t : List Char) :
    (line ++ '\n' :: t).splitOn '\n' = line :: t.splitOn '\n' :=
  List.splitOnP_first _ _ (fun x hx h => hline (by rwa [beq_iff_eq.mp h] at hx)) _ (by simp) _

/-- **One character at a time.** From a `_lineBuffer` without a newline, the characters of a
tagged text leave in `_lineBuffer` the last piece of the buffered text and the text between
newlines, and log each earlier piece as the member of its newline says. -/
theorem foldl_putChar (u : List (Char × Bool)) (b : LoggerStreamBuf)
    (hb : '\n' ∉ b.lineBuffer) :
    ((b.lineBuffer ++ u.map Prod.fst).splitOn '\n').getLast? = some (u.foldl putChar b).lineBuffer ∧
    (u.foldl putChar b).logged = b.logged ++
      (((b.lineBuffer ++ u.map Prod.fst).splitOn '\n').dropLast.zip (newlineTags u)).flatMap
        lineMessage := by
  induction u generalizing b with
  | nil =>
    have hsingle : b.lineBuffer.splitOn '\n' = [b.lineBuffer] :=
      List.splitOnP_eq_single _ _ (fun x hx h => hb (by rwa [beq_iff_eq.mp h] at hx))
    simp [hsingle, newlineTags]
  | cons x u ih =>
    obtain ⟨c, viaRun⟩ := x
    by_cases hc : c = '\n'
    · subst hc
      obtain ⟨hlast, hlogged⟩ := ih ⟨[], b.logged ++ lineMessage (b.lineBuffer, viaRun)⟩ (by simp)
      obtain ⟨p, ps, hps⟩ := List.exists_cons_of_ne_nil
        (List.splitOnP_ne_nil (· == '\n') (u.map Prod.fst))
      have htags : newlineTags (('\n', viaRun) :: u) = viaRun :: newlineTags u := by
        simp [newlineTags]
      simp only [List.map_cons, List.foldl_cons, putChar_newline]
      rw [splitOn_newline hb, htags]
      simp only [List.nil_append, List.splitOn, hps, List.getLast?_cons_cons, List.dropLast_cons₂,
        List.zip_cons_cons, List.flatMap_cons] at hlast hlogged ⊢
      exact ⟨hlast, by rw [hlogged, List.append_assoc]⟩
    · have hb' : '\n' ∉ b.lineBuffer ++ [c] := by simp [hb, Ne.symm hc]
      obtain ⟨hlast, hlogged⟩ := ih { b with lineBuffer := b.lineBuffer ++ [c] } hb'
      have htags : newlineTags ((c, viaRun) :: u) = newlineTags u := by
        simp [newlineTags, hc]
      simp only [List.map_cons, List.foldl_cons, putChar, hc, ↓reduceIte, htags]
      simp only [List.append_assoc, List.singleton_append] at hlast hlogged
      exact ⟨hlast, hlogged⟩

/-- `splitOnP` cuts a list into one piece more than it has separators. -/
theorem length_splitOnP {α : Type} (p : α → Bool) (xs : List α) :
    (xs.splitOnP p).length = (xs.filter p).length + 1 := by
  induction xs with
  | nil => rfl
  | cons x xs ih => rw [List.splitOnP_cons, List.filter_cons]; split <;> simp [ih]

/-- Lines whose newlines all came through `overflow` are logged when non-empty, as they are. -/
theorem flatMap_lineMessage_overflow {ls : List (List Char)} {ts : List Bool}
    (hlen : ts.length = ls.length) (hts : ∀ t ∈ ts, t = false) :
    (ls.zip ts).flatMap lineMessage = ls.filter (· ≠ []) := by
  induction ls generalizing ts with
  | nil => simp
  | cons l ls ih =>
    obtain _ | ⟨t, ts⟩ := ts
    · simp at hlen
    · obtain rfl := hts t (List.mem_cons_self _ _)
      rw [List.zip_cons_cons, List.flatMap_cons, ih (by simpa using hlen)
        (fun t ht => hts t (List.mem_cons_of_mem _ ht))]
      by_cases hl : l = [] <;> simp [lineMessage, hl]

/-- The text of the calls is their tagged characters with the tags dropped. -/
theorem flatMap_text (ws : List BufWrite) :
    ws.flatMap BufWrite.text = (ws.flatMap BufWrite.chars).map Prod.fst := by
  rw [List.map_flatMap]; rfl

/-- Without a newline in an `xsputn` run, every newline came through `overflow`. -/
theorem newlineTags_of_runs {ws : List BufWrite} (h : ∀ w ∈ ws, w.runsNewline = false) :
    ∀ t ∈ newlineTags (ws.flatMap BufWrite.chars), t = false := by
  intro t ht
  simp only [newlineTags, List.mem_map, List.mem_filter, List.mem_flatMap, beq_iff_eq] at ht
  obtain ⟨⟨c, v⟩, ⟨⟨w, hw, hx⟩, hc⟩, rfl⟩ := ht
  have hrun := h w hw
  cases w with
  | overflow o => cases o <;> simp_all [BufWrite.chars]
  | xsputn s =>
    simp only [BufWrite.chars, List.mem_map, Prod.mk.injEq] at hx
    obtain ⟨c', hc', rfl, rfl⟩ := hx
    simp_all [BufWrite.runsNewline]
  | sync => simp [BufWrite.chars] at hx

end LoggerStreamBuf

open LoggerStreamBuf in
/-- **`_lineBuffer` and the messages, after any calls.**  From an empty buffer, whatever mix of
`overflow`, `xsputn` and `sync` calls delivers the text: `_lineBuffer` is the text after its
last newline (the last of its pieces between newlines), and the messages are the earlier
pieces — the lines — in order, each logged as the member that delivered its newline says: with
the newline through `xsputn`, and only when non-empty through `overflow`. -/
theorem stream_buf_splits_lines (ws : List BufWrite) :
    ((ws.flatMap BufWrite.text).splitOn '\n').getLast? = some (empty.run ws).lineBuffer ∧
    (empty.run ws).logged =
      (((ws.flatMap BufWrite.text).splitOn '\n').dropLast.zip
        (newlineTags (ws.flatMap BufWrite.chars))).flatMap lineMessage := by
  rw [run_eq_foldl, flatMap_text]
  exact foldl_putChar _ empty (List.not_mem_nil _)

open LoggerStreamBuf in
/-- **Newlines through `overflow` log the non-empty lines.**  When no `xsputn` run holds a
newline — as with `logger[level] << ... << std::endl` — the messages are exactly the non-empty
lines of the text, split at its newlines and without them, in order, and `_lineBuffer` holds the
text after the last newline. -/
theorem overflow_newlines_log_nonempty_lines (ws : List BufWrite)
    (h : ∀ w ∈ ws, w.runsNewline = false) :
    ((ws.flatMap BufWrite.text).splitOn '\n').getLast? = some (empty.run ws).lineBuffer ∧
    (empty.run ws).logged = ((ws.flatMap BufWrite.text).splitOn '\n').dropLast.filter (· ≠ []) := by
  rw [run_eq_foldl, flatMap_text]
  obtain ⟨hlast, hlogged⟩ := foldl_putChar (ws.flatMap BufWrite.chars) empty (List.not_mem_nil _)
  simp only [empty, List.nil_append] at hlast hlogged
  refine ⟨hlast, hlogged.trans (flatMap_lineMessage_overflow ?_ (newlineTags_of_runs h))⟩
  simp [newlineTags, List.splitOn, length_splitOnP, List.filter_map, Function.comp_def]

/-- `logger[level] << "hi" << std::endl`: a run, the newline through `overflow`, then `sync`. -/
def endlWrites : List BufWrite := [.xsputn ['h', 'i'], .overflow (some '\n'), .sync]

/-- After `endlWrites`, "hi" is logged and `_lineBuffer` is empty. -/
theorem endl_logs_the_line :
    ((endlWrites.flatMap BufWrite.text).splitOn '\n').getLast? =
        some (LoggerStreamBuf.empty.run endlWrites).lineBuffer ∧
      (LoggerStreamBuf.empty.run endlWrites).logged =
        ((endlWrites.flatMap BufWrite.text).splitOn '\n').dropLast.filter (· ≠ []) :=
  overflow_newlines_log_nonempty_lines endlWrites (by decide)

/-- **The two members log one text differently.**  "a" and a newline through `xsputn` log
"a" with its newline; through two `overflow` calls they log "a".  A newline alone through
`xsputn` logs a message holding just the newline. -/
theorem xsputn_keeps_newlines :
    (LoggerStreamBuf.empty.run [.xsputn ['a', '\n']]).logged = [['a', '\n']] ∧
    (LoggerStreamBuf.empty.run [.overflow (some 'a'), .overflow (some '\n')]).logged = [['a']] ∧
    (LoggerStreamBuf.empty.run [.xsputn ['\n']]).logged = [['\n']] := by
  decide

end Transport
