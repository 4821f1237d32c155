import Transport.Send.Dispatch

/-
  Transport.Send.Serial — the serial send worker, write loop included, against `close()`.

      while (!this->is_closed) {
          auto frame_pair = this->send_que.Pop();
          ...                                    -- Transport.Send.Dispatch: drop, skip or write
          size_t remaining_size = P::frame_size(frame);
          size_t offset = 0;
          while (remaining_size > 0) {
              auto written_size = write(tty_id, frame_data + offset, remaining_size);
              if (written_size < 0) logger.error(...);
              else { remaining_size -= written_size; offset += written_size; }
          }
      }

  The worker's steps are its loop test, its `Pop` returning an item (any item: `send()` pushes
  freely) or raising `QueueCleared` (only once `close()` has cleared the queue, which it does
  after setting `is_closed`), and one pass of the inner loop per `write()`.  A `write()` result is
  free: an error, or a count no larger than the bytes asked for, as write(2) never reports more.
  `close()` on another thread sets `is_closed`; it also closes `tty_id`, which only makes later
  writes fail.  A ghost field records the frames the worker took for writing, and `line` the
  bytes each `write()` accepted, in order.

  The inner loop tests `remaining_size` alone.  Accepted bytes are the only way out of it: a
  worker whose writes keep failing stays in it, closed or not, and never reaches the outer test.

  Main results:
    * `SerialInv.step` — each step keeps the line equal to the frames taken, the last one in
      part while it is being written.
    * `serial_line_carries_taken_frames` — so in every reachable state the line holds each taken
      frame once, in order, and a frame being written has exactly its first `offset` bytes there.
    * `closed_worker_spins_on_failed_writes` — a closed worker inside the write loop stays there
      for as long as `write()` fails.
-/

namespace Transport

/-! ## §1. State and steps. -/

/-- What `write(tty_id, ..., remaining_size)` returned: a negative value, or the count written. -/
inductive WriteResult where
  | error
  | wrote (n : Nat)
  deriving DecidableEq, Repr

/-- Where the serial send worker is: at its loop test, in `Pop`, in the write loop on `frame`
with `remaining_size` and `offset`, or out of its thread. -/
inductive SerialPc where
  | test
  | pop
  | writing (frame : List UInt8) (remaining offset : Nat)
  | exited
  deriving DecidableEq, Repr

/-- The worker of serial transport `self`: `is_closed`, its place, and the ghost record of the
frames it took and of the bytes the line accepted. -/
structure SerialWorker where
  self : Nat
  isClosed : Bool
  pc : SerialPc
  taken : List (List UInt8)
  line : List UInt8
  deriving DecidableEq, Repr

/-- A step: another thread's `close()`, the loop test, `Pop` returning an item or raising
`QueueCleared`, or one `write()`. -/
inductive SerialEvent where
  | close
  | test
  | pop (item : List UInt8 × Option Token)
  | cleared
  | write (r : WriteResult)
  deriving DecidableEq

namespace SerialWorker

/-- The worker as `open()` starts it. -/
def init (self : Nat) : SerialWorker := ⟨self, false, .test, [], []⟩

/-- One pass of `while (remaining_size > 0)` whose `write()` returned `r`, with the loop test
that follows: nothing left sends the worker back to its outer test. -/
def writeStep (w : SerialWorker) (frame : List UInt8) (remaining offset : Nat) :
    WriteResult → Option SerialWorker
  | .error => some w
  | .wrote n =>
    if n ≤ remaining then
      some { w with
        pc := if remaining - n = 0 then .test else .writing frame (remaining - n) (offset + n)
        line := w.line ++ (frame.drop offset).take n }
    else none

/-- One step; `none` when it is not enabled. -/
def step (w : SerialWorker) : SerialEvent → Option SerialWorker
  | .close => some { w with isClosed := true }
  | .test =>
    match w.pc with
    | .test => some { w with pc := if w.isClosed then .exited else .pop }
    | _ => none
  | .pop item =>
    match w.pc with
    | .pop =>
      match serialSendTarget w.self item with
      | none => some { w with pc := .test }
      | some _ => some { w with pc := .writing item.1 item.1.length 0, taken := w.taken ++ [item.1] }
    | _ => none
  | .cleared =>
    match w.pc with
    | .pop => if w.isClosed then some { w with pc := .exited } else none
    | _ => none
  | .write r =>
    match w.pc with
    | .writing frame remaining offset => w.writeStep frame remaining offset r
    | _ => none

/-- The steps of a trace, in order. -/
def run (w : SerialWorker) : List SerialEvent → Option SerialWorker
  | [] => some w
  | e :: es => (w.step e).bind (·.run es)

end SerialWorker

/-- The states of every run of the worker of transport `self`. -/
inductive SerialReachable (self : Nat) : SerialWorker → Prop
  | init : SerialReachable self (.init self)
  | step {w w' : SerialWorker} (e : SerialEvent) :
      SerialReachable self w → w.step e = some w' → SerialReachable self w'

namespace SerialWorker

variable {w w' : SerialWorker}

theorem reachable_run {self : Nat} {es : List SerialEvent} (hw : SerialReachable self w)
    (h : w.run es = some w') : SerialReachable self w' := by
  induction es generalizing w with
  | nil => cases h; exact hw
  | cons e es ih =>
    simp only [run, Option.bind_eq_some] at h
    obtain ⟨w₁, h₁, h⟩ := h
    exact ih (.step e hw h₁) h

/-! ## §2. What a step can do. -/

/-- A step outside the write loop moves only `pc`, `is_closed`, or (taking a frame) `taken`;
a pass of the write loop on `frame` appends the next accepted bytes to the line. -/
theorem step_cases {e : SerialEvent} (h : w.step e = some w') :
    (w' = { w with isClosed := true }) ∨
    (w.pc = .test ∧ w' = { w with pc := if w.isClosed then .exited else .pop }) ∨
    (w.pc = .pop ∧ w' = { w with pc := .test }) ∨
    (∃ frame : List UInt8, w.pc = .pop ∧ frame ≠ [] ∧
      w' = { w with pc := .writing frame frame.length 0, taken := w.taken ++ [frame] }) ∨
    (w.pc = .pop ∧ w' = { w with pc := .exited }) ∨
    (∃ frame remaining offset, w.pc = .writing frame remaining offset ∧
      (w' = w ∨ ∃ n, n ≤ remaining ∧ w' = { w with
        pc := if remaining - n = 0 then .test else .writing frame (remaining - n) (offset + n)
        line := w.line ++ (frame.drop offset).take n })) := by
  cases e with
  | close => exact .inl (Option.some.inj h).symm
  | test =>
    cases hpc : w.pc <;> simp [step, hpc] at h
    exact .inr (.inl ⟨rfl, h.symm⟩)
  | pop item =>
    cases hpc : w.pc <;> simp only [step, hpc, reduceCtorEq] at h
    cases ht : serialSendTarget w.self item <;> simp only [ht, Option.some.injEq] at h
    · exact .inr (.inr (.inl ⟨rfl, h.symm⟩))
    · refine .inr (.inr (.inr (.inl ⟨item.1, rfl, fun he => ?_, h.symm⟩)))
      simp [serialSendTarget, he] at ht
  | cleared =>
    cases hpc : w.pc <;> simp [step, hpc] at h
    exact .inr (.inr (.inr (.inr (.inl ⟨rfl, h.2.symm⟩))))
  | write r =>
    cases hpc : w.pc <;> simp only [step, hpc, reduceCtorEq] at h
    refine .inr (.inr (.inr (.inr (.inr ⟨_, _, _, rfl, ?_⟩))))
    cases r with
    | error => exact .inl (Option.some.inj h).symm
    | wrote n =>
      simp only [writeStep] at h
      split at h
      · exact .inr ⟨n, ‹_›, (Option.some.inj h).symm⟩
      · cases h

/-! ## §3. The line carries the frames taken. -/

/-- Outside the write loop the line is the frames taken, one after another; inside it, on
`frame`, the line is the frames taken before it and the first `offset` bytes of `frame`, with
`remaining_size` the rest of `frame` and not zero. -/
def SerialInv (w : SerialWorker) : Prop :=
  match w.pc with
  | .writing frame remaining offset =>
    ∃ done, w.taken = done ++ [frame] ∧ w.line = done.flatten ++ frame.take offset ∧
      offset + remaining = frame.length ∧ 0 < remaining
  | _ => w.line = w.taken.flatten

/-- A pass of the write loop: the accepted bytes continue the frame where `offset` left it. -/
theorem SerialInv.write {done : List (List UInt8)} {frame : List UInt8} {remaining offset n : Nat}
    (htaken : w.taken = done ++ [frame]) (hline : w.line = done.flatten ++ frame.take offset)
    (hlen : offset + remaining = frame.length) (hn : n ≤ remaining) :
    SerialInv { w with
      pc := if remaining - n = 0 then .test else .writing frame (remaining - n) (offset + n)
      line := w.line ++ (frame.drop offset).take n } := by
  have hcat : w.line ++ (frame.drop offset).take n = done.flatten ++ frame.take (offset + n) := by
    rw [hline, List.append_assoc, List.take_add]
  by_cases h0 : remaining - n = 0
  · have hall : frame.take (offset + n) = frame := List.take_of_length_le (by omega)
    simp only [SerialInv, h0, ↓reduceIte, hcat, hall, htaken, List.flatten_append,
      List.flatten_cons, List.flatten_nil, List.append_nil]
  · simp only [SerialInv, h0, ↓reduceIte]
    exact ⟨done, htaken, hcat, by omega, by omega⟩

/-- **One step.** Every step keeps the line equal to the frames taken. -/
theorem SerialInv.step {e : SerialEvent} (hi : SerialInv w) (h : w.step e = some w') :
    SerialInv w' := by
  rcases step_cases h with rfl | ⟨hpc, rfl⟩ | ⟨hpc, rfl⟩ | ⟨frame, hpc, hne, rfl⟩ | ⟨hpc, rfl⟩ |
    ⟨frame, remaining, offset, hpc, rfl | ⟨n, hn, rfl⟩⟩
  · exact hi
  · simp only [SerialInv, hpc] at hi
    split <;> simpa [SerialInv] using hi
  · simpa [SerialInv, hpc] using hi
  · simp only [SerialInv, hpc] at hi
    simp only [SerialInv]
    exact ⟨w.taken, rfl, by simp [hi], by simp, List.length_pos.mpr hne⟩
  · simpa [SerialInv, hpc] using hi
  · exact hi
  · simp only [SerialInv, hpc] at hi
    obtain ⟨done, htaken, hline, hlen, -⟩ := hi
    exact SerialInv.write htaken hline hlen hn

end SerialWorker

theorem SerialReachable.serialInv {self : Nat} {w : SerialWorker} (h : SerialReachable self w) :
    SerialWorker.SerialInv w := by
  induction h with
  | init => rfl
  | step _ _ hs ih => exact ih.step hs

/-- **The line carries the frames taken.**  In every reachable state of the serial worker,
whatever `write()` returned and whenever `close()` ran, the line holds the frames the worker
took, each once and in order: outside the write loop all of them; inside it, on `frame`, the
earlier ones and then the first `offset` bytes of `frame`, with `remaining_size` the rest. -/
theorem serial_line_carries_taken_frames {self : Nat} {w : SerialWorker}
    (h : SerialReachable self w) :
    (∀ frame remaining offset, w.pc = .writing frame remaining offset →
      ∃ done, w.taken = done ++ [frame] ∧ w.line = done.flatten ++ frame.take offset ∧
        offset + remaining = frame.length ∧ 0 < remaining) ∧
    ((∀ frame remaining offset, w.pc ≠ .writing frame remaining offset) →
      w.line = w.taken.flatten) := by
  have hi := h.serialInv
  refine ⟨fun frame remaining offset hpc => by simpa [SerialWorker.SerialInv, hpc] using hi,
    fun hpc => ?_⟩
  unfold SerialWorker.SerialInv at hi
  split at hi
  · exact absurd ‹_› (hpc _ _ _)
  · exact hi

/-! ## §4. Failed writes. -/

namespace SerialWorker

variable {w : SerialWorker} {frame : List UInt8} {remaining offset : Nat}

/-- A failed `write()` leaves the worker exactly where it was: the write loop never reads
`is_closed`. -/
theorem step_write_error (hpc : w.pc = .writing frame remaining offset) :
    w.step (.write .error) = some w := by
  simp [step, hpc, writeStep]

/-- However many `write()`s fail in a row, the worker stays where it was. -/
theorem run_write_errors (hpc : w.pc = .writing frame remaining offset) (n : Nat) :
    w.run (List.replicate n (.write .error)) = some w := by
  induction n with
  | zero => rfl
  | succ n ih => simp [List.replicate_succ, run, step_write_error hpc, ih]

/-- The worker of serial transport 0 takes the frame `[1, 2, 3]`, the line accepts one byte of
it, and `close()` runs. -/
def spinTrace : List SerialEvent := [.test, .pop ([1, 2, 3], none), .write (.wrote 1), .close]

end SerialWorker

/-- The worker after `spinTrace`, the run that reaches it, and the invariant's reading of it:
the line holds the first byte of the frame being written. -/
theorem line_carries_first_byte_after_spin_trace :
    (SerialWorker.init 0).run SerialWorker.spinTrace =
        some ⟨0, true, .writing [1, 2, 3] 2 1, [[1, 2, 3]], [1]⟩ ∧
      ((∀ frame remaining offset,
        (⟨0, true, .writing [1, 2, 3] 2 1, [[1, 2, 3]], [1]⟩ : SerialWorker).pc =
          .writing frame remaining offset →
        ∃ done, [[1, 2, 3]] = done ++ [frame] ∧ [1] = done.flatten ++ frame.take offset ∧
          offset + remaining = frame.length ∧ 0 < remaining) ∧
      ((∀ frame remaining offset,
        (⟨0, true, .writing [1, 2, 3] 2 1, [[1, 2, 3]], [1]⟩ : SerialWorker).pc ≠
          .writing frame remaining offset) → ([1] : List UInt8) = [[1, 2, 3]].flatten)) :=
  ⟨rfl, serial_line_carries_taken_frames (SerialWorker.reachable_run .init
    (show (SerialWorker.init 0).run SerialWorker.spinTrace = _ from rfl))⟩

/-- **A closed worker spins on failed writes.**  After `spinTrace` the worker is closed and in
the write loop with two bytes to go.  From there, however many `write()`s fail — as every one
does once `close()` has closed `tty_id` — it stays in that very state: it never gets back to its
`is_closed` test. -/
theorem closed_worker_spins_on_failed_writes :
    ∃ w, SerialReachable 0 w ∧ w.isClosed = true ∧ w.pc = .writing [1, 2, 3] 2 1 ∧
      ∀ n, w.run (List.replicate n (.write .error)) = some w :=
  ⟨⟨0, true, .writing [1, 2, 3] 2 1, [[1, 2, 3]], [1]⟩,
    SerialWorker.reachable_run .init (show (SerialWorker.init 0).run SerialWorker.spinTrace = _
      from rfl),
    rfl, rfl, SerialWorker.run_write_errors rfl⟩

end Transport
