import Transport.Queue.Epoch

/-
  Transport.Shutdown — `BaseTransport::close()` against the threads blocked on the queues.

      close()          is_closed = true; recv_que.Clear(); send_que.Clear();
      send worker      while (!this->is_closed) { send_que.Pop(); ... }
      receive()        ensure_open(): if (is_closed) throw ...;  then recv_que.Pop()

  The flag and the two `Clear`s are three steps of `close()`, and each thread's test of
  `is_closed` and its `Pop` are separate steps, the `Pop` itself running as in
  `Transport.Queue.Model` (one `DataQueue` for each queue, each `Pop` a fresh call of it).
  `send()` and the receive worker push at any moment: pushes are left free.

  A thread that passes its test before `close()` sets the flag, but reaches its `Pop` only after
  `close()` has cleared that queue, captures the epoch of that `Clear` and waits on it: the
  `Clear` that was to wake it is behind it.  Every thread that waits with its captured epoch
  current entered its `Pop` after the queue's last `Clear`, or 256 `Clear`s or more before it.

  Main results:
    * `ShutdownInv.step` — the two queues keep their epoch bookkeeping, and each completed
      `close()` has cleared both.
    * `close_strands_only_late_pops` — a thread left waiting on a current epoch entered its
      `Pop` after the queue's last `Clear` (or 256 `Clear`s before).
    * `close_can_strand_the_send_worker` — the send worker can be left waiting after `close()`.
-/

namespace Transport

/-! ## §1. Threads and `close()`. -/

/-- Where a thread is: the send worker's loop, a caller's `receive()`, or inside a `Pop`
(call `call` of `send_que` when `send`, of `recv_que` otherwise). -/
inductive ThreadPc where
  | idle
  | workerTest
  | workerPop
  | callerTest
  | callerPop
  | inPop (send : Bool) (call : Nat)
  | exited
  | returned
  | raised
  deriving DecidableEq, Repr

/-- Where `close()` is: not running, past `is_closed = true`, or past `recv_que.Clear()`. -/
inductive ClosePc where
  | idle
  | clearRecv
  | clearSend
  deriving DecidableEq, Repr

/-- `is_closed`, the two queues, the threads, `close()`, the number of completed `close()`
calls, and the next fresh `Pop` call. -/
structure ShutdownWorld (α : Type) where
  isClosed : Bool
  sendQue : DataQueue α
  recvQue : DataQueue α
  threads : Nat → ThreadPc
  closer : ClosePc
  closes : Nat
  nextCall : Nat

/-- A step: a thread starts as the send worker or as a caller of `receive()`, tests
`is_closed`, enters its `Pop`, or wakes in it; `send()` or the receive worker pushes; or
`close()` takes its next step. -/
inductive ShutdownStep (α : Type) where
  | startWorker (t : Nat)
  | startReceive (t : Nat)
  | test (t : Nat)
  | enter (t : Nat)
  | wake (t : Nat)
  | send (x : α)
  | deliver (x : α)
  | close
  deriving DecidableEq, Repr

/-- Where a thread goes when its `Pop` call is at `pc`: back to the loop test (the worker) or
out of `receive()` with the frame, out of the loop or raising on `QueueCleared`, or still
inside. -/
def afterPop {α : Type} (send : Bool) (call : Nat) : PopCall α → ThreadPc
  | .returned _ _ => if send then .workerTest else .returned
  | .cleared _ => if send then .exited else .raised
  | _ => .inPop send call

namespace ShutdownWorld

variable {α : Type}

/-- An open transport: no thread started, `close()` not called. -/
def init : ShutdownWorld α := ⟨false, .init, .init, fun _ => .idle, .idle, 0, 0⟩

/-- Thread `t` moves to `pc`. -/
def setThread (W : ShutdownWorld α) (t : Nat) (pc : ThreadPc) : ShutdownWorld α :=
  { W with threads := Function.update W.threads t pc }

/-- The queue `send_que` (when `send`) or `recv_que` replaced. -/
def setQue (W : ShutdownWorld α) (send : Bool) (q : DataQueue α) : ShutdownWorld α :=
  if send then { W with sendQue := q } else { W with recvQue := q }

/-- The queue a thread's `Pop` runs on. -/
def que (W : ShutdownWorld α) (send : Bool) : DataQueue α :=
  if send then W.sendQue else W.recvQue

/-- One step; `none` when it is not enabled. -/
def step (W : ShutdownWorld α) : ShutdownStep α → Option (ShutdownWorld α)
  | .startWorker t => if W.threads t = .idle then some (W.setThread t .workerTest) else none
  | .startReceive t => if W.threads t = .idle then some (W.setThread t .callerTest) else none
  | .test t =>
    match W.threads t with
    | .workerTest => some (W.setThread t (if W.isClosed then .exited else .workerPop))
    | .callerTest => some (W.setThread t (if W.isClosed then .raised else .callerPop))
    | _ => none
  | .enter t =>
    match W.threads t with
    | .workerPop => ((W.que true).step (.enter W.nextCall false)).map fun q =>
        { (W.setQue true q).setThread t (.inPop true W.nextCall) with nextCall := W.nextCall + 1 }
    | .callerPop => ((W.que false).step (.enter W.nextCall false)).map fun q =>
        { (W.setQue false q).setThread t (.inPop false W.nextCall) with
          nextCall := W.nextCall + 1 }
    | _ => none
  | .wake t =>
    match W.threads t with
    | .inPop send k => ((W.que send).step (.wake k)).map fun q =>
        (W.setQue send q).setThread t (afterPop send k (q.calls k))
    | _ => none
  | .send x => ((W.que true).step (.push x)).map (W.setQue true)
  | .deliver x => ((W.que false).step (.push x)).map (W.setQue false)
  | .close =>
    match W.closer with
    | .idle => some { W with isClosed := true, closer := .clearRecv }
    | .clearRecv => some { W.setQue false W.recvQue.clear with closer := .clearSend }
    | .clearSend =>
      some { W.setQue true W.sendQue.clear with closer := .idle, closes := W.closes + 1 }

/-- The steps of a trace, in order. -/
def run (W : ShutdownWorld α) : List (ShutdownStep α) → Option (ShutdownWorld α)
  | [] => some W
  | a :: as => (W.step a).bind (·.run as)

end ShutdownWorld

/-- The states of every interleaving. -/
inductive ShutdownReachable {α : Type} : ShutdownWorld α → Prop
  | init : ShutdownReachable .init
  | step {W W' : ShutdownWorld α} (a : ShutdownStep α) :
      ShutdownReachable W → W.step a = some W' → ShutdownReachable W'

namespace ShutdownWorld

variable {α : Type} {W W' : ShutdownWorld α}

@[simp] theorem setThread_sendQue (t : Nat) (pc : ThreadPc) :
    (W.setThread t pc).sendQue = W.sendQue := rfl
@[simp] theorem setThread_recvQue (t : Nat) (pc : ThreadPc) :
    (W.setThread t pc).recvQue = W.recvQue := rfl
@[simp] theorem setThread_closer (t : Nat) (pc : ThreadPc) :
    (W.setThread t pc).closer = W.closer := rfl
@[simp] theorem setThread_closes (t : Nat) (pc : ThreadPc) :
    (W.setThread t pc).closes = W.closes := rfl
@[simp] theorem setQue_closer (send : Bool) (q : DataQueue α) :
    (W.setQue send q).closer = W.closer := by unfold setQue; split <;> rfl
@[simp] theorem setQue_closes (send : Bool) (q : DataQueue α) :
    (W.setQue send q).closes = W.closes := by unfold setQue; split <;> rfl
@[simp] theorem setQue_sendQue (send : Bool) (q : DataQueue α) :
    (W.setQue send q).sendQue = if send then q else W.sendQue := by
  unfold setQue; split <;> rfl
@[simp] theorem setQue_recvQue (send : Bool) (q : DataQueue α) :
    (W.setQue send q).recvQue = if send then W.recvQue else q := by
  unfold setQue; split <;> rfl

/-- **What a step does to the queues.** It leaves them, runs one non-`Clear` step of one of
them, or is a step of `close()`. -/
theorem step_cases {a : ShutdownStep α} (h : W.step a = some W') :
    (W'.sendQue = W.sendQue ∧ W'.recvQue = W.recvQue ∧ W'.closer = W.closer ∧
      W'.closes = W.closes) ∨
    (∃ send b q, (W.que send).step b = some q ∧ b ≠ .clear ∧
      W'.sendQue = (W.setQue send q).sendQue ∧
      W'.recvQue = (W.setQue send q).recvQue ∧ W'.closer = W.closer ∧ W'.closes = W.closes) ∨
    (W.closer = .idle ∧ W' = { W with isClosed := true, closer := .clearRecv }) ∨
    (W.closer = .clearRecv ∧ W' = { W.setQue false W.recvQue.clear with closer := .clearSend }) ∨
    (W.closer = .clearSend ∧
      W' = { W.setQue true W.sendQue.clear with closer := .idle, closes := W.closes + 1 }) := by
  cases a with
  | startWorker t | startReceive t =>
    simp only [step] at h
    split at h
    · cases h; exact .inl ⟨rfl, rfl, rfl, rfl⟩
    · cases h
  | test t =>
    simp only [step] at h
    split at h <;> cases h <;> exact .inl ⟨rfl, rfl, rfl, rfl⟩
  | enter t =>
    simp only [step] at h
    split at h <;> try simp only [Option.map_eq_some'] at h
    · obtain ⟨q, hq, rfl⟩ := h
      exact .inr (.inl ⟨true, _, q, hq, by simp, rfl, rfl, by simp, by simp⟩)
    · obtain ⟨q, hq, rfl⟩ := h
      exact .inr (.inl ⟨false, _, q, hq, by simp, rfl, rfl, by simp, by simp⟩)
    · cases h
  | wake t =>
    simp only [step] at h
    split at h <;> try simp only [Option.map_eq_some'] at h
    · obtain ⟨q, hq, rfl⟩ := h
      exact .inr (.inl ⟨_, _, q, hq, by simp, rfl, rfl, by simp, by simp⟩)
    · cases h
  | send x | deliver x =>
    simp only [step, Option.map_eq_some'] at h
    obtain ⟨q, hq, rfl⟩ := h
    exact .inr (.inl ⟨_, _, q, hq, by simp, rfl, rfl, by simp, by simp⟩)
  | close =>
    simp only [step] at h
    split at h <;> cases h
    · exact .inr (.inr (.inl ⟨‹_›, rfl⟩))
    · exact .inr (.inr (.inr (.inl ⟨‹_›, rfl⟩)))
    · exact .inr (.inr (.inr (.inr ⟨‹_›, rfl⟩)))

theorem reachable_run {as : List (ShutdownStep α)} (hW : ShutdownReachable W)
    (h : W.run as = some W') : ShutdownReachable W' := by
  induction as generalizing W with
  | nil => cases h; exact hW
  | cons a as ih =>
    simp only [run, Option.bind_eq_some] at h
    obtain ⟨W₁, h₁, h⟩ := h
    exact ih (.step a hW h₁) h

/-- A trace from the start that ends in a state where `f` is `v`. -/
theorem reachable_of_run {β : Type} (as : List (ShutdownStep α)) (f : ShutdownWorld α → β)
    (v : β) (h : ((init : ShutdownWorld α).run as).map f = some v) :
    ∃ W, ShutdownReachable W ∧ f W = v := by
  cases hr : (init : ShutdownWorld α).run as with
  | none => simp [hr] at h
  | some W => exact ⟨W, reachable_run .init hr, by simpa [hr] using h⟩

end ShutdownWorld

/-! ## §2. The epochs through `close()`. -/

/-- Both queues keep their epoch bookkeeping, and the `Clear`s are those of `close()`: each
completed call cleared both queues, and a call past its first `Clear` has cleared `recv_que`
once more. -/
structure ShutdownInv {α : Type} (W : ShutdownWorld α) : Prop where
  send : EpochInv W.sendQue
  recv : EpochInv W.recvQue
  sendClears : W.sendQue.clears = W.closes
  recvClears : W.recvQue.clears = W.closes + if W.closer = .clearSend then 1 else 0

namespace ShutdownInv

open ShutdownWorld

variable {α : Type} {W W' : ShutdownWorld α}

theorem init : ShutdownInv (ShutdownWorld.init : ShutdownWorld α) :=
  ⟨.init, .init, rfl, rfl⟩

/-- **One step.** Every step keeps the bookkeeping. -/
theorem step (h : ShutdownInv W) {a : ShutdownStep α} (hs : W.step a = some W') :
    ShutdownInv W' := by
  rcases step_cases hs with ⟨h₁, h₂, h₃, h₄⟩ | ⟨send, b, q, hq, hb, h₁, h₂, h₃, h₄⟩ |
    ⟨hc, rfl⟩ | ⟨hc, rfl⟩ | ⟨hc, rfl⟩
  · exact ⟨h₁ ▸ h.send, h₂ ▸ h.recv, by rw [h₁, h₄, h.sendClears],
      by rw [h₂, h₃, h₄, h.recvClears]⟩
  · have hclears := DataQueue.step_clears hq hb
    cases send <;> simp only [setQue_sendQue, setQue_recvQue, Bool.false_eq_true, ↓reduceIte,
      que] at h₁ h₂ hq hclears
    · exact ⟨h₁ ▸ h.send, h₂ ▸ h.recv.step hq, by rw [h₁, h₄, h.sendClears],
        by rw [h₂, h₃, h₄, hclears, h.recvClears]⟩
    · exact ⟨h₁ ▸ h.send.step hq, h₂ ▸ h.recv, by rw [h₁, h₄, hclears, h.sendClears],
        by rw [h₂, h₃, h₄, h.recvClears]⟩
  · exact ⟨h.send, h.recv, h.sendClears, by simpa [hc] using h.recvClears⟩
  · refine ⟨by simpa using h.send, by simpa using h.recv.step (a := .clear) rfl,
      by simpa using h.sendClears, ?_⟩
    simp [h.recvClears, hc]
  · refine ⟨by simpa using h.send.step (a := .clear) rfl, by simpa using h.recv,
      by simp [h.sendClears], ?_⟩
    simp [h.recvClears, hc]

end ShutdownInv

theorem ShutdownReachable.shutdownInv {α : Type} {W : ShutdownWorld α}
    (h : ShutdownReachable W) : ShutdownInv W := by
  induction h with
  | init => exact .init
  | step _ _ hs ih => exact ih.step hs

/-- **Who `close()` leaves waiting.** In every state reachable by any interleaving, each
completed `close()` has cleared both queues, and a thread waiting in an untimed `Pop` with the
epoch it captured equal to its queue's current epoch entered that `Pop` after the queue's last
`Clear`, or 256 `Clear`s or more before it. -/
theorem close_strands_only_late_pops {α : Type} {W : ShutdownWorld α}
    (h : ShutdownReachable W) :
    W.closes ≤ W.sendQue.clears ∧ W.closes ≤ W.recvQue.clears ∧
    (∀ k e entry, W.sendQue.calls k = .waiting false e entry → e = W.sendQue.epoch →
      entry = W.sendQue.clears ∨ entry + 256 ≤ W.sendQue.clears) ∧
    (∀ k e entry, W.recvQue.calls k = .waiting false e entry → e = W.recvQue.epoch →
      entry = W.recvQue.clears ∨ entry + 256 ≤ W.recvQue.clears) := by
  have hi := h.shutdownInv
  exact ⟨hi.sendClears.ge, by rw [hi.recvClears]; exact Nat.le_add_right _ _,
    fun _ _ _ hc he => hi.send.waiting_current hc he,
    fun _ _ _ hc he => hi.recv.waiting_current hc he⟩

/-- The send worker passes its test, `close()` runs to its end, and the worker enters
`send_que.Pop()`. -/
def strandTrace : List (ShutdownStep Nat) :=
  [.startWorker 0, .test 0, .close, .close, .close, .enter 0]

/-- **`close()` can strand the send worker.** After `strandTrace`, `close()` has completed and
the send worker waits in an untimed `send_que.Pop()` on the current epoch. -/
theorem close_can_strand_the_send_worker :
    ∃ W : ShutdownWorld Nat, ShutdownReachable W ∧ W.closes = 1 ∧ W.closer = .idle ∧
      W.threads 0 = .inPop true 0 ∧ W.sendQue.calls 0 = .waiting false W.sendQue.epoch 1 := by
  obtain ⟨W, hW, he⟩ := ShutdownWorld.reachable_of_run strandTrace
    (fun W => (W.closes, W.closer, W.threads 0, W.sendQue.calls 0, W.sendQue.epoch))
    (1, .idle, .inPop true 0, .waiting false 1 1, 1) (by decide)
  simp only [Prod.mk.injEq] at he
  obtain ⟨h₁, h₂, h₃, h₄, h₅⟩ := he
  exact ⟨W, hW, h₁, h₂, h₃, by rw [h₄, h₅]⟩

/-- The state `strandTrace` ends in. -/
def strandedWorld : ShutdownWorld Nat :=
  ⟨true, ⟨[], 1, Function.update (fun _ => .idle) 0 (.waiting false 1 1), [], [], 1⟩,
    ⟨[], 1, fun _ => .idle, [], [], 1⟩,
    Function.update (Function.update (Function.update (fun _ => .idle) 0 .workerTest) 0
      .workerPop) 0 (.inPop true 0), .idle, 1, 1⟩

/-- In `strandedWorld` the stranded worker entered after the one `Clear` of `send_que`. -/
theorem strands_after_one_close :
    strandedWorld.closes ≤ strandedWorld.sendQue.clears ∧
      strandedWorld.closes ≤ strandedWorld.recvQue.clears ∧
    (∀ k e entry, strandedWorld.sendQue.calls k = .waiting false e entry →
      e = strandedWorld.sendQue.epoch →
      entry = strandedWorld.sendQue.clears ∨ entry + 256 ≤ strandedWorld.sendQue.clears) ∧
    (∀ k e entry, strandedWorld.recvQue.calls k = .waiting false e entry →
      e = strandedWorld.recvQue.epoch →
      entry = strandedWorld.recvQue.clears ∨ entry + 256 ≤ strandedWorld.recvQue.clears) :=
  close_strands_only_late_pops (ShutdownWorld.reachable_run .init
    (show ShutdownWorld.init.run strandTrace = some strandedWorld from rfl))

end Transport
