import Transport.Send.Serial
import Transport.Queue.Conservation

/-
  Transport.Send.Path — the send path: `send()` feeding `send_que`, read by the medium's send
  worker.

      send(frame, token)   ensure_open(); send_que.Push(std::make_pair(frame, token));
      request(frame)       send_que.Push(std::make_pair(frame, nullptr)); ...
      send worker          while (!this->is_closed) { auto frame_pair = this->send_que.Pop(); ... }
      close()              is_closed = true; recv_que.Clear(); send_que.Clear();

  The worker is the only thread that pops `send_que`.  Each time round its loop its `Pop()` is
  a fresh call of `Transport.Queue.Model`, entered from the worker's `pop` place; the call ends
  in the item the worker then dispatches, or in `QueueCleared`, which ends the worker's thread.
  Everything else the worker does — its loop test, the `is_closed = true` of `close()`, the
  serial port's `write()`s — are the worker's own steps.  `Push` and `Clear` are left free: they
  may run at any moment, which covers every caller of `send()` and `request()` and every
  `close()`.

  The path is built once, for any worker that says what it hands to the medium on taking an item
  (`SendWorker`), and then instantiated twice: the serial worker of `Transport.Send.Serial` with
  its write loop, and the datagram workers, which make one `sendto` per item.

  Main results:
    * `SendInv.step` — each step of the path keeps the accounting between `send_que`'s
      removals and what the worker handed over.
    * `send_path_hands_over_popped` — in every state, the worker has handed over what its
      `Pop`s returned, in order, all but the item of a `Pop` that has just returned.
    * `serial_send_path` — the serial line carries the frames given to `send()`, in order.
    * `datagram_send_path` — the `sendto`s send the frames given to `send()`, in order.
-/

namespace Transport

/-! ## §1. What the `Pop` calls removed. -/

namespace DataQueue

variable {α : Type} {q q' : DataQueue α}

/-- The items the `Pop` calls removed from `m_Queue`, in removal order: every removal not made
by a `Clear`. -/
def popped (q : DataQueue α) : List α := (q.removed.filter fun r => r.2 != .clear).map Prod.fst

@[simp] theorem popped_push (x : α) : (q.push x).popped = q.popped := rfl

@[simp] theorem popped_setCall (c : Nat) (pc : PopCall α) : (q.setCall c pc).popped = q.popped :=
  rfl

@[simp] theorem popped_clear : q.clear.popped = q.popped := by
  simp [popped, clear, List.filter_map, Function.comp_def]

/-- The loop test of call `c` removes at most the item it returns, and moves no other call. -/
theorem takeOrWait_popped (c : Nat) (timed : Bool) (e : UInt8) (entry : Nat) :
    (q.takeOrWait c timed e entry).popped =
        q.popped ++ ((q.takeOrWait c timed e entry).calls c).result ∧
      ∀ c', c' ≠ c → (q.takeOrWait c timed e entry).calls c' = q.calls c' := by
  rcases takeOrWait_calls (q := q) c timed e entry with ⟨x, rest, -, heq⟩ | ⟨-, heq⟩ <;>
    rw [heq] <;> simp +contextual [popped, PopCall.result, Function.update_noteq]

/-- A step of an untimed `Pop` call `c`, its entry or a wakeup: the call had returned nothing
before, the item it removes, if any, is its result, and no other call moves. -/
theorem step_call {a : QueueStep α} {c : Nat} (h : q.step a = some q')
    (ha : a = .enter c false ∨ a = .wake c) :
    (q.calls c).result = [] ∧ q'.popped = q.popped ++ (q'.calls c).result ∧
      ∀ c', c' ≠ c → q'.calls c' = q.calls c' := by
  rcases ha with rfl | rfl <;> simp only [step] at h <;> split at h <;> try cases h
  case h_1.refl hc => exact ⟨by simp [hc, PopCall.result], takeOrWait_popped ..⟩
  case h_1 hc =>
    refine ⟨by simp [hc, PopCall.result], ?_⟩
    split at h <;> cases h
    · simp +contextual [PopCall.result, Function.update_noteq]
    · exact takeOrWait_popped ..

end DataQueue

/-! ## §2. A send worker and `send_que`. -/

/-- What `send()` pushes: a frame and the token that goes with it, the code's `DataPair`. -/
abbrev SendItem := List UInt8 × Option Token

/-- The worker's own steps: its loop test, `close()` setting `is_closed`, and the serial port's
`write()`s.  The other two, `pop` and `cleared`, are the two ends of its `Pop()`. -/
def SerialEvent.isLocal : SerialEvent → Bool
  | .close | .test | .write _ => true
  | .pop _ | .cleared => false

/-- A send worker as the path sees it: its steps, whether it is inside `send_que.Pop()`, what it
has handed to the medium, and what it hands over on taking an item.  The laws: taking an item
hands over what `emit` says, the other steps hand over nothing, the worker's own steps never
leave `Pop()`, and `emit` is fixed for the worker's life. -/
structure SendWorker (σ β : Type) where
  step : σ → SerialEvent → Option σ
  inPop : σ → Bool
  out : σ → List β
  emit : σ → SendItem → List β
  pop_spec : ∀ {w w' item}, step w (.pop item) = some w' → out w' = out w ++ emit w item
  cleared_out : ∀ {w w'}, step w .cleared = some w' → out w' = out w
  local_spec : ∀ {w w' e}, e.isLocal = true → step w e = some w' →
    out w' = out w ∧ (inPop w = true → inPop w' = true)
  emit_step : ∀ {w w' e}, step w e = some w' → emit w' = emit w

/-- The path's state: the worker, `send_que`, and the number of the worker's current (or next)
`Pop()` call. -/
structure SendPath (σ : Type) where
  worker : σ
  que : DataQueue SendItem
  call : Nat

/-- A step of the path: a `Push` by `send()` or `request()`, a `Clear` by `close()`, a step of
the worker's current `Pop()` — its entry, a wakeup, its return of an item or its
`QueueCleared` — or one of the worker's own steps. -/
inductive SendEvent where
  | send (item : SendItem)
  | clear
  | enter
  | wake
  | popped
  | cleared
  | worker (e : SerialEvent)

section Path

variable {σ β : Type} (W : SendWorker σ β)

/-- What a step does; `none` when it is not possible.  The worker's `Pop()` is entered from
inside `Pop()` only, and the item it returns, or its `QueueCleared`, is the worker's next step. -/
def SendPath.step (S : SendPath σ) : SendEvent → Option (SendPath σ)
  | .send item => some { S with que := S.que.push item }
  | .clear => some { S with que := S.que.clear }
  | .enter =>
    if W.inPop S.worker then (S.que.step (.enter S.call false)).map fun q => { S with que := q }
    else none
  | .wake => (S.que.step (.wake S.call)).map fun q => { S with que := q }
  | .popped =>
    match S.que.calls S.call with
    | .returned item _ => (W.step S.worker (.pop item)).map fun w => ⟨w, S.que, S.call + 1⟩
    | _ => none
  | .cleared =>
    match S.que.calls S.call with
    | .cleared _ => (W.step S.worker .cleared).map fun w => ⟨w, S.que, S.call + 1⟩
    | _ => none
  | .worker e =>
    if e.isLocal then (W.step S.worker e).map fun w => { S with worker := w } else none

/-- The steps of a trace, in order. -/
def SendPath.run (S : SendPath σ) : List SendEvent → Option (SendPath σ)
  | [] => some S
  | e :: es => (S.step W e).bind (·.run es)

/-- The states of the path from the worker's first state `w₀` and an empty `send_que`, under
every interleaving. -/
inductive SendReachable (w₀ : σ) : SendPath σ → Prop
  | init : SendReachable w₀ ⟨w₀, DataQueue.init, 0⟩
  | step {S S' : SendPath σ} {e : SendEvent} :
      SendReachable w₀ S → S.step W e = some S' → SendReachable w₀ S'

variable {W} {w₀ : σ} {S S' : SendPath σ}

theorem SendReachable.run {es : List SendEvent} (hS : SendReachable W w₀ S)
    (h : S.run W es = some S') : SendReachable W w₀ S' := by
  induction es generalizing S with
  | nil => cases h; exact hS
  | cons e es ih =>
    simp only [SendPath.run, Option.bind_eq_some] at h
    obtain ⟨S₁, h₁, h⟩ := h
    exact ih (.step hS h₁) h

/-- What a step of the path can do: a `Push` or a `Clear`; a step of the current `Pop()`, entered
from inside `Pop()` only; the end of that call, the worker taking its outcome and handing over
what `emit` gives for the item it returned, if any; or one of the worker's own steps. -/
theorem SendPath.step_cases {e : SendEvent} (h : S.step W e = some S') :
    (∃ item, S' = { S with que := S.que.push item }) ∨
    S' = { S with que := S.que.clear } ∨
    (∃ a q, (a = .enter S.call false ∧ W.inPop S.worker = true ∨ a = .wake S.call) ∧
      S.que.step a = some q ∧ S' = { S with que := q }) ∨
    (∃ e' w, W.step S.worker e' = some w ∧
      W.out w = W.out S.worker ++ (S.que.calls S.call).result.flatMap (W.emit S.worker) ∧
      S' = ⟨w, S.que, S.call + 1⟩) ∨
    (∃ e' w, e'.isLocal = true ∧ W.step S.worker e' = some w ∧ S' = { S with worker := w }) := by
  cases e with
  | send item => exact .inl ⟨item, (Option.some.inj h).symm⟩
  | clear => exact .inr (.inl (Option.some.inj h).symm)
  | enter =>
    simp only [SendPath.step] at h
    split at h
    · obtain ⟨q, hq, rfl⟩ := Option.map_eq_some'.mp h
      exact .inr (.inr (.inl ⟨_, q, .inl ⟨rfl, ‹_›⟩, hq, rfl⟩))
    · cases h
  | wake =>
    obtain ⟨q, hq, rfl⟩ := Option.map_eq_some'.mp h
    exact .inr (.inr (.inl ⟨_, q, .inr rfl, hq, rfl⟩))
  | popped =>
    simp only [SendPath.step] at h
    split at h
    · rename_i hcall
      obtain ⟨w, hw, rfl⟩ := Option.map_eq_some'.mp h
      exact .inr (.inr (.inr (.inl ⟨_, w, hw, by simp [hcall, PopCall.result, W.pop_spec hw], rfl⟩)))
    · cases h
  | cleared =>
    simp only [SendPath.step] at h
    split at h
    · rename_i hcall
      obtain ⟨w, hw, rfl⟩ := Option.map_eq_some'.mp h
      exact .inr (.inr (.inr (.inl ⟨_, w, hw, by simp [hcall, PopCall.result, W.cleared_out hw],
        rfl⟩)))
    · cases h
  | worker e' =>
    simp only [SendPath.step] at h
    split at h
    · obtain ⟨w, hw, rfl⟩ := Option.map_eq_some'.mp h
      exact .inr (.inr (.inr (.inr ⟨e', w, ‹_›, hw, rfl⟩)))
    · cases h

/-- What every step of the worker keeps holds of the path's worker in every state. -/
theorem SendReachable.worker {P : σ → Prop} (h : SendReachable W w₀ S) (h₀ : P w₀)
    (hstep : ∀ {w w' e}, P w → W.step w e = some w' → P w') : P S.worker := by
  induction h with
  | init => exact h₀
  | step _ hs ih =>
    rcases SendPath.step_cases hs with ⟨_, rfl⟩ | rfl | ⟨_, _, -, -, rfl⟩ | ⟨_, _, hw, -, rfl⟩ |
      ⟨_, _, -, hw, rfl⟩
    all_goals first | exact ih | exact hstep ih hw

/-! ## §3. The accounting. -/

variable (W) in
/-- The accounting of the path: `send_que` keeps its own; the calls after the current one have
not started, and neither has the current one while the worker is outside `Pop()`; and what the
worker handed over is what it hands over for the items its finished `Pop`s returned, in order —
all the items the `Pop`s removed but the one the current call may have just returned. -/
structure SendInv (w₀ : σ) (S : SendPath σ) : Prop where
  queue : QueueInv S.que
  fresh : ∀ c, S.call < c → S.que.calls c = .idle
  idle : W.inPop S.worker = false → S.que.calls S.call = .idle
  emit : W.emit S.worker = W.emit w₀
  handed : ∃ consumed, S.que.popped = consumed ++ (S.que.calls S.call).result ∧
    W.out S.worker = W.out w₀ ++ consumed.flatMap (W.emit w₀)

theorem SendInv.init : SendInv W w₀ ⟨w₀, DataQueue.init, 0⟩ :=
  ⟨.init, fun _ _ => rfl, fun _ => rfl, rfl, ⟨[], rfl, by simp⟩⟩

/-- A step of the current `Pop()` keeps the accounting. -/
theorem SendInv.callStep (hi : SendInv W w₀ S) {a : QueueStep SendItem} {q : DataQueue SendItem}
    (hq : S.que.step a = some q) (ha : a = .enter S.call false ∨ a = .wake S.call)
    (hidle : W.inPop S.worker = false → q.calls S.call = .idle) :
    SendInv W w₀ { S with que := q } := by
  obtain ⟨hold, hpop, hother⟩ := DataQueue.step_call hq ha
  obtain ⟨consumed, hc, hout⟩ := hi.handed
  refine ⟨hi.queue.step hq, fun c (hc' : S.call < c) => ?_, hidle, hi.emit, consumed, ?_, hout⟩
  · rw [hother c (by omega)]; exact hi.fresh c hc'
  · rw [hpop, hc, hold, List.append_nil]

/-- The end of the current `Pop()`, by a returned item the worker takes or by `QueueCleared`:
the call's result joins what the worker has consumed, and the next call has not started. -/
theorem SendInv.endCall (hi : SendInv W w₀ S) {w : σ} {e : SerialEvent}
    (hw : W.step S.worker e = some w)
    (hout : W.out w = W.out S.worker ++ (S.que.calls S.call).result.flatMap (W.emit S.worker)) :
    SendInv W w₀ ⟨w, S.que, S.call + 1⟩ := by
  obtain ⟨consumed, hc, hout₀⟩ := hi.handed
  have hnext : S.que.calls (S.call + 1) = .idle := hi.fresh _ (by omega)
  refine ⟨hi.queue, fun c (hc' : S.call + 1 < c) => hi.fresh c (by omega), fun _ => hnext,
    (W.emit_step hw).trans hi.emit, consumed ++ (S.que.calls S.call).result, ?_, ?_⟩
  · rw [hnext, hc]; exact (List.append_nil _).symm
  · rw [hout, hout₀, hi.emit, List.flatMap_append, List.append_assoc]

/-- **One step.**  Every step of the path keeps the accounting. -/
theorem SendInv.step {e : SendEvent} (hi : SendInv W w₀ S) (h : S.step W e = some S') :
    SendInv W w₀ S' := by
  rcases SendPath.step_cases h with ⟨item, rfl⟩ | rfl | ⟨a, q, ha, hq, rfl⟩ |
    ⟨e', w, hw, hout, rfl⟩ | ⟨e', w, he, hw, rfl⟩
  · exact ⟨hi.queue.step (a := .push item) rfl, hi.fresh, hi.idle, hi.emit, by simpa using hi.handed⟩
  · exact ⟨hi.queue.step (a := .clear) rfl, hi.fresh, hi.idle, hi.emit, by simpa using hi.handed⟩
  · refine hi.callStep hq (ha.imp And.left id) fun hp => ?_
    rcases ha with ⟨-, hin⟩ | rfl
    · simp [hin] at hp
    · simp [DataQueue.step, hi.idle hp] at hq
  · exact hi.endCall hw hout
  · obtain ⟨hout, hpop⟩ := W.local_spec he hw
    obtain ⟨consumed, hc, hout₀⟩ := hi.handed
    refine ⟨hi.queue, hi.fresh, fun hp => hi.idle ?_, (W.emit_step hw).trans hi.emit,
      consumed, hc, hout.trans hout₀⟩
    cases h' : W.inPop S.worker
    · rfl
    · simp [hpop h'] at hp

theorem SendReachable.sendInv (h : SendReachable W w₀ S) : SendInv W w₀ S := by
  induction h with
  | init => exact .init
  | step _ hs ih => exact ih.step hs

/-- **What the worker handed over.**  In every state of the path, under every interleaving of
`send()`, `close()` and the worker: the items `send_que` removed, in order, followed by those
still in it, are the items pushed; and the items the worker's `Pop`s removed are the ones it has
consumed, in order, followed by the item its current `Pop()` has just returned, if it has, and it
has handed over exactly what it hands over for the consumed ones. -/
theorem send_path_hands_over_popped (h : SendReachable W w₀ S) :
    S.que.removed.map Prod.fst ++ S.que.queue = S.que.pushed ∧
      ∃ consumed, S.que.popped = consumed ++ (S.que.calls S.call).result ∧
        W.out S.worker = W.out w₀ ++ consumed.flatMap (W.emit w₀) :=
  ⟨h.sendInv.queue.conserved, h.sendInv.handed⟩

end Path

/-! ## §4. The serial port. -/

namespace SerialWorker

variable {w w' : SerialWorker} {e : SerialEvent}

theorem step_self (h : w.step e = some w') : w'.self = w.self := by
  rcases step_cases h with rfl | ⟨-, rfl⟩ | ⟨-, rfl⟩ | ⟨_, -, -, rfl⟩ | ⟨-, rfl⟩ |
    ⟨_, _, _, -, rfl | ⟨_, -, rfl⟩⟩ <;> rfl

/-- Taking an item hands its frame to the write loop, unless the token check or the empty-frame
test drops it. -/
theorem step_pop_taken {item : SendItem} (h : w.step (.pop item) = some w') :
    w'.taken = w.taken ++ if (serialSendTarget w.self item).isSome then [item.1] else [] := by
  simp only [step] at h
  split at h
  · cases ht : serialSendTarget w.self item <;> simp only [ht] at h <;> cases h <;> simp
  · cases h

theorem step_cleared_taken (h : w.step .cleared = some w') : w'.taken = w.taken := by
  simp only [step] at h
  split at h
  · split at h <;> cases h; rfl
  · cases h

/-- The worker's own steps take no frame, and none of them leaves `Pop()`. -/
theorem step_local (he : e.isLocal = true) (h : w.step e = some w') :
    w'.taken = w.taken ∧ (w.pc = .pop → w'.pc = .pop) := by
  cases e with
  | close => cases h; exact ⟨rfl, id⟩
  | test => simp only [step] at h; split at h <;> cases h; simp_all
  | write r =>
    simp only [step] at h
    split at h
    · refine ⟨?_, by simp_all⟩
      cases r with
      | error => cases h; rfl
      | wrote n => simp only [writeStep] at h; split at h <;> cases h; rfl
    · cases h
  | pop | cleared => cases he

end SerialWorker

/-- `SerialPortTransport::send_backend` as a send worker: what it hands over is the frames it
took for writing. -/
def serialSendWorker : SendWorker SerialWorker (List UInt8) where
  step := SerialWorker.step
  inPop w := w.pc == .pop
  out := SerialWorker.taken
  emit w item := if (serialSendTarget w.self item).isSome then [item.1] else []
  pop_spec h := SerialWorker.step_pop_taken h
  cleared_out h := SerialWorker.step_cleared_taken h
  local_spec he h := by
    obtain ⟨htaken, hpop⟩ := SerialWorker.step_local he h
    exact ⟨htaken, by simpa using hpop⟩
  emit_step h := by simp only [SerialWorker.step_self h]

/-- What the serial worker hands over for a list of items: the frames its checks let through. -/
theorem flatMap_emit_serial (self : Nat) (items : List SendItem) :
    items.flatMap (serialSendWorker.emit (SerialWorker.init self)) =
      (items.filter fun item => (serialSendTarget self item).isSome).map Prod.fst := by
  induction items with
  | nil => rfl
  | cons x xs ih =>
    rw [List.flatMap_cons, ih, List.filter_cons]
    simp only [serialSendWorker, SerialWorker.init]
    split <;> rfl

/-- A frame list's concatenation starts with all but its last frame. -/
theorem flatten_dropLast_prefix (l : List (List UInt8)) : l.dropLast.flatten <+: l.flatten := by
  rcases List.eq_nil_or_concat l with rfl | ⟨L, b, rfl⟩
  · exact List.prefix_refl _
  · simp

/-- **The serial send path.**  However `send()`, `request()` and `close()` interleave with the
serial send worker of transport `self`, and whatever its `write()`s return: every item pushed
onto `send_que` is, in push order, either taken by one of the worker's `Pop`s, discarded by a
`Clear`, or still queued; the frames the worker took for writing are, in order, those of the
items its finished `Pop`s returned, but the items with another transport's token and the empty
frames; and the serial line holds those frames one after another, each whole before the next
begins, the last one perhaps in part while the write loop is on it. -/
theorem serial_send_path {self : Nat} {S : SendPath SerialWorker}
    (h : SendReachable serialSendWorker (SerialWorker.init self) S) :
    S.que.removed.map Prod.fst ++ S.que.queue = S.que.pushed ∧
      (∃ consumed, S.que.popped = consumed ++ (S.que.calls S.call).result ∧
        S.worker.taken =
          (consumed.filter fun item => (serialSendTarget self item).isSome).map Prod.fst) ∧
      S.worker.taken.dropLast.flatten <+: S.worker.line ∧
      S.worker.line <+: S.worker.taken.flatten ∧
      ((∀ frame remaining offset, S.worker.pc ≠ .writing frame remaining offset) →
        S.worker.line = S.worker.taken.flatten) := by
  obtain ⟨hcons, consumed, hc, hout⟩ := send_path_hands_over_popped h
  have hline := serial_line_carries_taken_frames
    (h.worker (P := SerialReachable self) .init fun hw hs => .step _ hw hs)
  refine ⟨hcons, ⟨consumed, hc, (hout.trans (List.nil_append _)).trans (flatMap_emit_serial ..)⟩, ?_⟩
  by_cases hw : ∃ frame remaining offset, S.worker.pc = .writing frame remaining offset
  · obtain ⟨frame, remaining, offset, hpc⟩ := hw
    obtain ⟨done, hdone, hl, -⟩ := hline.1 frame remaining offset hpc
    refine ⟨?_, ?_, fun hn => absurd hpc (hn _ _ _)⟩ <;> rw [hdone, hl]
    · simp
    · simpa using (List.take_prefix offset frame)
  · have heq := hline.2 (by simpa using hw)
    exact ⟨heq ▸ flatten_dropLast_prefix _, heq ▸ List.prefix_refl _, fun _ => heq⟩

/-- `send([1, 2])` on serial transport 0, the worker's `Pop()` returning the item, and a
`write()` that takes one byte of it: the line holds that byte. -/
theorem serial_send_path_after_one_byte :
    ∃ S, SendReachable serialSendWorker (SerialWorker.init 0) S ∧ S.worker.line = [1] ∧
      (S.que.removed.map Prod.fst ++ S.que.queue = S.que.pushed ∧
        (∃ consumed, S.que.popped = consumed ++ (S.que.calls S.call).result ∧
          S.worker.taken =
            (consumed.filter fun item => (serialSendTarget 0 item).isSome).map Prod.fst) ∧
        S.worker.taken.dropLast.flatten <+: S.worker.line ∧
        S.worker.line <+: S.worker.taken.flatten ∧
        ((∀ frame remaining offset, S.worker.pc ≠ .writing frame remaining offset) →
          S.worker.line = S.worker.taken.flatten)) :=
  have h := SendReachable.init.run (show (⟨SerialWorker.init 0, DataQueue.init, 0⟩ :
      SendPath SerialWorker).run serialSendWorker [.send ([1, 2], none), .worker .test, .enter,
        .popped, .worker (.write (.wrote 1))] = _ from rfl)
  ⟨_, h, rfl, serial_send_path h⟩

/-! ## §5. The datagram media. -/

/-- Where a datagram send worker is: at its loop test, in `Pop()`, or out of its thread. -/
inductive DatagramPc where
  | test
  | pop
  | exited
  deriving DecidableEq, Repr

/-- The send worker of a datagram transport `sender` (`DatagramTransport` or
`UnixDatagramTransport`): `is_closed`, its place, and the ghost record of its `sendto`s, each the
bytes and the `(addr, addr_len)` they went to. -/
structure DatagramWorker where
  sender : Sender
  isClosed : Bool
  pc : DatagramPc
  sent : List (List UInt8 × Dest)
  deriving DecidableEq

namespace DatagramWorker

/-- The worker as `open()` starts it. -/
def init (sender : Sender) : DatagramWorker := ⟨sender, false, .test, []⟩

/-- One step of the loop of the two datagram `send_backend`s; `none` when it is not enabled.
An item `Pop()` returns is skipped when its frame is empty and otherwise sent, once, where
`Transport.Send.Dispatch` says; `sendto`'s result is only logged.  There is no write loop. -/
def step (w : DatagramWorker) : SerialEvent → Option DatagramWorker
  | .close => some { w with isClosed := true }
  | .test =>
    match w.pc with
    | .test => some { w with pc := if w.isClosed then .exited else .pop }
    | _ => none
  | .pop item =>
    match w.pc with
    | .pop => some { w with pc := .test,
                            sent := w.sent ++ ((w.sender.sendTarget item).map (item.1, ·)).toList }
    | _ => none
  | .cleared =>
    match w.pc with
    | .pop => if w.isClosed then some { w with pc := .exited } else none
    | _ => none
  | .write _ => none

variable {w w' : DatagramWorker} {e : SerialEvent}

theorem step_sender (h : w.step e = some w') : w'.sender = w.sender := by
  cases e <;> simp only [step] at h <;> (try split at h) <;> (try split at h) <;> cases h <;> rfl

theorem step_sent_of_ne_pop (he : ∀ item, e ≠ .pop item) (h : w.step e = some w') :
    w'.sent = w.sent ∧ (e.isLocal = true → w.pc = .pop → w'.pc = .pop) := by
  cases e with
  | pop item => exact absurd rfl (he item)
  | _ =>
    simp only [step] at h
    (try split at h) <;> (try split at h) <;> cases h <;> simp_all [SerialEvent.isLocal]

end DatagramWorker

/-- The datagram `send_backend`s as a send worker: what it hands over is its `sendto`s. -/
def datagramSendWorker : SendWorker DatagramWorker (List UInt8 × Dest) where
  step := DatagramWorker.step
  inPop w := w.pc == .pop
  out := DatagramWorker.sent
  emit w item := ((w.sender.sendTarget item).map (item.1, ·)).toList
  pop_spec {w w' item} h := by
    simp only [DatagramWorker.step] at h
    split at h <;> cases h; rfl
  cleared_out h := (DatagramWorker.step_sent_of_ne_pop (e := .cleared) (fun _ h => nomatch h) h).1
  local_spec {w w' e} he h := by
    have hne : ∀ item, e ≠ .pop item := by rintro item rfl; cases he
    obtain ⟨hsent, hpop⟩ := DatagramWorker.step_sent_of_ne_pop hne h
    exact ⟨hsent, by simpa using hpop he⟩
  emit_step h := by simp only [DatagramWorker.step_sender h]

/-- **The datagram send paths.**  However `send()`, `request()` and `close()` interleave with the
send worker of a datagram transport `T`: every item pushed onto `send_que` is, in push order,
either taken by one of the worker's `Pop`s, discarded by a `Clear`, or still queued; and the
worker's `sendto`s are, in order, one for each item its finished `Pop`s returned but the empty
frames, with that item's frame, to the address `T`'s `send_backend` picks for it. -/
theorem datagram_send_path {T : Sender} {S : SendPath DatagramWorker}
    (h : SendReachable datagramSendWorker (DatagramWorker.init T) S) :
    S.que.removed.map Prod.fst ++ S.que.queue = S.que.pushed ∧
      ∃ consumed, S.que.popped = consumed ++ (S.que.calls S.call).result ∧
        S.worker.sent = consumed.filterMap fun item => (T.sendTarget item).map (item.1, ·) := by
  obtain ⟨hcons, consumed, hc, hout⟩ := send_path_hands_over_popped h
  refine ⟨hcons, consumed, hc, ?_⟩
  rw [List.filterMap_eq_flatMap_toList]
  exact hout

/-- `send([1])` on Unix datagram transport 0, and the worker's `Pop()` returning the item: one
`sendto`, of that frame. -/
theorem datagram_send_path_after_one_send :
    ∃ S, SendReachable datagramSendWorker (DatagramWorker.init (.unixDatagram 0 zeroUnixAddr)) S ∧
      S.worker.sent.map Prod.fst = [[1]] ∧
      (S.que.removed.map Prod.fst ++ S.que.queue = S.que.pushed ∧
        ∃ consumed, S.que.popped = consumed ++ (S.que.calls S.call).result ∧
          S.worker.sent = consumed.filterMap fun item =>
            ((Sender.unixDatagram 0 zeroUnixAddr).sendTarget item).map (item.1, ·)) :=
  have h := SendReachable.init.run (show (⟨DatagramWorker.init (.unixDatagram 0 zeroUnixAddr),
      DataQueue.init, 0⟩ : SendPath DatagramWorker).run datagramSendWorker
        [.send ([1], none), .worker .test, .enter, .popped] = _ from rfl)
  ⟨_, h, rfl, datagram_send_path h⟩

end Transport
