import Transport.Reassembler.Conservation
import Transport.Queue.Conservation
import Transport.Send.Dispatch

/-
  Transport.Receive — the receive path: a medium's receive worker feeding `recv_que`, read by
  `receive()`.

      receive worker    while (!is_closed) { ...one iteration on what the medium delivered...;
                                             recv_que.Push(std::make_pair(frame, token)); }
      receive()         recv_que.Pop()   or   recv_que.Pop(dur)
      close()           recv_que.Clear()

  The worker is the only thread that pushes onto `recv_que`, and nothing but its `Push`es
  touches the state it keeps from one iteration to the next, so an iteration can be taken as one
  step whose pushes land on the queue together: a `Pop` step of another thread that runs between
  them commutes with the rest of the iteration.  The other steps are those of the `Pop` calls
  of `receive()` and the `Clear` of `close()`, interleaved in any order, as in
  `Transport.Queue.Model`.

  Two workers fill the path.  `SerialPortTransport::receive_backend` is the reassembler of
  `Transport.Reassembler`; each frame it cuts goes with a `TransportToken(this)`.  The datagram
  media's `receive_backend`s push one item per datagram: `recvfrom` copies at most
  `buffer_size` bytes of it and drops the rest, a failed `recvfrom` or a negative `P::pred_size`
  skips it, and otherwise the bytes go whole, whatever length `pred_size` predicted, with a
  token of the medium holding the sender's address.

  Main results:
    * `RecvReachable.pushed` — `recv_que` has received exactly what the worker's iterations
      pushed, in order.
    * `serial_receive_path` — the serial path: bytes read, frames cut, frames taken.
    * `datagram_receive_path` — the datagram paths: every datagram but the rejected ones, in
      order, each with a token a reply through the same transport is sent back with.
-/

namespace Transport

/-! ## §1. A receive worker and `recv_que`. -/

/-- A `Pop` step, a `Clear`, or a `Push`, leaves the pushed history alone unless it is a
`Push`. -/
theorem DataQueue.step_pushed {α : Type} {q q' : DataQueue α} {a : QueueStep α}
    (h : q.step a = some q') (ha : ∀ x, a ≠ .push x) : q'.pushed = q.pushed := by
  rcases DataQueue.step_cases h with ⟨x, rfl, -⟩ | ⟨-, rfl⟩ | ⟨c, t, -, -, rfl⟩ |
    ⟨c, t, e, n, -, -, ⟨-, rfl⟩ | ⟨-, rfl⟩⟩ | ⟨c, e, n, -, -, rfl⟩
  · exact absurd rfl (ha x)
  all_goals first | rfl | (unfold DataQueue.takeOrWait; split <;> rfl)

/-- Pushing a list of items, one `Push` after another. -/
theorem DataQueue.foldl_push {α : Type} (q : DataQueue α) (xs : List α) :
    (xs.foldl DataQueue.push q).pushed = q.pushed ++ xs ∧
      (xs.foldl DataQueue.push q).removed = q.removed ∧
      (xs.foldl DataQueue.push q).queue = q.queue ++ xs ∧
      (xs.foldl DataQueue.push q).calls = q.calls := by
  induction xs generalizing q with
  | nil => simp
  | cons x xs ih =>
    obtain ⟨h₁, h₂, h₃, h₄⟩ := ih (q.push x)
    rw [List.foldl_cons, h₁, h₂, h₃, h₄]
    simp [DataQueue.push]

/-- `Push`es keep the queue's accounting. -/
theorem QueueInv.foldl_push {α : Type} {q : DataQueue α} (h : QueueInv q) (xs : List α) :
    QueueInv (xs.foldl DataQueue.push q) := by
  induction xs generalizing q with
  | nil => exact h
  | cons x xs ih => exact ih (h.step (a := .push x) rfl)

/-- What a receive worker pushes: a frame and the token that goes with it. -/
abbrev RecvItem := List UInt8 × Option Token

section Path

variable {σ ι : Type} (iter : σ → ι → Option (σ × List RecvItem))

/-- The worker's iterations over its inputs, from `w`: where it ends, and everything it pushed,
in order; `none` when an iteration is not possible. -/
def workerRun : σ → List ι → Option (σ × List RecvItem)
  | w, [] => some (w, [])
  | w, x :: xs => (iter w x).bind fun r => (workerRun r.1 xs).map fun r' => (r'.1, r.2 ++ r'.2)

/-- The path's state: the worker's own state, `recv_que`, and what the medium has delivered to
the worker so far. -/
structure RecvPath (σ ι : Type) where
  worker : σ
  que : DataQueue RecvItem
  inputs : List ι

/-- A step of the path: an iteration of the worker on what the medium delivered, or a step of
`recv_que` taken by `receive()` or `close()`. -/
inductive RecvEvent (ι : Type) where
  | input (x : ι)
  | que (a : QueueStep RecvItem)

/-- What a step does; `none` when it is not possible.  Only the worker pushes. -/
def RecvPath.step (S : RecvPath σ ι) : RecvEvent ι → Option (RecvPath σ ι)
  | .input x => (iter S.worker x).map fun r => ⟨r.1, r.2.foldl DataQueue.push S.que, S.inputs ++ [x]⟩
  | .que (.push _) => none
  | .que a => (S.que.step a).map fun q => { S with que := q }

/-- The steps of a run, in order. -/
def RecvPath.run (S : RecvPath σ ι) : List (RecvEvent ι) → Option (RecvPath σ ι)
  | [] => some S
  | e :: es => (S.step iter e).bind (·.run es)

/-- The states of the path from the worker's first state `w₀` and an empty queue, under every
interleaving. -/
inductive RecvReachable (w₀ : σ) : RecvPath σ ι → Prop
  | init : RecvReachable w₀ ⟨w₀, DataQueue.init, []⟩
  | step {S S' : RecvPath σ ι} {e : RecvEvent ι} :
      RecvReachable w₀ S → S.step iter e = some S' → RecvReachable w₀ S'

variable {iter}

theorem RecvReachable.run {w₀ : σ} {S S' : RecvPath σ ι} {es : List (RecvEvent ι)}
    (h : RecvReachable iter w₀ S) (hr : S.run iter es = some S') : RecvReachable iter w₀ S' := by
  induction es generalizing S with
  | nil => cases hr; exact h
  | cons e es ih =>
    simp only [RecvPath.run, Option.bind_eq_some] at hr
    obtain ⟨S₁, h₁, hr⟩ := hr
    exact ih (.step h h₁) hr

variable (iter) in
/-- A run from the start that ends in a state where `f` is `v`. -/
theorem RecvReachable.of_run {β : Type} (w₀ : σ) (es : List (RecvEvent ι))
    (f : RecvPath σ ι → β) (v : β)
    (h : ((⟨w₀, DataQueue.init, []⟩ : RecvPath σ ι).run iter es).map f = some v) :
    ∃ S, RecvReachable iter w₀ S ∧ f S = v := by
  cases hr : (⟨w₀, DataQueue.init, []⟩ : RecvPath σ ι).run iter es with
  | none => simp [hr] at h
  | some S => exact ⟨S, RecvReachable.init.run hr, by simpa [hr] using h⟩

/-- One more iteration at the end of a run. -/
theorem workerRun_append (w : σ) (xs : List ι) (x : ι) :
    workerRun iter w (xs ++ [x]) = (workerRun iter w xs).bind fun r =>
      (iter r.1 x).map fun r' => (r'.1, r.2 ++ r'.2) := by
  induction xs generalizing w with
  | nil => cases iter w x <;> simp [workerRun]
  | cons y xs ih =>
    rw [List.cons_append, workerRun, workerRun]
    cases iter w y with
    | none => rfl
    | some r =>
      rw [Option.some_bind, Option.some_bind, ih]
      cases workerRun iter r.1 xs with
      | none => rfl
      | some r' => simp [Option.map_map, Function.comp_def, List.append_assoc]

/-- **The queue holds what the worker pushed.**  In every state of the path, the worker's
iterations over everything the medium delivered end in its current state, having pushed, in
order, exactly the items `recv_que` received; and the queue keeps its accounting. -/
theorem RecvReachable.pushed {w₀ : σ} {S : RecvPath σ ι} (h : RecvReachable iter w₀ S) :
    workerRun iter w₀ S.inputs = some (S.worker, S.que.pushed) ∧ QueueInv S.que := by
  induction h with
  | init => exact ⟨rfl, QueueInv.init⟩
  | @step S S' e _ hs ih =>
    obtain ⟨hrun, hinv⟩ := ih
    cases e with
    | input x =>
      simp only [RecvPath.step, Option.map_eq_some'] at hs
      obtain ⟨⟨w', out⟩, hw, rfl⟩ := hs
      refine ⟨?_, hinv.foldl_push out⟩
      rw [workerRun_append, hrun, Option.some_bind, hw, (DataQueue.foldl_push _ _).1]
      rfl
    | que a =>
      cases a with
      | push x => cases hs
      | _ =>
        simp only [RecvPath.step, Option.map_eq_some'] at hs
        obtain ⟨q', hq, rfl⟩ := hs
        exact ⟨(DataQueue.step_pushed hq (fun _ => nofun)).symm ▸ hrun, hinv.step hq⟩

end Path

/-! ## §2. The serial port. -/

/-- An iteration of `SerialPortTransport::receive_backend` on the bytes `read` returned, as the
path's worker: the reassembler's iteration, each frame it cuts pushed with a
`TransportToken(this)`.  `read` never returns more than the `buffer_size - cached_size` bytes it
is asked for. -/
def serialReceive (P : FramingProtocol) (bufferSize self : Nat) (s : Reassembler)
    (data : List UInt8) : Option (Reassembler × List RecvItem) :=
  if data.length ≤ bufferSize - s.cachedSize then
    (receiveStep P bufferSize s data).map fun r =>
      (r.1, (r.2.filterMap Event.frame?).map (·, some (.base self)))
  else none

/-- The serial worker's iterations are a run of the reassembler, and they push its frames. -/
theorem workerRun_serialReceive {P : FramingProtocol} {bufferSize self : Nat}
    {s s' : Reassembler} {reads : List (List UInt8)} {items : List RecvItem}
    (h : workerRun (serialReceive P bufferSize self) s reads = some (s', items)) :
    ∃ evs, Run P bufferSize s reads evs s' ∧
      items = (evs.filterMap Event.frame?).map (·, some (.base self)) := by
  induction reads generalizing s items with
  | nil =>
    obtain ⟨rfl, rfl⟩ := Prod.mk.inj (Option.some.inj h)
    exact ⟨[], .done _, rfl⟩
  | cons data reads ih =>
    simp only [workerRun, Option.bind_eq_some, Option.map_eq_some'] at h
    obtain ⟨⟨s₁, out⟩, hstep, ⟨s₂, rest⟩, hrest, hpair⟩ := h
    obtain ⟨rfl, rfl⟩ := Prod.mk.inj hpair
    simp only [serialReceive] at hstep
    split at hstep
    · obtain ⟨⟨s₁', e⟩, he, hr⟩ := Option.map_eq_some'.mp hstep
      obtain ⟨rfl, rfl⟩ := Prod.mk.inj hr
      obtain ⟨evs, hrun, rfl⟩ := ih hrest
      exact ⟨e ++ evs, .step ‹_› he hrun, by simp⟩
    · cases hstep

/-- **The serial receive path.**  Whatever `P::pred_size` is, whatever `read` returns and
however the `receive()` calls and `close()` interleave with the worker, the worker's
iterations so far are a `Run` of the reassembler over the bytes read, from its first state to
its current one; the bytes read are, in order, those of the run's events (the frames the worker
cut and the bytes its header scan stepped over), followed by its unconsumed window; the items the `receive()` calls took and the `Clear`s discarded, in
the order they left `recv_que`, followed by those still in it, are those frames in order, each
with a `TransportToken(this)`; and each call returned exactly the items it took. -/
theorem serial_receive_path {P : FramingProtocol} {bufferSize self : Nat} {buf₀ : List UInt8}
    {S : RecvPath Reassembler (List UInt8)}
    (h : RecvReachable (serialReceive P bufferSize self) (Reassembler.init P buf₀) S) :
    ∃ evs : List Event, Run P bufferSize (Reassembler.init P buf₀) S.inputs evs S.worker ∧
      (evs.map Event.bytes).flatten ++ S.worker.window = S.inputs.flatten ∧
      S.que.removed.map Prod.fst ++ S.que.queue =
        (evs.filterMap Event.frame?).map (·, some (.base self)) ∧
      ∀ c, (S.que.removed.filter (fun r => r.2 = .pop c)).map Prod.fst = (S.que.calls c).result := by
  obtain ⟨hrun, hinv⟩ := h.pushed
  obtain ⟨evs, hevs, hitems⟩ := workerRun_serialReceive hrun
  refine ⟨evs, hevs, ?_, hinv.conserved.trans hitems, hinv.popped⟩
  simpa [Reassembler.init, Reassembler.window, live] using (hevs.conserves P bufferSize le_rfl).1

/-- The serial path of the repository's own `Protocol` on a 4-byte buffer, after one `read` of
two bytes and a `receive()`: the worker cut them as one frame, and the call took it. -/
theorem serial_receive_path_after_read_and_receive :
    ∃ S, RecvReachable (serialReceive protocol 4 0) (Reassembler.init protocol [0, 0, 0, 0]) S ∧
      S.inputs = [[5, 6]] ∧ (S.que.calls 0).result = [([5, 6], some (.base 0))] ∧
      ∃ evs : List Event, Run protocol 4 (Reassembler.init protocol [0, 0, 0, 0]) S.inputs evs
          S.worker ∧
        (evs.map Event.bytes).flatten ++ S.worker.window = S.inputs.flatten ∧
        S.que.removed.map Prod.fst ++ S.que.queue =
          (evs.filterMap Event.frame?).map (·, some (.base 0)) ∧
        ∀ c, (S.que.removed.filter (fun r => r.2 = .pop c)).map Prod.fst =
          (S.que.calls c).result := by
  obtain ⟨S, hS, he⟩ := RecvReachable.of_run (serialReceive protocol 4 0)
    (Reassembler.init protocol [0, 0, 0, 0]) [.input [5, 6], .que (.enter 0 false)] (fun S => (S.inputs, (S.que.calls 0).result))
    ([[5, 6]], [([5, 6], some (.base 0))]) rfl
  simp only [Prod.mk.injEq] at he
  exact ⟨S, hS, he.1, he.2, serial_receive_path hS⟩

/-! ## §3. The datagram media. -/

/-- What `recvfrom` reports: a failure (`recv_size < 0`), or a datagram's bytes with the
sender's address and `addr_len`. -/
inductive Datagram (A : Type) where
  | failed
  | received (bytes : List UInt8) (addr : A)

/-- An iteration of the datagram media's `receive_backend`s, `token` making the medium's token
from the sender's address: `recvfrom` copies at most `buffer_size` bytes of the datagram; a
failed `recvfrom` or a negative `P::pred_size` is logged and skipped; otherwise
`P::make_frame(buffer, recv_size)` goes to `recv_que` with the token. -/
def addressedReceive {A : Type} (P : FramingProtocol) (bufferSize : Nat) (token : A → Token) :
    Datagram A → List RecvItem
  | .failed => []
  | .received bytes addr =>
    if P.predSize (bytes.take bufferSize) < 0 then []
    else [(bytes.take bufferSize, some (token addr))]

/-- `DatagramTransport::receive_backend`: `DatagramTransportToken(this, addr, addr_len)`. -/
def datagramReceive (P : FramingProtocol) (bufferSize self : Nat) :
    Datagram InetAddr → List RecvItem :=
  addressedReceive P bufferSize (.datagram self)

/-- `UnixDatagramTransport::receive_backend`: `UnixDatagramTransportToken(this, addr,
addr_len)`. -/
def unixDatagramReceive (P : FramingProtocol) (bufferSize self : Nat) :
    Datagram UnixAddr → List RecvItem :=
  addressedReceive P bufferSize (.unixDatagram self)

/-- The datagram worker keeps nothing from one iteration to the next. -/
def datagramWorker {A : Type} (recv : Datagram A → List RecvItem) (_ : Unit) (d : Datagram A) :
    Option (Unit × List RecvItem) :=
  some ((), recv d)

theorem workerRun_datagramWorker {A : Type} (recv : Datagram A → List RecvItem)
    (ds : List (Datagram A)) : workerRun (datagramWorker recv) () ds = some ((), ds.flatMap recv) := by
  induction ds with
  | nil => rfl
  | cons d ds ih => simp [workerRun, datagramWorker, ih]

/-- A datagram path's queue has received the items of its datagrams, in order. -/
theorem RecvReachable.datagram {A : Type} {recv : Datagram A → List RecvItem}
    {S : RecvPath Unit (Datagram A)} (h : RecvReachable (datagramWorker recv) () S) :
    S.que.removed.map Prod.fst ++ S.que.queue = S.inputs.flatMap recv ∧
      ∀ k, (S.que.removed.filter (fun r => r.2 = .pop k)).map Prod.fst = (S.que.calls k).result := by
  obtain ⟨hrun, hinv⟩ := h.pushed
  rw [workerRun_datagramWorker] at hrun
  exact ⟨hinv.conserved.trans (Prod.mk.inj (Option.some.inj hrun)).2.symm, hinv.popped⟩

/-- The bytes and sender's address of a datagram `recvfrom` delivered. -/
def Datagram.received? {A : Type} : Datagram A → Option (List UInt8 × A)
  | .failed => none
  | .received bytes addr => some (bytes, addr)

/-- The datagram worker's items: the datagrams `recvfrom` delivered, cut to `buffer_size` bytes,
those `pred_size` does not reject, each with its sender's token. -/
theorem flatMap_addressedReceive {A : Type} (P : FramingProtocol) (bufferSize : Nat)
    (token : A → Token) (ds : List (Datagram A)) :
    ds.flatMap (addressedReceive P bufferSize token) =
      ((ds.filterMap Datagram.received?).filter fun r => 0 ≤ P.predSize (r.1.take bufferSize)).map
        fun r => (r.1.take bufferSize, some (token r.2)) := by
  induction ds with
  | nil => rfl
  | cons d ds ih =>
    cases d with
    | failed => simpa [addressedReceive, Datagram.received?] using ih
    | received bytes addr =>
      rw [List.flatMap_cons, ih, addressedReceive]
      by_cases h : P.predSize (bytes.take bufferSize) < 0
      · simp [h, Datagram.received?, List.filter_cons, Int.not_le.mpr h]
      · simp [h, Datagram.received?, List.filter_cons, Int.not_lt.mp h]

/-- Every such item is one of the datagrams, cut to `buffer_size` bytes, with the token of the
sender's address. -/
theorem mem_addressed_items {A : Type} {P : FramingProtocol} {bufferSize : Nat}
    {token : A → Token} {ds : List (Datagram A)} {item : RecvItem}
    (h : item ∈ ((ds.filterMap Datagram.received?).filter
      fun r => 0 ≤ P.predSize (r.1.take bufferSize)).map
        fun r => (r.1.take bufferSize, some (token r.2))) :
    ∃ bytes addr, Datagram.received bytes addr ∈ ds ∧
      item = (bytes.take bufferSize, some (token addr)) := by
  obtain ⟨⟨bytes, addr⟩, hr, rfl⟩ := List.mem_map.mp h
  obtain ⟨d, hd, hdr⟩ := List.mem_filterMap.mp (List.mem_filter.mp hr).1
  cases d with
  | failed => cases hdr
  | received b a =>
    obtain ⟨rfl, rfl⟩ := Prod.mk.inj (Option.some.inj hdr)
    exact ⟨b, a, hd, rfl⟩

/-- **The datagram receive paths.**  On both datagram media, however the `receive()` calls
and `close()` interleave with the worker, the items the calls took and the `Clear`s discarded,
in the order they left `recv_queue`, followed by those still in it, are the datagrams
`recvfrom` delivered, in order, except the failed ones and those `P::pred_size` rejects, each
cut to `buffer_size` bytes whatever length `pred_size` predicted and with a token of the
transport holding its sender's address; each call returned exactly the items it took; and a
non-empty reply sent through the transport with an item's token goes to the address of the
datagram the item came from. -/
theorem datagram_receive_path {P : FramingProtocol} {bufferSize self : Nat}
    {c : InetAddr} {u : UnixAddr}
    {S : RecvPath Unit (Datagram InetAddr)} {U : RecvPath Unit (Datagram UnixAddr)}
    (hS : RecvReachable (datagramWorker (datagramReceive P bufferSize self)) () S)
    (hU : RecvReachable (datagramWorker (unixDatagramReceive P bufferSize self)) () U) :
    (S.que.removed.map Prod.fst ++ S.que.queue =
        ((S.inputs.filterMap Datagram.received?).filter
          fun r => 0 ≤ P.predSize (r.1.take bufferSize)).map
            (fun r => (r.1.take bufferSize, some (.datagram self r.2))) ∧
      (∀ k, (S.que.removed.filter (fun r => r.2 = .pop k)).map Prod.fst = (S.que.calls k).result) ∧
      ∀ item ∈ S.que.removed.map Prod.fst ++ S.que.queue, ∃ bytes addr,
        Datagram.received bytes addr ∈ S.inputs ∧
        item = (bytes.take bufferSize, some (.datagram self addr)) ∧
        ∀ reply : List UInt8, reply ≠ [] →
          (Sender.datagram self c).sendTarget (reply, item.2) = some (.inet addr)) ∧
    (U.que.removed.map Prod.fst ++ U.que.queue =
        ((U.inputs.filterMap Datagram.received?).filter
          fun r => 0 ≤ P.predSize (r.1.take bufferSize)).map
            (fun r => (r.1.take bufferSize, some (.unixDatagram self r.2))) ∧
      (∀ k, (U.que.removed.filter (fun r => r.2 = .pop k)).map Prod.fst = (U.que.calls k).result) ∧
      ∀ item ∈ U.que.removed.map Prod.fst ++ U.que.queue, ∃ bytes addr,
        Datagram.received bytes addr ∈ U.inputs ∧
        item = (bytes.take bufferSize, some (.unixDatagram self addr)) ∧
        ∀ reply : List UInt8, reply ≠ [] →
          (Sender.unixDatagram self u).sendTarget (reply, item.2) = some (.unix addr)) := by
  obtain ⟨hS₁, hS₂⟩ := hS.datagram
  obtain ⟨hU₁, hU₂⟩ := hU.datagram
  rw [datagramReceive, flatMap_addressedReceive] at hS₁
  rw [unixDatagramReceive, flatMap_addressedReceive] at hU₁
  refine ⟨⟨hS₁, hS₂, fun item hi => ?_⟩, ⟨hU₁, hU₂, fun item hi => ?_⟩⟩
  all_goals
    first | rw [hS₁] at hi | rw [hU₁] at hi
    obtain ⟨bytes, addr, hd, rfl⟩ := mem_addressed_items hi
    exact ⟨bytes, addr, hd, rfl, fun reply hr => addressedSendTarget_of_ne_nil _ _ hr⟩

/-- A `sockaddr_in` of zero bytes. -/
def zeroInetAddr : InetAddr := ⟨List.replicate 16 0, 16, List.length_replicate 16 0, le_rfl⟩

/-- A framing whose `pred_size` rejects a buffer that starts with 0. -/
def zeroRejecting : FramingProtocol := ⟨1, fun w => if w.head? = some 0 then -1 else w.length⟩

/-- The datagrams of the witness below: one longer than the 2-byte buffer, a failed
`recvfrom`, one that `pred_size` rejects, and a short one. -/
def witnessDatagrams {A : Type} (a : A) : List (Datagram A) :=
  [.received [1, 2, 3] a, .failed, .received [0, 7] a, .received [4] a]

/-- Both datagram paths with 2-byte buffers, after four datagrams and one `receive()`: the first
is cut to two bytes and taken by the call, the failed and the rejected ones are skipped, and the
last waits in the queue. -/
theorem datagram_receive_path_after_four_datagrams :
    ∃ S U, RecvReachable (datagramWorker (datagramReceive zeroRejecting 2 0)) () S ∧
      RecvReachable (datagramWorker (unixDatagramReceive zeroRejecting 2 0)) () U ∧
      S.inputs = witnessDatagrams zeroInetAddr ∧ U.inputs = witnessDatagrams zeroUnixAddr ∧
      (S.que.calls 0).result = [([1, 2], some (.datagram 0 zeroInetAddr))] ∧
      S.que.queue = [([4], some (.datagram 0 zeroInetAddr))] ∧
      (U.que.calls 0).result = [([1, 2], some (.unixDatagram 0 zeroUnixAddr))] ∧
      U.que.queue = [([4], some (.unixDatagram 0 zeroUnixAddr))] ∧
      (S.que.removed.map Prod.fst ++ S.que.queue =
          ((S.inputs.filterMap Datagram.received?).filter
            fun r => 0 ≤ zeroRejecting.predSize (r.1.take 2)).map
              (fun r => (r.1.take 2, some (.datagram 0 r.2))) ∧
        (∀ k, (S.que.removed.filter (fun r => r.2 = .pop k)).map Prod.fst =
          (S.que.calls k).result) ∧
        ∀ item ∈ S.que.removed.map Prod.fst ++ S.que.queue, ∃ bytes addr,
          Datagram.received bytes addr ∈ S.inputs ∧
          item = (bytes.take 2, some (.datagram 0 addr)) ∧
          ∀ reply : List UInt8, reply ≠ [] →
            (Sender.datagram 0 zeroInetAddr).sendTarget (reply, item.2) = some (.inet addr)) ∧
      (U.que.removed.map Prod.fst ++ U.que.queue =
          ((U.inputs.filterMap Datagram.received?).filter
            fun r => 0 ≤ zeroRejecting.predSize (r.1.take 2)).map
              (fun r => (r.1.take 2, some (.unixDatagram 0 r.2))) ∧
        (∀ k, (U.que.removed.filter (fun r => r.2 = .pop k)).map Prod.fst =
          (U.que.calls k).result) ∧
        ∀ item ∈ U.que.removed.map Prod.fst ++ U.que.queue, ∃ bytes addr,
          Datagram.received bytes addr ∈ U.inputs ∧
          item = (bytes.take 2, some (.unixDatagram 0 addr)) ∧
          ∀ reply : List UInt8, reply ≠ [] →
            (Sender.unixDatagram 0 zeroUnixAddr).sendTarget (reply, item.2) =
              some (.unix addr)) := by
  obtain ⟨S, hS, hSe⟩ := RecvReachable.of_run
    (datagramWorker (datagramReceive zeroRejecting 2 0)) ()
    ((witnessDatagrams zeroInetAddr).map RecvEvent.input ++ [RecvEvent.que (.enter 0 false)])
    (fun S => (S.inputs, (S.que.calls 0).result, S.que.queue))
    (witnessDatagrams zeroInetAddr, [([1, 2], some (.datagram 0 zeroInetAddr))],
      [([4], some (.datagram 0 zeroInetAddr))]) (by rfl)
  obtain ⟨U, hU, hUe⟩ := RecvReachable.of_run
    (datagramWorker (unixDatagramReceive zeroRejecting 2 0)) ()
    ((witnessDatagrams zeroUnixAddr).map RecvEvent.input ++ [RecvEvent.que (.enter 0 false)])
    (fun U => (U.inputs, (U.que.calls 0).result, U.que.queue))
    (witnessDatagrams zeroUnixAddr, [([1, 2], some (.unixDatagram 0 zeroUnixAddr))],
      [([4], some (.unixDatagram 0 zeroUnixAddr))]) (by rfl)
  simp only [Prod.mk.injEq] at hSe hUe
  exact ⟨S, U, hS, hU, hSe.1, hUe.1, hSe.2.1, hSe.2.2, hUe.2.1, hUe.2.2,
    datagram_receive_path (c := zeroInetAddr) (u := zeroUnixAddr) hS hU⟩

end Transport
