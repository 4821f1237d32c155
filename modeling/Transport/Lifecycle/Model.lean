import Mathlib.Data.Nat.Defs

/-
  Transport.Lifecycle.Model — `open()`, `close()` and `ensure_open()` of the three media, one
  caller at a time, with the worker threads free to leave whenever the code lets them.

  The flags `is_open` and `is_closed` of `_transport_base` decide everything:

      _transport_base::open   if (is_open) return; is_open = true; spawn the send and the
                              receive worker
      SerialPortTransport, DatagramTransport, UnixDatagramTransport ::open
                              if (is_open) return; else if (is_closed) { is_open = false;
                              is_closed = false; }  then take the OS handle (`::open` of the
                              path unless `tty_id >= 0`; `socket()`), `super::open()`, and the
                              datagram media then `bind` if a local address is set
      the media's close       if (is_open && !closed()) release the handle; then
                              BaseTransport::close: is_closed = true, Clear both queues
      ensure_open             if (is_closed) throw "transport closed"; if (!is_open) open()

  A worker leaves its loop only once `is_closed` is set: the send worker through its loop test
  or the `QueueCleared` of `close()`'s `Clear`, the receive worker through its loop test.  The
  operating system's answers (does `socket()` or `::open` give a descriptor, does the `bind`
  succeed) are arguments of each call.  A run starts where a constructor leaves the transport:
  `Lifecycle.init` from a path or an address, `Lifecycle.fromFd` for a serial port built on a
  descriptor, whose `tty_id` is set before the first `open()`.

  `close()` never clears `is_open`, so the reopen branch `else if (is_closed)` runs only for a
  transport closed before it was ever opened.  Once a transport has been opened and closed,
  every later `open()` returns at its first test, without raising and without effect:
  `closed()` stays true and the workers, once gone, never come back.

  Main results:
    * `LifeInv.step` — at most one worker of each kind, and exactly one of each while the
      transport is open and not closed, in every reachable state.
    * `mediumOpen_spec_of_not_final` — an `open()` that returns without raising, from a state
      that was not opened and closed, leaves one worker of each kind and `closed()` false.
    * `run_of_final` — opened and closed is final: no call ever leaves it.
    * `open_keeps_workers_until_closed` — the two, in every reachable state.
    * `reopen_leaves_transport_closed` — `open(); close(); open()` returns with `closed()` true.
-/

namespace Transport

/-! ## §1. State. -/

/-- The three concrete media. -/
inductive Medium where
  | serialPort
  | datagram
  | unixDatagram
  deriving DecidableEq, Repr

/-- Whether the medium's `open()` may `bind` after `super::open()` (the datagram media, when a
local address is set). -/
def Medium.binds : Medium → Bool
  | .serialPort => false
  | .datagram | .unixDatagram => true

/-- What the operating system answers during one `open()`: whether `::open(path)` or `socket()`
gives a descriptor, and whether the `bind` of a set local address succeeds (`true` when none is
set). -/
structure OsReply where
  acquire : Bool
  bind : Bool
  deriving DecidableEq, Repr

/-- What `open()` and `ensure_open()` raise. -/
inductive OpenError where
  /-- `ensure_open`: `std::runtime_error("transport closed")`. -/
  | transportClosed
  /-- `SerialPortTransport::open`: `raise_from_errno("open serial port failed")`. -/
  | openFailed
  /-- The datagram media's `open`: `raise_from_errno("failed to create socket")`. -/
  | socketFailed
  /-- The datagram media's `open` / `_bind`: `raise_from_errno("failed to bind socket")`. -/
  | bindFailed
  deriving DecidableEq, Repr

/-- The error of a failed `::open` or `socket()`. -/
def Medium.acquireError : Medium → OpenError
  | .serialPort => .openFailed
  | .datagram | .unixDatagram => .socketFailed

/-- The lifecycle state of a transport: the two flags, the live workers, and the OS handles.
`handleSet` is the serial port's `tty_id >= 0`; `created` and `released` count the handles the
transport has opened and closed. -/
structure Lifecycle where
  isOpen : Bool
  isClosed : Bool
  sendWorkers : Nat
  receiveWorkers : Nat
  handleSet : Bool
  created : Nat
  released : Nat
  deriving DecidableEq, Repr

namespace Lifecycle

/-- A transport as constructed from a path or an address: `is_open(false), is_closed(false)`,
`tty_id(-1)`. -/
def init : Lifecycle := ⟨false, false, 0, 0, false, 0, 0⟩

/-- A serial port constructed from a descriptor `tty_id >= 0`: `tty_id(tty_id)`, so the handle
is set and `open()` takes no other; the transport created none itself. -/
def fromFd : Lifecycle := ⟨false, false, 0, 0, true, 0, 0⟩

/-! ## §2. The calls. -/

/-- The reopen branch: `this->is_open = false; this->is_closed = false;`. -/
def rearm (s : Lifecycle) : Lifecycle := { s with isOpen := false, isClosed := false }

/-- The body of `_transport_base::open` past its test: `is_open = true` and the two detached
worker threads. -/
def spawnWorkers (s : Lifecycle) : Lifecycle :=
  { s with isOpen := true, sendWorkers := s.sendWorkers + 1,
           receiveWorkers := s.receiveWorkers + 1 }

/-- `_transport_base::open`. -/
def baseOpen (s : Lifecycle) : Lifecycle :=
  if s.isOpen then s else s.spawnWorkers

/-- Taking the OS handle, `none` when it raises: the serial port opens its path only while
`tty_id < 0`; the datagram media create a socket every time. -/
def acquireHandle (m : Medium) (ok : Bool) (s : Lifecycle) : Option Lifecycle :=
  match m with
  | .serialPort =>
    if s.handleSet then some s
    else if ok then some { s with handleSet := true, created := s.created + 1 } else none
  | .datagram | .unixDatagram =>
    if ok then some { s with created := s.created + 1 } else none

/-- The medium's `open()`: the state it leaves, and what it raises. -/
def mediumOpen (m : Medium) (os : OsReply) (s : Lifecycle) : Lifecycle × Option OpenError :=
  if s.isOpen then (s, none)
  else
    let s₁ := if s.isClosed then s.rearm else s
    match acquireHandle m os.acquire s₁ with
    | none => (s₁, some m.acquireError)
    | some s₂ => (baseOpen s₂, if m.binds && !os.bind then some .bindFailed else none)

/-- The medium's `close()` followed by `BaseTransport::close` (the queues are in
`Transport.Shutdown`). -/
def mediumClose (s : Lifecycle) : Lifecycle :=
  let s₁ := if s.isOpen && !s.isClosed then { s with released := s.released + 1 } else s
  { s₁ with isClosed := true }

/-- `ensure_open()`, run by `send`, `receive` and `request` before they touch a queue. -/
def ensureOpen (m : Medium) (os : OsReply) (s : Lifecycle) : Lifecycle × Option OpenError :=
  if s.isClosed then (s, some .transportClosed)
  else if !s.isOpen then mediumOpen m os s
  else (s, none)

/-- `closed()`. -/
def closed (s : Lifecycle) : Bool := s.isClosed

/-! ## §3. Runs. -/

/-- A call by the one caller, or a worker leaving its loop. -/
inductive LifeOp where
  | open (os : OsReply)
  | ensure (os : OsReply)
  | close
  | sendExit
  | receiveExit
  deriving DecidableEq, Repr

/-- One step; `none` when a worker cannot leave (the transport is not closed, or no such worker
is alive). -/
def step (m : Medium) (s : Lifecycle) : LifeOp → Option Lifecycle
  | .open os => some (mediumOpen m os s).1
  | .ensure os => some (ensureOpen m os s).1
  | .close => some s.mediumClose
  | .sendExit =>
    if s.isClosed ∧ 0 < s.sendWorkers then some { s with sendWorkers := s.sendWorkers - 1 }
    else none
  | .receiveExit =>
    if s.isClosed ∧ 0 < s.receiveWorkers then
      some { s with receiveWorkers := s.receiveWorkers - 1 }
    else none

/-- The steps of a run, in order. -/
def run (m : Medium) (s : Lifecycle) : List LifeOp → Option Lifecycle
  | [] => some s
  | a :: as => (s.step m a).bind (·.run m as)

end Lifecycle

/-- The states of every run from construction: from a path or an address, or, for the serial
port, from a descriptor. -/
inductive LifeReachable (m : Medium) : Lifecycle → Prop
  | init : LifeReachable m .init
  | fromFd : m = .serialPort → LifeReachable m .fromFd
  | step {s s' : Lifecycle} (a : Lifecycle.LifeOp) :
      LifeReachable m s → s.step m a = some s' → LifeReachable m s'

namespace Lifecycle

variable {m : Medium} {s s' : Lifecycle}

/-! ## §4. What each call does. -/

@[simp] theorem spawnWorkers_isOpen : s.spawnWorkers.isOpen = true := rfl
@[simp] theorem spawnWorkers_isClosed : s.spawnWorkers.isClosed = s.isClosed := rfl
@[simp] theorem spawnWorkers_sendWorkers : s.spawnWorkers.sendWorkers = s.sendWorkers + 1 := rfl
@[simp] theorem spawnWorkers_receiveWorkers :
    s.spawnWorkers.receiveWorkers = s.receiveWorkers + 1 := rfl

/-- Taking the handle touches neither the flags nor the workers. -/
theorem acquireHandle_frame {ok : Bool} (h : acquireHandle m ok s = some s') :
    s'.isOpen = s.isOpen ∧ s'.isClosed = s.isClosed ∧ s'.sendWorkers = s.sendWorkers ∧
      s'.receiveWorkers = s.receiveWorkers := by
  unfold acquireHandle at h
  split at h <;> (repeat' split at h) <;> cases h <;> exact ⟨rfl, rfl, rfl, rfl⟩

/-- **What `open()` does.** It returns at its first test when the transport is open; otherwise
either it raises before `super::open()`, with the workers untouched and the flags re-armed if
the transport was closed, or it spawns one worker of each kind and leaves `is_open` set and
`is_closed` clear. -/
theorem mediumOpen_cases (m : Medium) (os : OsReply) (s : Lifecycle) :
    (s.isOpen = true ∧ mediumOpen m os s = (s, none)) ∨
    (s.isOpen = false ∧ (mediumOpen m os s).1.isOpen = false ∧
      (mediumOpen m os s).1.isClosed = false ∧
      (mediumOpen m os s).1.sendWorkers = s.sendWorkers ∧
      (mediumOpen m os s).1.receiveWorkers = s.receiveWorkers ∧
      (mediumOpen m os s).2 = some m.acquireError) ∨
    (s.isOpen = false ∧ (mediumOpen m os s).1.isOpen = true ∧
      (mediumOpen m os s).1.isClosed = false ∧
      (mediumOpen m os s).1.sendWorkers = s.sendWorkers + 1 ∧
      (mediumOpen m os s).1.receiveWorkers = s.receiveWorkers + 1 ∧
      (mediumOpen m os s).2 ≠ some m.acquireError) := by
  cases ho : s.isOpen
  · have hc : (if s.isClosed then s.rearm else s).isClosed = false ∧
        (if s.isClosed then s.rearm else s).isOpen = false ∧
        (if s.isClosed then s.rearm else s).sendWorkers = s.sendWorkers ∧
        (if s.isClosed then s.rearm else s).receiveWorkers = s.receiveWorkers := by
      cases hcl : s.isClosed <;> simp [rearm, hcl, ho]
    simp only [mediumOpen, ho, Bool.false_eq_true, ↓reduceIte]
    split
    · exact .inr (.inl ⟨trivial, hc.2.1, hc.1, hc.2.2.1, hc.2.2.2, rfl⟩)
    · rename_i s₂ hs₂
      obtain ⟨h₁, h₂, h₃, h₄⟩ := acquireHandle_frame hs₂
      refine .inr (.inr ⟨trivial, ?_⟩)
      simp only [baseOpen, h₁, hc.2.1, Bool.false_eq_true, ↓reduceIte, spawnWorkers_isOpen,
        spawnWorkers_isClosed, h₂, hc.1, spawnWorkers_sendWorkers, h₃, hc.2.2.1,
        spawnWorkers_receiveWorkers, h₄, hc.2.2.2, true_and]
      cases m <;> cases os.bind <;> simp [Medium.binds, Medium.acquireError]
  · exact .inl ⟨rfl, by simp [mediumOpen, ho]⟩

/-- `ensure_open()` raises on a closed transport, and otherwise is the medium's `open()` when
the transport is not open and nothing when it is. -/
theorem ensureOpen_eq (m : Medium) (os : OsReply) (s : Lifecycle) :
    ensureOpen m os s =
      if s.isClosed then (s, some .transportClosed) else mediumOpen m os s := by
  unfold ensureOpen
  cases s.isClosed <;> cases ho : s.isOpen <;> simp [mediumOpen, ho]

@[simp] theorem mediumClose_isClosed : s.mediumClose.isClosed = true := by
  unfold mediumClose; split <;> rfl

@[simp] theorem mediumClose_isOpen : s.mediumClose.isOpen = s.isOpen := by
  unfold mediumClose; split <;> rfl

@[simp] theorem mediumClose_sendWorkers : s.mediumClose.sendWorkers = s.sendWorkers := by
  unfold mediumClose; split <;> rfl

@[simp] theorem mediumClose_receiveWorkers :
    s.mediumClose.receiveWorkers = s.receiveWorkers := by
  unfold mediumClose; split <;> rfl

/-- **What a step can do.** Every step is an `open()` (possibly through `ensure_open()`), a
`close()`, or the exit of a live worker of a closed transport. -/
theorem step_cases {a : LifeOp} (h : s.step m a = some s') :
    (∃ os, s' = (mediumOpen m os s).1) ∨ s' = s ∨ s' = s.mediumClose ∨
    (s.isClosed = true ∧ 0 < s.sendWorkers ∧
      s' = { s with sendWorkers := s.sendWorkers - 1 }) ∨
    (s.isClosed = true ∧ 0 < s.receiveWorkers ∧
      s' = { s with receiveWorkers := s.receiveWorkers - 1 }) := by
  cases a with
  | «open» os => exact .inl ⟨os, (Option.some.inj h).symm⟩
  | ensure os =>
    have h' := (Option.some.inj h).symm
    rw [ensureOpen_eq] at h'
    split at h'
    · exact .inr (.inl (by simpa using h'))
    · exact .inl ⟨os, h'⟩
  | close => exact .inr (.inr (.inl (Option.some.inj h).symm))
  | sendExit =>
    simp only [step] at h
    split at h
    · exact .inr (.inr (.inr (.inl ⟨‹_ ∧ _›.1, ‹_ ∧ _›.2, (Option.some.inj h).symm⟩)))
    · cases h
  | receiveExit =>
    simp only [step] at h
    split at h
    · exact .inr (.inr (.inr (.inr ⟨‹_ ∧ _›.1, ‹_ ∧ _›.2, (Option.some.inj h).symm⟩)))
    · cases h

end Lifecycle

/-! ## §5. The worker invariant. -/

/-- At most one worker of each kind; none before the first `open()`; one of each while the
transport is open and not closed. -/
structure LifeInv (s : Lifecycle) : Prop where
  send_le : s.sendWorkers ≤ 1
  receive_le : s.receiveWorkers ≤ 1
  not_open : s.isOpen = false → s.sendWorkers = 0 ∧ s.receiveWorkers = 0
  open_live : s.isOpen = true → s.isClosed = false → s.sendWorkers = 1 ∧ s.receiveWorkers = 1

namespace LifeInv

open Lifecycle

variable {m : Medium} {s s' : Lifecycle}

theorem init : LifeInv Lifecycle.init :=
  ⟨Nat.zero_le _, Nat.zero_le _, fun _ => ⟨rfl, rfl⟩, fun h => absurd h (by decide)⟩

theorem fromFd : LifeInv Lifecycle.fromFd :=
  ⟨Nat.zero_le _, Nat.zero_le _, fun _ => ⟨rfl, rfl⟩, fun h => absurd h (by decide)⟩

theorem mediumOpen (h : LifeInv s) (os : OsReply) : LifeInv (mediumOpen m os s).1 := by
  rcases mediumOpen_cases m os s with ⟨-, he⟩ | ⟨ho, h₁, -, h₃, h₄, -⟩ | ⟨ho, h₁, h₂, h₃, h₄, -⟩
  · rw [he]; exact h
  · obtain ⟨hs, hr⟩ := h.not_open ho
    exact ⟨by omega, by omega, fun _ => ⟨by omega, by omega⟩, fun h => absurd h (by simp [h₁])⟩
  · obtain ⟨hs, hr⟩ := h.not_open ho
    exact ⟨by omega, by omega, fun h => absurd h (by simp [h₁]), fun _ _ => ⟨by omega, by omega⟩⟩

/-- **One step.** Every step keeps the worker invariant. -/
theorem step (h : LifeInv s) {a : LifeOp} (hs : s.step m a = some s') : LifeInv s' := by
  rcases step_cases hs with ⟨os, rfl⟩ | rfl | rfl | ⟨hc, hw, rfl⟩ | ⟨hc, hw, rfl⟩
  · exact h.mediumOpen os
  · exact h
  · exact ⟨by simpa using h.1, by simpa using h.2, by simpa using h.not_open,
      fun _ hc => by simp at hc⟩
  · exact ⟨by have := h.1; simp; omega, h.2, fun ho => by simp [h.not_open ho] at hw,
      fun _ h' => absurd hc (by simp_all)⟩
  · exact ⟨h.1, by have := h.2; simp; omega, fun ho => by simp [h.not_open ho] at hw,
      fun _ h' => absurd hc (by simp_all)⟩

end LifeInv

theorem LifeReachable.lifeInv {m : Medium} {s : Lifecycle} (h : LifeReachable m s) :
    LifeInv s := by
  induction h with
  | init => exact .init
  | fromFd _ => exact .fromFd
  | step _ _ hs ih => exact ih.step hs

theorem LifeReachable.run {m : Medium} {s s' : Lifecycle} {ops : List Lifecycle.LifeOp}
    (h : LifeReachable m s) (hr : s.run m ops = some s') : LifeReachable m s' := by
  induction ops generalizing s with
  | nil => cases hr; exact h
  | cons a ops ih =>
    simp only [Lifecycle.run, Option.bind_eq_some] at hr
    obtain ⟨s₁, h₁, hr⟩ := hr
    exact ih (.step a h h₁) hr

/-! ## §6. `open()` before and after the first `close()`. -/

namespace Lifecycle

variable {m : Medium} {s s' : Lifecycle}

/-- **An `open()` that returns.** From a reachable state that is not both opened and closed,
an `open()` that returns without raising leaves the transport open, not closed, with one
worker of each kind. -/
theorem mediumOpen_spec_of_not_final (h : LifeInv s) (os : OsReply)
    (hs : s.isOpen = false ∨ s.isClosed = false) (hok : (mediumOpen m os s).2 = none) :
    (mediumOpen m os s).1.isOpen = true ∧ (mediumOpen m os s).1.closed = false ∧
      (mediumOpen m os s).1.sendWorkers = 1 ∧ (mediumOpen m os s).1.receiveWorkers = 1 := by
  rcases mediumOpen_cases m os s with ⟨ho, he⟩ | ⟨-, -, -, -, -, he⟩ | ⟨ho, h₁, h₂, h₃, h₄, -⟩
  · have hc : s.isClosed = false := by simpa [ho] using hs
    rw [he]
    exact ⟨ho, hc, h.open_live ho hc⟩
  · simp [he] at hok
  · obtain ⟨hs, hr⟩ := h.not_open ho
    exact ⟨h₁, h₂, by omega, by omega⟩

/-- Opened, then closed: the state no call leaves. -/
def Final (s : Lifecycle) : Prop := s.isOpen = true ∧ s.isClosed = true

instance : DecidablePred Final := fun _ => inferInstanceAs (Decidable (_ ∧ _))

/-- On a final state `open()` returns at its first test and `ensure_open()` raises. -/
theorem calls_of_final (hf : Final s) (os : OsReply) :
    mediumOpen m os s = (s, none) ∧ ensureOpen m os s = (s, some .transportClosed) := by
  simp [mediumOpen, ensureOpen, hf.1, hf.2]

theorem Final.step (hf : Final s) {a : LifeOp} (hs : s.step m a = some s') : Final s' := by
  rcases step_cases hs with ⟨os, rfl⟩ | rfl | rfl | ⟨-, -, rfl⟩ | ⟨-, -, rfl⟩
  · rw [(calls_of_final hf os).1]; exact hf
  · exact hf
  · exact ⟨by simpa using hf.1, mediumClose_isClosed⟩
  all_goals exact hf

/-- **Closed for good.** From a state that was opened and closed, every run of calls and worker
exits stays there: `closed()` is true, `open()` does nothing and `ensure_open()` raises. -/
theorem run_of_final (hf : Final s) {ops : List LifeOp} (h : s.run m ops = some s') :
    Final s' := by
  induction ops generalizing s with
  | nil => cases h; exact hf
  | cons a ops ih =>
    simp only [run, Option.bind_eq_some] at h
    obtain ⟨s₁, h₁, h⟩ := h
    exact ih (hf.step h₁) h

end Lifecycle

/-- **`open()` before and after the first `close()`.** In every reachable state: if the
transport was not both opened and closed, an `open()` that returns without raising leaves it
open, not closed, with one worker of each kind; if it was, every run of calls and worker exits
keeps it so, with `open()` returning at once and `ensure_open()` raising "transport closed". -/
theorem open_keeps_workers_until_closed (m : Medium) (os : OsReply) {s : Lifecycle}
    (h : LifeReachable m s) :
    ((s.isOpen = false ∨ s.isClosed = false) → (Lifecycle.mediumOpen m os s).2 = none →
      (Lifecycle.mediumOpen m os s).1.isOpen = true ∧
      (Lifecycle.mediumOpen m os s).1.closed = false ∧
      (Lifecycle.mediumOpen m os s).1.sendWorkers = 1 ∧
      (Lifecycle.mediumOpen m os s).1.receiveWorkers = 1) ∧
    (s.Final → ∀ ops s', s.run m ops = some s' → s'.Final ∧
      Lifecycle.mediumOpen m os s' = (s', none) ∧
      Lifecycle.ensureOpen m os s' = (s', some .transportClosed)) :=
  ⟨fun hs hok => Lifecycle.mediumOpen_spec_of_not_final h.lifeInv os hs hok,
    fun hf _ _ hr => ⟨Lifecycle.run_of_final hf hr, Lifecycle.calls_of_final
      (Lifecycle.run_of_final hf hr) os⟩⟩

/-- The law on a serial port built from a descriptor, at construction (where `open()` spawns the
workers) and once opened and closed (where nothing leaves the final state). -/
theorem open_keeps_workers_on_a_descriptor :
    ∃ s, Lifecycle.fromFd.run .serialPort [.open ⟨true, true⟩, .close] = some s ∧ s.Final ∧
      ∀ t ∈ [Lifecycle.fromFd, s],
        ((t.isOpen = false ∨ t.isClosed = false) →
          (Lifecycle.mediumOpen .serialPort ⟨true, true⟩ t).2 = none →
          (Lifecycle.mediumOpen .serialPort ⟨true, true⟩ t).1.isOpen = true ∧
          (Lifecycle.mediumOpen .serialPort ⟨true, true⟩ t).1.closed = false ∧
          (Lifecycle.mediumOpen .serialPort ⟨true, true⟩ t).1.sendWorkers = 1 ∧
          (Lifecycle.mediumOpen .serialPort ⟨true, true⟩ t).1.receiveWorkers = 1) ∧
        (t.Final → ∀ ops t', t.run .serialPort ops = some t' → t'.Final ∧
          Lifecycle.mediumOpen .serialPort ⟨true, true⟩ t' = (t', none) ∧
          Lifecycle.ensureOpen .serialPort ⟨true, true⟩ t' = (t', some .transportClosed)) := by
  have h₀ : LifeReachable .serialPort .fromFd := .fromFd rfl
  have hr : Lifecycle.fromFd.run .serialPort [.open ⟨true, true⟩, .close] =
      some ⟨true, true, 1, 1, true, 0, 1⟩ := rfl
  refine ⟨_, hr, by decide, fun t ht => ?_⟩
  simp only [List.mem_cons, List.mem_singleton, List.not_mem_nil, or_false] at ht
  rcases ht with rfl | rfl
  · exact open_keeps_workers_until_closed .serialPort ⟨true, true⟩ h₀
  · exact open_keeps_workers_until_closed .serialPort ⟨true, true⟩ (h₀.run hr)

/-- **`open(); close(); open()` leaves the transport closed.** On every medium, after an
`open()`, a `close()` and the exit of both workers, the second `open()` returns without raising
and does nothing: `closed()` is true, no worker is alive, and `send()` raises "transport
closed". -/
theorem reopen_leaves_transport_closed (m : Medium) :
    ∃ s, Lifecycle.init.run m [.open ⟨true, true⟩, .close, .sendExit, .receiveExit] = some s ∧
      Lifecycle.mediumOpen m ⟨true, true⟩ s = (s, none) ∧ s.closed = true ∧
      s.sendWorkers = 0 ∧ s.receiveWorkers = 0 ∧
      (Lifecycle.ensureOpen m ⟨true, true⟩ s).2 = some .transportClosed := by
  cases m <;> exact ⟨_, rfl, rfl, rfl, rfl, rfl, rfl⟩

end Transport
