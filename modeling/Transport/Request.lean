import Mathlib.Data.List.Basic

/-
  Transport.Request — `BaseTransport::request`, the retrying request/response loop.

      while (max_retry--) {
          send_que.Push(std::make_pair(frame, nullptr));
          DataPair frame_pair = recv_que.Pop(dur);
          if (frame_pair.first) return frame_pair.first;
          logger.warn("request timeout, retrying...");
      }
      return nullptr;

  The frame type is pointer-like (`if (frame_pair.first)` tests it, `return nullptr` builds the
  null frame): `Option β`, with `none` the null frame.  Each attempt's `recv_que.Pop(dur)`
  either hands back a pair or raises; nothing in the loop catches `QueueTimeout`, so the first
  attempt that times out ends the request with it, although the warning after the `Pop` reads
  as if a timeout were retried.  `max_retry` is an `int` tested before its decrement.  From a
  negative value the counter would have to go below `INT_MIN`, which is signed overflow and so
  undefined behaviour: the model takes the count a wrapping 32-bit counter gives, and what it
  says of a negative `max_retry` holds of that choice only.

  Main results:
    * `request_spec` — what the loop does, for every retry count and every run of replies.
    * `request_timeout_escapes` — at `max_retry = 5` with no reply, `QueueTimeout` after one push.
-/

namespace Transport

/-- How one `recv_que.Pop(dur)` ends. -/
inductive PopOutcome (β : Type) where
  | item (frame : Option β)
  | timeout
  | cleared
  deriving DecidableEq, Repr

/-- What `request` raises. -/
inductive QueueError where
  | queueTimeout
  | queueCleared
  deriving DecidableEq, Repr

variable {β : Type}

/-- The number of times `while (max_retry--)` passes its test.  From `max_retry ≥ 0` the
32-bit `int` counter runs down to 0, so the count is `max_retry`.  From a negative value it would
have to go below `INT_MIN`: `INT_MIN--` is signed overflow, undefined behaviour in C++, and the
code has no defined count there.  The model takes the count of a counter that wraps, `max_retry`
modulo `2^32`. -/
def retryCount (maxRetry : Int) : Nat := (maxRetry % 4294967296).toNat

/-- The loop from attempt `i` on, with `n` passes of the test left: the result, and the frames
pushed to `send_que` (each with a null token). -/
def requestLoop (frame : Option β) (outcomes : Nat → PopOutcome β) :
    Nat → Nat → Except QueueError (Option β) × List (Option β)
  | 0, _ => (.ok none, [])
  | n + 1, i =>
    match outcomes i with
    | .timeout => (.error .queueTimeout, [frame])
    | .cleared => (.error .queueCleared, [frame])
    | .item f =>
      if f.isSome then (.ok f, [frame])
      else
        let r := requestLoop frame outcomes n (i + 1)
        (r.1, frame :: r.2)

/-- `request(frame, max_retry, dur)` after `ensure_open()`, the `k`-th `Pop(dur)` ending as
`outcomes k`. -/
def request (frame : Option β) (maxRetry : Int) (outcomes : Nat → PopOutcome β) :
    Except QueueError (Option β) × List (Option β) :=
  requestLoop frame outcomes (retryCount maxRetry) 0

/-- How the attempt that does not go round the loop again ends `request`: with its frame, or
raising what its `Pop(dur)` raised. -/
def PopOutcome.ending : PopOutcome β → Except QueueError (Option β)
  | .item f => .ok f
  | .timeout => .error .queueTimeout
  | .cleared => .error .queueCleared

/-! ## §1. What the loop does. -/

variable {frame : Option β} {outcomes : Nat → PopOutcome β}

/-- A null reply sends the loop round again, after one push. -/
theorem requestLoop_null {n i : Nat} (h : outcomes i = .item none) :
    requestLoop frame outcomes (n + 1) i =
      ((requestLoop frame outcomes n (i + 1)).1,
        frame :: (requestLoop frame outcomes n (i + 1)).2) := by
  simp [requestLoop, h]

/-- Every attempt got a null frame: the frame is pushed once per pass, and the null frame is
returned. -/
theorem requestLoop_all_null {n i : Nat} (h : ∀ k, k < n → outcomes (i + k) = .item none) :
    requestLoop frame outcomes n i = (.ok none, List.replicate n frame) := by
  induction n generalizing i with
  | zero => rfl
  | succ n ih =>
    rw [requestLoop_null (by simpa using h 0 (Nat.succ_pos n)),
      ih fun k hk => by simpa [Nat.add_assoc, Nat.add_comm 1 k] using h (k + 1) (by omega)]
    rfl

/-- Attempt `i + j` is the first whose `Pop(dur)` did not hand back a null frame: the frame is
pushed `j + 1` times, and `request` ends as that attempt does. -/
theorem requestLoop_first {n i j : Nat} (hj : j < n)
    (hnull : ∀ k, k < j → outcomes (i + k) = .item none) (hfirst : outcomes (i + j) ≠ .item none) :
    requestLoop frame outcomes n i = ((outcomes (i + j)).ending, List.replicate (j + 1) frame) := by
  induction j generalizing n i with
  | zero =>
    obtain ⟨n, rfl⟩ : ∃ n', n = n' + 1 := ⟨n - 1, by omega⟩
    simp only [Nat.add_zero] at hfirst ⊢
    simp only [requestLoop]
    cases ho : outcomes i with
    | item f => cases f with
      | none => exact absurd ho hfirst
      | some x => rfl
    | timeout => rfl
    | cleared => rfl
  | succ j ih =>
    obtain ⟨n, rfl⟩ : ∃ n', n = n' + 1 := ⟨n - 1, by omega⟩
    have hshift : ∀ k, i + (k + 1) = i + 1 + k := fun k => by omega
    rw [requestLoop_null (by simpa using hnull 0 (Nat.succ_pos j)),
      ih (n := n) (i := i + 1) (by omega)
        (fun k hk => by rw [← hshift]; exact hnull (k + 1) (by omega)) (by rwa [← hshift]),
      hshift j]
    rfl

/-- **What `request` does.** Let `j` be the first attempt whose `Pop(dur)` does not hand back a
null frame. If the loop test passes more than `j` times, `request` pushes the frame `j + 1`
times and ends as attempt `j` does: with its frame, `QueueTimeout` or `QueueCleared`.
Otherwise it pushes the frame once per pass and returns the null frame. -/
theorem request_spec (frame : Option β) (maxRetry : Int) (outcomes : Nat → PopOutcome β) :
    (∀ j, j < retryCount maxRetry → (∀ k, k < j → outcomes k = .item none) →
      outcomes j ≠ .item none →
      request frame maxRetry outcomes = ((outcomes j).ending, List.replicate (j + 1) frame)) ∧
    ((∀ k, k < retryCount maxRetry → outcomes k = .item none) →
      request frame maxRetry outcomes = (.ok none, List.replicate (retryCount maxRetry) frame)) :=
  ⟨fun _ hj hnull hfirst => by
    simpa [request] using (requestLoop_first hj (fun k hk => by simpa using hnull k hk)
      (by simpa using hfirst) : requestLoop frame outcomes (retryCount maxRetry) 0 = _),
    fun hnull => requestLoop_all_null (by simpa using hnull)⟩

/-! ## §2. The defect at the documented defaults. -/

/-- **`QueueTimeout` escapes.** With the default `max_retry = 5` and a peer that never
answers, `request` raises `QueueTimeout` after one push instead of returning the null frame
after five attempts. -/
theorem request_timeout_escapes :
    request (some 1) 5 (fun _ => (.timeout : PopOutcome Nat)) = (.error .queueTimeout, [some 1]) :=
  rfl

end Transport
