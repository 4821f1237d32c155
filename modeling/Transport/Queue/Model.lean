import Mathlib.Logic.Function.Basic
import Mathlib.Data.List.Basic

/-
  Transport.Queue.Model — `DataQueue<T>` under any interleaving of its callers.

  Every member of `DataQueue` runs under `m_Mutex`, and a `Pop` call lets go of it only inside
  `m_Cond.wait` / `m_Cond.wait_for`.  So an execution is a sequence of atomic steps, one per
  holding of the lock:

      push x      `Push`: append `x` to `m_Queue`
      clear       `Clear`: empty `m_Queue`, `m_CurrEpoch++`
      enter c     Pop call `c` takes the lock, reads `m_CurrEpoch`, and takes the front item or
                  starts to wait
      wake c      the `wait` of call `c` returns — notified or spuriously — and `c` retakes the
                  lock: `QueueCleared` on an epoch change, else the front item or a new wait
      timeout c   the `wait_for` of timed call `c` reports `cv_status::timeout`: `QueueTimeout`

  `wake` is allowed at any moment, as spurious wakeups are, so every behaviour of the
  condition variable is a run of the model.  `m_CurrEpoch` is the code's `uint8_t`.  Ghost
  fields record the pushes, the removals (by which call, or by a `Clear`) and the number of
  `Clear`s, so that the queue's laws can be stated over them.  `GetEpoch` and `CheckEpoch` hold
  the lock only to read `m_CurrEpoch`: they are observations of a state between two steps.
-/

namespace Transport

/-! ## §1. State. -/

/-- Who took an item out of `m_Queue`. -/
inductive Remover where
  | pop (call : Nat)
  | clear
  deriving DecidableEq, Repr

/-- Where a `Pop()` or `Pop(timeout)` call is.  `clears` counts the `Clear`s that ran between
its entry and its end; a timed-out call also records whether `m_Queue` was empty then. -/
inductive PopCall (α : Type) where
  | idle
  | waiting (timed : Bool) (epoch : UInt8) (entry : Nat)
  | returned (item : α) (clears : Nat)
  | cleared (clears : Nat)
  | timedOut (clears : Nat) (queueEmpty : Bool)
  deriving DecidableEq, Repr

/-- The item a call returned, if it returned one. -/
def PopCall.result {α : Type} : PopCall α → List α
  | .returned item _ => [item]
  | _ => []

/-- A `DataQueue<T>`: `m_Queue`, `m_CurrEpoch`, the Pop calls, and the ghost history. -/
structure DataQueue (α : Type) where
  queue : List α
  epoch : UInt8
  calls : Nat → PopCall α
  pushed : List α
  removed : List (α × Remover)
  clears : Nat

/-- A step of the execution: one holding of `m_Mutex`. -/
inductive QueueStep (α : Type) where
  | push (x : α)
  | clear
  | enter (call : Nat) (timed : Bool)
  | wake (call : Nat)
  | timeout (call : Nat)
  deriving DecidableEq, Repr

/-- The steps that are `Clear`s. -/
def QueueStep.isClear {α : Type} : QueueStep α → Bool
  | .clear => true
  | _ => false

namespace DataQueue

variable {α : Type}

/-- `DataQueue() : m_CurrEpoch(0)`, with no call started. -/
def init : DataQueue α := ⟨[], 0, fun _ => .idle, [], [], 0⟩

/-! ## §2. The operations. -/

/-- `Push`: `m_Queue.push_back(data)`. -/
def push (q : DataQueue α) (x : α) : DataQueue α :=
  { q with queue := q.queue ++ [x], pushed := q.pushed ++ [x] }

/-- `Clear`: `m_Queue.clear(); m_CurrEpoch++;`. -/
def clear (q : DataQueue α) : DataQueue α :=
  { q with queue := [], epoch := q.epoch + 1, removed := q.removed ++ q.queue.map (·, .clear),
           clears := q.clears + 1 }

/-- `GetEpoch`: `return m_CurrEpoch;` under the lock. -/
def getEpoch (q : DataQueue α) : UInt8 := q.epoch

/-- `CheckEpoch(epoch)`: `return m_CurrEpoch == epoch;` under the lock. -/
def checkEpoch (q : DataQueue α) (epoch : UInt8) : Bool := q.epoch == epoch

/-- Call `c` moves to `pc`. -/
def setCall (q : DataQueue α) (c : Nat) (pc : PopCall α) : DataQueue α :=
  { q with calls := Function.update q.calls c pc }

/-- The test `while (m_Queue.empty())` of call `c`, lock held: take the front item and return
it, or wait (again) with the epoch captured at entry. -/
def takeOrWait (q : DataQueue α) (c : Nat) (timed : Bool) (e : UInt8) (entry : Nat) :
    DataQueue α :=
  match q.queue with
  | x :: rest =>
    { q.setCall c (.returned x (q.clears - entry)) with
      queue := rest, removed := q.removed ++ [(x, .pop c)] }
  | [] => q.setCall c (.waiting timed e entry)

/-- One atomic step; `none` when the step is not enabled. -/
def step (q : DataQueue α) : QueueStep α → Option (DataQueue α)
  | .push x => some (q.push x)
  | .clear => some q.clear
  | .enter c timed =>
    match q.calls c with
    | .idle => some (q.takeOrWait c timed q.epoch q.clears)
    | _ => none
  | .wake c =>
    match q.calls c with
    | .waiting timed e entry =>
      if e ≠ q.epoch then some (q.setCall c (.cleared (q.clears - entry)))
      else some (q.takeOrWait c timed e entry)
    | _ => none
  | .timeout c =>
    match q.calls c with
    | .waiting true _ entry =>
      some (q.setCall c (.timedOut (q.clears - entry) q.queue.isEmpty))
    | _ => none

/-- The steps of a trace, in order. -/
def run (q : DataQueue α) : List (QueueStep α) → Option (DataQueue α)
  | [] => some q
  | a :: as => (q.step a).bind (·.run as)

end DataQueue

/-- The states of every interleaving. -/
inductive Reachable {α : Type} : DataQueue α → Prop
  | init : Reachable .init
  | step {q q' : DataQueue α} (a : QueueStep α) : Reachable q → q.step a = some q' → Reachable q'

namespace DataQueue

variable {α : Type} {q q' : DataQueue α}

theorem reachable_run {as : List (QueueStep α)} (hq : Reachable q) (h : q.run as = some q') :
    Reachable q' := by
  induction as generalizing q with
  | nil => cases h; exact hq
  | cons a as ih =>
    simp only [run, Option.bind_eq_some] at h
    obtain ⟨q₁, h₁, h⟩ := h
    exact ih (.step a hq h₁) h

/-- A trace from the start that ends in a state where `f` is `v`. -/
theorem reachable_of_run {β : Type} (as : List (QueueStep α)) (f : DataQueue α → β) (v : β)
    (h : ((init : DataQueue α).run as).map f = some v) : ∃ q, Reachable q ∧ f q = v := by
  cases hr : (init : DataQueue α).run as with
  | none => simp [hr] at h
  | some q => exact ⟨q, reachable_run .init hr, by simpa [hr] using h⟩

/-! ## §3. What a step can do. -/

/-- The call a step moves, if any, is idle or waiting before it; every other call stays. -/
theorem step_cases {a : QueueStep α} (h : q.step a = some q') :
    (∃ x, a = .push x ∧ q' = q.push x) ∨ (a = .clear ∧ q' = q.clear) ∨
    (∃ c timed, a = .enter c timed ∧ q.calls c = .idle ∧
      q' = q.takeOrWait c timed q.epoch q.clears) ∨
    (∃ c timed e entry, a = .wake c ∧ q.calls c = .waiting timed e entry ∧
      ((e ≠ q.epoch ∧ q' = q.setCall c (.cleared (q.clears - entry))) ∨
       (e = q.epoch ∧ q' = q.takeOrWait c timed e entry))) ∨
    (∃ c e entry, a = .timeout c ∧ q.calls c = .waiting true e entry ∧
      q' = q.setCall c (.timedOut (q.clears - entry) q.queue.isEmpty)) := by
  cases a with
  | push x => exact .inl ⟨x, rfl, (Option.some.inj h).symm⟩
  | clear => exact .inr (.inl ⟨rfl, (Option.some.inj h).symm⟩)
  | enter c timed =>
    simp only [step] at h
    split at h
    · exact .inr (.inr (.inl ⟨c, timed, rfl, ‹_›, (Option.some.inj h).symm⟩))
    · cases h
  | wake c =>
    simp only [step] at h
    split at h
    · refine .inr (.inr (.inr (.inl ⟨c, _, _, _, rfl, ‹_›, ?_⟩)))
      split at h
      · exact .inl ⟨‹_›, (Option.some.inj h).symm⟩
      · exact .inr ⟨not_not.mp ‹_›, (Option.some.inj h).symm⟩
    · cases h
  | timeout c =>
    simp only [step] at h
    split at h
    · exact .inr (.inr (.inr (.inr ⟨c, _, _, rfl, ‹_›, (Option.some.inj h).symm⟩)))
    · cases h

@[simp] theorem setCall_queue (c : Nat) (pc : PopCall α) : (q.setCall c pc).queue = q.queue := rfl
@[simp] theorem setCall_epoch (c : Nat) (pc : PopCall α) : (q.setCall c pc).epoch = q.epoch := rfl
@[simp] theorem setCall_clears (c : Nat) (pc : PopCall α) :
    (q.setCall c pc).clears = q.clears := rfl
@[simp] theorem setCall_pushed (c : Nat) (pc : PopCall α) :
    (q.setCall c pc).pushed = q.pushed := rfl
@[simp] theorem setCall_removed (c : Nat) (pc : PopCall α) :
    (q.setCall c pc).removed = q.removed := rfl
@[simp] theorem setCall_calls (c : Nat) (pc : PopCall α) :
    (q.setCall c pc).calls = Function.update q.calls c pc := rfl
@[simp] theorem push_calls (x : α) : (q.push x).calls = q.calls := rfl
@[simp] theorem clear_calls : q.clear.calls = q.calls := rfl
@[simp] theorem clear_clears : q.clear.clears = q.clears + 1 := rfl
@[simp] theorem push_clears (x : α) : (q.push x).clears = q.clears := rfl
@[simp] theorem push_epoch (x : α) : (q.push x).epoch = q.epoch := rfl
@[simp] theorem clear_epoch_toNat : q.clear.epoch.toNat = (q.epoch.toNat + 1) % 256 := rfl

@[simp] theorem takeOrWait_clears (c : Nat) (timed : Bool) (e : UInt8) (entry : Nat) :
    (q.takeOrWait c timed e entry).clears = q.clears := by
  unfold takeOrWait; split <;> rfl

@[simp] theorem takeOrWait_epoch (c : Nat) (timed : Bool) (e : UInt8) (entry : Nat) :
    (q.takeOrWait c timed e entry).epoch = q.epoch := by
  unfold takeOrWait; split <;> rfl

/-- `takeOrWait` moves only call `c`: to `returned` with the front item it removes, or to
`waiting`. -/
theorem takeOrWait_calls (c : Nat) (timed : Bool) (e : UInt8) (entry : Nat) :
    (∃ x rest, q.queue = x :: rest ∧
      q.takeOrWait c timed e entry = { q.setCall c (.returned x (q.clears - entry)) with
        queue := rest, removed := q.removed ++ [(x, .pop c)] }) ∨
    (q.queue = [] ∧ q.takeOrWait c timed e entry = q.setCall c (.waiting timed e entry)) := by
  unfold takeOrWait
  split
  · exact .inl ⟨_, _, ‹_›, rfl⟩
  · exact .inr ⟨‹_›, rfl⟩

@[simp] theorem getEpoch_eq : q.getEpoch = q.epoch := rfl

@[simp] theorem checkEpoch_iff {e : UInt8} : q.checkEpoch e = true ↔ q.epoch = e := beq_iff_eq

/-- Only a `Clear` moves `m_CurrEpoch`: by one, modulo 256. -/
theorem step_epoch {a : QueueStep α} (h : q.step a = some q') :
    q'.epoch.toNat = (q.epoch.toNat + if a.isClear then 1 else 0) % 256 := by
  have hlt : q.epoch.toNat < 256 := q.epoch.toNat_lt_size
  rcases step_cases h with ⟨x, rfl, rfl⟩ | ⟨rfl, rfl⟩ | ⟨c, _, rfl, -, rfl⟩ |
    ⟨c, _, _, _, rfl, -, ⟨-, rfl⟩ | ⟨-, rfl⟩⟩ | ⟨c, _, _, rfl, -, rfl⟩
  all_goals simp [QueueStep.isClear] <;> omega

/-- Only a `Clear` counts a `Clear`. -/
theorem step_clears {a : QueueStep α} (h : q.step a = some q') (ha : a ≠ .clear) :
    q'.clears = q.clears := by
  rcases step_cases h with ⟨x, -, rfl⟩ | ⟨rfl, -⟩ | ⟨c, _, -, -, rfl⟩ |
    ⟨c, _, _, _, -, -, ⟨-, rfl⟩ | ⟨-, rfl⟩⟩ | ⟨c, _, _, -, -, rfl⟩ <;> simp_all

/-- Over a whole trace, `m_CurrEpoch` moves by the number of its `Clear`s, modulo 256. -/
theorem run_epoch {as : List (QueueStep α)} (h : q.run as = some q') :
    q'.epoch.toNat = (q.epoch.toNat + as.countP QueueStep.isClear) % 256 := by
  induction as generalizing q with
  | nil =>
    obtain rfl : q = q' := Option.some.inj h
    have : q.epoch.toNat < 256 := q.epoch.toNat_lt_size
    simp only [List.countP_nil]; omega
  | cons a as ih =>
    simp only [run, Option.bind_eq_some] at h
    obtain ⟨q₁, h₁, h⟩ := h
    rw [ih h, step_epoch h₁, List.countP_cons]
    split <;> omega

/-- A trace of `Clear`s alone always runs. -/
theorem run_clears (n : Nat) : ∃ q', q.run (List.replicate n .clear) = some q' := by
  induction n generalizing q with
  | zero => exact ⟨q, rfl⟩
  | succ n ih => exact ih (q := q.clear)

end DataQueue

end Transport
