import Transport.Queue.Model

/-
  Transport.Queue.Epoch — what a `Pop` call's outcome says about the `Clear`s since it entered.

  A `Pop` call captures `m_CurrEpoch` once, at entry, and after each wakeup compares it with the
  current one.  `m_CurrEpoch` is a `uint8_t` (`queue_epoch_t`), so the comparison sees the number
  of `Clear`s since entry modulo 256:

    * a call that raises `QueueCleared` saw a number of `Clear`s that is not a multiple of 256,
      so at least one;
    * a call that returns an item saw a multiple of 256 — none, unless 256 `Clear`s ran while
      it waited, after which it carries on as if none had.

  `Pop(timeout)` raises `QueueTimeout` on the status of `wait_for` alone, without looking at
  the queue or the epoch again: it can give up with an item in the queue.

  `GetEpoch` / `CheckEpoch` see the same count: from any state, whatever runs in between,
  `CheckEpoch` of an epoch read earlier holds exactly when the `Clear`s since then are a
  multiple of 256.

  Main results:
    * `EpochInv.step` — each step keeps the epoch bookkeeping.
    * `pop_outcome_counts_clears_mod_256` — the two laws above, in every reachable state.
    * `pop_ends_unlike_its_history` — a returned item after 256 `Clear`s, and a timeout with an
      item present, are both reachable.
    * `check_epoch_counts_clears_mod_256` — `CheckEpoch` after any trace, from any state.
    * `check_epoch_true_after_256_clears` — 256 `Clear`s leave `CheckEpoch` true.
-/

namespace Transport

variable {α : Type} {q q' : DataQueue α}

/-- What a call's state says about the `Clear`s, `n` of them so far: a waiting call captured
the epoch of its entry; a returned one saw a multiple of 256 `Clear`s, a cleared one did not. -/
def CallOk (n : Nat) : PopCall α → Prop
  | .waiting _ e entry => entry ≤ n ∧ e.toNat = entry % 256
  | .returned _ k => k % 256 = 0
  | .cleared k => k % 256 ≠ 0
  | _ => True

theorem CallOk.mono {n : Nat} {pc : PopCall α} (h : CallOk n pc) : CallOk (n + 1) pc := by
  cases pc <;> simp only [CallOk] at h ⊢ <;> omega

/-- The epoch bookkeeping: `m_CurrEpoch` counts the `Clear`s modulo 256, and every call is
consistent with it. -/
structure EpochInv (q : DataQueue α) : Prop where
  epoch : q.epoch.toNat = q.clears % 256
  calls : ∀ c, CallOk q.clears (q.calls c)

namespace EpochInv

theorem init : EpochInv (DataQueue.init : DataQueue α) :=
  ⟨rfl, fun _ => trivial⟩

theorem setCall (h : EpochInv q) {c : Nat} {pc : PopCall α} (hpc : CallOk q.clears pc) :
    EpochInv (q.setCall c pc) := by
  refine ⟨h.epoch, fun c' => ?_⟩
  by_cases hc : c' = c
  · subst hc; simpa using hpc
  · simpa [Function.update_noteq hc] using h.calls c'

/-- The loop test of a call that entered at `entry`, with the epoch of its entry, when the
`Clear`s since then are a multiple of 256. -/
theorem takeOrWait (h : EpochInv q) {c : Nat} {timed : Bool} {e : UInt8} {entry : Nat}
    (hentry : entry ≤ q.clears) (he : e.toNat = entry % 256)
    (hk : (q.clears - entry) % 256 = 0) : EpochInv (q.takeOrWait c timed e entry) := by
  rcases DataQueue.takeOrWait_calls (q := q) c timed e entry with ⟨x, rest, -, heq⟩ | ⟨-, heq⟩
  · rw [heq]
    exact ⟨h.epoch, fun c' => by
      by_cases hc : c' = c
      · subst hc; simpa [CallOk] using hk
      · simpa [Function.update_noteq hc] using h.calls c'⟩
  · exact heq ▸ h.setCall ⟨hentry, he⟩

/-- **One step.** Every atomic step keeps the epoch bookkeeping. -/
theorem step {a : QueueStep α} (h : EpochInv q) (hs : q.step a = some q') : EpochInv q' := by
  have hq := h.epoch
  rcases DataQueue.step_cases hs with
    ⟨x, -, rfl⟩ | ⟨-, rfl⟩ | ⟨c, _, -, hc, rfl⟩ | ⟨c, _, e, entry, -, hc, ⟨hne, rfl⟩ | ⟨rfl, rfl⟩⟩ |
    ⟨c, _, _, -, hc, rfl⟩
  · exact ⟨h.epoch, h.calls⟩
  · exact ⟨show (q.epoch.toNat + 1) % 256 = (q.clears + 1) % 256 by omega,
      fun c => (h.calls c).mono⟩
  · exact h.takeOrWait le_rfl hq (by simp)
  · obtain ⟨hle, hmod⟩ : entry ≤ q.clears ∧ e.toNat = entry % 256 := by
      simpa [hc, CallOk] using h.calls c
    refine h.setCall (show (q.clears - entry) % 256 ≠ 0 from fun h0 => hne ?_)
    exact UInt8.toNat.inj (by omega)
  · obtain ⟨hle, hmod⟩ : entry ≤ q.clears ∧ q.epoch.toNat = entry % 256 := by
      simpa [hc, CallOk] using h.calls c
    exact h.takeOrWait hle hmod (by omega)
  · exact h.setCall trivial

/-- A call waiting on the current epoch entered after the last `Clear`, or 256 `Clear`s or more
before it. -/
theorem waiting_current (h : EpochInv q) {c : Nat} {timed : Bool} {e : UInt8} {entry : Nat}
    (hc : q.calls c = .waiting timed e entry) (he : e = q.epoch) :
    entry = q.clears ∨ entry + 256 ≤ q.clears := by
  have hk := h.calls c
  rw [hc] at hk
  obtain ⟨hle, hmod⟩ := hk
  have hq := h.epoch
  rw [he] at hmod
  omega

end EpochInv

theorem Reachable.epochInv (h : Reachable q) : EpochInv q := by
  induction h with
  | init => exact .init
  | step _ _ hs ih => exact ih.step hs

/-- **Outcomes count the `Clear`s modulo 256.** In every state reachable by any interleaving,
a `Pop` call that raised `QueueCleared` saw a number of `Clear`s since its entry that is not a
multiple of 256 (so at least one), and a call that returned an item saw a multiple of 256. -/
theorem pop_outcome_counts_clears_mod_256 (h : Reachable q) (c : Nat) :
    (∀ k, q.calls c = .cleared k → 0 < k ∧ k % 256 ≠ 0) ∧
      (∀ x k, q.calls c = .returned x k → k % 256 = 0) := by
  have hc := h.epochInv.calls c
  refine ⟨fun k hk => ?_, fun x k hk => ?_⟩ <;> rw [hk] at hc
  · exact ⟨Nat.pos_of_ne_zero fun h0 => hc (by rw [h0]), hc⟩
  · exact hc

/-- A `Pop()` waits on an empty queue, 256 `Clear`s run, an item is pushed and the call wakes. -/
def wrapTrace : List (QueueStep Nat) :=
  [.enter 0 false] ++ List.replicate 256 .clear ++ [.push 7, .wake 0]

set_option maxRecDepth 4000 in
/-- After `wrapTrace` the call has returned the item, with 256 `Clear`s behind it. -/
theorem pop_outcome_after_wrap :
    (∀ k, (⟨[], 0, Function.update (Function.update (fun _ => .idle) 0 (.waiting false 0 0)) 0
        (.returned 7 256), [7], [(7, .pop 0)], 256⟩ : DataQueue Nat).calls 0 = .cleared k →
        0 < k ∧ k % 256 ≠ 0) ∧
      (∀ x k, (⟨[], 0, Function.update (Function.update (fun _ => .idle) 0 (.waiting false 0 0)) 0
        (.returned 7 256), [7], [(7, .pop 0)], 256⟩ : DataQueue Nat).calls 0 = .returned x k →
        k % 256 = 0) :=
  pop_outcome_counts_clears_mod_256 (DataQueue.reachable_run .init
    (show DataQueue.init.run wrapTrace = some ⟨[], 0, Function.update (Function.update
      (fun _ => .idle) 0 (.waiting false 0 0)) 0 (.returned 7 256), [7], [(7, .pop 0)], 256⟩
      from rfl)) 0

set_option maxRecDepth 4000 in
/-- **Outcomes that do not follow the history.** A call can return an item although 256
`Clear`s ran while it waited (the `uint8_t` epoch is back where it was), and a `Pop(timeout)`
can raise `QueueTimeout` while the queue holds an item pushed before it gave up. -/
theorem pop_ends_unlike_its_history :
    ¬ (∀ q : DataQueue Nat, Reachable q → ∀ c x k, q.calls c = .returned x k → k = 0) ∧
    ¬ (∀ q : DataQueue Nat, Reachable q →
      ∀ c k b, q.calls c = .timedOut k b → k = 0 ∧ b = true) := by
  constructor
  · intro hall
    obtain ⟨q, hq, hc⟩ := DataQueue.reachable_of_run wrapTrace (·.calls 0) (.returned 7 256)
      (by decide)
    exact absurd (hall q hq 0 7 256 hc) (by decide)
  · intro hall
    obtain ⟨q, hq, hc⟩ := DataQueue.reachable_of_run [.enter 0 true, .push 7, .timeout 0]
      (·.calls 0) (.timedOut 0 false) (by decide)
    exact absurd (hall q hq 0 0 false hc).2 (by decide)

/-! ## §4. `GetEpoch` and `CheckEpoch`. -/

/-- `GetEpoch` read before a trace matches the epoch after it exactly when the trace's `Clear`s
are a multiple of 256. -/
theorem getEpoch_run_eq_iff {as : List (QueueStep α)} (h : q.run as = some q') :
    q'.getEpoch = q.getEpoch ↔ as.countP QueueStep.isClear % 256 = 0 := by
  have hrun := DataQueue.run_epoch h
  have hlt : q.epoch.toNat < 256 := q.epoch.toNat_lt_size
  simp only [DataQueue.getEpoch_eq]
  constructor
  · intro he
    rw [he] at hrun
    omega
  · intro hk
    exact UInt8.toNat.inj (by omega)

/-- **`CheckEpoch` counts the `Clear`s modulo 256.** From any state, after any trace of
`Push`es, `Clear`s and steps of `Pop` calls, `CheckEpoch` of the epoch `GetEpoch` returned
before it holds exactly when the trace's `Clear`s are a multiple of 256; and the epoch read
afterwards differs from that one exactly when they are not. -/
theorem check_epoch_counts_clears_mod_256 {as : List (QueueStep α)} (h : q.run as = some q') :
    (q'.checkEpoch q.getEpoch = true ↔ as.countP QueueStep.isClear % 256 = 0) ∧
      (q'.getEpoch ≠ q.getEpoch ↔ as.countP QueueStep.isClear % 256 ≠ 0) := by
  have key := getEpoch_run_eq_iff h
  simp only [DataQueue.getEpoch_eq, DataQueue.checkEpoch_iff] at key ⊢
  exact ⟨key, not_congr key⟩

/-- A `Push` and a `Clear` from the initial queue: the epoch has moved. -/
theorem check_epoch_after_push_and_clear :
    (((DataQueue.init : DataQueue Nat).push 7).clear.checkEpoch
        (DataQueue.init : DataQueue Nat).getEpoch = true ↔
        [QueueStep.push 7, .clear].countP QueueStep.isClear % 256 = 0) ∧
      (((DataQueue.init : DataQueue Nat).push 7).clear.getEpoch ≠
        (DataQueue.init : DataQueue Nat).getEpoch ↔
        [QueueStep.push 7, .clear].countP QueueStep.isClear % 256 ≠ 0) :=
  check_epoch_counts_clears_mod_256 rfl

/-- **256 `Clear`s pass for none.** From the initial queue, 256 `Clear`s bring the `uint8_t`
`m_CurrEpoch` back to the epoch read before them: `CheckEpoch` holds and the epoch read
afterwards is the same, although `Clear`s ran. -/
theorem check_epoch_true_after_256_clears :
    ¬ (∀ (q q' : DataQueue Nat) (as : List (QueueStep Nat)), q.run as = some q' →
        (q'.checkEpoch q.getEpoch = true ↔ as.countP QueueStep.isClear = 0)) ∧
      ¬ (∀ (q q' : DataQueue Nat) (as : List (QueueStep Nat)), q.run as = some q' →
        0 < as.countP QueueStep.isClear → q'.getEpoch ≠ q.getEpoch) := by
  obtain ⟨q', h⟩ := (DataQueue.init : DataQueue Nat).run_clears 256
  have hk : (List.replicate 256 (QueueStep.clear : QueueStep Nat)).countP QueueStep.isClear =
      256 := by rw [List.countP_replicate]; rfl
  have he : q'.getEpoch = DataQueue.init.getEpoch := (getEpoch_run_eq_iff h).mpr (by rw [hk])
  refine ⟨fun hall => ?_, fun hall => hall _ _ _ h (by rw [hk]; decide) he⟩
  have := (hall _ _ _ h).mp (by simpa using he)
  rw [hk] at this
  exact absurd this (by decide)

end Transport
