import Transport.Queue.Model

/-
  Transport.Queue.Conservation — `DataQueue` loses, duplicates and reorders nothing.

  Over every interleaving of `Push`, `Clear` and the steps of any number of `Pop` /
  `Pop(timeout)` calls, spurious wakeups and timeouts included, the items taken out of
  `m_Queue` in removal order, followed by what is still in it, are exactly the items pushed,
  in the order their `Push` held the lock.  Each removal is made either by the one `Pop` call
  that returns the item or by a `Clear`.

  Main results:
    * `QueueInv.step` — each atomic step keeps the accounting.
    * `dataQueue_conserves_items` — it holds in every reachable state.
-/

namespace Transport

variable {α : Type} {q q' : DataQueue α}

/-- The accounting of a `DataQueue`: removals then contents are the pushes, and the removals
by call `c` are the item `c` returned. -/
structure QueueInv (q : DataQueue α) : Prop where
  conserved : q.removed.map Prod.fst ++ q.queue = q.pushed
  popped : ∀ c, (q.removed.filter (fun r => r.2 = .pop c)).map Prod.fst = (q.calls c).result

namespace QueueInv

theorem init : QueueInv (DataQueue.init : DataQueue α) :=
  ⟨rfl, fun _ => rfl⟩

/-- Moving call `c` between states that returned nothing keeps the accounting. -/
theorem setCall (h : QueueInv q) {c : Nat} {pc : PopCall α} (hold : (q.calls c).result = [])
    (hnew : pc.result = []) : QueueInv (q.setCall c pc) := by
  refine ⟨h.conserved, fun c' => ?_⟩
  by_cases hc : c' = c
  · subst hc; simpa [hnew, hold] using h.popped c'
  · simpa [Function.update_noteq hc] using h.popped c'

/-- The loop test of a call that has returned nothing yet keeps the accounting. -/
theorem takeOrWait (h : QueueInv q) {c : Nat} {timed : Bool} {e : UInt8} {entry : Nat}
    (hold : (q.calls c).result = []) : QueueInv (q.takeOrWait c timed e entry) := by
  rcases DataQueue.takeOrWait_calls (q := q) c timed e entry with ⟨x, rest, hq, heq⟩ | ⟨-, heq⟩
  · rw [heq]
    refine ⟨?_, fun c' => ?_⟩
    · simpa [hq] using h.conserved
    · by_cases hc : c' = c
      · subst hc
        simp only [List.filter_append, List.map_append, h.popped, hold]
        simp [PopCall.result]
      · simpa [Function.update_noteq hc, Ne.symm hc] using h.popped c'
  · exact heq ▸ h.setCall hold rfl

/-- **One step.** Every atomic step keeps the accounting. -/
theorem step {a : QueueStep α} (h : QueueInv q) (hs : q.step a = some q') : QueueInv q' := by
  rcases DataQueue.step_cases hs with
    ⟨x, -, rfl⟩ | ⟨-, rfl⟩ | ⟨c, _, -, hc, rfl⟩ | ⟨c, _, _, _, -, hc, ⟨-, rfl⟩ | ⟨-, rfl⟩⟩ |
    ⟨c, _, _, -, hc, rfl⟩
  · exact ⟨by simpa [DataQueue.push] using congrArg (· ++ [x]) h.conserved, h.popped⟩
  · refine ⟨by simpa [DataQueue.clear, Function.comp_def] using h.conserved, fun c => ?_⟩
    simpa [DataQueue.clear, List.filter_map, Function.comp_def, List.filter_false] using h.popped c
  all_goals first
    | exact h.takeOrWait (by simp [hc, PopCall.result])
    | exact h.setCall (by simp [hc, PopCall.result]) rfl

end QueueInv

theorem Reachable.queueInv (h : Reachable q) : QueueInv q := by
  induction h with
  | init => exact .init
  | step _ _ hs ih => exact ih.step hs

/-- **No item lost, duplicated or reordered.** In every state reachable by any interleaving of
`Push`, `Clear` and the steps of any number of `Pop` / `Pop(timeout)` calls: the removed items,
in removal order, then the contents of `m_Queue`, are the pushed items in push order; and the
items removed by each call `c` are exactly the one item it returned, if it returned one. -/
theorem dataQueue_conserves_items (h : Reachable q) :
    q.removed.map Prod.fst ++ q.queue = q.pushed ∧
      ∀ c, (q.removed.filter (fun r => r.2 = .pop c)).map Prod.fst = (q.calls c).result :=
  ⟨h.queueInv.conserved, h.queueInv.popped⟩

/-- Two pushes, a `Pop()` that returns the first, and a `Clear` that discards the second. -/
theorem conserves_items_after_pop_and_clear :
    (⟨[], 1, Function.update (fun _ => .idle) 0 (.returned 1 0), [1, 2],
        [(1, .pop 0), (2, .clear)], 1⟩ : DataQueue Nat).removed.map Prod.fst
      ++ (⟨[], 1, Function.update (fun _ => .idle) 0 (.returned 1 0), [1, 2],
        [(1, .pop 0), (2, .clear)], 1⟩ : DataQueue Nat).queue
      = (⟨[], 1, Function.update (fun _ => .idle) 0 (.returned 1 0), [1, 2],
        [(1, .pop 0), (2, .clear)], 1⟩ : DataQueue Nat).pushed ∧
    ∀ c, ((⟨[], 1, Function.update (fun _ => .idle) 0 (.returned 1 0), [1, 2],
        [(1, .pop 0), (2, .clear)], 1⟩ : DataQueue Nat).removed.filter
          (fun r => r.2 = .pop c)).map Prod.fst
      = ((⟨[], 1, Function.update (fun _ => .idle) 0 (.returned 1 0), [1, 2],
        [(1, .pop 0), (2, .clear)], 1⟩ : DataQueue Nat).calls c).result :=
  dataQueue_conserves_items (DataQueue.reachable_run .init
    (show DataQueue.init.run [.push 1, .push 2, .enter 0 false, .clear]
      = some ⟨[], 1, Function.update (fun _ => .idle) 0 (.returned 1 0), [1, 2],
        [(1, .pop 0), (2, .clear)], 1⟩ from rfl))

end Transport
