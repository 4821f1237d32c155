import Transport.Reassembler.Step

/-
  Transport.Reassembler.Conservation — the serial reassembler neither loses, duplicates nor
  reorders a byte.

  For ANY predictor, at every iteration of `receive_backend` the bytes read so far are, in
  order, the frames pushed to `recv_que` interleaved with the single bytes the header scan
  stepped over, followed by the unconsumed window `buffer[offset, cached_size)`.  Each skipped
  byte was skipped at its own position: the window the predictor was shown there is the stream
  from that byte on, and the predictor rejected it.

  The window is the abstraction: `read` appends to it, the scan and the emission split it,
  and the compaction's `memmove` leaves it as it is (`Buffer.lean`).

  Main results:
    * `receiveStep_conserves` — one iteration.
    * `receive_backend_conserves_bytes` — every run from the start.
-/

namespace Transport

variable {P : FramingProtocol} {bufferSize : Nat} {s s' : Reassembler} {data : List UInt8}
  {e : List Event}

/-! ## §1. Skip events across an appended event list. -/

/-- A fact about every skip event and the events before it, for `e ++ es`, from the same fact
for `e` and, shifted by `e`, for `es`. -/
theorem skips_append {e es : List Event} {Q : List Event → List UInt8 → Prop}
    (h₁ : ∀ pre w post, e = pre ++ .skip w :: post → Q pre w)
    (h₂ : ∀ pre w post, es = pre ++ .skip w :: post → Q (e ++ pre) w) :
    ∀ pre w post, e ++ es = pre ++ .skip w :: post → Q pre w := by
  intro pre w post h
  rcases List.append_eq_append_iff.mp h with ⟨a, rfl, ha⟩ | ⟨c, rfl, hc⟩
  · exact h₂ a w post ha
  · cases c with
    | nil => simpa using h₂ [] w post (by simpa using hc.symm)
    | cons x c =>
      obtain ⟨rfl, rfl⟩ := List.cons_eq_cons.mp hc
      exact h₁ pre w c rfl

/-! ## §2. Phase by phase. -/

theorem readInto_window (h : readInto s data = some s') (hoff : s.offset ≤ s.cachedSize) :
    s'.offset ≤ s'.cachedSize ∧ s'.window = s.window ++ data := by
  obtain ⟨hfit, rfl⟩ := readInto_some.mp h
  exact ⟨by dsimp only; omega, live_writeAt hoff hfit⟩

theorem scanPhase_window (h : scanPhase P bufferSize s = some (s', e))
    (hoff : s.offset ≤ s.cachedSize) :
    s'.offset ≤ s'.cachedSize ∧ (e.map Event.bytes).flatten ++ s'.window = s.window ∧
      ∀ pre w post, e = pre ++ .skip w :: post →
        (pre.map Event.bytes).flatten ++ w = s.window ∧ w ≠ [] ∧ Rejects P bufferSize w := by
  rcases scanPhase_some.mp h with ⟨-, rfl, rfl⟩ | ⟨-, -, hb, rfl, rfl⟩
  · simp [hoff]
  obtain ⟨hbuf, hcache, hoff'⟩ := scanHeader_frame P bufferSize s s.window
  have hk := scanHeader_skipped_le P bufferSize s s.window
  have hw : s.window.length = s.cachedSize - s.offset := live_length _ _ _ hb
  have hrest : (scanHeader P bufferSize s s.window).1.window
      = s.window.drop (scanHeader P bufferSize s s.window).2.length := by
    rw [Reassembler.window, hbuf, hcache, hoff', Reassembler.window, live, live, List.drop_drop,
      Nat.add_comm]
  refine ⟨by omega, hrest ▸ scanHeader_bytes P bufferSize s s.window, fun pre w post hp => ?_⟩
  exact scanHeader_skip P bufferSize s s.window pre w post hp

theorem emitPhase_window (h : emitPhase s = some (s', e)) (hoff : s.offset ≤ s.cachedSize) :
    s'.offset ≤ s'.cachedSize ∧ (e.map Event.bytes).flatten ++ s'.window = s.window ∧
      ∀ pre w post, e ≠ pre ++ .skip w :: post := by
  rcases emitPhase_some.mp h with ⟨-, hle, -, rfl, rfl⟩ | ⟨-, rfl, rfl⟩
  · refine ⟨by dsimp only; omega, ?_, fun pre w post hp => ?_⟩
    · have := @live_split s.buffer s.offset s.predSize s.cachedSize (by omega)
      simpa [Event.bytes, Reassembler.window] using this
    · cases pre <;> simp at hp
  · simp [hoff]

theorem compactPhase_window (h : compactPhase bufferSize s = some s')
    (hoff : s.offset ≤ s.cachedSize) : s'.offset ≤ s'.cachedSize ∧ s'.window = s.window := by
  rcases compactPhase_some.mp h with ⟨-, -, hb, rfl⟩ | ⟨-, rfl⟩
  · exact ⟨Nat.zero_le _, live_memmove hoff (by omega)⟩
  · exact ⟨hoff, rfl⟩

/-! ## §3. Whole iterations and whole runs. -/

/-- **One iteration.** The events' bytes, then the new window, are the old window followed by
what was read; each skip's window starts where the bytes before it end. -/
theorem receiveStep_conserves (h : receiveStep P bufferSize s data = some (s', e))
    (hoff : s.offset ≤ s.cachedSize) :
    s'.offset ≤ s'.cachedSize ∧ (e.map Event.bytes).flatten ++ s'.window = s.window ++ data ∧
      ∀ pre w post, e = pre ++ .skip w :: post →
        (pre.map Event.bytes).flatten ++ w <+: s.window ++ data ∧ w ≠ [] ∧
          Rejects P bufferSize w := by
  rcases receiveStep_cases h with ⟨rfl, -, rfl, rfl⟩ | ⟨s₁, s₂, s₃, e₂, e₃, h₁, h₂, h₃, h₄, rfl⟩
  · simp [hoff]
  obtain ⟨o₁, w₁⟩ := readInto_window h₁ hoff
  obtain ⟨o₂, w₂, k₂⟩ := scanPhase_window h₂ o₁
  obtain ⟨o₃, w₃, k₃⟩ := emitPhase_window h₃ o₂
  obtain ⟨o₄, w₄⟩ := compactPhase_window h₄ o₃
  refine ⟨o₄, ?_, skips_append (fun pre w post hp => ?_) (fun pre w post hp => ?_)⟩
  · rw [List.map_append, List.flatten_append, List.append_assoc, w₄, w₃, w₂, w₁]
  · obtain ⟨hw, hne, hrej⟩ := k₂ pre w post hp
    exact ⟨(hw.trans w₁) ▸ List.prefix_refl _, hne, hrej⟩
  · exact absurd hp (k₃ pre w post)

variable (P bufferSize) in
/-- What a run does to the bytes, from any state with `offset ≤ cached_size`. -/
theorem Run.conserves {s s' : Reassembler} {reads : List (List UInt8)} {evs : List Event}
    (hrun : Run P bufferSize s reads evs s') (hoff : s.offset ≤ s.cachedSize) :
    (evs.map Event.bytes).flatten ++ s'.window = s.window ++ reads.flatten ∧
      ∀ pre w post, evs = pre ++ .skip w :: post →
        (pre.map Event.bytes).flatten ++ w <+: s.window ++ reads.flatten ∧ w ≠ [] ∧
          Rejects P bufferSize w := by
  induction hrun with
  | done => simp
  | @step s s₁ s₂ data reads e es _ hstep _ ih =>
    obtain ⟨o₁, c₁, k₁⟩ := receiveStep_conserves hstep hoff
    obtain ⟨c, k⟩ := ih o₁
    have hall : s.window ++ (data :: reads).flatten
        = (e.map Event.bytes).flatten ++ (s₁.window ++ reads.flatten) := by
      rw [List.flatten_cons, ← List.append_assoc, ← c₁, List.append_assoc]
    refine ⟨?_, skips_append (fun pre w post hp => ?_) (fun pre w post hp => ?_)⟩
    · rw [hall, ← c, List.map_append, List.flatten_append, List.append_assoc]
    · obtain ⟨hp', hne, hrej⟩ := k₁ pre w post hp
      refine ⟨hp'.trans ?_, hne, hrej⟩
      rw [List.flatten_cons, ← List.append_assoc]
      exact List.prefix_append _ _
    · obtain ⟨hp', hne, hrej⟩ := k pre w post hp
      refine ⟨?_, hne, hrej⟩
      rw [hall, List.map_append, List.flatten_append, List.append_assoc]
      exact (List.prefix_append_right_inj _).mpr hp'

/-- **No byte lost, duplicated or reordered.** Along every run from the start, for any
predictor and any `read` results: the bytes read so far are the events' bytes — the frames
pushed to `recv_que` and the single skipped bytes, in order — followed by the unconsumed window;
and each skipped byte was skipped where the stream, from that byte on, was shown to the
predictor and rejected by it. -/
theorem receive_backend_conserves_bytes {buf₀ : List UInt8} {reads : List (List UInt8)}
    {evs : List Event} (hrun : Run P bufferSize (Reassembler.init P buf₀) reads evs s) :
    (evs.map Event.bytes).flatten ++ s.window = reads.flatten ∧
      ∀ pre w post, evs = pre ++ .skip w :: post →
        (pre.map Event.bytes).flatten ++ w <+: reads.flatten ∧ w ≠ [] ∧
          Rejects P bufferSize w := by
  simpa [Reassembler.init, Reassembler.window, live] using hrun.conserves P bufferSize le_rfl

/-- The repository's own `Protocol` on a 4-byte buffer: one read of two bytes comes back as
one frame and an empty window. -/
theorem conserves_bytes_after_one_read :
    ([Event.push [5, 6]].map Event.bytes).flatten
        ++ (⟨[5, 6, 0, 0], true, 2, 2, 2⟩ : Reassembler).window = [[5, 6]].flatten ∧
      ∀ pre w post, [Event.push [5, 6]] = pre ++ .skip w :: post →
        (pre.map Event.bytes).flatten ++ w <+: [[5, 6]].flatten ∧ w ≠ [] ∧
          Rejects protocol 4 w :=
  receive_backend_conserves_bytes
    (Run.single _ _ (Reassembler.init protocol [0, 0, 0, 0]) ⟨[5, 6, 0, 0], true, 2, 2, 2⟩ [5, 6]
      [.push [5, 6]] (by decide) (by decide))

end Transport
