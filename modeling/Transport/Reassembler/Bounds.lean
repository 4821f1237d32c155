import Transport.Reassembler.Step

/-
  Transport.Reassembler.Bounds — the serial reassembler stays inside its buffer.

  Under the code's own `assert(buffer_size >= pred_size)` on the initial `pred_size =
  min_size * 2`, every iteration of `receive_backend`, on any `read` result that fits the room it
  asked for and for ANY predictor, succeeds: none of its accesses leaves the buffer.  At the head
  of every iteration

      offset ≤ cached_size < buffer_size,

  so the next `read` always has room.  The proof follows the iteration phase by phase: the
  read keeps `cached_size ≤ buffer_size`; the scan stops on a header or with at most `min_size`
  bytes left; an emission moves `offset` off 0; and the compaction condition then leaves room.

  Main results:
    * `receiveStep_loopInv` — one iteration from an invariant state succeeds and restores it.
    * `receive_backend_in_bounds` — the same at every iteration of every run.
-/

namespace Transport

/-! ## §1. The invariants. -/

/-- What holds at the head of every iteration. -/
structure LoopInv (bufferSize : Nat) (s : Reassembler) : Prop where
  buffer_length : s.buffer.length = bufferSize
  offset_le : s.offset ≤ s.cachedSize
  cached_lt : s.cachedSize < bufferSize
  predSize_pos : 0 < s.predSize
  predSize_le : s.predSize ≤ bufferSize

/-- What holds between the phases of an iteration: the buffer may be full. -/
structure PhaseInv (bufferSize : Nat) (s : Reassembler) : Prop where
  buffer_length : s.buffer.length = bufferSize
  offset_le : s.offset ≤ s.cachedSize
  cached_le : s.cachedSize ≤ bufferSize
  predSize_pos : 0 < s.predSize
  predSize_le : s.predSize ≤ bufferSize

section Phases

variable {P : FramingProtocol} {bufferSize : Nat} {s : Reassembler} {data : List UInt8}

theorem loopInv_init (hm : P.minSize * 2 ≤ bufferSize) {buf₀ : List UInt8}
    (hbuf : buf₀.length = bufferSize) : LoopInv bufferSize (Reassembler.init P buf₀) :=
  have := P.minSize_pos
  ⟨hbuf, le_refl _, by simp only [Reassembler.init]; omega, by simp only [Reassembler.init]; omega,
    hm⟩

/-! ## §2. Phase by phase. -/

/-- **Read.** A read that fits its room lands inside the buffer. -/
theorem readInto_phaseInv (h : LoopInv bufferSize s)
    (hd : data.length ≤ bufferSize - s.cachedSize) :
    ∃ s₁, readInto s data = some s₁ ∧ PhaseInv bufferSize s₁ := by
  have := h.offset_le
  have := h.cached_lt
  have hfit : s.cachedSize + data.length ≤ s.buffer.length := by rw [h.buffer_length]; omega
  refine ⟨_, readInto_some.mpr ⟨hfit, rfl⟩, ?_⟩
  exact ⟨by rw [← h.buffer_length]; exact writeAt_length hfit, by dsimp only; omega,
    by dsimp only; omega, h.predSize_pos, h.predSize_le⟩

/-- **Scan.** The scanned windows lie inside the buffer, and the scan ends on a header or with
at most `min_size` bytes left. -/
theorem scanPhase_phaseInv (hm : P.minSize * 2 ≤ bufferSize) (h : PhaseInv bufferSize s) :
    ∃ s' e, scanPhase P bufferSize s = some (s', e) ∧ PhaseInv bufferSize s' ∧
      (s'.findHead = true ∨ s'.cachedSize ≤ s'.offset + P.minSize) := by
  cases hf : s.findHead
  · have hb : s.cachedSize ≤ s.buffer.length := h.buffer_length ▸ h.cached_le
    refine ⟨_, _, scanPhase_some.mpr (.inr ⟨hf, h.offset_le, hb, rfl, rfl⟩), ?_⟩
    obtain ⟨hbuf, hcache, hoff⟩ := scanHeader_frame P bufferSize s s.window
    have hk := scanHeader_skipped_le P bufferSize s s.window
    have hw : s.window.length = s.cachedSize - s.offset := live_length _ _ _ hb
    obtain ⟨hpos, hle⟩ := scanHeader_predSize s s.window hm h.predSize_pos h.predSize_le
    have := h.offset_le
    refine ⟨⟨hbuf ▸ h.buffer_length, by omega, hcache ▸ h.cached_le, hpos, hle⟩, ?_⟩
    rcases scanHeader_exit P bufferSize s s.window with hx | hx
    · exact .inl hx
    · rw [List.length_drop] at hx
      exact .inr (by omega)
  · exact ⟨_, _, scanPhase_some.mpr (.inl ⟨hf, rfl, rfl⟩), h, .inl hf⟩

/-- **Emission.** The emitted slice lies inside the buffer; afterwards the buffer can only be
full if the offset has moved. -/
theorem emitPhase_phaseInv (hm : P.minSize * 2 ≤ bufferSize) (h : PhaseInv bufferSize s)
    (hx : s.findHead = true ∨ s.cachedSize ≤ s.offset + P.minSize) :
    ∃ s' e, emitPhase s = some (s', e) ∧ PhaseInv bufferSize s' ∧
      (s'.offset = 0 → s'.cachedSize < bufferSize) := by
  have := P.minSize_pos
  by_cases he : s.findHead = true ∧ s.predSize + s.offset ≤ s.cachedSize
  · have hb : s.offset + s.predSize ≤ s.buffer.length := by
      rw [h.buffer_length]; have := h.cached_le; omega
    refine ⟨_, _, emitPhase_some.mpr (.inl ⟨he.1, he.2, hb, rfl, rfl⟩), ?_, ?_⟩
    · exact ⟨h.buffer_length, by simp; omega, h.cached_le, h.predSize_pos, h.predSize_le⟩
    · show s.offset + s.predSize = 0 → _
      have := h.predSize_pos; omega
  · refine ⟨_, _, emitPhase_some.mpr (.inr ⟨he, rfl, rfl⟩), h, fun (h0 : s.offset = 0) => ?_⟩
    have := h.predSize_le
    show s.cachedSize < bufferSize
    rcases hx with hx | hx
    · have : ¬s.predSize + s.offset ≤ s.cachedSize := fun hc => he ⟨hx, hc⟩
      omega
    · omega

/-- **Compaction.** The moved tail lies inside the buffer, and afterwards the buffer has room. -/
theorem compactPhase_loopInv (h : PhaseInv bufferSize s)
    (hroom : s.offset = 0 → s.cachedSize < bufferSize) :
    ∃ s', compactPhase bufferSize s = some s' ∧ LoopInv bufferSize s' := by
  have hc := h.cached_le
  by_cases hcmp : s.offset ≠ 0 ∧ bufferSize - s.cachedSize < s.predSize
  · have hb : s.offset + (s.cachedSize - s.offset) ≤ s.buffer.length := by
      rw [h.buffer_length]; have := h.offset_le; omega
    refine ⟨_, compactPhase_some.mpr (.inl ⟨hcmp.1, hcmp.2, hb, rfl⟩), ?_⟩
    have := h.offset_le
    have := hcmp.1
    exact ⟨by rw [← h.buffer_length]; exact memmove_length hb, Nat.zero_le _,
      show s.cachedSize - s.offset < bufferSize by omega, h.predSize_pos, h.predSize_le⟩
  · refine ⟨_, compactPhase_some.mpr (.inr ⟨hcmp, rfl⟩), ?_⟩
    have := h.predSize_pos
    refine ⟨h.buffer_length, h.offset_le, ?_, h.predSize_pos, h.predSize_le⟩
    by_cases h0 : s.offset = 0
    · exact hroom h0
    · have : ¬bufferSize - s.cachedSize < s.predSize := fun hl => hcmp ⟨h0, hl⟩
      omega

/-! ## §3. Whole iterations and whole runs. -/

/-- **One iteration** from an invariant state, on a read that fits its room, succeeds and
restores the invariant. -/
theorem receiveStep_loopInv (hm : P.minSize * 2 ≤ bufferSize) (h : LoopInv bufferSize s)
    (hd : data.length ≤ bufferSize - s.cachedSize) :
    ∃ s' e, receiveStep P bufferSize s data = some (s', e) ∧ LoopInv bufferSize s' := by
  by_cases hidle : data = [] ∧ s.cachedSize = s.offset
  · exact ⟨s, [], by simp [receiveStep, hidle], h⟩
  obtain ⟨s₁, h₁, i₁⟩ := readInto_phaseInv h hd
  obtain ⟨s₂, e₂, h₂, i₂, x₂⟩ := scanPhase_phaseInv hm i₁
  obtain ⟨s₃, e₃, h₃, i₃, x₃⟩ := emitPhase_phaseInv hm i₂ x₂
  obtain ⟨s₄, h₄, i₄⟩ := compactPhase_loopInv i₃ x₃
  exact ⟨s₄, e₂ ++ e₃, receiveStep_of_phases hidle h₁ h₂ h₃ h₄, i₄⟩

end Phases

variable {P : FramingProtocol} {bufferSize : Nat}

theorem Run.loopInv (hm : P.minSize * 2 ≤ bufferSize) {s s' : Reassembler}
    {reads : List (List UInt8)} {evs : List Event} (hrun : Run P bufferSize s reads evs s')
    (h : LoopInv bufferSize s) : LoopInv bufferSize s' := by
  induction hrun with
  | done => exact h
  | step hd hstep _ ih =>
    obtain ⟨_, _, hs, h'⟩ := receiveStep_loopInv hm h hd
    rw [hstep, Option.some.injEq, Prod.mk.injEq] at hs
    exact ih (hs.1 ▸ h')

/-- **In bounds, every iteration.** Along every run from the start, for any predictor and any
`read` results, `offset ≤ cached_size < buffer_size` at the head of each iteration, and the
next iteration, on any `read` result that fits, touches the buffer only inside it. -/
theorem receive_backend_in_bounds (hm : P.minSize * 2 ≤ bufferSize) {buf₀ : List UInt8}
    (hbuf : buf₀.length = bufferSize) {reads : List (List UInt8)} {evs : List Event}
    {s : Reassembler} (hrun : Run P bufferSize (Reassembler.init P buf₀) reads evs s) :
    s.offset ≤ s.cachedSize ∧ s.cachedSize < bufferSize ∧
      ∀ data : List UInt8, data.length ≤ bufferSize - s.cachedSize →
        ∃ s' e, receiveStep P bufferSize s data = some (s', e) := by
  have h := hrun.loopInv hm (loopInv_init hm hbuf)
  exact ⟨h.offset_le, h.cached_lt, fun _ hd =>
    let ⟨s', e, hs, _⟩ := receiveStep_loopInv hm h hd; ⟨s', e, hs⟩⟩

/-- The repository's own `Protocol` on a 4-byte buffer, after one read of two bytes. -/
theorem in_bounds_after_one_read :
    (⟨[5, 6, 0, 0], true, 2, 2, 2⟩ : Reassembler).offset ≤ 2 ∧ 2 < 4 ∧
      ∀ data : List UInt8, data.length ≤ 4 - 2 →
        ∃ s' e, receiveStep protocol 4 ⟨[5, 6, 0, 0], true, 2, 2, 2⟩ data = some (s', e) :=
  receive_backend_in_bounds (by decide) (by decide : [0, 0, 0, 0].length = 4)
    (Run.single _ _ (Reassembler.init protocol [0, 0, 0, 0]) ⟨[5, 6, 0, 0], true, 2, 2, 2⟩ [5, 6]
      [.push [5, 6]] (by decide) (by decide))

end Transport
