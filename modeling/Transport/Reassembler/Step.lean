import Transport.Reassembler.Buffer

/-
  Transport.Reassembler.Step — one iteration of `SerialPortTransport::receive_backend`.

  The loop body is cut along the source's own comments into four phases, each a function
  with its own lemmas, so that later proofs never unfold the whole body:

      readInto      `read(...)` then `cached_size += recv_size`
      scanPhase     `if (!find_head)` — "update offset to scan the header"
      emitPhase     `if (find_head && cached_size >= pred_size + offset)` — "all data received"
      compactPhase  `if (offset && buffer_size - cached_size < pred_size)` — "clear the cache"

  `receiveStep` chains them; `Run` strings iterations together, each on a `read` result that
  fits the room the code asks `read` to fill.  The loop's exit on `is_closed` belongs to the
  transport, not to the reassembler, and is not part of a step.

  Besides the frames pushed to `recv_que`, a step reports the bytes the header scan skipped,
  together with the window the predictor was shown at each: a ghost output, used to state where
  the bytes of the stream go.
-/

namespace Transport

/-! ## §1. The framing protocol, the state, the events. -/

/-- A framing protocol `P` as the serial receive loop uses it.  `P::pred_size(buf, size)` is
called once on `nullptr` for the minimum size, and otherwise on a window of the buffer; the
model hands it the window's bytes. -/
structure FramingProtocol where
  /-- `P::pred_size(nullptr, 0)`. -/
  predNull : Int
  /-- `P::pred_size(buffer + offset, cached_size - offset)`: a positive value is the length of
  the frame starting there, anything else means no header there. -/
  predSize : List UInt8 → Int

/-- `min_size`: `P::pred_size(nullptr, 0)` converted to `size_t` (modulo `2^64`), and 1 when
that is 0. -/
def FramingProtocol.minSize (P : FramingProtocol) : Nat :=
  if (P.predNull % 18446744073709551616).toNat = 0 then 1
  else (P.predNull % 18446744073709551616).toNat

theorem FramingProtocol.minSize_pos (P : FramingProtocol) : 0 < P.minSize := by
  unfold FramingProtocol.minSize
  split <;> omega

/-- The repository's own `transport::Protocol`, where the whole buffer is one frame:
`pred_size(nullptr, 0) = 1` and `pred_size(buf, size) = size`. -/
def protocol : FramingProtocol := ⟨1, fun w => w.length⟩

/-- The locals of `receive_backend` that live from one iteration of its loop to the next. -/
structure Reassembler where
  buffer : List UInt8
  findHead : Bool
  predSize : Nat
  offset : Nat
  cachedSize : Nat
  deriving Repr, DecidableEq

/-- The state the loop starts in, over the freshly allocated buffer: `find_head = false`,
`pred_size = min_size * 2`, `offset = cached_size = 0`. -/
def Reassembler.init (P : FramingProtocol) (buffer : List UInt8) : Reassembler :=
  ⟨buffer, false, P.minSize * 2, 0, 0⟩

/-- What an iteration hands on: a frame pushed to `recv_que` (with a fresh
`TransportToken(this)`), or a byte the header scan stepped over, recorded with the window the
predictor was shown at that position. -/
inductive Event where
  | push (frame : List UInt8)
  | skip (window : List UInt8)
  deriving Repr, DecidableEq

/-- The stream bytes an event accounts for: a whole frame, or the one skipped byte. -/
def Event.bytes : Event → List UInt8
  | .push frame => frame
  | .skip window => window.take 1

/-- The frame of a push event. -/
def Event.frame? : Event → Option (List UInt8)
  | .push frame => some frame
  | .skip _ => none

/-- The predictor saw no usable header in `w`: no length, or one above `buffer_size`. -/
def Rejects (P : FramingProtocol) (bufferSize : Nat) (w : List UInt8) : Prop :=
  P.predSize w ≤ 0 ∨ (bufferSize : Int) < P.predSize w

/-- The window `buffer[offset, cached_size)` of a state. -/
def Reassembler.window (s : Reassembler) : List UInt8 := live s.buffer s.offset s.cachedSize

section Loop

variable (P : FramingProtocol) (bufferSize : Nat)

/-! ## §2. The header scan. -/

/-- The header scan `for (; offset + min_size < cached_size; ++offset)`, walking the window
`buffer[offset, cached_size)`: each iteration shows `P::pred_size` the window from the current
offset, whose tail is the next iteration's window.  A positive prediction above `buffer_size`
is logged as "data size is too large" and scanned past like no header at all. -/
def scanHeader (s : Reassembler) : List UInt8 → Reassembler × List Event
  | [] => (s, [])
  | b :: rest =>
    if P.minSize < rest.length + 1 then
      if 0 < P.predSize (b :: rest) then
        if bufferSize < (P.predSize (b :: rest)).toNat then
          let r := scanHeader
            { s with findHead := false, predSize := P.minSize * 2, offset := s.offset + 1 } rest
          (r.1, .skip (b :: rest) :: r.2)
        else ({ s with findHead := true, predSize := (P.predSize (b :: rest)).toNat }, [])
      else
        let r := scanHeader { s with findHead := false, offset := s.offset + 1 } rest
        (r.1, .skip (b :: rest) :: r.2)
    else (s, [])

/-! ## §3. The four phases of an iteration. -/

/-- `read(tty_id, buffer + cached_size, buffer_size - cached_size)` delivered `data`, then
`cached_size += recv_size`. -/
def readInto (s : Reassembler) (data : List UInt8) : Option Reassembler :=
  (fun buffer => { s with buffer, cachedSize := s.cachedSize + data.length }) <$>
    writeAt s.buffer s.cachedSize data

/-- `if (!find_head)`: scan `buffer[offset, cached_size)` for a header. -/
def scanPhase (s : Reassembler) : Option (Reassembler × List Event) :=
  if s.findHead then some (s, [])
  else (scanHeader P bufferSize s ·) <$> slice s.buffer s.offset s.cachedSize

/-- `if (find_head && cached_size >= pred_size + offset)`: push `buffer[offset, offset +
pred_size)` and advance `offset` past it.  `find_head` is left as it is. -/
def emitPhase (s : Reassembler) : Option (Reassembler × List Event) :=
  if s.findHead ∧ s.predSize + s.offset ≤ s.cachedSize then
    (fun frame => ({ s with offset := s.offset + s.predSize }, [Event.push frame])) <$>
      slice s.buffer s.offset (s.offset + s.predSize)
  else some (s, [])

/-- `if (offset && buffer_size - cached_size < pred_size)`: `cached_size -= offset`, move
the unconsumed tail to the front, `offset = 0`. -/
def compactPhase (s : Reassembler) : Option Reassembler :=
  if s.offset ≠ 0 ∧ bufferSize - s.cachedSize < s.predSize then
    (fun buffer => { s with buffer, cachedSize := s.cachedSize - s.offset, offset := 0 }) <$>
      memmove s.buffer s.offset (s.cachedSize - s.offset)
  else some s

/-- One iteration of `while (!this->is_closed)`, given the bytes `data` that `read` returned
(empty when `recv_size <= 0`).  With nothing read and nothing cached it only sleeps.  `none` is
an access outside the buffer. -/
def receiveStep (s : Reassembler) (data : List UInt8) : Option (Reassembler × List Event) :=
  if data = [] ∧ s.cachedSize = s.offset then some (s, [])
  else do
    let s₁ ← readInto s data
    let (s₂, skipped) ← scanPhase P bufferSize s₁
    let (s₃, pushed) ← emitPhase s₂
    let s₄ ← compactPhase bufferSize s₃
    pure (s₄, skipped ++ pushed)

/-- Runs of the loop: successive iterations, each on a `read` result no longer than the
`buffer_size - cached_size` bytes the code asks for. -/
inductive Run : Reassembler → List (List UInt8) → List Event → Reassembler → Prop
  | done (s : Reassembler) : Run s [] [] s
  | step {s s₁ s₂ : Reassembler} {data : List UInt8} {reads : List (List UInt8)}
      {e es : List Event} :
      data.length ≤ bufferSize - s.cachedSize →
      receiveStep P bufferSize s data = some (s₁, e) →
      Run s₁ reads es s₂ → Run s (data :: reads) (e ++ es) s₂

/-- A run of one iteration. -/
theorem Run.single (s s' : Reassembler) (data : List UInt8) (e : List Event)
    (h₁ : data.length ≤ bufferSize - s.cachedSize)
    (h₂ : receiveStep P bufferSize s data = some (s', e)) : Run P bufferSize s [data] e s' := by
  simpa using Run.step h₁ h₂ (Run.done s')

/-- A run that starts with the given iteration. -/
theorem Run.cons {s s₂ : Reassembler} {data : List UInt8} {reads : List (List UInt8)}
    {es : List Event} (s₁ : Reassembler) (e : List Event)
    (h₁ : data.length ≤ bufferSize - s.cachedSize)
    (h₂ : receiveStep P bufferSize s data = some (s₁, e)) (h₃ : Run P bufferSize s₁ reads es s₂) :
    Run P bufferSize s (data :: reads) (e ++ es) s₂ :=
  Run.step h₁ h₂ h₃

end Loop

/-! ## §4. What the header scan does. -/

section Scan

variable (P : FramingProtocol) (bufferSize : Nat)

/-- The scan leaves the buffer and `cached_size` alone and moves `offset` one byte per skip. -/
theorem scanHeader_frame (s : Reassembler) (w : List UInt8) :
    (scanHeader P bufferSize s w).1.buffer = s.buffer ∧
    (scanHeader P bufferSize s w).1.cachedSize = s.cachedSize ∧
    (scanHeader P bufferSize s w).1.offset = s.offset + (scanHeader P bufferSize s w).2.length := by
  induction w generalizing s with
  | nil => simp [scanHeader]
  | cons b rest ih =>
    simp only [scanHeader]
    split_ifs <;> simp [ih] <;> omega

theorem scanHeader_skipped_le (s : Reassembler) (w : List UInt8) :
    (scanHeader P bufferSize s w).2.length ≤ w.length := by
  induction w generalizing s with
  | nil => simp [scanHeader]
  | cons b rest ih =>
    simp only [scanHeader]
    split_ifs <;> simp [ih]

/-- Every event of the scan is a skip at the next position of the window, where the predictor
saw no usable header: the bytes skipped before it, then the window it records, make up the
scanned window. -/
theorem scanHeader_skip (s : Reassembler) (w : List UInt8) :
    ∀ pre v post, (scanHeader P bufferSize s w).2 = pre ++ .skip v :: post →
      (pre.map Event.bytes).flatten ++ v = w ∧ v ≠ [] ∧ Rejects P bufferSize v := by
  induction w generalizing s with
  | nil => simp [scanHeader]
  | cons b rest ih =>
    intro pre v post h
    simp only [scanHeader] at h
    split_ifs at h with hg hp hl <;> try simp at h
    all_goals
      cases pre with
      | nil =>
        cases h
        exact ⟨rfl, List.cons_ne_nil _ _, by unfold Rejects; omega⟩
      | cons x pre =>
        obtain ⟨rfl, ht⟩ := List.cons_eq_cons.mp h
        obtain ⟨hv, hne, hrej⟩ := ih _ pre v post ht
        exact ⟨by simp [Event.bytes, hv], hne, hrej⟩

/-- The skipped bytes are the front of the window, and what is left of it follows them. -/
theorem scanHeader_bytes (s : Reassembler) (w : List UInt8) :
    ((scanHeader P bufferSize s w).2.map Event.bytes).flatten
      ++ w.drop (scanHeader P bufferSize s w).2.length = w := by
  induction w generalizing s with
  | nil => simp [scanHeader]
  | cons b rest ih =>
    simp only [scanHeader]
    split_ifs <;> simp [Event.bytes, ih]

/-- The scan stops on a header, or once at most `min_size` bytes are left in the window. -/
theorem scanHeader_exit (s : Reassembler) (w : List UInt8) :
    (scanHeader P bufferSize s w).1.findHead = true ∨
      (w.drop (scanHeader P bufferSize s w).2.length).length ≤ P.minSize := by
  induction w generalizing s with
  | nil => simp [scanHeader]
  | cons b rest ih =>
    simp only [scanHeader]
    split_ifs <;> simp only [List.length_cons, List.drop_succ_cons, ih, List.drop_zero,
      List.length_nil, true_or]
    omega

/-- A found header is a length in `(0, buffer_size]`; otherwise `pred_size` keeps a value
in that range. -/
theorem scanHeader_predSize {P : FramingProtocol} {bufferSize : Nat} (s : Reassembler)
    (w : List UInt8) (hm : P.minSize * 2 ≤ bufferSize) (h₁ : 0 < s.predSize)
    (h₂ : s.predSize ≤ bufferSize) :
    0 < (scanHeader P bufferSize s w).1.predSize ∧
      (scanHeader P bufferSize s w).1.predSize ≤ bufferSize := by
  have hpos := P.minSize_pos
  induction w generalizing s with
  | nil => simpa [scanHeader] using ⟨h₁, h₂⟩
  | cons b rest ih =>
    simp only [scanHeader]
    split_ifs
    · exact ih _ (by simp; omega) (by simpa using hm)
    · simp only; omega
    · exact ih _ h₁ h₂
    · exact ⟨h₁, h₂⟩

end Scan

/-! ## §5. What each phase can do. -/

section Phases

variable {P : FramingProtocol} {bufferSize : Nat} {s s' : Reassembler} {data : List UInt8}
  {r : Reassembler × List Event}

theorem readInto_some : readInto s data = some s' ↔
    s.cachedSize + data.length ≤ s.buffer.length ∧
      s' = { s with buffer := s.buffer.take s.cachedSize ++ data
                      ++ s.buffer.drop (s.cachedSize + data.length),
                    cachedSize := s.cachedSize + data.length } := by
  simp only [readInto, writeAt]
  split <;> simp_all [eq_comm]

private theorem scanPhase_some_pair : scanPhase P bufferSize s = some r ↔
    (s.findHead = true ∧ r = (s, [])) ∨
    (s.findHead = false ∧ s.offset ≤ s.cachedSize ∧ s.cachedSize ≤ s.buffer.length ∧
      r = scanHeader P bufferSize s s.window) := by
  unfold scanPhase
  cases hf : s.findHead
  · by_cases hb : s.offset ≤ s.cachedSize ∧ s.cachedSize ≤ s.buffer.length
    · simp [slice_live hb.1 hb.2, hb, Reassembler.window, eq_comm]
    · simp only [slice, if_neg hb, Bool.false_eq_true, if_false, Option.map_eq_map,
        Option.map_none', reduceCtorEq, false_and, true_and, false_or, false_iff, not_and]
      exact fun h₁ h₂ _ => hb ⟨h₁, h₂⟩
  · simp [eq_comm]

private theorem emitPhase_some_pair : emitPhase s = some r ↔
    (s.findHead = true ∧ s.predSize + s.offset ≤ s.cachedSize ∧
      s.offset + s.predSize ≤ s.buffer.length ∧
      r = ({ s with offset := s.offset + s.predSize },
        [.push ((s.buffer.drop s.offset).take s.predSize)])) ∨
    (¬(s.findHead = true ∧ s.predSize + s.offset ≤ s.cachedSize) ∧ r = (s, [])) := by
  unfold emitPhase slice
  split_ifs with hc hb
  · simp only [Option.map_eq_map, Option.map_some', Option.some.injEq, hc, hb.2,
      Nat.add_sub_cancel_left, true_and, not_true_eq_false, false_and, or_false]
    exact eq_comm
  · simp only [Option.map_eq_map, Option.map_none', reduceCtorEq, false_iff, hc,
      not_true_eq_false, false_and, or_false, true_and]
    exact fun h => hb ⟨Nat.le_add_right _ _, h.1⟩
  · rw [Option.some.injEq, eq_comm, or_iff_right (fun h => hc ⟨h.1, h.2.1⟩)]
    exact ⟨fun h => ⟨hc, h⟩, And.right⟩

theorem scanPhase_some {e : List Event} : scanPhase P bufferSize s = some (s', e) ↔
    (s.findHead = true ∧ s' = s ∧ e = []) ∨
    (s.findHead = false ∧ s.offset ≤ s.cachedSize ∧ s.cachedSize ≤ s.buffer.length ∧
      s' = (scanHeader P bufferSize s s.window).1 ∧
      e = (scanHeader P bufferSize s s.window).2) := by
  rw [scanPhase_some_pair, Prod.ext_iff, Prod.ext_iff]

theorem emitPhase_some {e : List Event} : emitPhase s = some (s', e) ↔
    (s.findHead = true ∧ s.predSize + s.offset ≤ s.cachedSize ∧
      s.offset + s.predSize ≤ s.buffer.length ∧
      s' = { s with offset := s.offset + s.predSize } ∧
      e = [.push ((s.buffer.drop s.offset).take s.predSize)]) ∨
    (¬(s.findHead = true ∧ s.predSize + s.offset ≤ s.cachedSize) ∧ s' = s ∧ e = []) := by
  rw [emitPhase_some_pair, Prod.ext_iff, Prod.ext_iff]

theorem compactPhase_some : compactPhase bufferSize s = some s' ↔
    (s.offset ≠ 0 ∧ bufferSize - s.cachedSize < s.predSize ∧
      s.offset + (s.cachedSize - s.offset) ≤ s.buffer.length ∧
      s' = { s with buffer := (s.buffer.drop s.offset).take (s.cachedSize - s.offset)
                        ++ s.buffer.drop (s.cachedSize - s.offset),
                    cachedSize := s.cachedSize - s.offset, offset := 0 }) ∨
    (¬(s.offset ≠ 0 ∧ bufferSize - s.cachedSize < s.predSize) ∧ s' = s) := by
  unfold compactPhase memmove
  split_ifs with hc hb
  · simp only [Option.map_eq_map, Option.map_some', Option.some.injEq, hc, hb, true_and,
      not_true_eq_false, false_and, or_false, ne_eq, not_false_eq_true]
    exact eq_comm
  · simp only [Option.map_eq_map, Option.map_none', reduceCtorEq, false_iff, hc, hb, false_and,
      ne_eq, not_false_eq_true, true_and, not_true_eq_false, or_false]
  · rw [Option.some.injEq, eq_comm, or_iff_right (fun h => hc ⟨h.1, h.2.1⟩)]
    exact ⟨fun h => ⟨hc, h⟩, And.right⟩

/-- An iteration either only sleeps, or runs the four phases one after the other. -/
theorem receiveStep_cases {e : List Event}
    (h : receiveStep P bufferSize s data = some (s', e)) :
    (data = [] ∧ s.cachedSize = s.offset ∧ s' = s ∧ e = []) ∨
    ∃ s₁ s₂ s₃ e₂ e₃, readInto s data = some s₁ ∧ scanPhase P bufferSize s₁ = some (s₂, e₂) ∧
      emitPhase s₂ = some (s₃, e₃) ∧ compactPhase bufferSize s₃ = some s' ∧ e = e₂ ++ e₃ := by
  simp only [receiveStep] at h
  split at h
  · obtain ⟨rfl, rfl⟩ := Prod.mk.inj (Option.some.inj h)
    exact .inl ⟨‹_ ∧ _›.1, ‹_ ∧ _›.2, rfl, rfl⟩
  · simp only [bind, Option.bind_eq_some, pure, Option.some.injEq] at h
    obtain ⟨s₁, h₁, ⟨s₂, e₂⟩, h₂, ⟨s₃, e₃⟩, h₃, s₄, h₄, h⟩ := h
    cases h
    exact .inr ⟨s₁, s₂, s₃, e₂, e₃, h₁, h₂, h₃, h₄, rfl⟩

/-- The four phases, when they all succeed on an iteration that reads or has bytes cached. -/
theorem receiveStep_of_phases {s₁ s₂ s₃ s₄ : Reassembler} {e₂ e₃ : List Event}
    (hidle : ¬(data = [] ∧ s.cachedSize = s.offset)) (h₁ : readInto s data = some s₁)
    (h₂ : scanPhase P bufferSize s₁ = some (s₂, e₂)) (h₃ : emitPhase s₂ = some (s₃, e₃))
    (h₄ : compactPhase bufferSize s₃ = some s₄) :
    receiveStep P bufferSize s data = some (s₄, e₂ ++ e₃) := by
  simp [receiveStep, hidle, h₁, h₂, h₃, h₄]

end Phases

end Transport
