import Mathlib.Data.List.Basic

/-
  Transport.Reassembler.Buffer — the receive buffer of the serial port transport.

  `SerialPortTransport::receive_backend` allocates `uint8_t buffer[buffer_size]` once and touches
  it in exactly three ways: `read` writes the new bytes at `buffer + cached_size`, the header
  scan and the frame emission read a range `[lo, hi)` through a pointer, and the compaction
  `memmove`s the unconsumed tail to the front.  Each access is modelled CHECKED: it returns
  `none` when the range leaves the buffer, so "the reassembler never indexes past its buffer"
  is the statement that no step of the model returns `none`.

  The buffer is the whole physical array, stale bytes included; the bytes that matter are the
  prefix `buffer[0, cached_size)`, and the lemmas below say what each access does to it.
-/

namespace Transport

/-! ## §1. The three accesses. -/

/-- Read `buffer[lo, hi)` through `buffer + lo` with length `hi - lo`. -/
def slice (buf : List UInt8) (lo hi : Nat) : Option (List UInt8) :=
  if lo ≤ hi ∧ hi ≤ buf.length then some ((buf.drop lo).take (hi - lo)) else none

/-- `read(fd, buffer + pos, ...)` delivering `data`: the bytes land at `[pos, pos + |data|)`. -/
def writeAt (buf : List UInt8) (pos : Nat) (data : List UInt8) : Option (List UInt8) :=
  if pos + data.length ≤ buf.length then
    some (buf.take pos ++ data ++ buf.drop (pos + data.length))
  else none

/-- `memmove(buffer, buffer + src, n)`: `buffer[src, src + n)` is copied to `buffer[0, n)`. -/
def memmove (buf : List UInt8) (src n : Nat) : Option (List UInt8) :=
  if src + n ≤ buf.length then some ((buf.drop src).take n ++ buf.drop n) else none

/-! ## §2. In-bounds accesses succeed, and keep the buffer's size. -/

theorem slice_eq {buf : List UInt8} {lo hi : Nat} (h₁ : lo ≤ hi) (h₂ : hi ≤ buf.length) :
    slice buf lo hi = some ((buf.drop lo).take (hi - lo)) := by
  simp [slice, h₁, h₂]

theorem writeAt_eq {buf data : List UInt8} {pos : Nat} (h : pos + data.length ≤ buf.length) :
    writeAt buf pos data = some (buf.take pos ++ data ++ buf.drop (pos + data.length)) := by
  simp [writeAt, h]

theorem memmove_eq {buf : List UInt8} {src n : Nat} (h : src + n ≤ buf.length) :
    memmove buf src n = some ((buf.drop src).take n ++ buf.drop n) := by
  simp [memmove, h]

theorem writeAt_length {buf data : List UInt8} {pos : Nat} (h : pos + data.length ≤ buf.length) :
    (buf.take pos ++ data ++ buf.drop (pos + data.length)).length = buf.length := by
  simp only [List.length_append, List.length_take, List.length_drop]
  omega

theorem memmove_length {buf : List UInt8} {src n : Nat} (h : src + n ≤ buf.length) :
    ((buf.drop src).take n ++ buf.drop n).length = buf.length := by
  simp only [List.length_append, List.length_take, List.length_drop]
  omega

/-! ## §3. What each access does to the live prefix `buffer[off, cached)`. -/

/-- The bytes of `buffer[off, c)`: the window the reassembler has read but not consumed. -/
def live (buf : List UInt8) (off c : Nat) : List UInt8 := (buf.take c).drop off

/-- **Read.** Writing `data` at `c` appends it to the live window. -/
theorem live_writeAt {buf data : List UInt8} {off c : Nat} (hoff : off ≤ c)
    (h : c + data.length ≤ buf.length) :
    live (buf.take c ++ data ++ buf.drop (c + data.length)) off (c + data.length)
      = live buf off c ++ data := by
  have hc : (buf.take c).length = c := List.length_take_of_le (by omega)
  have hpre : (buf.take c ++ data ++ buf.drop (c + data.length)).take (c + data.length)
      = buf.take c ++ data := by
    rw [List.append_assoc, List.take_append_eq_append_take, hc,
      List.take_of_length_le (by omega), Nat.add_sub_cancel_left,
      List.take_append_of_le_length (le_refl _), List.take_length]
  rw [live, hpre, List.drop_append_of_le_length (by omega), live]

/-- **Compaction.** Moving `buffer[off, c)` to the front keeps the live window. -/
theorem live_memmove {buf : List UInt8} {off c : Nat} (hoff : off ≤ c) (h : c ≤ buf.length) :
    live ((buf.drop off).take (c - off) ++ buf.drop (c - off)) 0 (c - off) = live buf off c := by
  have hn : ((buf.drop off).take (c - off)).length = c - off :=
    List.length_take_of_le (by simp only [List.length_drop]; omega)
  rw [live, List.drop_zero, List.take_left' hn, live, List.drop_take]

/-- **Emission.** A slice `[off, off + n)` inside the window is its first `n` bytes, and the
window from `off + n` is the rest. -/
theorem live_split {buf : List UInt8} {off n c : Nat} (h : off + n ≤ c) :
    (buf.drop off).take n ++ live buf (off + n) c = live buf off c := by
  have hw : live buf off c = (buf.drop off).take (c - off) := by rw [live, List.drop_take]
  have hr : live buf (off + n) c = ((buf.drop off).take (c - off)).drop n := by
    rw [live, List.drop_take, List.drop_take, List.drop_drop, Nat.sub_sub]
  have ht : (buf.drop off).take n = ((buf.drop off).take (c - off)).take n := by
    rw [List.take_take, Nat.min_eq_left (by omega)]
  rw [hr, ht, List.take_append_drop, hw]

/-- The window read by `slice buf off c` is the live window. -/
theorem slice_live {buf : List UInt8} {off c : Nat} (h₁ : off ≤ c) (h₂ : c ≤ buf.length) :
    slice buf off c = some (live buf off c) := by
  rw [slice_eq h₁ h₂, live, List.drop_take]

theorem live_length (buf : List UInt8) (off c : Nat) (h : c ≤ buf.length) :
    (live buf off c).length = c - off := by
  simp only [live, List.length_drop, List.length_take]
  omega

end Transport
