import Transport.Reassembler.Step

/-
  Transport.Reassembler.Framing — reassembling a stream of frames of one framing protocol.

  A framing protocol's predictor, at a frame boundary, needs more bytes (returns 0) until the
  frame's header is in the window, and then returns the frame's total length whatever follows.
  `lengthPrefixed` is the smallest such format: a one-byte header holding the total length.

  The serial reassembler does not hand such a stream back frame by frame.  After an emission
  it advances `offset` past the frame but never resets `find_head`, so the next iteration skips
  the header scan and cuts the next frame at the PREVIOUS frame's length.  The run below feeds the
  frames `[2, 7]` and `[3, 8, 9]` in one read; the second frame comes out as `[3, 8]`.
-/

namespace Transport

/-- A length-prefixed format: the first byte of a frame is its total length.  The predictor
needs more bytes on an empty window, and its minimum size is one byte. -/
def lengthPrefixed : FramingProtocol where
  predNull := 1
  predSize
    | [] => 0
    | b :: _ => b.toNat

/-- The header of `lengthPrefixed` is one byte, and it decides the frame's length whatever
follows it. -/
theorem lengthPrefixed_predSize (b : UInt8) (rest : List UInt8) :
    lengthPrefixed.predSize (b :: rest) = b.toNat ∧ lengthPrefixed.minSize = 1 := ⟨rfl, rfl⟩

/-- **The second frame is cut at the first frame's length.** Reading the frames `[2, 7]` and
`[3, 8, 9]` of `lengthPrefixed` into a 16-byte buffer in one read, then reading nothing, the
loop pushes `[2, 7]` and then `[3, 8]`: not a prefix of the frames that were sent. -/
theorem receive_backend_cuts_second_frame :
    Run lengthPrefixed 16 (Reassembler.init lengthPrefixed (List.replicate 16 0))
      [[2, 7, 3, 8, 9], []] [.push [2, 7], .push [3, 8]]
      ⟨[2, 7, 3, 8, 9, 0, 0, 0, 0, 0, 0, 0, 0, 0, 0, 0], true, 2, 4, 5⟩ ∧
    ¬ [[2, 7], [3, 8]] <+: ([[2, 7], [3, 8, 9]] : List (List UInt8)) :=
  ⟨Run.cons _ _ ⟨[2, 7, 3, 8, 9, 0, 0, 0, 0, 0, 0, 0, 0, 0, 0, 0], true, 2, 2, 5⟩ [.push [2, 7]]
      (by decide) (by decide) (Run.single _ _ _ _ [] [.push [3, 8]] (by decide) (by decide)),
    by decide⟩

end Transport
