import QuicRtc.WsTransport.Defs

/-!
# Round trip of WebSocket frames

`parseFrame` reads back every frame that `sendFrame` writes, with any masking key and whatever
follows it in the buffer, and waits for more bytes on every strict prefix of it.

* `reads_length`, `reads_maskingKey`, `reads_header`: the parts of the header, as encodings in the
  sense of `Reader.Reads`.
* `reads_frame`: the whole frame.
* `parseFrame_sendFrame`: the round trip.
-/

namespace Rtc.WsTransport

/-! ## Masks and flags -/

@[simp]
theorem length_applyMask (maskingKey payload : List UInt8) :
    (applyMask maskingKey payload).length = payload.length := by
  simp [applyMask]

/-- The mask is an involution. -/
@[simp]
theorem applyMask_applyMask (maskingKey payload : List UInt8) :
    applyMask maskingKey (applyMask maskingKey payload) = payload := by
  apply List.ext_getElem
  · simp
  · intro i _ _
    simp only [applyMask, List.getElem_mapIdx]
    rw [UInt8.xor_assoc, UInt8.xor_self, UInt8.xor_zero]

/-- The first byte gives the opcode and the flag `fin` back. -/
theorem firstByte (opcode : Opcode) (fin : Bool) :
    Opcode.ofByte ((opcode.value &&& 0x0F) ||| flagBit fin) = opcode ∧
      (((opcode.value &&& 0x0F) ||| flagBit fin) &&& 0x80 != 0) = fin := by
  obtain ⟨value, hlt⟩ := opcode
  have hall : ∀ n < 16, ∀ fin : Bool,
      ((UInt8.ofNat n &&& 0x0F) ||| flagBit fin) &&& 0x0F = UInt8.ofNat n ∧
        (((UInt8.ofNat n &&& 0x0F) ||| flagBit fin) &&& 0x80 != 0) = fin := by
    decide
  -- sixteen opcodes and two flags
  obtain ⟨hopcode, hfin⟩ := hall value.toNat (UInt8.lt_iff_toNat_lt.1 hlt) fin
  rw [UInt8.ofNat_toNat] at hopcode hfin
  exact ⟨by simp only [Opcode.ofByte, hopcode], hfin⟩

/-! ## Fields -/

/-- The second byte and the extended length: the mask flag is its top bit, and the length is read
from the rest. -/
theorem lengthBytes_cases (mask : Bool) {length : ℕ} (h : length < 18446744073709551616) :
    ∃ b2 extended, lengthBytes mask length = b2 :: extended ∧ ((b2 &&& 0x80) != 0) = mask ∧
      Reader.Reads (readLength b2) extended length := by
  unfold lengthBytes
  split
  · next hshort =>
    have hall : ∀ n < 0x7E, ∀ mask : Bool,
        ((UInt8.ofNat (n &&& 0x7F) ||| flagBit mask) &&& 0x80 != 0) = mask ∧
          (UInt8.ofNat (n &&& 0x7F) ||| flagBit mask) &&& 0x7F ≠ 0x7E ∧
          (UInt8.ofNat (n &&& 0x7F) ||| flagBit mask) &&& 0x7F ≠ 0x7F ∧
          ((UInt8.ofNat (n &&& 0x7F) ||| flagBit mask) &&& 0x7F).toNat = n := by
      decide
    obtain ⟨hmask, hne, hne', hlength⟩ := hall length hshort mask
    refine ⟨_, [], rfl, hmask, ?_⟩
    -- a short length is none of the two codes
    rw [readLength, if_neg hne, if_neg hne', hlength]
    exact Reader.Reads.pure length
  · split
    · next hmedium =>
      refine ⟨_, _, rfl, by cases mask <;> decide, ?_⟩
      have hcode : (0x7E ||| flagBit mask) &&& 0x7F = 0x7E := by cases mask <;> decide
      -- two bytes hold it, by the test of `sendFrame`
      have hfits : length < 256 ^ 2 := by omega
      have hread := (Reader.reads_take (BigEndian.length_encode 2 length)).map BigEndian.decode
      rw [BigEndian.decode_encode hfits] at hread
      rwa [readLength, if_pos hcode]
    · refine ⟨_, _, rfl, by cases mask <;> decide, ?_⟩
      have hcode : (0x7F ||| flagBit mask) &&& 0x7F = 0x7F := by cases mask <;> decide
      have hne : ¬((0x7F ||| flagBit mask) &&& 0x7F = 0x7E) := by cases mask <;> decide
      have hread := (Reader.reads_take (BigEndian.length_encode 8 length)).map BigEndian.decode
      rw [BigEndian.decode_encode h] at hread
      rwa [readLength, if_neg hne, if_pos hcode]

/-- The masking key that `sendFrame` writes, if any. -/
def keyBytes (frame : Frame) (maskingKey : Vector UInt8 4) : List UInt8 :=
  if frame.mask then maskingKey.toList else []

/-- The payload as `sendFrame` writes it. -/
def maskedPayload (frame : Frame) (maskingKey : Vector UInt8 4) : List UInt8 :=
  if frame.mask then applyMask maskingKey.toList frame.payload else frame.payload

theorem message_sendFrame (frame : Frame) (maskingKey : Vector UInt8 4) :
    (sendFrame frame maskingKey).message =
      header frame ++ keyBytes frame maskingKey ++ maskedPayload frame maskingKey := by
  unfold sendFrame keyBytes maskedPayload
  split <;> simp

@[simp]
theorem length_maskedPayload (frame : Frame) (maskingKey : Vector UInt8 4) :
    (maskedPayload frame maskingKey).length = frame.payload.length := by
  unfold maskedPayload
  split <;> simp

/-- The header that `parseFrame` reads from a frame. -/
def Frame.toHeader (frame : Frame) (maskingKey : Vector UInt8 4) : Header where
  opcode := frame.opcode
  fin := frame.fin
  mask := frame.mask
  length := frame.payload.length
  maskingKey := if frame.mask then some maskingKey.toList else none

theorem reads_maskingKey (frame : Frame) (maskingKey : Vector UInt8 4) :
    Reader.Reads (readMaskingKey frame.mask) (keyBytes frame maskingKey)
      (frame.toHeader maskingKey).maskingKey := by
  unfold readMaskingKey keyBytes Frame.toHeader
  cases frame.mask
  · exact Reader.Reads.pure none
  · exact (Reader.reads_take (by simp)).map some

/-- The header and the masking key. -/
theorem reads_header (frame : Frame) (maskingKey : Vector UInt8 4)
    (h : frame.payload.length < 18446744073709551616) :
    Reader.Reads readHeader (header frame ++ keyBytes frame maskingKey)
      (frame.toHeader maskingKey) := by
  obtain ⟨b2, extended, hbytes, hmask, hlength⟩ := lengthBytes_cases frame.mask h
  obtain ⟨hopcode, hfin⟩ := firstByte frame.opcode frame.fin
  have hsplit : header frame ++ keyBytes frame maskingKey =
      [(frame.opcode.value &&& 0x0F) ||| flagBit frame.fin, b2] ++
        (extended ++ keyBytes frame maskingKey) := by
    simp [header, hbytes]
  rw [hsplit]
  have hstart : Reader.Reads (Reader.take 2)
      [(frame.opcode.value &&& 0x0F) ||| flagBit frame.fin, b2]
      [(frame.opcode.value &&& 0x0F) ||| flagBit frame.fin, b2] := Reader.reads_take rfl
  -- the second byte selects the reader of the length
  refine hstart.bind ?_
  simp only [List.getD_cons_zero, List.getD_cons_succ, hopcode, hfin, hmask]
  exact hlength.bind ((reads_maskingKey frame maskingKey).map _)

/-- The whole frame, when it is not longer than the limit. -/
theorem reads_frame {mMaxMessageSize : UInt64} (frame : Frame) (maskingKey : Vector UInt8 4)
    (h : frame.payload.length ≤ maxFrameLength mMaxMessageSize) :
    Reader.Reads (readFrame mMaxMessageSize) (sendFrame frame maskingKey).message
      (frame.toHeader maskingKey, maskedPayload frame maskingKey) := by
  have hfits : frame.payload.length < 18446744073709551616 := by
    have hmax := mMaxMessageSize.toNat_lt
    unfold maxFrameLength at h
    omega
  rw [message_sendFrame]
  refine (reads_header frame maskingKey hfits).bind ?_
  -- the frame is not truncated
  have hlength : min (frame.toHeader maskingKey).length (maxFrameLength mMaxMessageSize) =
      frame.payload.length := Nat.min_eq_left h
  rw [hlength]
  exact (Reader.reads_take (length_maskedPayload frame maskingKey)).map _

/-- Removing the mask restores the payload. -/
theorem unmask_maskedPayload (frame : Frame) (maskingKey : Vector UInt8 4) :
    (frame.toHeader maskingKey).unmask (maskedPayload frame maskingKey) = frame.payload := by
  unfold Header.unmask Frame.toHeader maskedPayload
  cases frame.mask
  · rfl
  · simp

/-! ## Frames -/

/-- For every frame whose payload is not longer than the limit and whose bytes have a size, every
masking key and every continuation of the buffer, `parseFrame` returns the length of the frame and
the frame itself, with the payload unmasked in the buffer. On a strict prefix of the frame it
returns `0` and leaves the buffer alone. -/
theorem parseFrame_sendFrame {mMaxMessageSize : UInt64} (frame : Frame)
    (maskingKey : Vector UInt8 4)
    (hlength : frame.payload.length ≤ max 125 mMaxMessageSize.toNat)
    (hsize : (sendFrame frame maskingKey).message.length < 18446744073709551616)
    (trailing : List UInt8) :
    parseFrame mMaxMessageSize ((sendFrame frame maskingKey).message ++ trailing) =
        { size := (sendFrame frame maskingKey).message.length
          buffer := header frame ++ keyBytes frame maskingKey ++ frame.payload ++ trailing
          frame := some frame } ∧
      ∀ p, p <+: (sendFrame frame maskingKey).message →
        p ≠ (sendFrame frame maskingKey).message →
        parseFrame mMaxMessageSize p = { size := 0, buffer := p, frame := none } := by
  have hreads : Reader.Reads (readFrame mMaxMessageSize) (sendFrame frame maskingKey).message
      (frame.toHeader maskingKey, maskedPayload frame maskingKey) :=
    reads_frame frame maskingKey hlength
  -- the sizes are found by subtraction from the end, so they are those of the parts
  constructor
  · have hunmask := unmask_maskedPayload frame maskingKey
    have hheadLength : ((sendFrame frame maskingKey).message ++ trailing).length -
        (maskedPayload frame maskingKey).length - trailing.length =
        (header frame ++ keyBytes frame maskingKey).length := by
      simp only [message_sendFrame, List.length_append]
      omega
    have htake : ((sendFrame frame maskingKey).message ++ trailing).take
        (header frame ++ keyBytes frame maskingKey).length =
        header frame ++ keyBytes frame maskingKey := by
      rw [message_sendFrame, List.append_assoc, List.take_left]
    have hmessage : (header frame ++ keyBytes frame maskingKey).length +
        (frame.toHeader maskingKey).length = (sendFrame frame maskingKey).message.length := by
      simp [message_sendFrame, Frame.toHeader, Nat.add_assoc]
    rw [parseFrame, hreads.complete trailing]
    simp only [hheadLength, htake, hunmask, hmessage, Nat.mod_eq_of_lt hsize]
    simp [Frame.toHeader]
  · intro p hp hne
    rw [parseFrame, hreads.incomplete p hp hne]

/-- A masked binary frame with a one-byte length, read with the start of the next frame behind
it. -/
theorem parseFrame_sendFrame_binary :
    ([1, 2, 3, 4, 5] : List UInt8).length ≤ max 125 (0 : UInt64).toNat ∧
      (sendFrame { payload := [1, 2, 3, 4, 5] } #v[16, 32, 48, 64]).message =
        [0x82, 0x85, 16, 32, 48, 64, 17, 34, 51, 68, 21] ∧
      parseFrame 0 ([0x82, 0x85, 16, 32, 48, 64, 17, 34, 51, 68, 21] ++ [0x82]) =
        { size := 11
          buffer := [0x82, 0x85, 16, 32, 48, 64, 1, 2, 3, 4, 5, 0x82]
          frame := some { payload := [1, 2, 3, 4, 5] } } := by
  have hlength : ([1, 2, 3, 4, 5] : List UInt8).length ≤ max 125 (0 : UInt64).toNat := by decide
  exact ⟨hlength, by decide,
    (parseFrame_sendFrame { payload := [1, 2, 3, 4, 5] } #v[16, 32, 48, 64] hlength (by decide)
      [0x82]).1⟩

end Rtc.WsTransport
