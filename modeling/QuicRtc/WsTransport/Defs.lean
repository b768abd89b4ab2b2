import Mathlib.Data.Nat.Notation
import QuicRtc.Lib.BigEndian
import QuicRtc.Lib.Reader

/-!
# WebSocket frames

The frame codec of `impl/wstransport.cpp`: `sendFrame`, which writes one frame, and `parseFrame`,
which reads one from the front of the receive buffer.

Both apply the masking key in place: `sendFrame` on the payload it is given, `parseFrame` on the
bytes of the buffer. A cursor into the buffer is the list of the bytes from there on. `htons`,
`htonll` and their inverses lay out and read big-endian fields.
-/

namespace Rtc.WsTransport

/-- `WsTransport::Opcode`. The values are those of the four-bit field of a frame, including the ones
that `recvFrame` does not know. -/
structure Opcode where
  value : UInt8
  lt : value < 16
  deriving DecidableEq, Repr

namespace Opcode

/-- `CONTINUATION`. -/
def continuation : Opcode := ⟨0, by decide⟩

/-- `TEXT_FRAME`. -/
def textFrame : Opcode := ⟨1, by decide⟩

/-- `BINARY_FRAME`. -/
def binaryFrame : Opcode := ⟨2, by decide⟩

/-- `CLOSE`. -/
def close : Opcode := ⟨8, by decide⟩

/-- `PING`. -/
def ping : Opcode := ⟨9, by decide⟩

/-- `PONG`. -/
def pong : Opcode := ⟨10, by decide⟩

/-- The opcode in the first byte of a frame. -/
def ofByte (b : UInt8) : Opcode := ⟨b &&& 0x0F, by
  rw [UInt8.lt_iff_toNat_lt, UInt8.toNat_and]
  exact Nat.lt_of_le_of_lt Nat.and_le_right (by decide)⟩

end Opcode

/-- `WsTransport::Frame`. The field `length` of the source is the length of the payload. -/
structure Frame where
  opcode : Opcode := .binaryFrame
  payload : List UInt8 := []
  fin : Bool := true
  mask : Bool := true
  deriving DecidableEq, Repr

/-- `payload[i] ^= maskingKey[i % 4]`, for every byte of the payload. -/
def applyMask (maskingKey payload : List UInt8) : List UInt8 :=
  payload.mapIdx fun i b => b ^^^ maskingKey.getD (i % 4) 0

/-! ## Sending -/

/-- The flag in the top bit of a header byte. -/
def flagBit (flag : Bool) : UInt8 := if flag then 0x80 else 0

/-- The header bytes that hold the mask flag and the payload length. -/
def lengthBytes (mask : Bool) (length : ℕ) : List UInt8 :=
  -- the boundaries of `sendFrame`
  if length < 0x7E then [UInt8.ofNat (length &&& 0x7F) ||| flagBit mask]
  else if length ≤ 0xFFFF then (0x7E ||| flagBit mask) :: BigEndian.encode 2 length
  else (0x7F ||| flagBit mask) :: BigEndian.encode 8 length

/-- The header of a frame, without the masking key. -/
def header (frame : Frame) : List UInt8 :=
  ((frame.opcode.value &&& 0x0F) ||| flagBit frame.fin) ::
    lengthBytes frame.mask frame.payload.length

/-- What `sendFrame` does: the bytes it passes to `outgoing`, and the payload it leaves behind. -/
structure Sent where
  message : List UInt8
  payload : List UInt8
  deriving DecidableEq, Repr

/-- `WsTransport::sendFrame`, with the masking key that `random_bytes_engine` generates. -/
def sendFrame (frame : Frame) (maskingKey : Vector UInt8 4) : Sent :=
  if frame.mask then
    let payload := applyMask maskingKey.toList frame.payload
    { message := header frame ++ maskingKey.toList ++ payload, payload }
  else { message := header frame ++ frame.payload, payload := frame.payload }

/-! ## Receiving -/

/-- The payload length announced by the second byte and the bytes that follow it. -/
def readLength (b2 : UInt8) : List UInt8 → Option (ℕ × List UInt8) :=
  if b2 &&& 0x7F = 0x7E then Reader.map BigEndian.decode (Reader.take 2)
  else if b2 &&& 0x7F = 0x7F then Reader.map BigEndian.decode (Reader.take 8)
  else fun cur => some ((b2 &&& 0x7F).toNat, cur)

/-- The masking key, when there is one. -/
def readMaskingKey (mask : Bool) : List UInt8 → Option (Option (List UInt8) × List UInt8) :=
  if mask then Reader.map some (Reader.take 4) else fun cur => some (none, cur)

/-- What `parseFrame` reads before the payload. -/
structure Header where
  opcode : Opcode
  fin : Bool
  mask : Bool
  length : ℕ
  maskingKey : Option (List UInt8)
  deriving DecidableEq, Repr

/-- The part of `parseFrame` up to the masking key. Wherever the source returns `0` because the
bytes do not suffice, the result is `none`. -/
def readHeader : List UInt8 → Option (Header × List UInt8) :=
  Reader.bind (Reader.take 2) fun start =>
    let b1 := start.getD 0 0
    let b2 := start.getD 1 0
    let mask := (b2 &&& 0x80) != 0
    Reader.bind (readLength b2) fun length =>
      Reader.map
        (fun maskingKey =>
          { opcode := .ofByte b1, fin := (b1 &&& 0x80) != 0, mask, length, maskingKey })
        (readMaskingKey mask)

/-- `maxFrameLength`. -/
def maxFrameLength (mMaxMessageSize : UInt64) : ℕ := max 125 mMaxMessageSize.toNat

/-- The header, and the payload as far as it is kept: a frame that is longer than the limit is
truncated. -/
def readFrame (mMaxMessageSize : UInt64) :
    List UInt8 → Option ((Header × List UInt8) × List UInt8) :=
  Reader.bind readHeader fun header =>
    Reader.map (fun payload => (header, payload))
      (Reader.take (min header.length (maxFrameLength mMaxMessageSize)))

/-- The result of `parseFrame`: the value it returns, the buffer it leaves, and the frame, which is
incomplete when it returns `0`. -/
structure Parsed where
  size : ℕ
  buffer : List UInt8
  frame : Option Frame
  deriving DecidableEq, Repr

/-- Remove the mask. -/
def Header.unmask (header : Header) (payload : List UInt8) : List UInt8 :=
  match header.maskingKey with
  | some maskingKey => applyMask maskingKey payload
  | none => payload

/-- `WsTransport::parseFrame`. The size returned is that of the whole frame, also when the frame is
truncated and the buffer does not hold all of it. It is computed modulo the range of `size_t`. -/
def parseFrame (mMaxMessageSize : UInt64) (buffer : List UInt8) : Parsed :=
  match readFrame mMaxMessageSize buffer with
  | none => { size := 0, buffer, frame := none }
  | some ((header, masked), rest) =>
    -- the payload is unmasked in the buffer, in its place
    let headerLength := buffer.length - masked.length - rest.length
    let payload := header.unmask masked
    { size := (headerLength + header.length) % 18446744073709551616
      buffer := buffer.take headerLength ++ payload ++ rest
      frame := some
        { opcode := header.opcode, payload, fin := header.fin, mask := header.mask } }

end Rtc.WsTransport
