import Mathlib.Algebra.Order.Floor.Div
import QuicRtc.Lib.BigEndian
import QuicRtc.Lib.Layout
import QuicRtc.Lib.Reader

/-!
# RTCP packets

The RTCP header and the SDES packet (`rtp.cpp`), which the source reads through structures laid over
the bytes of a message.

A packet is given by the bytes `data` from its first one on, and a pointer into it is an offset.
Every read is checked: a byte that is not in `data` is a `Fault`. The loops are given fuel; running
out of it is another fault, and it is proved that they do not.
-/

namespace Rtc

/-- What can go wrong in reading a packet. -/
inductive Fault where
  /-- A byte behind the end is read. -/
  | outside
  | outOfFuel
  deriving DecidableEq, Repr

/-- Read a byte. -/
def readByte (data : List UInt8) (i : ℕ) : Except Fault UInt8 :=
  match data[i]? with
  | some byte => .ok byte
  | none => .error .outside

/-- Read an SSRC, or another field of 32 bits, in host order. -/
def readSsrc (data : List UInt8) (i : ℕ) : Except Fault UInt32 :=
  if i + 4 ≤ data.length then .ok (UInt32.ofNat (BigEndian.decode ((data.drop i).take 4)))
  else .error .outside

/-- Read bytes. -/
def readBytes (data : List UInt8) (i n : ℕ) : Except Fault (List UInt8) :=
  if i + n ≤ data.length then .ok (Layout.slice data i n) else .error .outside

/-- Write bytes over a part of a packet. -/
def writeBytes (data : List UInt8) (i : ℕ) (bytes : List UInt8) : Except Fault (List UInt8) :=
  if i + bytes.length ≤ data.length then .ok (Layout.overwrite data i bytes)
  else .error .outside

section Fields

variable {fields : List (List UInt8)} {k i : ℕ}

/-- A field is written at its offset. -/
theorem writeBytes_flatten (hk : k < fields.length) (hi : Layout.offset fields k = i)
    {bytes : List UInt8} (hlength : bytes.length = fields[k].length) :
    writeBytes fields.flatten i bytes = .ok (fields.set k bytes).flatten := by
  have hinside := Layout.offset_add_le hk
  rw [writeBytes, if_pos (by omega), ← hi, Layout.overwrite_flatten hk hlength]

/-- It is read there. -/
theorem readBytes_flatten (hk : k < fields.length) (hi : Layout.offset fields k = i) {n : ℕ}
    (hn : fields[k].length = n) : readBytes fields.flatten i n = .ok fields[k] := by
  have hinside := Layout.offset_add_le hk
  rw [readBytes, if_pos (by omega), ← hi, ← hn, Layout.slice_flatten hk]

theorem readSsrc_flatten (hk : k < fields.length) (hi : Layout.offset fields k = i) {ssrc : UInt32}
    (hssrc : fields[k] = BigEndian.encode 4 ssrc.toNat) :
    readSsrc fields.flatten i = .ok ssrc := by
  have hinside := Layout.offset_add_le hk
  have hslice := Layout.slice_flatten hk
  rw [hssrc, BigEndian.length_encode] at hinside hslice
  rw [readSsrc, if_pos (by omega), ← hi]
  show Except.ok (UInt32.ofNat (BigEndian.decode (Layout.slice _ _ 4))) = _
  rw [hslice, BigEndian.decode_encode ssrc.toNat_lt, UInt32.ofNat_toNat]

end Fields

/-- Going on after a step that does not fail. -/
theorem ok_bind {ε α β : Type} (x : α) (next : α → Except ε β) :
    (Except.ok x >>= next) = next x := rfl

theorem of_bind_eq_ok {ε α β : Type} {x : Except ε α} {next : α → Except ε β} {b : β}
    (h : (x >>= next) = .ok b) : ∃ a, x = .ok a ∧ next a = .ok b := by
  cases x with
  | error e => cases h
  | ok a => exact ⟨a, rfl, h⟩

section Behind

variable {front rest : List UInt8}

/-- Reading and writing behind a part of the buffer. -/
theorem readBytes_length_add_append {i n : ℕ} (h : i + n ≤ rest.length) :
    readBytes (front ++ rest) (front.length + i) n = .ok (Layout.slice rest i n) := by
  rw [readBytes, if_pos (by rw [List.length_append]; omega), Layout.slice_length_add_append]

theorem readBytes_of_lt {i n : ℕ} (h : rest.length < i + n) :
    readBytes (front ++ rest) (front.length + i) n = .error .outside := by
  rw [readBytes, if_neg (by rw [List.length_append]; omega)]

theorem writeBytes_length_append {bytes : List UInt8} (h : bytes.length ≤ rest.length) :
    writeBytes (front ++ rest) front.length bytes =
      .ok (front ++ (bytes ++ rest.drop bytes.length)) := by
  rw [writeBytes, if_pos (by rw [List.length_append]; omega), Layout.overwrite_length_append]

end Behind

/-! ## The header -/

/-- `RtcpHeader`. -/
structure RtcpHeader where
  first : UInt8
  payloadType : UInt8
  length : UInt16
  deriving DecidableEq, Repr

namespace RtcpHeader

/-- `sizeof(RtcpHeader)`. -/
def sizeOf : ℕ := 4

/-- The header at the start of a packet. -/
def read (data : List UInt8) : Except Fault RtcpHeader :=
  match data with
  | first :: payloadType :: high :: low :: _ =>
    .ok ⟨first, payloadType, UInt16.ofNat (BigEndian.decode [high, low])⟩
  | _ => .error .outside

/-- The header of a sub-packet is inside. -/
theorem exists_read {data : List UInt8} (h : sizeOf ≤ data.length) :
    ∃ header, read data = .ok header := by
  rcases data with _ | ⟨first, _ | ⟨payloadType, _ | ⟨high, _ | ⟨low, rest⟩⟩⟩⟩
  case cons.cons.cons.cons => exact ⟨_, rfl⟩
  all_goals simp [sizeOf] at h

/-- It is not if there are less than four bytes. -/
theorem read_of_lt {data : List UInt8} (h : data.length < sizeOf) :
    read data = .error .outside := by
  rcases data with _ | ⟨first, _ | ⟨payloadType, _ | ⟨high, _ | ⟨low, rest⟩⟩⟩⟩
  case cons.cons.cons.cons => exact absurd h (not_lt.2 (Nat.le_add_left 4 rest.length))
  all_goals rfl

/-- The header as laid out in the packet. -/
def toBytes (h : RtcpHeader) : List UInt8 :=
  [h.first, h.payloadType] ++ BigEndian.encode 2 h.length.toNat

@[simp]
theorem length_toBytes (h : RtcpHeader) : h.toBytes.length = 4 := rfl

theorem read_toBytes_append (h : RtcpHeader) (rest : List UInt8) :
    read (h.toBytes ++ rest) = .ok h := by
  obtain ⟨high, low, hencode⟩ : ∃ high low,
      BigEndian.encode 2 h.length.toNat = [high, low] := ⟨_, _, rfl⟩
  have hdecode := BigEndian.decode_encode (w := 2) h.length.toNat_lt
  rw [hencode] at hdecode
  rw [toBytes, hencode]
  show Except.ok (RtcpHeader.mk h.first h.payloadType
    (UInt16.ofNat (BigEndian.decode [high, low]))) = _
  rw [hdecode, UInt16.ofNat_toNat]

/-- `RtcpHeader::setReportCount`. -/
def setReportCount (h : RtcpHeader) (count : UInt8) : RtcpHeader :=
  { h with first := (h.first &&& 0xE0) ||| (count &&& 0x1F) }

/-- `RtcpHeader::prepareHeader`. -/
def prepareHeader (payloadType reportCount : UInt8) (length : UInt16) : RtcpHeader :=
  -- version 2, no padding
  { setReportCount ⟨0x80, 0, 0⟩ reportCount with payloadType, length }

/-- `RtcpHeader::reportCount`. -/
def reportCount (h : RtcpHeader) : ℕ := (h.first &&& 0x1F).toNat

/-- `RtcpHeader::lengthInBytes`. -/
def lengthInBytes (h : RtcpHeader) : ℕ := (1 + h.length.toNat) * 4

end RtcpHeader

/-! ## SDES items and chunks -/

/-- `RtcpSdesItem::Size`. -/
def RtcpSdesItem.sizeWith (textLength : UInt8) : ℕ := textLength.toNat + 2

/-- `RtcpSdesItem::type`. -/
def RtcpSdesItem.type (data : List UInt8) (item : ℕ) : Except Fault UInt8 := readByte data item

/-- `RtcpSdesItem::length`. -/
def RtcpSdesItem.length (data : List UInt8) (item : ℕ) : Except Fault UInt8 :=
  readByte data (item + 1)

namespace RtcpSdesChunk

/-- `RtcpSdesChunk::Size`. The number of words is converted to 8 bits. -/
def sizeWith (textLengths : List UInt8) : ℕ :=
  let itemsSize := (textLengths.map RtcpSdesItem.sizeWith).sum
  let nullTerminatedItemsSize := itemsSize + 1
  let words := (UInt8.ofNat (nullTerminatedItemsSize ⌈/⌉ 4)).toNat + 1
  words * 4

/-- `RtcpSdesChunk::ssrc`. -/
def ssrc (data : List UInt8) (chunk : ℕ) : Except Fault UInt32 := readSsrc data chunk

/-- The loop of `getItem`, from the item `base` on. -/
def getItemFrom (data : List UInt8) (base : ℕ) : ℕ → Except Fault ℕ
  | 0 => .ok base
  | num + 1 => do
    let length ← RtcpSdesItem.length data base
    getItemFrom data (base + RtcpSdesItem.sizeWith length) num

/-- `RtcpSdesChunk::getItem`. The items follow the SSRC. -/
def getItem (data : List UInt8) (chunk num : ℕ) : Except Fault ℕ :=
  getItemFrom data (chunk + 4) num

/-- The loop of `getSize`: the lengths of the texts. -/
def textLengthsLoop (data : List UInt8) (chunk : ℕ) :
    ℕ → List UInt8 → ℕ → ℕ → Except Fault (List UInt8)
  | 0, _, _, _ => .error .outOfFuel
  | fuel + 1, textLengths, i, item => do
    if (← RtcpSdesItem.type data item) ≠ 0 then
      let length ← RtcpSdesItem.length data item
      let next ← getItem data chunk (i + 1)
      textLengthsLoop data chunk fuel (textLengths ++ [length]) (i + 1) next
    else return textLengths

/-- The lengths of the texts that `getSize` collects. -/
def textLengths (data : List UInt8) (chunk : ℕ) : Except Fault (List UInt8) := do
  let item ← getItem data chunk 0
  textLengthsLoop data chunk (data.length + 1) [] 0 item

/-- `RtcpSdesChunk::getSize`. -/
def getSize (data : List UInt8) (chunk : ℕ) : Except Fault ℕ := do
  return sizeWith (← textLengths data chunk)

/-- The loop of `safelyCountChunkSize`: the lengths of the texts, or `none` if it returns -1. -/
def safelyCountLoop (data : List UInt8) (chunk maxChunkSize : ℕ) :
    ℕ → List UInt8 → ℕ → ℕ → Except Fault (Option (List UInt8))
  | 0, _, _, _ => .error .outOfFuel
  | fuel + 1, textsLength, i, item => do
    if (← RtcpSdesItem.type data item) ≠ 0 then
      -- `size`, which the loop does not advance
      let size := 4
      if maxChunkSize < size + RtcpSdesItem.sizeWith 0 then return none
      else
        let itemLength ← RtcpSdesItem.length data item
        if maxChunkSize ≤ size + RtcpSdesItem.sizeWith itemLength then return none
        else
          let next ← getItem data chunk (i + 1)
          safelyCountLoop data chunk maxChunkSize fuel (textsLength ++ [itemLength]) (i + 1) next
    else return some textsLength

/-- `RtcpSdesChunk::safelyCountChunkSize`. `none` is -1. -/
def safelyCountChunkSize (data : List UInt8) (chunk maxChunkSize : ℕ) :
    Except Fault (Option ℕ) := do
  if maxChunkSize < sizeWith [] then return none
  else
    let item ← getItem data chunk 0
    match ← safelyCountLoop data chunk maxChunkSize (data.length + 1) [] 0 item with
    | none => return none
    | some textsLength =>
      if maxChunkSize < sizeWith textsLength then return none
      else return some (sizeWith textsLength)

end RtcpSdesChunk

/-! ## SDES packets -/

namespace RtcpSdes

/-- The loop of `getChunk`, from the chunk `base` on. -/
def getChunkFrom (data : List UInt8) (base : ℕ) : ℕ → Except Fault ℕ
  | 0 => .ok base
  | num + 1 => do
    let chunkSize ← RtcpSdesChunk.getSize data base
    getChunkFrom data (base + chunkSize) num

/-- `RtcpSdes::getChunk`. -/
def getChunk (data : List UInt8) (num : ℕ) : Except Fault ℕ :=
  getChunkFrom data RtcpHeader.sizeOf num

/-- The loop of `isValid`. -/
def isValidLoop (data : List UInt8) (chunksSize : ℕ) : ℕ → ℕ → ℕ → Except Fault Bool
  | 0, _, _ => .error .outOfFuel
  | fuel + 1, size, i => do
    if size < chunksSize then
      if chunksSize < size + RtcpSdesChunk.sizeWith [] then return false
      else
        let chunk ← getChunk data i
        match ← RtcpSdesChunk.safelyCountChunkSize data chunk (chunksSize - size) with
        | none => return false
        | some chunkSize => isValidLoop data chunksSize fuel (size + chunkSize) (i + 1)
    else return size = chunksSize

/-- `RtcpSdes::isValid`. -/
def isValid (data : List UInt8) : Except Fault Bool := do
  let header ← RtcpHeader.read data
  let chunksSize := header.lengthInBytes - RtcpHeader.sizeOf
  if chunksSize = 0 then return true
  else isValidLoop data chunksSize (data.length + 1) 0 0

/-- The loop of `chunksCount`. -/
def chunksCountLoop (data : List UInt8) (chunksSize : ℕ) : ℕ → ℕ → ℕ → Except Fault ℕ
  | 0, _, _ => .error .outOfFuel
  | fuel + 1, size, i => do
    if size < chunksSize then
      let chunk ← getChunk data i
      let chunkSize ← RtcpSdesChunk.getSize data chunk
      chunksCountLoop data chunksSize fuel (size + chunkSize) (i + 1)
    else return i

/-- `RtcpSdes::chunksCount`. The size of the chunks is converted to 16 bits. -/
def chunksCount (data : List UInt8) : Except Fault ℕ := do
  if ← isValid data then
    let header ← RtcpHeader.read data
    let chunksSize : UInt16 := UInt16.ofNat (4 * (header.length.toNat + 1) - RtcpHeader.sizeOf)
    chunksCountLoop data chunksSize.toNat (data.length + 1) 0 0
  else return 0

end RtcpSdes

end Rtc
