import QuicRtc.Rtcp.Sdes
import QuicRtc.Rtp.Defs

/-!
# Sender reports

`RtcpSrReporter::getSenderReport` allocates a message for a sender report and an SDES packet with
one chunk and one item, writes their fields in place, and has `RtcpSdes::preparePacket` compute the
length of the SDES packet from the items that are then in the message.

The main result `getSenderReport_readsBack` says that the two packets fill the message and that the
accessors read back what was written, for every name of at most 255 bytes.
-/

namespace Rtc

/-! ## The fields -/

namespace RtcpSr

/-- `sizeof(RtcpReportBlock)`. -/
def reportBlockSize : ℕ := 24

/-- `RtcpSr::Size`. -/
def sizeWith (reportCount : ℕ) : ℕ := RtcpHeader.sizeOf + 24 + reportCount * reportBlockSize

/-- `RtcpSr::preparePacket`. -/
def preparePacket (data : List UInt8) (senderSsrc : UInt32) (reportCount : UInt8) :
    Except Fault (List UInt8) := do
  let length := (RtcpHeader.sizeOf + 24 + reportCount.toNat * reportBlockSize) / 4 - 1
  let header := RtcpHeader.prepareHeader 200 reportCount (UInt16.ofNat length)
  let data ← writeBytes data 0 header.toBytes
  writeBytes data 4 (BigEndian.encode 4 senderSsrc.toNat)

/-- `RtcpSr::setNtpTimestamp`. -/
def setNtpTimestamp (data : List UInt8) (ts : UInt64) : Except Fault (List UInt8) :=
  writeBytes data 8 (BigEndian.encode 8 ts.toNat)

/-- `RtcpSr::setRtpTimestamp`. -/
def setRtpTimestamp (data : List UInt8) (ts : UInt32) : Except Fault (List UInt8) :=
  writeBytes data 16 (BigEndian.encode 4 ts.toNat)

/-- `RtcpSr::setPacketCount`. -/
def setPacketCount (data : List UInt8) (ts : UInt32) : Except Fault (List UInt8) :=
  writeBytes data 20 (BigEndian.encode 4 ts.toNat)

/-- `RtcpSr::setOctetCount`. -/
def setOctetCount (data : List UInt8) (ts : UInt32) : Except Fault (List UInt8) :=
  writeBytes data 24 (BigEndian.encode 4 ts.toNat)

/-- `RtcpSr::senderSSRC`. -/
def senderSsrc (data : List UInt8) : Except Fault UInt32 := readSsrc data 4

/-- `RtcpSr::ntpTimestamp`. -/
def ntpTimestamp (data : List UInt8) : Except Fault UInt64 := do
  return UInt64.ofNat (BigEndian.decode (← readBytes data 8 8))

/-- `RtcpSr::rtpTimestamp`. -/
def rtpTimestamp (data : List UInt8) : Except Fault UInt32 := readSsrc data 16

/-- `RtcpSr::packetCount`. -/
def packetCount (data : List UInt8) : Except Fault UInt32 := readSsrc data 20

/-- `RtcpSr::octetCount`. -/
def octetCount (data : List UInt8) : Except Fault UInt32 := readSsrc data 24

/-- `RtcpSr::getSize`. -/
def getSize (data : List UInt8) : Except Fault ℕ := do
  let header ← RtcpHeader.read data
  return 4 * (1 + header.length.toNat)

end RtcpSr

/-- What ends a call that writes a report. -/
inductive ReportFailure where
  | fault (f : Fault)
  | thrown (e : Exception)
  deriving DecidableEq, Repr

instance : MonadLift (Except Fault) (Except ReportFailure) where
  monadLift := Except.mapError ReportFailure.fault

/-- `RtcpSdesItem::text`. -/
def RtcpSdesItem.text (data : List UInt8) (item : ℕ) : Except Fault (List UInt8) := do
  let length ← RtcpSdesItem.length data item
  readBytes data (item + 2) length.toNat

/-- `RtcpSdesItem::setText`. -/
def RtcpSdesItem.setText (data : List UInt8) (item : ℕ) (text : List UInt8) :
    Except ReportFailure (List UInt8) :=
  if 0xFF < text.length then throw (.thrown (.invalidArgument "text is too long"))
  else do
    let data ← writeBytes data (item + 1) [UInt8.ofNat text.length]
    writeBytes data (item + 2) text

/-- `RtcpSdesChunk::setSSRC`. -/
def RtcpSdesChunk.setSsrc (data : List UInt8) (chunk : ℕ) (ssrc : UInt32) :
    Except Fault (List UInt8) :=
  writeBytes data chunk (BigEndian.encode 4 ssrc.toNat)

/-- `RtcpSdes::Size`. -/
def RtcpSdes.sizeWith (lengths : List (List UInt8)) : ℕ :=
  4 + (lengths.map RtcpSdesChunk.sizeWith).sum

/-- `RtcpSdes::preparePacket` of the packet at `sdes`. -/
def RtcpSdes.preparePacket (data : List UInt8) (sdes : ℕ) (chunkCount : UInt8) :
    Except Fault (List UInt8) := do
  let chunkSize ← (List.range chunkCount.toNat).foldlM
    (fun chunkSize i => do
      let chunk ← RtcpSdes.getChunk (data.drop sdes) i
      return chunkSize + (← RtcpSdesChunk.getSize (data.drop sdes) chunk)) 0
  let length := UInt16.ofNat ((RtcpHeader.sizeOf + chunkSize) / 4 - 1)
  writeBytes data sdes (RtcpHeader.prepareHeader 202 chunkCount length).toBytes

/-! ## The reporter -/

/-- `RtcpSrReporter`. The configuration, which is shared with the packetizer, is an argument of the
functions. -/
structure RtcpSrReporter where
  packetCount : UInt32 := 0
  payloadOctets : UInt32 := 0
  lastReportedTimestamp : UInt32
  needsToReport : Bool := false
  deriving DecidableEq, Repr

namespace RtcpSrReporter

/-- The constructor. -/
def init (config : RtpPacketizationConfig) : RtcpSrReporter where
  lastReportedTimestamp := config.timestamp

/-- `RtcpSrReporter::getSenderReport`. The value of `ntp_time()` is an argument. -/
def getSenderReport (reporter : RtcpSrReporter) (config : RtpPacketizationConfig)
    (ntpTime : UInt64) (timestamp : UInt32) : Except ReportFailure (Message × RtcpSrReporter) := do
  let srSize := RtcpSr.sizeWith 0
  let size := srSize + RtcpSdes.sizeWith [[UInt8.ofNat config.cname.length]]
  let data := List.replicate size 0
  let data ← RtcpSr.setNtpTimestamp data ntpTime
  let data ← RtcpSr.setRtpTimestamp data timestamp
  let data ← RtcpSr.setPacketCount data reporter.packetCount
  let data ← RtcpSr.setOctetCount data reporter.payloadOctets
  let data ← RtcpSr.preparePacket data config.ssrc 0
  -- the SDES packet is behind the report, and its chunk and item are inside it
  let sdes := srSize
  let chunk ← RtcpSdes.getChunk (data.drop sdes) 0
  let data ← RtcpSdesChunk.setSsrc data (sdes + chunk) config.ssrc
  let item ← RtcpSdesChunk.getItem (data.drop sdes) chunk 0
  let data ← writeBytes data (sdes + item) [1]
  let data ← RtcpSdesItem.setText data (sdes + item) config.cname
  let data ← RtcpSdes.preparePacket data sdes 1
  return (⟨data, .control, 0, none⟩, { reporter with lastReportedTimestamp := timestamp })

end RtcpSrReporter

/-! ## The two packets of a report -/

/-- The fields of a sender report without report blocks and of an SDES packet with one item. -/
structure SenderReport where
  header : RtcpHeader
  senderSsrc : UInt32
  ntpTimestamp : UInt64
  rtpTimestamp : UInt32
  packetCount : UInt32
  octetCount : UInt32
  sdesHeader : RtcpHeader
  chunkSsrc : UInt32
  type : UInt8
  length : UInt8
  text : List UInt8
  /-- How many null bytes end the chunk. -/
  nulls : ℕ

namespace SenderReport

variable (r : SenderReport)

/-- The fields in their order. -/
def fields : List (List UInt8) :=
  [r.header.toBytes, BigEndian.encode 4 r.senderSsrc.toNat, BigEndian.encode 8 r.ntpTimestamp.toNat,
    BigEndian.encode 4 r.rtpTimestamp.toNat, BigEndian.encode 4 r.packetCount.toNat,
    BigEndian.encode 4 r.octetCount.toNat, r.sdesHeader.toBytes,
    BigEndian.encode 4 r.chunkSsrc.toNat, [r.type], [r.length], r.text,
    List.replicate r.nulls 0]

/-- The report as laid out in a message. -/
def toBytes : List UInt8 := r.fields.flatten

theorem length_toBytes : r.toBytes.length = 38 + r.text.length + r.nulls := by
  simp [toBytes, fields]
  omega

/-! ### Writing -/

/-- A message before anything is written. -/
def blank (textLength nulls : ℕ) : SenderReport :=
  ⟨⟨0, 0, 0⟩, 0, 0, 0, 0, 0, ⟨0, 0, 0⟩, 0, 0, 0, List.replicate textLength 0, nulls⟩

theorem toBytes_blank (textLength nulls : ℕ) :
    (blank textLength nulls).toBytes = List.replicate (38 + textLength + nulls) 0 := by
  have hsizes : 38 + textLength + nulls =
      [4, 4, 8, 4, 4, 4, 4, 4, 1, 1, textLength, nulls].sum := by
    simp
    omega
  have hfield : ∀ w, BigEndian.encode w 0 = List.replicate w 0 := by
    intro w
    induction w with
    | zero => rfl
    | succ w ih => rw [BigEndian.encode, Nat.zero_div, ih, List.replicate_succ']; rfl
  rw [hsizes, Layout.replicate_sum_eq_flatten]
  simp only [toBytes, fields, blank, UInt32.toNat_zero, UInt64.toNat_zero, hfield]
  rfl

theorem setNtpTimestamp (ts : UInt64) :
    RtcpSr.setNtpTimestamp r.toBytes ts = .ok { r with ntpTimestamp := ts }.toBytes :=
  writeBytes_flatten (k := 2) (by simp [fields]) (by simp [Layout.offset, fields])
    (by simp [fields])

theorem setRtpTimestamp (ts : UInt32) :
    RtcpSr.setRtpTimestamp r.toBytes ts = .ok { r with rtpTimestamp := ts }.toBytes :=
  writeBytes_flatten (k := 3) (by simp [fields]) (by simp [Layout.offset, fields])
    (by simp [fields])

theorem setPacketCount (count : UInt32) :
    RtcpSr.setPacketCount r.toBytes count = .ok { r with packetCount := count }.toBytes :=
  writeBytes_flatten (k := 4) (by simp [fields]) (by simp [Layout.offset, fields])
    (by simp [fields])

theorem setOctetCount (count : UInt32) :
    RtcpSr.setOctetCount r.toBytes count = .ok { r with octetCount := count }.toBytes :=
  writeBytes_flatten (k := 5) (by simp [fields]) (by simp [Layout.offset, fields])
    (by simp [fields])

theorem preparePacket (senderSsrc : UInt32) :
    RtcpSr.preparePacket r.toBytes senderSsrc 0 =
      .ok { r with header := ⟨0x80, 200, 6⟩, senderSsrc }.toBytes := by
  have hheader : writeBytes r.toBytes 0 (RtcpHeader.mk 0x80 200 6).toBytes =
      .ok { r with header := ⟨0x80, 200, 6⟩ }.toBytes :=
    writeBytes_flatten (k := 0) (by simp [fields]) (by simp [Layout.offset]) (by simp [fields])
  have hprepare : RtcpHeader.prepareHeader 200 0
      (UInt16.ofNat ((RtcpHeader.sizeOf + 24 + UInt8.toNat 0 * RtcpSr.reportBlockSize) / 4 - 1)) =
        ⟨0x80, 200, 6⟩ := by
    decide
  have hsender : writeBytes { r with header := ⟨0x80, 200, 6⟩ }.toBytes 4
      (BigEndian.encode 4 senderSsrc.toNat) =
        .ok { r with header := ⟨0x80, 200, 6⟩, senderSsrc }.toBytes :=
    writeBytes_flatten (k := 1) (by simp [fields]) (by simp [Layout.offset, fields])
      (by simp [fields])
  rw [RtcpSr.preparePacket, hprepare, hheader]
  exact hsender

theorem setSsrc (ssrc : UInt32) :
    RtcpSdesChunk.setSsrc r.toBytes 32 ssrc = .ok { r with chunkSsrc := ssrc }.toBytes :=
  writeBytes_flatten (k := 7) (by simp [fields]) (by simp [Layout.offset, fields])
    (by simp [fields])

theorem setType (type : UInt8) :
    writeBytes r.toBytes 36 [type] = .ok { r with type }.toBytes :=
  writeBytes_flatten (k := 8) (by simp [fields]) (by simp [Layout.offset, fields])
    (by simp [fields])

/-- A text is written over one of the same length. -/
theorem setText {text : List UInt8} (hle : text.length ≤ 255)
    (hlength : text.length = r.text.length) :
    RtcpSdesItem.setText r.toBytes 36 text =
      .ok { r with length := UInt8.ofNat text.length, text }.toBytes := by
  have hset : writeBytes r.toBytes 37 [UInt8.ofNat text.length] =
      .ok { r with length := UInt8.ofNat text.length }.toBytes :=
    writeBytes_flatten (k := 9) (by simp [fields]) (by simp [Layout.offset, fields])
      (by simp [fields])
  have htext : writeBytes { r with length := UInt8.ofNat text.length }.toBytes 38 text =
      .ok { r with length := UInt8.ofNat text.length, text }.toBytes :=
    writeBytes_flatten (k := 10) (by simp [fields]) (by simp [Layout.offset, fields])
      (by simpa [fields] using hlength)
  rw [RtcpSdesItem.setText, if_neg (by omega), hset]
  show ((writeBytes _ 38 text).mapError ReportFailure.fault) = _
  rw [htext]
  rfl

theorem setSdesHeader (sdesHeader : RtcpHeader) :
    writeBytes r.toBytes 28 sdesHeader.toBytes = .ok { r with sdesHeader }.toBytes :=
  writeBytes_flatten (k := 6) (by simp [fields]) (by simp [Layout.offset, fields])
    (by simp [fields])

/-! ### Reading -/

theorem read_header : RtcpHeader.read r.toBytes = .ok r.header := by
  rw [toBytes, fields, List.flatten_cons, RtcpHeader.read_toBytes_append]

theorem senderSsrc_eq : RtcpSr.senderSsrc r.toBytes = .ok r.senderSsrc :=
  readSsrc_flatten (k := 1) (by simp [fields]) (by simp [Layout.offset, fields]) rfl

theorem ntpTimestamp_eq : RtcpSr.ntpTimestamp r.toBytes = .ok r.ntpTimestamp := by
  have hread : readBytes r.toBytes 8 8 = .ok (BigEndian.encode 8 r.ntpTimestamp.toNat) :=
    readBytes_flatten (k := 2) (by simp [fields]) (by simp [Layout.offset, fields])
      (by simp [fields])
  rw [RtcpSr.ntpTimestamp, hread]
  show Except.ok (UInt64.ofNat (BigEndian.decode _)) = _
  rw [BigEndian.decode_encode r.ntpTimestamp.toNat_lt, UInt64.ofNat_toNat]

theorem rtpTimestamp_eq : RtcpSr.rtpTimestamp r.toBytes = .ok r.rtpTimestamp :=
  readSsrc_flatten (k := 3) (by simp [fields]) (by simp [Layout.offset, fields]) rfl

theorem packetCount_eq : RtcpSr.packetCount r.toBytes = .ok r.packetCount :=
  readSsrc_flatten (k := 4) (by simp [fields]) (by simp [Layout.offset, fields]) rfl

theorem octetCount_eq : RtcpSr.octetCount r.toBytes = .ok r.octetCount :=
  readSsrc_flatten (k := 5) (by simp [fields]) (by simp [Layout.offset, fields]) rfl

/-! ### The SDES packet -/

/-- The fields of the SDES packet. -/
def sdesFields : List (List UInt8) :=
  [r.sdesHeader.toBytes, BigEndian.encode 4 r.chunkSsrc.toNat, [r.type], [r.length], r.text,
    List.replicate r.nulls 0]

theorem drop_toBytes : r.toBytes.drop 28 = r.sdesFields.flatten := by
  have hoffset : Layout.offset r.fields 6 = 28 := by simp [Layout.offset, fields]
  rw [toBytes, ← hoffset, Layout.drop_offset]
  rfl

/-- Behind the SSRC of the chunk. -/
theorem drop_chunk : (r.toBytes.drop 28).drop (4 + 4) =
    r.type :: r.length :: (r.text ++ List.replicate r.nulls 0) := by
  have hoffset : Layout.offset r.sdesFields 2 = 4 + 4 := by simp [Layout.offset, sdesFields]
  rw [drop_toBytes, ← hoffset, Layout.drop_offset]
  simp [sdesFields]

/-- The item is as long as it says, and ends with the null bytes that fill the last word. -/
structure Terminated : Prop where
  type_ne : r.type ≠ 0
  length : r.text.length = r.length.toNat
  nulls_pos : 0 < r.nulls
  nulls : r.text.length + 2 + r.nulls = 4 * ((r.text.length + 3) ⌈/⌉ 4)

namespace Terminated

variable {r} (h : r.Terminated)

include h

theorem text_le : r.text.length ≤ 255 := by
  have hlt := r.length.toNat_lt
  have hlength := h.length
  omega

theorem items : Items (r.type :: r.length :: (r.text ++ List.replicate r.nulls 0)) [r.length] := by
  refine .cons h.type_ne ?_
  rw [← h.length, List.drop_left]
  obtain ⟨nulls, hnulls⟩ := Nat.exists_eq_add_one_of_ne_zero h.nulls_pos.ne'
  rw [hnulls, List.replicate_succ]
  exact .nil

/-- The size of the chunk, which the constructor of the message computes from the length and
`preparePacket` from the items. -/
theorem sizeWith_length : RtcpSdesChunk.sizeWith [r.length] = 6 + r.text.length + r.nulls := by
  have hle := h.text_le
  have hnulls := h.nulls
  have hwords : (r.text.length + 3) ⌈/⌉ 4 < 256 := by
    rw [Nat.ceilDiv_eq_add_pred_div]
    omega
  simp only [RtcpSdesChunk.sizeWith, RtcpSdesItem.sizeWith, List.map_cons, List.map_nil,
    List.sum_cons, List.sum_nil, ← h.length, Nat.add_zero, UInt8.toNat_ofNat_of_lt' hwords]
  omega

end Terminated

/-- `getChunk` and `getItem` find the chunk and the item. -/
theorem getChunk_zero (data : List UInt8) : RtcpSdes.getChunk data 0 = .ok 4 := rfl

theorem getItem_zero (data : List UInt8) (chunk : ℕ) :
    RtcpSdesChunk.getItem data chunk 0 = .ok (chunk + 4) := rfl

theorem preparePacket_sdes (h : r.Terminated) :
    RtcpSdes.preparePacket r.toBytes 28 1 =
      .ok { r with sdesHeader := ⟨0x81, 202,
        UInt16.ofNat (1 + (r.text.length + 3) ⌈/⌉ 4)⟩ }.toBytes := by
  have hsize : RtcpSdesChunk.getSize (r.toBytes.drop 28) 4 = .ok (6 + r.text.length + r.nulls) := by
    rw [RtcpSdesChunk.getSize_of_items (r.drop_chunk ▸ h.items), h.sizeWith_length]
  have hlength : (RtcpHeader.sizeOf + (0 + (6 + r.text.length + r.nulls))) / 4 - 1 =
      1 + (r.text.length + 3) ⌈/⌉ 4 := by
    have hnulls := h.nulls
    rw [RtcpHeader.sizeOf]
    omega
  have hfold : (List.range (UInt8.toNat 1)).foldlM (fun chunkSize i => do
      let chunk ← RtcpSdes.getChunk (r.toBytes.drop 28) i
      return chunkSize + (← RtcpSdesChunk.getSize (r.toBytes.drop 28) chunk)) 0 =
        Except.ok (0 + (6 + r.text.length + r.nulls)) := by
    rw [UInt8.toNat_one, List.range_one, List.foldlM_cons, getChunk_zero]
    simp only [bind, Except.bind, hsize]
    rfl
  have hheader : RtcpHeader.prepareHeader 202 1 (UInt16.ofNat (1 + (r.text.length + 3) ⌈/⌉ 4)) =
      ⟨0x81, 202, UInt16.ofNat (1 + (r.text.length + 3) ⌈/⌉ 4)⟩ := rfl
  have hwrite := r.setSdesHeader (RtcpHeader.prepareHeader 202 1 (UInt16.ofNat
    ((RtcpHeader.sizeOf + (0 + (6 + r.text.length + r.nulls))) / 4 - 1)))
  rw [RtcpSdes.preparePacket, hfold]
  refine hwrite.trans ?_
  rw [hlength, hheader]

/-! ### Reading the SDES packet -/

theorem read_sdesHeader : RtcpHeader.read (r.toBytes.drop 28) = .ok r.sdesHeader := by
  rw [r.drop_toBytes, sdesFields, List.flatten_cons, RtcpHeader.read_toBytes_append]

theorem chunkSsrc_eq : RtcpSdesChunk.ssrc (r.toBytes.drop 28) 4 = .ok r.chunkSsrc := by
  rw [drop_toBytes]
  exact readSsrc_flatten (k := 1) (by simp [sdesFields]) (by simp [Layout.offset, sdesFields]) rfl

theorem type_eq : RtcpSdesItem.type (r.toBytes.drop 28) 8 = .ok r.type :=
  readByte_of_drop r.drop_chunk

theorem length_eq : RtcpSdesItem.length (r.toBytes.drop 28) 8 = .ok r.length :=
  readByte_of_drop (drop_add_of_drop r.drop_chunk)

theorem text_eq (h : r.Terminated) : RtcpSdesItem.text (r.toBytes.drop 28) 8 = .ok r.text := by
  have hread : readBytes (r.toBytes.drop 28) 10 r.length.toNat = .ok r.text := by
    rw [drop_toBytes]
    exact readBytes_flatten (k := 4) (by simp [sdesFields]) (by simp [Layout.offset, sdesFields])
      h.length
  rw [RtcpSdesItem.text, length_eq]
  exact hread

section Sdes

variable {r} (h : r.Terminated)
  (hheader : r.sdesHeader = ⟨0x81, 202, UInt16.ofNat (1 + (r.text.length + 3) ⌈/⌉ 4)⟩)

include h hheader

/-- The header of the SDES packet announces the rest of the message. -/
theorem length_sdesHeader :
    4 * r.sdesHeader.length.toNat = RtcpSdesChunk.sizeWith [r.length] ∧
      28 + r.sdesHeader.lengthInBytes = r.toBytes.length := by
  have hle := h.text_le
  have hnulls := h.nulls
  have hwords : (1 + (r.text.length + 3) ⌈/⌉ 4) < 65536 := by
    rw [Nat.ceilDiv_eq_add_pred_div]
    omega
  rw [RtcpHeader.lengthInBytes, h.sizeWith_length, r.length_toBytes, hheader,
    UInt16.toNat_ofNat_of_lt' hwords]
  omega

theorem chunks_sdes : Chunks (4 * r.sdesHeader.length.toNat)
    ((r.toBytes.drop 28).drop 4) [[r.length]] := by
  obtain ⟨hsize, -⟩ := length_sdesHeader h hheader
  have hchunk := h.sizeWith_length
  have hlength := h.length
  have hnulls := h.nulls_pos
  rw [hsize]
  refine .cons ⟨by omega, ?_, ?_, le_rfl⟩ ?_
  · have hdrop := r.drop_chunk
    rw [← List.drop_drop] at hdrop
    rw [hdrop]
    exact h.items
  · intro length hmem
    rw [List.mem_singleton.1 hmem]
    omega
  · rw [Nat.sub_self]
    exact .nil

end Sdes

end SenderReport

namespace RtcpSrReporter

/-- How many null bytes follow a name. -/
def nullsBehind (cname : List UInt8) : ℕ :=
  4 * ((cname.length + 3) ⌈/⌉ 4) - (cname.length + 2)

/-- What `getSenderReport` writes. -/
def senderReport (reporter : RtcpSrReporter) (config : RtpPacketizationConfig) (ntpTime : UInt64)
    (timestamp : UInt32) : SenderReport where
  header := ⟨0x80, 200, 6⟩
  senderSsrc := config.ssrc
  ntpTimestamp := ntpTime
  rtpTimestamp := timestamp
  packetCount := reporter.packetCount
  octetCount := reporter.payloadOctets
  sdesHeader := ⟨0x81, 202, UInt16.ofNat (1 + (config.cname.length + 3) ⌈/⌉ 4)⟩
  chunkSsrc := config.ssrc
  type := 1
  length := UInt8.ofNat config.cname.length
  text := config.cname
  nulls := nullsBehind config.cname

variable (reporter : RtcpSrReporter) (config : RtpPacketizationConfig) (ntpTime : UInt64)
  (timestamp : UInt32)

theorem add_nullsBehind (cname : List UInt8) :
    cname.length + 2 + nullsBehind cname = 4 * ((cname.length + 3) ⌈/⌉ 4) := by
  rw [nullsBehind, Nat.ceilDiv_eq_add_pred_div]
  omega

theorem nullsBehind_pos (cname : List UInt8) : 0 < nullsBehind cname := by
  rw [nullsBehind, Nat.ceilDiv_eq_add_pred_div]
  omega

theorem terminated_senderReport (h : config.cname.length ≤ 255) :
    (reporter.senderReport config ntpTime timestamp).Terminated where
  type_ne := by simp [senderReport]
  length := (UInt8.toNat_ofNat_of_lt' (Nat.lt_succ_of_le h)).symm
  nulls_pos := nullsBehind_pos config.cname
  nulls := add_nullsBehind config.cname

/-- Going on after a step that does not fail. -/
theorem liftM_ok_bind {α β : Type} (x : α) (next : α → Except ReportFailure β) :
    ((liftM (Except.ok x : Except Fault α) : Except ReportFailure α) >>= next) = next x := rfl

/-- The message when the name is written: what is allocated for it is the length modulo 256. -/
def unnamed (reporter : RtcpSrReporter) (config : RtpPacketizationConfig) (ntpTime : UInt64)
    (timestamp : UInt32) : SenderReport :=
  let room := List.replicate (UInt8.ofNat config.cname.length).toNat 0
  { reporter.senderReport config ntpTime timestamp with
    sdesHeader := ⟨0, 0, 0⟩
    length := 0
    text := room
    nulls := nullsBehind room }

/-- Everything before the name is written inside the message. -/
theorem getSenderReport_eq_setText :
    reporter.getSenderReport config ntpTime timestamp = do
      let data ← RtcpSdesItem.setText (reporter.unnamed config ntpTime timestamp).toBytes 36
        config.cname
      let data ← RtcpSdes.preparePacket data 28 1
      return (⟨data, .control, 0, none⟩, { reporter with lastReportedTimestamp := timestamp }) := by
  let room := List.replicate (UInt8.ofNat config.cname.length).toNat (0 : UInt8)
  have hroom : room.length = (UInt8.ofNat config.cname.length).toNat := List.length_replicate
  -- the message is large enough for all fields, and they are zero before they are written
  have hblank : List.replicate (RtcpSr.sizeWith 0 +
      RtcpSdes.sizeWith [[UInt8.ofNat config.cname.length]]) 0 =
        (SenderReport.blank room.length (nullsBehind room)).toBytes := by
    have hlt := (UInt8.ofNat config.cname.length).toNat_lt
    have hterminated : SenderReport.Terminated
        { reporter.unnamed config ntpTime timestamp with
          length := UInt8.ofNat config.cname.length } :=
      ⟨by simp [unnamed, senderReport], hroom, nullsBehind_pos room, add_nullsBehind room⟩
    have hchunk : RtcpSdesChunk.sizeWith [UInt8.ofNat config.cname.length] =
        6 + room.length + nullsBehind room := hterminated.sizeWith_length
    rw [SenderReport.toBytes_blank]
    congr 1
    simp only [RtcpSr.sizeWith, RtcpHeader.sizeOf, RtcpSdes.sizeWith, List.map_cons, List.map_nil,
      List.sum_cons, List.sum_nil, hchunk]
    omega
  have hsr : RtcpSr.sizeWith 0 = 28 := rfl
  have hunnamed : { SenderReport.blank room.length (nullsBehind room) with
      header := ⟨0x80, 200, 6⟩, senderSsrc := config.ssrc, ntpTimestamp := ntpTime
      rtpTimestamp := timestamp, packetCount := reporter.packetCount
      octetCount := reporter.payloadOctets, chunkSsrc := config.ssrc, type := 1 } =
        reporter.unnamed config ntpTime timestamp := by
    simp only [SenderReport.blank, unnamed, senderReport, hroom]
    rfl
  rw [← hunnamed]
  simp only [getSenderReport]
  -- each setter writes the next field
  rw [hblank, SenderReport.setNtpTimestamp, liftM_ok_bind, SenderReport.setRtpTimestamp,
    liftM_ok_bind, SenderReport.setPacketCount, liftM_ok_bind, SenderReport.setOctetCount,
    liftM_ok_bind, SenderReport.preparePacket, liftM_ok_bind, SenderReport.getChunk_zero,
    liftM_ok_bind]
  simp only [hsr, Nat.reduceAdd]
  rw [SenderReport.setSsrc, liftM_ok_bind, SenderReport.getItem_zero, liftM_ok_bind]
  simp only [Nat.reduceAdd]
  rw [SenderReport.setType, liftM_ok_bind]

theorem getSenderReport_eq (h : config.cname.length ≤ 255) :
    reporter.getSenderReport config ntpTime timestamp =
      .ok (⟨(reporter.senderReport config ntpTime timestamp).toBytes, .control, 0, none⟩,
        { reporter with lastReportedTimestamp := timestamp }) := by
  have hterminated := terminated_senderReport reporter config ntpTime timestamp h
  have hroom : (List.replicate (UInt8.ofNat config.cname.length).toNat (0 : UInt8)).length =
      config.cname.length := by
    rw [List.length_replicate, UInt8.toNat_ofNat_of_lt' (Nat.lt_succ_of_le h)]
  let named : SenderReport :=
    { reporter.senderReport config ntpTime timestamp with sdesHeader := ⟨0, 0, 0⟩ }
  have hnamed : { reporter.unnamed config ntpTime timestamp with
      length := UInt8.ofNat config.cname.length, text := config.cname } = named := by
    simp only [named, unnamed, senderReport, nullsBehind, hroom]
  have htext : RtcpSdesItem.setText (reporter.unnamed config ntpTime timestamp).toBytes 36
      config.cname = .ok named.toBytes := by
    rw [SenderReport.setText _ h hroom.symm, hnamed]
  have hprepare : RtcpSdes.preparePacket named.toBytes 28 1 =
      .ok (reporter.senderReport config ntpTime timestamp).toBytes :=
    named.preparePacket_sdes
      ⟨hterminated.type_ne, hterminated.length, hterminated.nulls_pos, hterminated.nulls⟩
  rw [getSenderReport_eq_setText, htext]
  simp only [bind, Except.bind, hprepare]
  rfl

/-- A longer name is refused. -/
theorem getSenderReport_of_long (h : 255 < config.cname.length) :
    reporter.getSenderReport config ntpTime timestamp =
      .error (.thrown (.invalidArgument "text is too long")) := by
  rw [getSenderReport_eq_setText, RtcpSdesItem.setText, if_pos h]
  rfl

/-! ### The main result -/

/-- A report followed by an SDES packet, from which the accessors read the given values. -/
structure ReadsBack (data : List UInt8) (ssrc : UInt32) (ntpTime : UInt64)
    (timestamp packetCount octetCount : UInt32) (cname : List UInt8) : Prop where
  header : RtcpHeader.read data = .ok ⟨0x80, 200, 6⟩
  /-- The declared lengths add up to the size of the message. -/
  sizes : ∃ srSize sdesHeader, RtcpSr.getSize data = .ok srSize ∧
    RtcpHeader.read (data.drop srSize) = .ok sdesHeader ∧ sdesHeader.payloadType = 202 ∧
    sdesHeader.reportCount = 1 ∧ srSize + sdesHeader.lengthInBytes = data.length
  senderSsrc : RtcpSr.senderSsrc data = .ok ssrc
  ntpTimestamp : RtcpSr.ntpTimestamp data = .ok ntpTime
  rtpTimestamp : RtcpSr.rtpTimestamp data = .ok timestamp
  packetCount : RtcpSr.packetCount data = .ok packetCount
  octetCount : RtcpSr.octetCount data = .ok octetCount
  isValid : RtcpSdes.isValid (data.drop 28) = .ok true
  chunksCount : RtcpSdes.chunksCount (data.drop 28) = .ok 1
  chunk : ∃ chunk item, RtcpSdes.getChunk (data.drop 28) 0 = .ok chunk ∧
    RtcpSdesChunk.ssrc (data.drop 28) chunk = .ok ssrc ∧
    RtcpSdesChunk.getItem (data.drop 28) chunk 0 = .ok item ∧
    RtcpSdesItem.type (data.drop 28) item = .ok 1 ∧
    RtcpSdesItem.length (data.drop 28) item = .ok (UInt8.ofNat cname.length) ∧
    RtcpSdesItem.text (data.drop 28) item = .ok cname

/-- What is written is read back. -/
theorem readsBack_senderReport (h : config.cname.length ≤ 255) :
    ReadsBack (reporter.senderReport config ntpTime timestamp).toBytes config.ssrc ntpTime timestamp
      reporter.packetCount reporter.payloadOctets config.cname := by
  have hterminated := terminated_senderReport reporter config ntpTime timestamp h
  obtain ⟨hchunkSize, htotal⟩ := SenderReport.length_sdesHeader hterminated rfl
  have hchunks := SenderReport.chunks_sdes hterminated rfl
  generalize hr : reporter.senderReport config ntpTime timestamp = r at *
  have hread := r.read_sdesHeader
  have hlength : (r.toBytes.drop 28).length = r.sdesHeader.lengthInBytes := by
    rw [List.length_drop, ← htotal, Nat.add_sub_cancel_left]
  have hsmall : 4 * r.sdesHeader.length.toNat < 65536 := by
    have hle := RtcpSdesChunk.sizeWith_le [r.length]
    omega
  have hfuel : 4 * r.sdesHeader.length.toNat < (r.toBytes.drop 28).length + 1 := by
    rw [hlength, RtcpHeader.lengthInBytes]
    omega
  -- the SDES packet is one chunk, which fills it
  have hvalid := (RtcpSdes.isValid_eq hread).trans
    (RtcpSdes.isValidLoop_of_chunks hchunks (i := 0) (by omega) hfuel rfl rfl)
  have hcount := (RtcpSdes.chunksInside_of_chunks hread hlength hsmall hchunks).chunksCount
  have hsize : RtcpSr.getSize r.toBytes = .ok 28 := by
    rw [RtcpSr.getSize, r.read_header, ← hr]
    rfl
  have hheader := r.read_header
  have hsenderSsrc := r.senderSsrc_eq
  have hntpTimestamp := r.ntpTimestamp_eq
  have hrtpTimestamp := r.rtpTimestamp_eq
  have hpacketCount := r.packetCount_eq
  have hoctetCount := r.octetCount_eq
  have hssrc := r.chunkSsrc_eq
  have htype := r.type_eq
  have hlengthOf := r.length_eq
  have htext := r.text_eq hterminated
  subst hr
  have hone : ((0x81 : UInt8) &&& 0x1F).toNat = 1 := by decide
  exact ⟨hheader, ⟨28, _, hsize, hread, rfl, hone, htotal⟩, hsenderSsrc, hntpTimestamp,
    hrtpTimestamp, hpacketCount, hoctetCount, hvalid, hcount,
    ⟨4, 8, rfl, hssrc, rfl, htype, hlengthOf, htext⟩⟩

/-- **Sender reports.** The message that is built has a report and an SDES packet that fill it, and
the accessors read back every value and the name. -/
theorem getSenderReport_readsBack (h : config.cname.length ≤ 255) :
    ∃ data, reporter.getSenderReport config ntpTime timestamp =
        .ok (⟨data, .control, 0, none⟩, { reporter with lastReportedTimestamp := timestamp }) ∧
      ReadsBack data config.ssrc ntpTime timestamp reporter.packetCount reporter.payloadOctets
        config.cname :=
  ⟨_, getSenderReport_eq reporter config ntpTime timestamp h,
    readsBack_senderReport reporter config ntpTime timestamp h⟩

/-- A name of three bytes, one of them zero. -/
theorem getSenderReport_readsBack_of_three :
    ∃ data, getSenderReport ⟨7, 900, 0, true⟩
        { ssrc := 42, payloadType := 96, sequenceNumber := 0, timestamp := 5,
          cname := [0x61, 0, 0x62] } 99 5 =
        .ok (⟨data, .control, 0, none⟩, ⟨7, 900, 5, true⟩) ∧
      ReadsBack data 42 99 5 7 900 [0x61, 0, 0x62] :=
  getSenderReport_readsBack ⟨7, 900, 0, true⟩
    { ssrc := 42, payloadType := 96, sequenceNumber := 0, timestamp := 5,
      cname := [0x61, 0, 0x62] } 99 5 (by decide)

end RtcpSrReporter

end Rtc
