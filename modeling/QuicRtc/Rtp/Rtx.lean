import QuicRtc.Rtcp.Defs
import QuicRtc.Rtp.Packet

/-!
# Retransmitted packets

A retransmission has the header of the original packet, but for its SSRC, payload type and sequence
number, and the original sequence number in front of the payload. `RtpRtx::normalizePacket` restores
the packet in place, and `RtpRtx::copyTo` in another buffer.

`normalizePacket` moves as many bytes as follow a header without an extension, and `copyTo` copies
such a header and returns the size it has been given.

* `normalizePacket_of_le`, `normalizePacket_of_lt`: an extension has as many bytes accessed behind
  the packet.
* `copyTo_of_plain`: what `copyTo` does with a packet without an extension.
* `not_restored`: the two together restore no packet.
-/

namespace Rtc

/-! ## Headers in a buffer -/

namespace RtpHeader

/-- A setter of the header at the start of a buffer. -/
def update (data : List UInt8) (set : RtpHeader → RtpHeader) : Except Fault (List UInt8) :=
  if sizeOf ≤ data.length then .ok ((set (read data)).toBytes ++ data.drop sizeOf)
  else .error .outside

/-- `RtpHeader::getBody`, as an offset in the packet. The length of the extension is read if there
is one. -/
def getBodyOffset (data : List UInt8) : Except Fault ℕ :=
  let h := read data
  let fields := if h.extension then h.getSize + RtpExtensionHeader.sizeOf else sizeOf
  if fields ≤ data.length then .ok (rtpHeaderSize data) else .error .outside

end RtpHeader

namespace RtpRtx

/-- `RtpRtx::getSize`. -/
def getSize (data : List UInt8) : ℕ := (RtpHeader.read data).getSize + 2

/-- `RtpRtx::getBody`, as an offset. -/
def getBody (data : List UInt8) : Except Fault ℕ := do
  return (← RtpHeader.getBodyOffset data) + 2

/-- `RtpRtx::getBodySize`. -/
def getBodySize (data : List UInt8) (totalSize : ℕ) : Except Fault ℕ := do
  return totalSize - (← getBody data)

/-- `RtpRtx::getOriginalSeqNo`. -/
def getOriginalSeqNo (data : List UInt8) : Except Fault UInt16 := do
  let bytes ← readBytes data (← RtpHeader.getBodyOffset data) 2
  return UInt16.ofNat (BigEndian.decode bytes)

/-- `memmove` inside a buffer or between two. -/
def memmove (dest : List UInt8) (i : ℕ) (src : List UInt8) (j n : ℕ) :
    Except Fault (List UInt8) := do
  writeBytes dest i (← readBytes src j n)

/-- `RtpRtx::normalizePacket`, with the size that is returned. -/
def normalizePacket (data : List UInt8) (totalSize : ℕ) (originalSsrc : UInt32)
    (originalPayloadType : UInt8) : Except Fault (List UInt8 × ℕ) := do
  let seqNo ← getOriginalSeqNo data
  let data ← RtpHeader.update data fun h => { h with seqNumber := seqNo }
  let data ← RtpHeader.update data fun h => { h with ssrc := originalSsrc }
  let data ← RtpHeader.update data fun h => h.setPayloadType originalPayloadType
  let data ← memmove data (← RtpHeader.getBodyOffset data) data (← getBody data)
    (totalSize - getSize data)
  return (data, totalSize - 2)

/-- `RtpRtx::copyTo`, with the size that is returned. -/
def copyTo (data dest : List UInt8) (totalSize : ℕ) (originalPayloadType : UInt8) :
    Except Fault (List UInt8 × ℕ) := do
  let dest ← memmove dest 0 data 0 (RtpHeader.read data).getSize
  let seqNo ← getOriginalSeqNo data
  let dest ← RtpHeader.update dest fun h => { h with seqNumber := seqNo }
  let dest ← RtpHeader.update dest fun h => h.setPayloadType originalPayloadType
  let dest ← memmove dest (← RtpHeader.getBodyOffset dest) data (← getBody data)
    (← getBodySize data totalSize)
  return (dest, totalSize)

end RtpRtx

/-! ## Retransmission -/

namespace RtpPacket

variable (p : RtpPacket) (seqNumber : UInt16) (ssrc : UInt32) (payloadType : UInt8)

/-- The retransmission of a packet, with its own sequence number, SSRC and payload type. -/
def retransmission : RtpPacket :=
  { p with
    typeByte := (p.header.setPayloadType payloadType).typeByte
    seqNumber
    ssrc
    payload := BigEndian.encode 2 p.seqNumber.toNat ++ p.payload }

/-- The marker is kept and the payload type replaced. -/
theorem typeByte_restored (typeByte other : UInt8) :
    ((((typeByte &&& 0x80) ||| (0x7F &&& other)) &&& 0x80) ||| (0x7F &&& (typeByte &&& 0x7F))) =
      typeByte := by
  have hdistrib : (0x80 : UInt8) &&& ((0x80 &&& typeByte) ||| (0x7F &&& other)) =
      (0x80 &&& (0x80 &&& typeByte)) ||| (0x80 &&& (0x7F &&& other)) :=
    UInt8.toBitVec_inj.1 BitVec.and_or_distrib_left
  have hzero : (0x80 : UInt8) &&& 0x7F = 0 := by decide
  have hbyte : (typeByte &&& 0x80) ||| (0x7F &&& (typeByte &&& 0x7F)) = typeByte := by
    revert typeByte
    exact fun typeByte _ => BigEndian.forall_byte
      (P := fun typeByte => (typeByte &&& 0x80) ||| (0x7F &&& (typeByte &&& 0x7F)) = typeByte)
      (by decide +kernel) typeByte
  rw [UInt8.and_comm _ 0x80, UInt8.and_comm typeByte 0x80, hdistrib, ← UInt8.and_assoc,
    ← UInt8.and_assoc, UInt8.and_self, hzero, UInt8.zero_and, UInt8.or_zero,
    UInt8.and_comm 0x80 typeByte, hbyte]

/-- The header that `copyTo` leaves. -/
theorem header_copied :
    RtpHeader.setPayloadType
      { (p.retransmission seqNumber ssrc payloadType).header with seqNumber := p.seqNumber }
        p.header.payloadType = { p.header with ssrc } :=
  congrArg (fun typeByte =>
    (⟨p.header.first, typeByte, p.seqNumber, p.timestamp, ssrc⟩ : RtpHeader))
    (typeByte_restored p.typeByte payloadType)

/-- The header that `normalizePacket` leaves. -/
theorem header_restored :
    RtpHeader.setPayloadType
      { (p.retransmission seqNumber ssrc payloadType).header with
        seqNumber := p.seqNumber
        ssrc := p.ssrc } p.header.payloadType = p.header :=
  congrArg (fun h : RtpHeader => { h with ssrc := p.ssrc })
    (p.header_copied seqNumber ssrc payloadType)

theorem length_retransmission :
    (p.retransmission seqNumber ssrc payloadType).toBytes.length = p.toBytes.length + 2 := by
  have hheader : (p.retransmission seqNumber ssrc payloadType).headerBytes.length =
      p.headerBytes.length := by
    simp only [headerBytes, List.length_append, RtpHeader.length_toBytes]
    rfl
  simp only [toBytes, List.length_append, hheader]
  simp only [retransmission, List.length_append, BigEndian.length_encode]
  omega

end RtpPacket

namespace RtpHeader

/-- A setter acts on the header of a packet. -/
theorem update_toBytes_append (h : RtpHeader) (rest : List UInt8) (set : RtpHeader → RtpHeader) :
    update (h.toBytes ++ rest) set = .ok ((set h).toBytes ++ rest) := by
  have hlength : sizeOf ≤ (h.toBytes ++ rest).length := by
    rw [List.length_append, length_toBytes]
    exact Nat.le_add_right 12 rest.length
  have hdrop : (h.toBytes ++ rest).drop sizeOf = rest := List.drop_left' (length_toBytes h)
  rw [update, if_pos hlength, read_toBytes_append, hdrop]

/-- The body of a packet is behind its headers. -/
theorem getBodyOffset_headerBytes_append (p : RtpPacket) (rest : List UInt8) :
    getBodyOffset (p.headerBytes ++ rest) = .ok p.headerBytes.length := by
  obtain ⟨-, hextension, -⟩ := p.flags_header
  have hfields : (if p.header.extension then p.header.getSize + RtpExtensionHeader.sizeOf
      else sizeOf) ≤ (p.headerBytes ++ rest).length := by
    rw [List.length_append, p.length_headerBytes, hextension]
    cases hnone : p.extensionHeader with
    | none =>
      simp only [Option.isSome_none, Bool.false_eq_true, if_false, getSize, sizeOf]
      omega
    | some e =>
      simp only [Option.isSome_some, if_true, RtpPacket.extensionBytes, hnone, Option.map_some,
        Option.getD_some, RtpPacket.length_toBytes_extensionHeader, RtpExtensionHeader.sizeOf]
      omega
  rw [getBodyOffset, p.read_headerBytes_append, p.rtpHeaderSize_headerBytes_append]
  exact if_pos hfields

end RtpHeader

/-! ## `normalizePacket` -/

namespace RtpRtx

variable (p : RtpPacket) (seqNumber : UInt16) (ssrc : UInt32) (payloadType : UInt8)

/-- The bytes of a retransmission: the headers, the original sequence number, and the rest. -/
theorem retransmission_toBytes_append (behind : List UInt8) :
    (p.retransmission seqNumber ssrc payloadType).toBytes ++ behind =
      (p.retransmission seqNumber ssrc payloadType).headerBytes ++
        (BigEndian.encode 2 p.seqNumber.toNat ++ (p.payload ++ p.padding ++ behind)) := by
  simp only [RtpPacket.toBytes, List.append_assoc]
  simp only [RtpPacket.retransmission, List.append_assoc]

theorem getOriginalSeqNo_append (packet : RtpPacket) {original : UInt16} (rest : List UInt8) :
    getOriginalSeqNo (packet.headerBytes ++ (BigEndian.encode 2 original.toNat ++ rest)) =
      .ok original := by
  have hread : readBytes (packet.headerBytes ++ (BigEndian.encode 2 original.toNat ++ rest))
      (packet.headerBytes.length + 0) 2 = .ok (BigEndian.encode 2 original.toNat) := by
    rw [readBytes_length_add_append (by simp)]
    exact congrArg Except.ok (List.take_left' (BigEndian.length_encode 2 _))
  rw [getOriginalSeqNo, RtpHeader.getBodyOffset_headerBytes_append]
  show (readBytes _ (packet.headerBytes.length + 0) 2).bind _ = _
  rw [hread]
  show Except.ok (UInt16.ofNat (BigEndian.decode (BigEndian.encode 2 original.toNat))) = _
  rw [BigEndian.decode_encode original.toNat_lt, UInt16.ofNat_toNat]

theorem getBody_append (packet : RtpPacket) (rest : List UInt8) :
    getBody (packet.headerBytes ++ rest) = .ok (packet.headerBytes.length + 2) := by
  rw [getBody, RtpHeader.getBodyOffset_headerBytes_append]
  rfl

/-- The move of `normalizePacket`, which is as much too long as the extension. -/
theorem normalizePacket_eq (behind : List UInt8) :
    normalizePacket ((p.retransmission seqNumber ssrc payloadType).toBytes ++ behind)
        (p.retransmission seqNumber ssrc payloadType).toBytes.length p.ssrc p.header.payloadType =
      (memmove
        (p.headerBytes ++
          (BigEndian.encode 2 p.seqNumber.toNat ++ (p.payload ++ p.padding ++ behind)))
        p.headerBytes.length
        (p.headerBytes ++
          (BigEndian.encode 2 p.seqNumber.toNat ++ (p.payload ++ p.padding ++ behind)))
        (p.headerBytes.length + 2)
        ((p.payload ++ p.padding).length + p.extensionBytes.length)).map
          fun data => (data, p.toBytes.length) := by
  have htotal := p.length_retransmission seqNumber ssrc payloadType
  have hseqNo := @getOriginalSeqNo_append (p.retransmission seqNumber ssrc payloadType) p.seqNumber
    (p.payload ++ p.padding ++ behind)
  have hsize : p.toBytes.length + 2 - (p.header.getSize + 2) =
      (p.payload ++ p.padding).length + p.extensionBytes.length := by
    rw [RtpPacket.toBytes, List.length_append, p.length_headerBytes]
    omega
  have hheaders : ∀ rest, (p.retransmission seqNumber ssrc payloadType).headerBytes ++ rest =
      (p.retransmission seqNumber ssrc payloadType).header.toBytes ++
        (p.csrcBytes ++ (p.extensionBytes ++ rest)) := by
    intro rest
    simp only [RtpPacket.headerBytes, List.append_assoc]
    rfl
  have hrestored : ∀ rest, p.header.toBytes ++ (p.csrcBytes ++ (p.extensionBytes ++ rest)) =
      p.headerBytes ++ rest := by
    intro rest
    simp only [RtpPacket.headerBytes, List.append_assoc]
  have hmoved : getSize (p.headerBytes ++ (BigEndian.encode 2 p.seqNumber.toNat ++
      (p.payload ++ p.padding ++ behind))) = p.header.getSize + 2 := by
    rw [getSize, p.read_headerBytes_append]
  -- the three setters restore the header, and then the body is moved
  rw [normalizePacket, htotal, retransmission_toBytes_append, hseqNo, ok_bind, hheaders,
    RtpHeader.update_toBytes_append, ok_bind, RtpHeader.update_toBytes_append, ok_bind,
    RtpHeader.update_toBytes_append, ok_bind, p.header_restored, hrestored,
    RtpHeader.getBodyOffset_headerBytes_append, ok_bind, getBody_append, ok_bind, hmoved, hsize,
    Nat.add_sub_cancel]
  rfl

/-- The bytes behind the packet that the move needs are there: the packet is restored. -/
theorem normalizePacket_of_le {behind : List UInt8} (h : p.extensionBytes.length ≤ behind.length) :
    ∃ rest, normalizePacket ((p.retransmission seqNumber ssrc payloadType).toBytes ++ behind)
        (p.retransmission seqNumber ssrc payloadType).toBytes.length p.ssrc p.header.payloadType =
      .ok (p.toBytes ++ rest, p.toBytes.length) := by
  have hread : readBytes (p.headerBytes ++ (BigEndian.encode 2 p.seqNumber.toNat ++
      (p.payload ++ p.padding ++ behind))) (p.headerBytes.length + 2)
        ((p.payload ++ p.padding).length + p.extensionBytes.length) =
      .ok (p.payload ++ p.padding ++ behind.take p.extensionBytes.length) := by
    rw [readBytes_length_add_append]
    · rw [Layout.slice, List.drop_left' (BigEndian.length_encode 2 _), List.take_length_add_append]
    · simp only [List.length_append, BigEndian.length_encode]
      omega
  have hroom : (p.payload ++ p.padding ++ behind.take p.extensionBytes.length).length ≤
      (BigEndian.encode 2 p.seqNumber.toNat ++ (p.payload ++ p.padding ++ behind)).length := by
    simp only [List.length_append, BigEndian.length_encode, List.length_take]
    omega
  rw [normalizePacket_eq, memmove, hread, ok_bind, writeBytes_length_append hroom,
    List.append_assoc (p.payload ++ p.padding), ← List.append_assoc p.headerBytes]
  exact ⟨_, rfl⟩

/-- They are not: the move reads behind the buffer. -/
theorem normalizePacket_of_lt {behind : List UInt8} (h : behind.length < p.extensionBytes.length) :
    normalizePacket ((p.retransmission seqNumber ssrc payloadType).toBytes ++ behind)
        (p.retransmission seqNumber ssrc payloadType).toBytes.length p.ssrc p.header.payloadType =
      .error .outside := by
  rw [normalizePacket_eq, memmove, readBytes_of_lt]
  · rfl
  · simp only [List.length_append, BigEndian.length_encode]
    omega

/-- `normalizePacket` restores a packet from its retransmission and accesses no other bytes. -/
def Normalizes : Prop :=
  ∃ data, normalizePacket (p.retransmission seqNumber ssrc payloadType).toBytes
      (p.retransmission seqNumber ssrc payloadType).toBytes.length p.ssrc p.header.payloadType =
    .ok (data, p.toBytes.length) ∧ data.take p.toBytes.length = p.toBytes

theorem extensionBytes_eq_nil_iff : p.extensionBytes = [] ↔ p.extensionHeader = none := by
  rw [RtpPacket.extensionBytes]
  cases p.extensionHeader with
  | none => simp
  | some e =>
    have hlength := RtpPacket.length_toBytes_extensionHeader e
    simp only [Option.map_some, Option.getD_some, reduceCtorEq, iff_false]
    intro hnil
    rw [hnil, List.length_nil] at hlength
    omega

/-- It does if there is no extension, and only then. -/
theorem normalizes_iff : Normalizes p seqNumber ssrc payloadType ↔ p.extensionHeader = none := by
  rw [← extensionBytes_eq_nil_iff]
  constructor
  · rintro ⟨data, hdata, -⟩
    by_contra hne
    have houtside := @normalizePacket_of_lt p seqNumber ssrc payloadType []
      (List.length_pos_iff.2 hne)
    rw [List.append_nil, hdata] at houtside
    cases houtside
  · intro hnil
    obtain ⟨rest, hrest⟩ := @normalizePacket_of_le p seqNumber ssrc payloadType [] (by rw [hnil])
    rw [List.append_nil] at hrest
    exact ⟨_, hrest, List.take_left⟩

/-! ## `copyTo` -/

/-- The size that is returned is the one that is given. -/
theorem size_of_copyTo {data dest dest' : List UInt8} {totalSize size : ℕ} {type : UInt8}
    (h : copyTo data dest totalSize type = .ok (dest', size)) : size = totalSize := by
  obtain ⟨_, -, h⟩ := of_bind_eq_ok h
  obtain ⟨_, -, h⟩ := of_bind_eq_ok h
  obtain ⟨_, -, h⟩ := of_bind_eq_ok h
  obtain ⟨_, -, h⟩ := of_bind_eq_ok h
  obtain ⟨_, -, h⟩ := of_bind_eq_ok h
  obtain ⟨_, -, h⟩ := of_bind_eq_ok h
  obtain ⟨_, -, h⟩ := of_bind_eq_ok h
  obtain ⟨_, -, h⟩ := of_bind_eq_ok h
  exact (Prod.mk.inj (Except.ok.inj h)).2.symm

/-- A packet without an extension is copied, with the SSRC of the retransmission, if there is room
for it. -/
theorem copyTo_of_plain {dest : List UInt8} (h : p.extensionHeader = none)
    (hroom : p.toBytes.length ≤ dest.length) :
    ∃ rest, copyTo (p.retransmission seqNumber ssrc payloadType).toBytes dest
        (p.retransmission seqNumber ssrc payloadType).toBytes.length p.header.payloadType =
      .ok ({ p with ssrc }.toBytes ++ rest, p.toBytes.length + 2) := by
  have hnil := (extensionBytes_eq_nil_iff p).2 h
  obtain ⟨r, hr⟩ : ∃ r, r = p.retransmission seqNumber ssrc payloadType := ⟨_, rfl⟩
  have htotal := p.length_retransmission seqNumber ssrc payloadType
  have hbytes := retransmission_toBytes_append p seqNumber ssrc payloadType []
  rw [List.append_nil, List.append_nil] at hbytes
  rw [← hr] at htotal hbytes ⊢
  -- the headers end with the CSRCs
  have hheaders : ∀ rest, r.headerBytes ++ rest = r.header.toBytes ++ (p.csrcBytes ++ rest) := by
    intro rest
    rw [RtpPacket.headerBytes, hr]
    show _ ++ p.csrcBytes ++ p.extensionBytes ++ rest = _
    rw [hnil, List.append_nil, List.append_assoc]
  have hcopied : ∀ rest, RtpHeader.toBytes { p.header with ssrc } ++ (p.csrcBytes ++ rest) =
      { p with ssrc }.headerBytes ++ rest := by
    intro rest
    show _ = _ ++ p.csrcBytes ++ p.extensionBytes ++ rest
    rw [hnil, List.append_nil, List.append_assoc]
    rfl
  have hsize : (RtpHeader.read r.toBytes).getSize = r.headerBytes.length := by
    rw [r.read_toBytes, r.length_headerBytes, hr]
    show _ = _ + p.extensionBytes.length
    rw [hnil]
    rfl
  have hlength : r.headerBytes.length = { p with ssrc }.headerBytes.length := by
    have hr' := congrArg List.length (hheaders [])
    have hq := congrArg List.length (hcopied [])
    simp only [List.append_nil, List.length_append, RtpHeader.length_toBytes] at hr' hq
    omega
  have htotal' : r.toBytes.length =
      r.headerBytes.length + (2 + (p.payload ++ p.padding).length) := by
    rw [hbytes, List.length_append, List.length_append, BigEndian.length_encode]
  have hfit : r.headerBytes.length + (p.payload ++ p.padding).length ≤ dest.length := by omega
  have hfirst : memmove dest 0 r.toBytes 0 r.headerBytes.length =
      .ok (r.headerBytes ++ dest.drop r.headerBytes.length) := by
    have hread : readBytes r.toBytes 0 r.headerBytes.length = .ok r.headerBytes := by
      rw [readBytes, if_pos (by omega), hbytes, Layout.slice, List.drop_zero, List.take_left]
    rw [memmove, hread, ok_bind]
    exact @writeBytes_length_append [] dest r.headerBytes (by omega)
  have hseqNo : getOriginalSeqNo r.toBytes = .ok p.seqNumber := by
    rw [hbytes]
    exact getOriginalSeqNo_append r (p.payload ++ p.padding)
  have hbody : getBody r.toBytes = .ok (r.headerBytes.length + 2) := by
    rw [hbytes, getBody_append]
  have hbodySize : getBodySize r.toBytes r.toBytes.length =
      .ok (p.payload ++ p.padding).length := by
    rw [getBodySize, hbody, ok_bind, htotal']
    exact congrArg Except.ok (by omega)
  have hread : readBytes r.toBytes (r.headerBytes.length + 2) (p.payload ++ p.padding).length =
      .ok (p.payload ++ p.padding) := by
    rw [hbytes, readBytes_length_add_append]
    · rw [Layout.slice, List.drop_left' (BigEndian.length_encode 2 _), List.take_length]
    · simp only [List.length_append, BigEndian.length_encode, le_rfl]
  have hroom' : (p.payload ++ p.padding).length ≤ (dest.drop r.headerBytes.length).length := by
    rw [List.length_drop]
    omega
  have hrestored := p.header_copied seqNumber ssrc payloadType
  rw [← hr] at hrestored
  rw [copyTo, hsize, hfirst, ok_bind, hseqNo, ok_bind, hheaders, RtpHeader.update_toBytes_append,
    ok_bind, RtpHeader.update_toBytes_append, ok_bind, hrestored, hcopied,
    RtpHeader.getBodyOffset_headerBytes_append, ok_bind, hbody, ok_bind, hbodySize, ok_bind,
    memmove, hread, ok_bind, writeBytes_length_append hroom', ok_bind, htotal, ← List.append_assoc]
  exact ⟨_, rfl⟩

/-- `copyTo` gives the destination the body and the sequence number of the packet, and returns the
size of the packet. -/
def Copies (dest : List UInt8) : Prop :=
  ∃ data, copyTo (p.retransmission seqNumber ssrc payloadType).toBytes dest
      (p.retransmission seqNumber ssrc payloadType).toBytes.length p.header.payloadType =
    .ok (data, p.toBytes.length) ∧
    (RtpHeader.read data).seqNumber = p.seqNumber ∧
    (data.drop (rtpHeaderSize data)).take (p.payload ++ p.padding).length = p.payload ++ p.padding

/-- It returns the size of the retransmission, which is two bytes more. -/
theorem not_copies (dest : List UInt8) : ¬Copies p seqNumber ssrc payloadType dest := by
  rintro ⟨data, hdata, -⟩
  have hsize := size_of_copyTo hdata
  rw [p.length_retransmission] at hsize
  omega

/-- Both functions restore the packet. -/
def Restored (dest : List UInt8) : Prop :=
  Normalizes p seqNumber ssrc payloadType ∧ Copies p seqNumber ssrc payloadType dest

/-- **Retransmissions.** No packet is restored by both functions: `normalizePacket` restores those
without an extension, and `copyTo` none. -/
theorem not_restored (dest : List UInt8) :
    ¬Restored p seqNumber ssrc payloadType dest ∧
      (Normalizes p seqNumber ssrc payloadType ↔ p.extensionHeader = none) :=
  ⟨fun h => not_copies p seqNumber ssrc payloadType dest h.2,
    normalizes_iff p seqNumber ssrc payloadType⟩

theorem extensionHeader_body_extended :
    ∀ e ∈ some (⟨0xBEDE, 0, []⟩ : RtpExtensionHeader), e.body.length = e.getSize := by
  intro e he
  rw [← Option.some.inj he]
  rfl

/-- A packet with an empty extension header and one byte of payload. -/
def extended : RtpPacket where
  typeByte := 96
  seqNumber := 7
  timestamp := 0
  ssrc := 1
  csrcs := []
  extensionHeader := some ⟨0xBEDE, 0, []⟩
  payload := [0xAA]
  padding := []
  csrcs_le := Nat.zero_le 15
  extensionHeader_body := extensionHeader_body_extended
  padding_last := RtpPacket.padding_last_nil

/-- The move of `normalizePacket` takes four bytes from behind it. -/
theorem normalizePacket_reads_outside :
    ¬∀ (p : RtpPacket) (seqNumber : UInt16) (ssrc : UInt32) (payloadType : UInt8)
      (dest : List UInt8), p.toBytes.length ≤ dest.length →
      Restored p seqNumber ssrc payloadType dest := by
  intro hall
  obtain ⟨hnormalizes, -⟩ := hall extended 1 2 97 extended.toBytes le_rfl
  have hnone := (normalizes_iff extended 1 2 97).1 hnormalizes
  exact absurd hnone (Option.some_ne_none _)

end RtpRtx

end Rtc
