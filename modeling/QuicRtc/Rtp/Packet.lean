import QuicRtc.Rtp.Fragments

/-!
# Well-formed RTP packets

An RTP packet as RFC 3550 has it: the fixed header, up to 15 CSRCs, a header extension, the payload
and the padding, whose last byte is its length. `toBytes` lays it out.

* `rtpHeaderSize_toBytes`, `rtpPaddingSize_toBytes`: the depacketizers find the end of the headers
  and the length of the padding.
* `addPacket_toBytes`: they leave the padding at the end of the payload.
-/

namespace Rtc

/-- A well-formed packet. -/
structure RtpPacket where
  typeByte : UInt8
  seqNumber : UInt16
  timestamp : UInt32
  ssrc : UInt32
  csrcs : List UInt32
  extensionHeader : Option RtpExtensionHeader
  payload : List UInt8
  /-- Empty for none. -/
  padding : List UInt8
  csrcs_le : csrcs.length ≤ 15
  extensionHeader_body : ∀ e ∈ extensionHeader, e.body.length = e.getSize
  padding_last : ∀ last ∈ padding.getLast?, last.toNat = padding.length

namespace RtpPacket

theorem extensionHeader_body_none :
    ∀ e ∈ (none : Option RtpExtensionHeader), e.body.length = e.getSize := by
  simp

theorem padding_last_nil :
    ∀ last ∈ ([] : List UInt8).getLast?, last.toNat = ([] : List UInt8).length := by
  simp

variable (p : RtpPacket)

/-- The fixed header: version 2, the flags and the number of CSRCs in the first byte. -/
def header : RtpHeader where
  first := 0x80 ||| (if p.padding ≠ [] then 0x20 else 0) |||
    (if p.extensionHeader.isSome then 0x10 else 0) ||| UInt8.ofNat p.csrcs.length
  typeByte := p.typeByte
  seqNumber := p.seqNumber
  timestamp := p.timestamp
  ssrc := p.ssrc

/-- The list of CSRCs. -/
def csrcBytes : List UInt8 := p.csrcs.flatMap fun csrc => BigEndian.encode 4 csrc.toNat

/-- The extension header with its body, if there is one. -/
def extensionBytes : List UInt8 := (p.extensionHeader.map RtpExtensionHeader.toBytes).getD []

/-- What is before the payload. -/
def headerBytes : List UInt8 := p.header.toBytes ++ p.csrcBytes ++ p.extensionBytes

/-- The packet as laid out in a message. -/
def toBytes : List UInt8 := p.headerBytes ++ (p.payload ++ p.padding)

/-- The same packet with other padding. -/
def withPadding (padding : List UInt8)
    (hpadding : ∀ last ∈ padding.getLast?, last.toNat = padding.length) : RtpPacket :=
  { p with padding, padding_last := hpadding }

/-! ## The headers -/

/-- The bits of the first byte. -/
private theorem firstBits : ∀ n < 16, ∀ padding extension : Bool,
    let first : UInt8 := 0x80 ||| (if padding then 0x20 else 0) |||
      (if extension then 0x10 else 0) ||| UInt8.ofNat n
    ((first >>> 5) &&& 0x01 != 0) = padding ∧ ((first >>> 4) &&& 0x01 != 0) = extension ∧
      (first &&& 0x0F).toNat = n := by
  decide +kernel

/-- The flags and the number of CSRCs are those of the packet. -/
theorem flags_header :
    p.header.padding = decide (p.padding ≠ []) ∧
      p.header.extension = p.extensionHeader.isSome ∧ p.header.csrcCount = p.csrcs.length := by
  have hbits := firstBits p.csrcs.length (Nat.lt_succ_of_le p.csrcs_le) (decide (p.padding ≠ []))
    p.extensionHeader.isSome
  simp only [decide_eq_true_eq] at hbits
  exact hbits

theorem read_headerBytes_append (rest : List UInt8) :
    RtpHeader.read (p.headerBytes ++ rest) = p.header := by
  rw [headerBytes, List.append_assoc, List.append_assoc, RtpHeader.read_toBytes_append]

@[simp]
theorem read_toBytes : RtpHeader.read p.toBytes = p.header :=
  p.read_headerBytes_append _

@[simp]
theorem length_csrcBytes : p.csrcBytes.length = 4 * p.csrcs.length := by
  rw [csrcBytes]
  induction p.csrcs with
  | nil => rfl
  | cons csrc csrcs ih =>
    rw [List.flatMap_cons, List.length_append, ih, BigEndian.length_encode, List.length_cons]
    omega

theorem length_toBytes_extensionHeader (e : RtpExtensionHeader) :
    e.toBytes.length = 4 + e.body.length := by
  rw [RtpExtensionHeader.toBytes]
  simp only [List.length_append, BigEndian.length_encode]

/-- The size that is read from behind the CSRCs. -/
theorem getExtensionHeaderSize_headerBytes_append (rest : List UInt8) :
    RtpHeader.getExtensionHeaderSize (p.headerBytes ++ rest) = p.extensionBytes.length := by
  obtain ⟨-, hextension, hcsrc⟩ := p.flags_header
  simp only [RtpHeader.getExtensionHeaderSize, read_headerBytes_append, hextension]
  cases hnone : p.extensionHeader with
  | none => simp [extensionBytes, hnone]
  | some e =>
    have hstart : (p.header.toBytes ++ p.csrcBytes ++
        BigEndian.encode 2 e.profileSpecificId.toNat).length = p.header.getSize + 2 := by
      simp only [List.length_append, RtpHeader.length_toBytes, length_csrcBytes,
        BigEndian.length_encode, RtpHeader.getSize, hcsrc, RtpHeader.sizeOf]
    have hdrop : (p.headerBytes ++ rest).drop (p.header.getSize + 2) =
        BigEndian.encode 2 e.headerLength.toNat ++ (e.body ++ rest) := by
      have hsplit : p.headerBytes ++ rest = (p.header.toBytes ++ p.csrcBytes ++
          BigEndian.encode 2 e.profileSpecificId.toNat) ++
          (BigEndian.encode 2 e.headerLength.toNat ++ (e.body ++ rest)) := by
        rw [headerBytes, extensionBytes, hnone]
        simp only [Option.map_some, Option.getD_some, RtpExtensionHeader.toBytes,
          List.append_assoc]
      rw [hsplit, ← hstart, List.drop_left]
    rw [hdrop, BigEndian.decode_take_encode_append e.headerLength.toNat_lt, extensionBytes, hnone]
    simp only [Option.isSome_some, if_true, Option.map_some, Option.getD_some,
      length_toBytes_extensionHeader, p.extensionHeader_body e hnone,
      RtpExtensionHeader.getSize, RtpExtensionHeader.sizeOf]
    omega

theorem getExtensionHeaderSize_toBytes :
    RtpHeader.getExtensionHeaderSize p.toBytes = p.extensionBytes.length :=
  p.getExtensionHeaderSize_headerBytes_append _

theorem length_headerBytes : p.headerBytes.length =
    p.header.getSize + p.extensionBytes.length := by
  obtain ⟨-, -, hcsrc⟩ := p.flags_header
  simp only [headerBytes, List.length_append, RtpHeader.length_toBytes, length_csrcBytes,
    RtpHeader.getSize, hcsrc, RtpHeader.sizeOf]

/-- The depacketizers find the end of the headers. -/
theorem rtpHeaderSize_headerBytes_append (rest : List UInt8) :
    rtpHeaderSize (p.headerBytes ++ rest) = p.headerBytes.length := by
  rw [rtpHeaderSize, getExtensionHeaderSize_headerBytes_append, read_headerBytes_append,
    length_headerBytes]

theorem rtpHeaderSize_toBytes : rtpHeaderSize p.toBytes = p.headerBytes.length :=
  p.rtpHeaderSize_headerBytes_append _

theorem drop_toBytes : p.toBytes.drop (rtpHeaderSize p.toBytes) = p.payload ++ p.padding := by
  rw [rtpHeaderSize_toBytes, toBytes, List.drop_left]

/-- They find the length of the padding. -/
theorem rtpPaddingSize_toBytes :
    AddPayload.rtpPaddingSize p.toBytes = .ok p.padding.length := by
  obtain ⟨hpadding, -, -⟩ := p.flags_header
  rw [AddPayload.rtpPaddingSize, read_toBytes, hpadding]
  cases hlast : p.padding.getLast? with
  | none =>
    have hnil : p.padding = [] := List.getLast?_eq_none_iff.1 hlast
    rw [hnil]
    rfl
  | some last =>
    have hne : p.padding ≠ [] := by
      intro hnil
      rw [hnil] at hlast
      cases hlast
    have hlast' : p.toBytes.getLast? = some last := by
      rw [toBytes, ← List.append_assoc, List.getLast?_append, hlast]
      rfl
    rw [if_pos (decide_eq_true hne), hlast']
    exact congrArg Except.ok (p.padding_last last hlast)

/-- The loop of `buildFrames` takes the payload with the padding, unless the payload is empty. -/
theorem addPacket_toBytes (addPayload : AddPayload) (accessUnit : List UInt8) :
    addPayload.addPacket accessUnit p.toBytes =
      if p.payload = [] then .ok accessUnit
      else addPayload accessUnit (p.payload ++ p.padding) := by
  have hempty : p.toBytes.length = rtpHeaderSize p.toBytes + p.padding.length ↔
      p.payload = [] := by
    rw [rtpHeaderSize_toBytes, toBytes, List.length_append, List.length_append,
      ← List.length_eq_zero_iff]
    omega
  rw [AddPayload.addPacket_eq, rtpPaddingSize_toBytes, drop_toBytes]
  simp only [Except.bind, hempty]

end RtpPacket

end Rtc
