import QuicRtc.Rtp.Defs

/-!
# What a packet of `packetize` looks like from outside

* `read_toBytes_append`: the header is read back as it was written.
* `rtpHeaderSize_packetize`: the depacketizers find the start of the payload, as long as the
  extension header has at most 65536 words.
* `drop_packetize_of_long`: behind a longer extension header they start too early, on a zero byte.
-/

namespace Rtc

/-! ## The header -/

namespace RtpHeader

@[simp]
theorem length_toBytes (h : RtpHeader) : h.toBytes.length = 12 := by
  simp [toBytes]

/-- The header is read back from the start of the packet. -/
@[simp]
theorem read_toBytes_append (h : RtpHeader) (rest : List UInt8) :
    read (h.toBytes ++ rest) = h := by
  have hseqNumber : (h.toBytes ++ rest).drop 2 = BigEndian.encode 2 h.seqNumber.toNat ++
      (BigEndian.encode 4 h.timestamp.toNat ++ (BigEndian.encode 4 h.ssrc.toNat ++ rest)) := by
    simp [toBytes]
  have htimestamp : (h.toBytes ++ rest).drop 4 = BigEndian.encode 4 h.timestamp.toNat ++
      (BigEndian.encode 4 h.ssrc.toNat ++ rest) := by
    rw [show 4 = 2 + 2 from rfl, ← List.drop_drop, hseqNumber]
    exact List.drop_left' (BigEndian.length_encode 2 _)
  have hssrc : (h.toBytes ++ rest).drop 8 = BigEndian.encode 4 h.ssrc.toNat ++ rest := by
    rw [show 8 = 4 + 4 from rfl, ← List.drop_drop, htimestamp]
    exact List.drop_left' (BigEndian.length_encode 4 _)
  rw [read, hseqNumber, htimestamp, hssrc,
    BigEndian.decode_take_encode_append h.seqNumber.toNat_lt,
    BigEndian.decode_take_encode_append h.timestamp.toNat_lt,
    BigEndian.decode_take_encode_append h.ssrc.toNat_lt]
  simp [toBytes]

end RtpHeader

/-! ## The extension header -/

namespace RtpExtensionHeader

theorem length_write {buffer bytes : List UInt8} {offset : ℕ}
    (h : offset + bytes.length ≤ buffer.length) :
    (write buffer offset bytes).length = buffer.length := by
  simp only [write, List.length_append, List.length_take, List.length_drop]
  omega

/-- What is behind the bytes written stays. -/
theorem drop_write {buffer bytes : List UInt8} {offset n : ℕ} (h : offset + bytes.length ≤ n)
    (hn : n ≤ buffer.length) : (write buffer offset bytes).drop n = buffer.drop n := by
  have hlength : (buffer.take offset ++ bytes).length = offset + bytes.length := by
    simp only [List.length_append, List.length_take]
    omega
  obtain ⟨k, rfl⟩ := Nat.exists_eq_add_of_le h
  rw [write, ← hlength, List.drop_length_add_append, List.drop_drop, hlength]

/-- The body takes `n` bytes, of which those behind the announced size are zero. -/
structure Blank (e : RtpExtensionHeader) (n : ℕ) : Prop where
  length : e.body.length = n
  le : e.getSize ≤ n
  zero : ∀ b ∈ e.body.drop e.getSize, b = 0

/-- Writing inside the announced size. -/
theorem Blank.write {e : RtpExtensionHeader} {n offset : ℕ} {bytes : List UInt8} (h : e.Blank n)
    (hin : offset + bytes.length ≤ e.getSize) :
    Blank { e with body := RtpExtensionHeader.write e.body offset bytes } n where
  length := by
    rw [length_write (hin.trans (h.length ▸ h.le))]
    exact h.length
  le := h.le
  zero := by
    show ∀ b ∈ (RtpExtensionHeader.write e.body offset bytes).drop e.getSize, b = 0
    rw [drop_write hin (h.length ▸ h.le)]
    exact h.zero

@[simp]
theorem headerLength_writeOneByteHeader (e : RtpExtensionHeader) (offset : ℕ) (id : UInt8)
    (value : List UInt8) :
    (e.writeOneByteHeader offset id value).headerLength = e.headerLength := by
  unfold writeOneByteHeader
  split <;> rfl

/-- An element is written inside the announced size, or not at all. -/
theorem Blank.writeOneByteHeader {e : RtpExtensionHeader} {n : ℕ} (h : e.Blank n) (offset : ℕ)
    (id : UInt8) (value : List UInt8) : (e.writeOneByteHeader offset id value).Blank n := by
  unfold RtpExtensionHeader.writeOneByteHeader
  split
  · exact h
  · next hfits =>
    push Not at hfits
    exact h.write (by simpa [Nat.add_assoc, Nat.add_comm 1] using hfits.2.2.2.2)

theorem Blank.clearBody {e : RtpExtensionHeader} {n : ℕ} (h : e.Blank n) : e.clearBody.Blank n :=
  h.write (by simp)

end RtpExtensionHeader

namespace RtpPacketizationConfig

variable (config : RtpPacketizationConfig) (mark : Bool)

/-- The extension header takes whole words, one of them before its body. -/
theorem rtpExtHeaderSize_cases :
    config.rtpExtHeaderSize mark = 0 ∨
      ∃ words, config.rtpExtHeaderSize mark = 4 * (words + 1) := by
  unfold rtpExtHeaderSize
  split
  · next hne =>
    right
    refine ⟨(config.elementsSize mark + 3) / 4, ?_⟩
    omega
  · left
    rfl

/-- What holds of the empty extension header and is kept by every element holds of the whole. -/
theorem extensionHeader_invariant {P : RtpExtensionHeader → Prop}
    (hempty : P (config.emptyExtensionHeader mark).clearBody)
    (hwrite : ∀ e offset id value, P e → P (e.writeOneByteHeader offset id value)) :
    P (config.extensionHeader mark) := by
  unfold extensionHeader RtpExtensionHeader.writeCurrentVideoOrientation
  dsimp only
  -- one element after the other, whether it is there or not
  have horiented : P (if config.setVideoRotation mark then
      (config.emptyExtensionHeader mark).clearBody.writeOneByteHeader 0 config.videoOrientationId
        [config.videoOrientation]
      else (config.emptyExtensionHeader mark).clearBody) := by
    split
    · exact hwrite _ _ _ _ hempty
    · exact hempty
  split
  · refine hwrite _ _ _ _ ?_
    split
    · refine hwrite _ _ _ _ ?_
      split
      · exact hwrite _ _ _ _ horiented
      · exact horiented
    · split
      · exact hwrite _ _ _ _ horiented
      · exact horiented
  · split
    · refine hwrite _ _ _ _ ?_
      split
      · exact hwrite _ _ _ _ horiented
      · exact horiented
    · split
      · exact hwrite _ _ _ _ horiented
      · exact horiented

@[simp]
theorem headerLength_extensionHeader :
    (config.extensionHeader mark).headerLength =
      UInt16.ofNat (config.rtpExtHeaderSize mark / 4) - 1 := by
  refine config.extensionHeader_invariant mark
    (P := fun e => e.headerLength = UInt16.ofNat (config.rtpExtHeaderSize mark / 4) - 1) rfl ?_
  intro e offset id value h
  rw [RtpExtensionHeader.headerLength_writeOneByteHeader, h]

/-- The body of an extension header of `words + 1` words has `words` words, in 16 bits. -/
theorem toNat_headerLength (words : ℕ) :
    (UInt16.ofNat (words + 1) - 1).toNat = words % 65536 := by
  rw [UInt16.ofNat_add]
  simp

/-- The elements are written inside the announced body. -/
theorem blank_extensionHeader {words : ℕ} (h : config.rtpExtHeaderSize mark = 4 * (words + 1)) :
    (config.extensionHeader mark).Blank (4 * words) := by
  refine config.extensionHeader_invariant mark (P := fun e => e.Blank (4 * words)) ?_ ?_
  · refine RtpExtensionHeader.Blank.clearBody ⟨?_, ?_, ?_⟩
    · simp only [emptyExtensionHeader, List.length_replicate, h, RtpExtensionHeader.sizeOf]
      omega
    · have hwords : config.rtpExtHeaderSize mark / 4 = words + 1 := by omega
      simp only [RtpExtensionHeader.getSize, emptyExtensionHeader, hwords, toNat_headerLength]
      omega
    · intro b hb
      exact List.eq_of_mem_replicate (List.mem_of_mem_drop hb)
  · intro e offset id value hblank
    exact hblank.writeOneByteHeader offset id value

/-! ## The packet -/

/-- The bits of the two flag bytes that `packetize` writes. -/
private theorem flagBits (payloadType : UInt8) :
    ((((0 &&& 0x80) ||| (0x7F &&& payloadType)) &&& 0x80 != 0) = false) ∧
      ((((((0 &&& 0x80) ||| (0x7F &&& payloadType)) &&& 0x7F) ||| 0x80) &&& 0x80 != 0) = true) := by
  revert payloadType
  exact BigEndian.forall_byte (by decide +kernel)

@[simp]
theorem seqNumber_header : (config.header mark).seqNumber = config.sequenceNumber := by
  unfold header
  dsimp only
  split <;> split <;> rfl

/-- The marker is that of the call. -/
@[simp]
theorem marker_header : (config.header mark).marker = mark := by
  obtain ⟨hclear, hset⟩ := flagBits config.payloadType
  unfold header
  dsimp only
  cases mark with
  | false => split <;> exact hclear
  | true => split <;> exact hset

/-- The first byte holds the version and the extension flag. -/
theorem first_header :
    (config.header mark).first = if config.rtpExtHeaderSize mark ≠ 0 then 0x90 else 0x80 := by
  have hset : (((0 : UInt8) &&& 0xEF) ||| (if true then 0x10 else 0)) ||| 0x80 = 0x90 := by decide
  have hclear : (0 : UInt8) ||| 0x80 = 0x80 := by decide
  unfold header
  dsimp only
  split
  · split <;> exact hset
  · split <;> exact hclear

/-- There is no padding, there are no CSRCs, and the extension flag is set if there is an extension
header. -/
theorem flags_header :
    (config.header mark).padding = false ∧ (config.header mark).csrcCount = 0 ∧
      ((config.header mark).extension = true ↔ config.rtpExtHeaderSize mark ≠ 0) := by
  simp only [RtpHeader.padding, RtpHeader.csrcCount, RtpHeader.extension, first_header]
  split
  · next hne => exact ⟨by decide, by decide, fun _ => hne, fun _ => by decide⟩
  · next hzero =>
    exact ⟨by decide, by decide, fun h => absurd h (by decide), fun hne => absurd hne hzero⟩

variable (payload : List UInt8)

@[simp]
theorem read_packetize : RtpHeader.read (config.packetize mark payload).1 = config.header mark := by
  rw [packetize, List.append_assoc, RtpHeader.read_toBytes_append]

/-- Where the depacketizers look for the payload: the length of the extension header is reduced to
16 bits. -/
theorem rtpHeaderSize_packetize_of_words {words : ℕ}
    (h : config.rtpExtHeaderSize mark = 4 * (words + 1)) :
    rtpHeaderSize (config.packetize mark payload).1 = 12 + (4 + 4 * (words % 65536)) := by
  obtain ⟨-, hcsrc, hextension⟩ := config.flags_header mark
  have hne : config.rtpExtHeaderSize mark ≠ 0 := by omega
  have hwords : config.rtpExtHeaderSize mark / 4 = words + 1 := by omega
  have hlength : ((config.packetize mark payload).1.drop 14).take 2 =
      BigEndian.encode 2 (config.extensionHeader mark).headerLength.toNat := by
    have hsplit : (config.packetize mark payload).1.drop 14 =
        BigEndian.encode 2 (config.extensionHeader mark).headerLength.toNat ++
          ((config.extensionHeader mark).body ++ payload) := by
      have hstart : ((config.header mark).toBytes ++
          BigEndian.encode 2 (config.extensionHeader mark).profileSpecificId.toNat).length =
          14 := by
        simp
      rw [packetize, if_pos hne, RtpExtensionHeader.toBytes, ← hstart]
      simp only [← List.append_assoc]
      rw [List.append_assoc, List.append_assoc, List.drop_left, List.append_assoc]
    rw [hsplit]
    exact List.take_left' (BigEndian.length_encode 2 _)
  have hdecode : BigEndian.decode
      (BigEndian.encode 2 (config.extensionHeader mark).headerLength.toNat) = words % 65536 := by
    rw [BigEndian.decode_encode (UInt16.toNat_lt _), headerLength_extensionHeader, hwords,
      toNat_headerLength]
  simp only [rtpHeaderSize, RtpHeader.getExtensionHeaderSize, read_packetize, RtpHeader.getSize,
    hcsrc, hextension.2 hne, if_true, RtpHeader.sizeOf, RtpExtensionHeader.sizeOf]
  simp only [Nat.mul_zero, Nat.add_zero, Nat.reduceAdd, hlength, hdecode]
  omega

theorem length_packetize :
    (config.packetize mark payload).1.length =
      12 + config.rtpExtHeaderSize mark + payload.length := by
  rcases config.rtpExtHeaderSize_cases mark with hzero | ⟨words, hwords⟩
  · simp [packetize, hzero]
  · have hblank := (config.blank_extensionHeader mark hwords).length
    have hne : config.rtpExtHeaderSize mark ≠ 0 := by omega
    simp only [packetize, if_pos hne, RtpExtensionHeader.toBytes, List.length_append,
      RtpHeader.length_toBytes, BigEndian.length_encode, hblank]
    omega

theorem rtpHeaderSize_packetize_of_zero (h : config.rtpExtHeaderSize mark = 0) :
    rtpHeaderSize (config.packetize mark payload).1 = 12 := by
  obtain ⟨-, hcsrc, hextension⟩ := config.flags_header mark
  have hclear : (config.header mark).extension = false := by
    rw [← Bool.not_eq_true, hextension, not_not, h]
  simp only [rtpHeaderSize, RtpHeader.getExtensionHeaderSize, read_packetize, RtpHeader.getSize,
    hcsrc, hclear, RtpHeader.sizeOf]
  rfl

/-- The bytes before the payload. -/
theorem length_headers {words : ℕ} (h : config.rtpExtHeaderSize mark = 4 * (words + 1)) :
    ((config.header mark).toBytes ++ (config.extensionHeader mark).toBytes).length =
      12 + 4 * (words + 1) := by
  simp only [RtpExtensionHeader.toBytes, List.length_append, RtpHeader.length_toBytes,
    BigEndian.length_encode, (config.blank_extensionHeader mark h).length]
  omega

/-- The depacketizers find the end of an extension header of at most 65536 words. -/
theorem rtpHeaderSize_packetize (h : config.rtpExtHeaderSize mark ≤ 262144) :
    rtpHeaderSize (config.packetize mark payload).1 = 12 + config.rtpExtHeaderSize mark := by
  rcases config.rtpExtHeaderSize_cases mark with hzero | ⟨words, hwords⟩
  · rw [config.rtpHeaderSize_packetize_of_zero mark payload hzero, hzero]
  · rw [config.rtpHeaderSize_packetize_of_words mark payload hwords]
    omega

/-- There the payload starts. -/
theorem drop_packetize (h : config.rtpExtHeaderSize mark ≤ 262144) :
    (config.packetize mark payload).1.drop (rtpHeaderSize (config.packetize mark payload).1) =
      payload := by
  rw [config.rtpHeaderSize_packetize mark payload h]
  rcases config.rtpExtHeaderSize_cases mark with hzero | ⟨words, hwords⟩
  · rw [packetize, if_neg (not_not.2 hzero), hzero, List.append_nil]
    exact List.drop_left' (RtpHeader.length_toBytes _)
  · rw [packetize, if_pos (by omega), hwords]
    exact List.drop_left' (config.length_headers mark hwords)

/-- Behind a longer extension header they start on the zeros that end its body. -/
theorem drop_packetize_of_long (h : 262144 < config.rtpExtHeaderSize mark) :
    ∃ zeros, 262144 ≤ zeros ∧
      (config.packetize mark payload).1.drop (rtpHeaderSize (config.packetize mark payload).1) =
        List.replicate zeros 0 ++ payload := by
  rcases config.rtpExtHeaderSize_cases mark with hzero | ⟨words, hwords⟩
  · omega
  · have hblank := config.blank_extensionHeader mark hwords
    have hsize : (config.extensionHeader mark).getSize = 4 * (words % 65536) := by
      have hword : config.rtpExtHeaderSize mark / 4 = words + 1 := by omega
      rw [RtpExtensionHeader.getSize, headerLength_extensionHeader, hword, toNat_headerLength,
        Nat.mul_comm]
    refine ⟨4 * words - 4 * (words % 65536), by omega, ?_⟩
    -- the length field counts the words modulo 2¹⁶, and the words beyond it are blank
    have hzeros : (config.extensionHeader mark).body.drop (4 * (words % 65536)) =
        List.replicate (4 * words - 4 * (words % 65536)) 0 := by
      rw [List.eq_replicate_iff, List.length_drop, hblank.length]
      exact ⟨rfl, hsize ▸ hblank.zero⟩
    have hbody : 4 * (words % 65536) ≤ (config.extensionHeader mark).body.length := by
      rw [hblank.length]
      omega
    obtain ⟨fields, hfields, hpacket⟩ : ∃ fields : List UInt8, fields.length = 16 ∧
        (config.packetize mark payload).1 =
          fields ++ ((config.extensionHeader mark).body ++ payload) := by
      refine ⟨(config.header mark).toBytes ++
        (BigEndian.encode 2 (config.extensionHeader mark).profileSpecificId.toNat ++
          BigEndian.encode 2 (config.extensionHeader mark).headerLength.toNat), by simp, ?_⟩
      rw [packetize, if_pos (by omega), RtpExtensionHeader.toBytes]
      simp only [List.append_assoc]
    rw [config.rtpHeaderSize_packetize_of_words mark payload hwords, hpacket, ← hzeros,
      show 12 + (4 + 4 * (words % 65536)) = fields.length + 4 * (words % 65536) by omega,
      List.drop_length_add_append, List.drop_append_of_le_length hbody]

/-! ## The limit on the elements -/

/-- The extension header has at most 65536 words if its elements take at most 262140 bytes. -/
theorem rtpExtHeaderSize_le_iff :
    config.rtpExtHeaderSize mark ≤ 262144 ↔ config.elementsSize mark ≤ 262140 := by
  unfold rtpExtHeaderSize
  split <;> omega

/-- The last packet of a frame has every element that the others have. -/
theorem elementsSize_le : config.elementsSize mark ≤ config.elementsSize true := by
  cases mark with
  | true => exact le_rfl
  | false =>
    have hrotation : config.setVideoRotation false = false := by
      simp [setVideoRotation]
    simp only [elementsSize, hrotation, Bool.false_eq_true, if_false]
    omega

end RtpPacketizationConfig

end Rtc
