import QuicRtc.DataChannel.Defs

/-!
# The establishment codec

`OutgoingDataChannel::open` writes the OPEN message and `IncomingDataChannel::processOpenMessage`
reads it. This module proves that the two hand-written layouts agree:

- `openBytes_eq`: the bytes built for an announceable reliability;
- `processOpenMessage_of_open`: the incoming channel takes over the label, the protocol and the
  reliability parameters of the sender;
- `processOpenMessage_of_short`: a message shorter than its header, or than the lengths its header
  declares, is rejected before any field is written;
- `establishment_codec`: both together.
-/

namespace Rtc

namespace Reliability

/-- The reliabilities built from the current fields only: the deprecated selector is left at
`Reliable` and at most one of the two limits is set, to a value of 32 bits. -/
def Announceable (r : Reliability) : Prop :=
  r.typeDeprecated = .reliable ∧
    match r.maxPacketLifeTime, r.maxRetransmits with
    | none, none => True
    | some count, none => 0 ≤ count ∧ count ≤ 4294967295
    | none, some n => n ≤ 4294967295
    | some _, some _ => False

end Reliability

namespace OpenMessage

/-- The header fields fit in their wire widths. -/
structure Fits (h : OpenMessage) : Prop where
  priority : h.priority < 256 ^ 2
  reliabilityParameter : h.reliabilityParameter < 256 ^ 4
  labelLength : h.labelLength < 256 ^ 2
  protocolLength : h.protocolLength < 256 ^ 2

@[simp]
theorem length_toBytes (h : OpenMessage) : h.toBytes.length = sizeOf := by
  simp [toBytes, sizeOf]

/-- Reading a header back from its bytes, whatever follows them. -/
theorem read_toBytes_append (h : OpenMessage) (hfits : h.Fits) (rest : List UInt8) :
    read (h.toBytes ++ rest) = h := by
  obtain ⟨type, channelType, priority, parameter, labelLength, protocolLength⟩ := h
  have h₁ := BigEndian.decode_encode hfits.priority
  have h₂ := BigEndian.decode_encode hfits.reliabilityParameter
  have h₃ := BigEndian.decode_encode hfits.labelLength
  have h₄ := BigEndian.decode_encode hfits.protocolLength
  simp only [BigEndian.encode, List.nil_append, List.cons_append] at h₁ h₂ h₃ h₄
  simp [read, toBytes, BigEndian.encode, h₁, h₂, h₃, h₄]

end OpenMessage

namespace DataChannel

/-- The unordered flag occupies a bit that none of the channel types uses, so both are recovered by
the masks of the decoder. -/
theorem channelType_masks {t : UInt8} (unordered : Bool)
    (ht : t ∈ [channelReliable, channelPartialReliableRexmit, channelPartialReliableTimed]) :
    (if unordered then t ||| 0x80 else t) &&& 0x7F = t ∧
      (((if unordered then t ||| 0x80 else t) &&& 0x80) != 0) = unordered := by
  simp only [List.mem_cons, List.not_mem_nil, or_false] at ht
  rcases ht with rfl | rfl | rfl <;> cases unordered <;> decide

/-- The parameters announced for an announceable reliability fit on the wire, and reading them back
restores the reliability fields. -/
theorem openParameters_announceable (r : Reliability) (hr : r.Announceable) :
    ∃ channelType parameter,
      openParameters r = .ok (channelType, parameter) ∧ parameter < 256 ^ 4 ∧
        ∀ h : OpenMessage,
          h.channelType = (if r.unordered then channelType ||| 0x80 else channelType) →
          h.reliabilityParameter = parameter →
          (announcedReliability h).unordered = r.unordered ∧
            (announcedReliability h).maxPacketLifeTime = r.maxPacketLifeTime ∧
            (announcedReliability h).maxRetransmits = r.maxRetransmits := by
  obtain ⟨unordered, lifeTime, retransmits, type, rexmit⟩ := r
  obtain ⟨htype, hlimits⟩ := hr
  subst htype
  cases lifeTime with
  | some count =>
    cases retransmits with
    -- both limits are set
    | some n => exact hlimits.elim
    | none =>
      -- the life time is the count of a signed duration
      obtain ⟨n, rfl⟩ := Int.eq_ofNat_of_zero_le hlimits.1
      have hn : n ≤ 4294967295 := by
        have := hlimits.2
        omega
      refine ⟨channelPartialReliableTimed, n, ?_, by omega, ?_⟩
      · simp [openParameters, toUint32_natCast hn, Except.map]
      · rintro h htype rfl
        obtain ⟨hmask, hflag⟩ :=
          channelType_masks (t := channelPartialReliableTimed) unordered (by simp)
        simp only at htype
        simp only [announcedReliability, htype, hmask, hflag]
        simp [channelPartialReliableTimed, channelPartialReliableRexmit]
  | none =>
    cases retransmits with
    | some n =>
      refine ⟨channelPartialReliableRexmit, n, ?_, Nat.lt_succ_of_le hlimits, ?_⟩
      · simp [openParameters, toUint32_natCast hlimits, Except.map]
      · rintro h htype rfl
        obtain ⟨hmask, hflag⟩ :=
          channelType_masks (t := channelPartialReliableRexmit) unordered (by simp)
        simp only at htype
        simp only [announcedReliability, htype, hmask, hflag]
        simp
    | none =>
      -- no limit, and the deprecated selector says reliable
      refine ⟨channelReliable, 0, rfl, by norm_num, ?_⟩
      rintro h htype -
      obtain ⟨hmask, hflag⟩ := channelType_masks (t := channelReliable) unordered (by simp)
      simp only at htype
      simp only [announcedReliability, htype, hmask, hflag]
      simp [channelReliable, channelPartialReliableTimed, channelPartialReliableRexmit]

/-- The OPEN message of a channel whose label and protocol lengths fit in 16 bits. -/
theorem openBytes_eq (ch : DataChannel) {channelType : UInt8} {parameter : ℕ}
    (hparameters : openParameters ch.mReliability = .ok (channelType, parameter))
    (hlabel : ch.mLabel.length ≤ 65535) (hprotocol : ch.mProtocol.length ≤ 65535) :
    ch.openBytes =
      .ok (OpenMessage.toBytes
          { type := messageOpen
            channelType := if ch.mReliability.unordered then channelType ||| 0x80 else channelType
            priority := 0
            reliabilityParameter := parameter
            labelLength := ch.mLabel.length
            protocolLength := ch.mProtocol.length } ++ ch.mLabel ++ ch.mProtocol) := by
  simp only [openBytes, hparameters, toUint16_natCast hlabel, toUint16_natCast hprotocol]
  rfl

/-- An OPEN message laid out with the lengths its header declares is read as sent. -/
theorem processOpenMessage_of_layout (ch : DataChannel) (hkind : ch.kind = .incoming)
    (htransport : ch.mSctpTransport = true) (hstream : ch.mStream.isSome)
    (h : OpenMessage) (hfits : h.Fits) (label protocol : List UInt8)
    (hlabel : label.length = h.labelLength) (hprotocol : protocol.length = h.protocolLength)
    (message : Message) (hdata : message.data = h.toBytes ++ label ++ protocol) :
    (ch.processOpenMessage message).thrown = none ∧
      (ch.processOpenMessage message).channel =
        { ch with
          mLabel := label
          mProtocol := protocol
          mReliability := announcedReliability h
          mIsOpen := true } := by
  obtain ⟨stream, hstream⟩ := Option.isSome_iff_exists.1 hstream
  have hread : OpenMessage.read message.data = h := by
    rw [hdata, List.append_assoc]
    exact OpenMessage.read_toBytes_append h hfits (label ++ protocol)
  have hsize : message.size = OpenMessage.sizeOf + (h.labelLength + h.protocolLength) := by
    rw [Message.size, hdata]
    simp [hlabel, hprotocol]
  -- the label and the protocol are what follows the header
  have hrest : message.data.drop OpenMessage.sizeOf = label ++ protocol := by
    rw [hdata, List.append_assoc, ← OpenMessage.length_toBytes h, List.drop_left]
  simp only [processOpenMessage, hkind, processOpenMessageIncoming, htransport, hstream, hread,
    hrest, hsize]
  simp [← hlabel, ← hprotocol]

/-- The message sent by `OutgoingDataChannel::open` gives the incoming channel the label, the
protocol and the reliability parameters of the sender. -/
theorem processOpenMessage_of_open (sender receiver : DataChannel)
    (hsender : sender.kind = .outgoing) (hsenderStream : sender.mStream.isSome)
    (hlabel : sender.mLabel.length ≤ 65535) (hprotocol : sender.mProtocol.length ≤ 65535)
    (hreliability : sender.mReliability.Announceable)
    (hreceiver : receiver.kind = .incoming) (htransport : receiver.mSctpTransport = true)
    (hstream : receiver.mStream.isSome) :
    ∃ message,
      sender.openOn.effects = [.send message] ∧ sender.openOn.thrown = none ∧
        (receiver.processOpenMessage message).thrown = none ∧
        (receiver.processOpenMessage message).channel.mLabel = sender.mLabel ∧
        (receiver.processOpenMessage message).channel.mProtocol = sender.mProtocol ∧
        (receiver.processOpenMessage message).channel.mReliability.unordered =
          sender.mReliability.unordered ∧
        (receiver.processOpenMessage message).channel.mReliability.maxPacketLifeTime =
          sender.mReliability.maxPacketLifeTime ∧
        (receiver.processOpenMessage message).channel.mReliability.maxRetransmits =
          sender.mReliability.maxRetransmits := by
  obtain ⟨channelType, parameter, hparameters, hbound, hannounced⟩ :=
    openParameters_announceable sender.mReliability hreliability
  obtain ⟨stream, hsenderStream⟩ := Option.isSome_iff_exists.1 hsenderStream
  -- what `openLocked` writes, as a header with its fields
  let header : OpenMessage :=
    { type := messageOpen
      channelType := if sender.mReliability.unordered then channelType ||| 0x80 else channelType
      priority := 0
      reliabilityParameter := parameter
      labelLength := sender.mLabel.length
      protocolLength := sender.mProtocol.length }
  have hfits : header.Fits :=
    ⟨by norm_num [header], hbound, Nat.lt_succ_of_le hlabel, Nat.lt_succ_of_le hprotocol⟩
  let message : Message :=
    { data := header.toBytes ++ sender.mLabel ++ sender.mProtocol, type := .control, stream }
  have hopen : sender.openOn =
      { channel := { sender with mSctpTransport := true }, effects := [.send message] } := by
    simp [openOn, hsender, openLocked, hsenderStream,
      openBytes_eq sender hparameters hlabel hprotocol, Except.map, message, header]
  -- the other side reads the fields from this layout
  obtain ⟨hthrown, hchannel⟩ :=
    processOpenMessage_of_layout receiver hreceiver htransport hstream header hfits
      sender.mLabel sender.mProtocol rfl rfl message rfl
  obtain ⟨hunordered, hlifeTime, hretransmits⟩ := hannounced header rfl rfl
  refine ⟨message, by rw [hopen], by rw [hopen], hthrown, ?_⟩
  rw [hchannel]
  exact ⟨rfl, rfl, hunordered, hlifeTime, hretransmits⟩

/-- A message shorter than the header, or than the lengths declared in its header, is rejected and
leaves the channel as it was. -/
theorem processOpenMessage_of_short (ch : DataChannel) (hkind : ch.kind = .incoming)
    (message : Message)
    (hshort : message.size < OpenMessage.sizeOf ∨
      message.size < OpenMessage.sizeOf + ((OpenMessage.read message.data).labelLength +
        (OpenMessage.read message.data).protocolLength)) :
    (ch.processOpenMessage message).channel = ch ∧
      (ch.processOpenMessage message).thrown.isSome := by
  simp only [processOpenMessage, hkind, processOpenMessageIncoming]
  split
  · simp
  · split
    · simp
    · split
      · simp
      · -- past the first length check only the second disjunct is left
        next hsize => simp [hshort.resolve_left hsize]

/-- The establishment codec. A channel opened with a label and a protocol of at most 65535 bytes and
an announceable reliability is recreated by the peer with the same label, protocol and reliability
parameters; and every message shorter than its header or than the lengths its header declares makes
`processOpenMessage` throw with the label, the protocol and the reliability unchanged. -/
theorem establishment_codec :
    (∀ sender receiver : DataChannel, sender.kind = .outgoing → sender.mStream.isSome →
      sender.mLabel.length ≤ 65535 → sender.mProtocol.length ≤ 65535 →
      sender.mReliability.Announceable →
      receiver.kind = .incoming → receiver.mSctpTransport = true → receiver.mStream.isSome →
      ∃ message,
        sender.openOn.effects = [.send message] ∧ sender.openOn.thrown = none ∧
          (receiver.processOpenMessage message).thrown = none ∧
          (receiver.processOpenMessage message).channel.mLabel = sender.mLabel ∧
          (receiver.processOpenMessage message).channel.mProtocol = sender.mProtocol ∧
          (receiver.processOpenMessage message).channel.mReliability.unordered =
            sender.mReliability.unordered ∧
          (receiver.processOpenMessage message).channel.mReliability.maxPacketLifeTime =
            sender.mReliability.maxPacketLifeTime ∧
          (receiver.processOpenMessage message).channel.mReliability.maxRetransmits =
            sender.mReliability.maxRetransmits) ∧
    ∀ (receiver : DataChannel) (message : Message), receiver.kind = .incoming →
      (message.size < OpenMessage.sizeOf ∨
        message.size < OpenMessage.sizeOf + ((OpenMessage.read message.data).labelLength +
          (OpenMessage.read message.data).protocolLength)) →
      (receiver.processOpenMessage message).thrown.isSome ∧
        (receiver.processOpenMessage message).channel.mLabel = receiver.mLabel ∧
        (receiver.processOpenMessage message).channel.mProtocol = receiver.mProtocol ∧
        (receiver.processOpenMessage message).channel.mReliability = receiver.mReliability := by
  refine ⟨fun sender receiver => processOpenMessage_of_open sender receiver, ?_⟩
  intro receiver message hkind hshort
  obtain ⟨hchannel, hthrown⟩ := processOpenMessage_of_short receiver hkind message hshort
  rw [hchannel]
  exact ⟨hthrown, rfl, rfl, rfl⟩

/-- A channel labelled `A`, unordered and with at most 4294967295 retransmissions, opened towards a
fresh incoming channel on stream 2; and an empty message. -/
theorem establishment_codec_retransmits :
    (∃ message,
      (DataChannel.openOn
        { kind := .outgoing, mLabel := [65], mProtocol := [],
          mReliability := { unordered := true, maxRetransmits := some 4294967295 },
          mStream := some 2 }).effects = [.send message] ∧
        ({ makeIncoming with mStream := some 2 }.processOpenMessage
          message).channel.mReliability.maxRetransmits = some 4294967295) ∧
    (makeIncoming.processOpenMessage { data := [], type := .control }).thrown.isSome := by
  obtain ⟨hopen, hshort⟩ := establishment_codec
  obtain ⟨message, hsent, -, -, -, -, -, -, hretransmits⟩ :=
    hopen
      { kind := .outgoing, mLabel := [65], mProtocol := [],
        mReliability := { unordered := true, maxRetransmits := some 4294967295 },
        mStream := some 2 }
      { makeIncoming with mStream := some 2 } rfl rfl (by decide) (by decide)
      ⟨rfl, le_refl _⟩ rfl rfl rfl
  exact ⟨⟨message, hsent, hretransmits⟩, (hshort makeIncoming _ rfl (Or.inl (by decide))).1⟩

end DataChannel

end Rtc
