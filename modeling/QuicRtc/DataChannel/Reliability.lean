import QuicRtc.DataChannel.OpenMessage
import QuicRtc.DataChannel.Spec
import QuicRtc.SctpTransport.Spec

/-!
# Announced and applied reliability

The decision table from a `Reliability` to a policy and its parameter is written three times: by
`OutgoingDataChannel::open` for the OPEN message, by `IncomingDataChannel::processOpenMessage` for
the channel of the peer, and by `SctpTransport::trySendMessage` for every message.

* `OpenMessage.announced`: what an OPEN message says about the messages of its channel.
* `Message.SentWith`: what `trySendMessage` does with a message.
* `Agrees`: `open` throws, or the messages of both ends are sent as its OPEN message says.
* `agrees_iff_not_negativeRexmit`: the tables differ on a negative deprecated `rexmit`, which `open`
  clamps to zero and `trySendMessage` does not.
-/

namespace Rtc

/-! ## The policies -/

/-- How the messages of a channel are sent: unordered or not, and with which partial reliability
policy and value. -/
structure Policy where
  unordered : Bool
  policy : SctpTransport.PrPolicy
  value : ℕ
  deriving DecidableEq, Repr

/-- The policy that an OPEN message announces by its channel type and its reliability parameter. -/
def OpenMessage.announced (h : OpenMessage) : Policy where
  unordered := (h.channelType &&& 0x80) != 0
  policy :=
    if h.channelType &&& 0x7F = channelPartialReliableRexmit then .rtx
    else if h.channelType &&& 0x7F = channelPartialReliableTimed then .ttl
    else .none
  value :=
    if h.channelType &&& 0x7F = channelPartialReliableRexmit then h.reliabilityParameter
    else if h.channelType &&& 0x7F = channelPartialReliableTimed then h.reliabilityParameter
    else 0

/-- `trySendMessage` hands the message to usrsctp with this policy, and throws nothing but the
errors of usrsctp. -/
def Message.SentWith (m : Message) (p : Policy) : Prop :=
  ∀ t : SctpTransport, t.mState = .connected →
    (∃ t' spa, t.trySendMessage m .sent = .accepted t' (.sendv m spa) ∧
      spa.unordered = p.unordered ∧ spa.prPolicy = p.policy ∧ spa.prValue = p.value) ∧
    ∀ result e, t.trySendMessage m result = .threw e → ∃ errno, result = .failed errno

/-- The deprecated fields ask for a negative number of retransmissions. -/
def Reliability.NegativeRexmit (r : Reliability) : Prop :=
  r.maxPacketLifeTime = none ∧ r.maxRetransmits = none ∧ r.typeDeprecated = .rexmit ∧
    ∃ value < 0, r.rexmit = .int value

namespace DataChannel

/-! ## Calls on a channel -/

/-- A call on a channel. -/
inductive Call where
  | openOn
  | assignStream (stream : ℕ)
  | incoming (message : Message)
  | close
  deriving DecidableEq, Repr

/-- The call is made with an OPEN message. -/
def Call.isOpenMessage : Call → Bool
  | .incoming message => Rtc.isOpenMessage message
  | _ => false

/-- The channel after a call. -/
def call (ch : DataChannel) : Call → DataChannel
  | .openOn => ch.openOn.channel
  | .assignStream stream =>
    match ch.assignStream stream with
    | .ok ch' => ch'
    | .error _ => ch
  | .incoming message => (ch.incoming message).channel
  | .close => ch.close.channel

/-- The channel after a list of calls. -/
def calls (ch : DataChannel) (cs : List Call) : DataChannel := cs.foldl call ch

/-- Whatever calls are made, except those left out, the user messages that the open channel lets
pass are sent with this policy. -/
def Applies (ch : DataChannel) (allowed : Call → Prop) (p : Policy) : Prop :=
  ∀ cs : List Call, (∀ c ∈ cs, allowed c) → (ch.calls cs).mIsOpen = true →
    ∀ maxMessageSize message sent, message.type = .string ∨ message.type = .binary →
      (ch.calls cs).outgoingLocked maxMessageSize message = .ok sent → sent.SentWith p

/-- `open` throws, or both ends apply what it announces: the opened channel whatever is called on
it, and the channel that the peer builds from the OPEN message as long as it gets no other one. -/
def Agrees (ch : DataChannel) : Prop :=
  (∃ e, ch.openOn.thrown = some e) ∨
    ∃ message, ch.openOn.effects = [.send message] ∧
      ch.openOn.channel.Applies (fun _ => True) (OpenMessage.read message.data).announced ∧
      ∀ stream, ({ makeIncoming with mStream := some stream }.incoming message).channel.Applies
        (fun c => c.isOpenMessage = false) (OpenMessage.read message.data).announced

/-- Only an OPEN message on an incoming channel changes the reliability. -/
theorem mReliability_call (ch : DataChannel) (c : Call)
    (h : ch.kind ≠ .incoming ∨ c.isOpenMessage = false) :
    (ch.call c).mReliability = ch.mReliability := by
  cases c with
  | openOn =>
    show ch.openOn.channel.mReliability = _
    unfold openOn
    split
    · dsimp only
      split <;> rfl
    · rcases openLocked_cases ch with ⟨e, hopen⟩ | ⟨stream, data, -, -, hopen⟩ <;> rw [hopen]
    · rfl
  | assignStream stream =>
    unfold call assignStream
    cases ch.mStream <;> rfl
  | incoming message =>
    show (ch.incoming message).channel.mReliability = _
    unfold incoming
    split
    · rfl
    · split
      · split
        · rfl
        · next hcontrol _ b hhead =>
          split
          · next hb =>
            -- an OPEN message, so the channel is not an incoming one
            have hkind : ch.kind ≠ .incoming := by
              refine h.resolve_right fun hc => ?_
              simp [Call.isOpenMessage, isOpenMessage, hcontrol, hhead, hb] at hc
            unfold processOpenMessage
            split
            · rfl
            · rfl
            · next hincoming => exact absurd hincoming hkind
          · split <;> rfl
      · unfold close
        split <;> rfl
      · rfl
      · rfl
  | close =>
    show ch.close.channel.mReliability = _
    unfold close
    split <;> rfl

theorem kind_call (ch : DataChannel) (c : Call) : (ch.call c).kind = ch.kind := by
  cases c with
  | openOn => exact (keeps_openOn ch).kind
  | assignStream stream =>
    unfold call assignStream
    cases ch.mStream <;> rfl
  | incoming message => exact (keeps_incoming ch message).kind
  | close => exact (keeps_close ch).kind

/-- Nor does any list of calls. -/
theorem mReliability_calls (ch : DataChannel) (cs : List Call)
    (h : ch.kind ≠ .incoming ∨ ∀ c ∈ cs, c.isOpenMessage = false) :
    (ch.calls cs).mReliability = ch.mReliability := by
  induction cs generalizing ch with
  | nil => rfl
  | cons c cs ih =>
    have hrest : (ch.call c).kind ≠ .incoming ∨ ∀ c ∈ cs, c.isOpenMessage = false := by
      rw [kind_call]
      exact h.imp_right fun hall => (List.forall_mem_cons.1 hall).2
    have hfirst := mReliability_call ch c (h.imp_right fun hall => hall c List.mem_cons_self)
    exact (ih (ch.call c) hrest).trans hfirst

/-! ## The tables agree -/

/-- What `trySendMessage` selects for a reliability is what it sends with. -/
theorem sentWith_of_prInfo {m : Message} {r : Reliability} {p : Policy}
    (htype : m.type = .string ∨ m.type = .binary) (hreliability : m.reliability = some r)
    (hunordered : r.unordered = p.unordered)
    (hinfo : SctpTransport.prInfo r = .ok (p.policy, p.value)) : m.SentWith p := by
  intro t hconnected
  obtain ⟨spa, hspa, hfields⟩ : ∃ spa, SctpTransport.sendvSpa m = .ok spa ∧
      spa.unordered = p.unordered ∧ spa.prPolicy = p.policy ∧ spa.prValue = p.value := by
    rw [SctpTransport.sendvSpa, hreliability, Option.getD_some, hinfo]
    exact ⟨_, rfl, hunordered, rfl, rfl⟩
  constructor
  · -- sctp accepts the message
    refine ⟨{ t with mBytesSent := t.mBytesSent + messageSizeFunc m }, spa, ?_, hfields⟩
    unfold SctpTransport.trySendMessage
    rcases htype with htype | htype
    · simp [hconnected, htype, hspa]
    · simp [hconnected, htype, hspa]
  · -- and whatever it answers, only its own failure makes the call throw
    intro result e hthrew
    rcases SctpTransport.trySendMessage_threw hthrew with hfailed | ⟨e', herror⟩
    · exact hfailed
    · rw [hspa] at herror
      cases herror

/-- A channel whose reliability selects the policy applies it, as long as nothing changes it. -/
theorem applies_of_prInfo {ch : DataChannel} {allowed : Call → Prop} {p : Policy}
    (hallowed : ch.kind ≠ .incoming ∨ ∀ c, allowed c → c.isOpenMessage = false)
    (hunordered : ch.mReliability.unordered = p.unordered)
    (hinfo : SctpTransport.prInfo ch.mReliability = .ok (p.policy, p.value)) :
    ch.Applies allowed p := by
  intro cs hcs hopen maxMessageSize message sent htype hsent
  have hsame : (ch.calls cs).mReliability = ch.mReliability :=
    mReliability_calls ch cs (hallowed.imp_right fun hall c hc => hall c (hcs c hc))
  rw [← hsame] at hunordered hinfo
  obtain ⟨-, stream, -, rfl⟩ := outgoingLocked_eq_ok hsent
  exact sentWith_of_prInfo (m := { message with reliability := _, stream := _ }) htype
    (if_pos hopen) hunordered hinfo

/-- What `processOpenMessage` stores selects what the OPEN message announces. -/
theorem prInfo_announcedReliability (h : OpenMessage) (hfits : h.reliabilityParameter < 256 ^ 4) :
    SctpTransport.prInfo (announcedReliability h) = .ok (h.announced.policy, h.announced.value) ∧
      (announcedReliability h).unordered = h.announced.unordered := by
  have hvalue : toUint32 h.reliabilityParameter = .ok h.reliabilityParameter :=
    toUint32_natCast (by omega)
  unfold announcedReliability OpenMessage.announced
  dsimp only
  split_ifs
  · exact ⟨by simp only [SctpTransport.prInfo, hvalue, Except.map], rfl⟩
  · exact ⟨by simp only [SctpTransport.prInfo, hvalue, Except.map], rfl⟩
  · exact ⟨rfl, rfl⟩

/-- A value that fits in 32 bits, behind its channel type. -/
theorem map_toUint32_eq_ok {i : ℤ} {type channelType : UInt8} {parameter : ℕ}
    (h : (toUint32 i).map (type, ·) = .ok (channelType, parameter)) :
    channelType = type ∧ toUint32 i = .ok parameter ∧ parameter < 256 ^ 4 := by
  unfold toUint32 at h ⊢
  split_ifs at h ⊢ with hrange
  · obtain ⟨rfl, rfl⟩ := Prod.mk.inj (Except.ok.inj h)
    exact ⟨rfl, rfl, by omega⟩
  · cases h

/-- `open` announces what `trySendMessage` selects, unless the number of retransmissions is
negative. -/
theorem prInfo_of_openParameters {r : Reliability} {channelType : UInt8} {parameter : ℕ}
    (hparameters : openParameters r = .ok (channelType, parameter)) (hr : ¬r.NegativeRexmit) :
    channelType ∈ [channelReliable, channelPartialReliableRexmit, channelPartialReliableTimed] ∧
      parameter < 256 ^ 4 ∧ ∀ h : OpenMessage,
        h.channelType &&& 0x7F = channelType → h.reliabilityParameter = parameter →
        SctpTransport.prInfo r = .ok (h.announced.policy, h.announced.value) := by
  unfold openParameters at hparameters
  split at hparameters
  · next count _ hlifeTime =>
    obtain ⟨rfl, hcount, hfits⟩ := map_toUint32_eq_ok hparameters
    refine ⟨by simp, hfits, fun h htype hparameter => ?_⟩
    have hinfo : SctpTransport.prInfo r = .ok (.ttl, parameter) := by
      simp only [SctpTransport.prInfo, hlifeTime, hcount, Except.map]
    rw [hinfo]
    simp [OpenMessage.announced, htype, hparameter, channelPartialReliableTimed,
      channelPartialReliableRexmit]
  · next n hlifeTime hretransmits =>
    obtain ⟨rfl, hcount, hfits⟩ := map_toUint32_eq_ok hparameters
    refine ⟨by simp, hfits, fun h htype hparameter => ?_⟩
    have hinfo : SctpTransport.prInfo r = .ok (.rtx, parameter) := by
      simp only [SctpTransport.prInfo, hlifeTime, hretransmits, hcount, Except.map]
    rw [hinfo]
    simp [OpenMessage.announced, htype, hparameter]
  · next hlifeTime hretransmits =>
    split at hparameters
    · next value hdeprecated hrexmit =>
      obtain ⟨rfl, hcount, hfits⟩ := map_toUint32_eq_ok hparameters
      -- not negative, so that the clamping changes nothing
      have hnonneg : 0 ≤ value := by
        by_contra hneg
        exact hr ⟨hlifeTime, hretransmits, hdeprecated, value, by omega, hrexmit⟩
      rw [max_eq_left hnonneg] at hcount
      refine ⟨by simp, hfits, fun h htype hparameter => ?_⟩
      have hinfo : SctpTransport.prInfo r = .ok (.rtx, parameter) := by
        simp only [SctpTransport.prInfo, hlifeTime, hretransmits, hdeprecated, hrexmit, hcount,
          Except.map]
      rw [hinfo]
      simp [OpenMessage.announced, htype, hparameter]
    · next count hdeprecated hrexmit =>
      obtain ⟨rfl, hcount, hfits⟩ := map_toUint32_eq_ok hparameters
      refine ⟨by simp, hfits, fun h htype hparameter => ?_⟩
      have hinfo : SctpTransport.prInfo r = .ok (.ttl, parameter) := by
        simp only [SctpTransport.prInfo, hlifeTime, hretransmits, hdeprecated, hrexmit, hcount,
          Except.map]
      rw [hinfo]
      simp [OpenMessage.announced, htype, hparameter, channelPartialReliableTimed,
        channelPartialReliableRexmit]
    · next rexmit hdeprecated =>
      obtain ⟨rfl, rfl⟩ := Prod.mk.inj (Except.ok.inj hparameters)
      refine ⟨by simp, by omega, fun h htype hparameter => ?_⟩
      -- neither end gives up on a message
      have hinfo : SctpTransport.prInfo r = .ok (.none, 0) := by
        simp only [SctpTransport.prInfo, hlifeTime, hretransmits, hdeprecated]
      rw [hinfo]
      simp [OpenMessage.announced, htype, channelReliable, channelPartialReliableTimed,
        channelPartialReliableRexmit]
    · cases hparameters

/-- A negative number of retransmissions is announced as zero, and refused by `trySendMessage`. -/
theorem prInfo_of_negativeRexmit {r : Reliability} (hr : r.NegativeRexmit) :
    openParameters r = .ok (channelPartialReliableRexmit, 0) ∧
      ∃ e, SctpTransport.prInfo r = .error e := by
  obtain ⟨hlifeTime, hretransmits, htype, value, hneg, hrexmit⟩ := hr
  constructor
  · -- `open` clamps the number
    simp only [openParameters, hlifeTime, hretransmits, htype, hrexmit, max_eq_right hneg.le]
    rfl
  · -- `trySendMessage` does not
    have hrange : ¬(0 ≤ value ∧ value ≤ 4294967295) := by omega
    simp only [SctpTransport.prInfo, hlifeTime, hretransmits, htype, hrexmit, toUint32,
      if_neg hrange]
    exact ⟨_, rfl⟩

/-- `openBytes` throws nothing exactly when the reliability is accepted and both lengths fit. -/
theorem openBytes_eq_ok {ch : DataChannel} {data : List UInt8} (h : ch.openBytes = .ok data) :
    ∃ channelType parameter, openParameters ch.mReliability = .ok (channelType, parameter) ∧
      ch.mLabel.length ≤ 65535 ∧ ch.mProtocol.length ≤ 65535 := by
  unfold openBytes at h
  cases hparameters : openParameters ch.mReliability with
  | error e =>
    rw [hparameters] at h
    cases h
  | ok parameters =>
    rw [hparameters] at h
    cases hlabel : toUint16 ch.mLabel.length with
    | error e =>
      rw [hlabel] at h
      cases h
    | ok labelLength =>
      rw [hlabel] at h
      cases hprotocol : toUint16 ch.mProtocol.length with
      | error e =>
        rw [hprotocol] at h
        cases h
      | ok protocolLength =>
        exact ⟨parameters.1, parameters.2, rfl, (toUint16_eq_ok_iff.1 hlabel).2,
          (toUint16_eq_ok_iff.1 hprotocol).2⟩

/-- The header of the OPEN message, with the unordered flag set in the channel type. -/
def openHeader (ch : DataChannel) (channelType : UInt8) (parameter : ℕ) : OpenMessage where
  type := messageOpen
  channelType := if ch.mReliability.unordered then channelType ||| 0x80 else channelType
  priority := 0
  reliabilityParameter := parameter
  labelLength := ch.mLabel.length
  protocolLength := ch.mProtocol.length

/-- The first byte decides: an OPEN message goes to `processOpenMessage`. -/
theorem incoming_of_messageOpen {ch : DataChannel} {message : Message}
    (hclosed : ch.mIsClosed = false) (htype : message.type = .control)
    (hhead : message.data.head? = some messageOpen) :
    ch.incoming message = ch.processOpenMessage message := by
  simp only [incoming, hclosed, htype, hhead, Bool.false_eq_true, if_false, if_true]

/-- The OPEN message is read by the peer as it was announced. -/
theorem incoming_openHeader {ch : DataChannel} {channelType : UInt8} {parameter : ℕ}
    (hfits : parameter < 256 ^ 4) (hlabel : ch.mLabel.length ≤ 65535)
    (hprotocol : ch.mProtocol.length ≤ 65535) {data : List UInt8}
    (hdata : data = (ch.openHeader channelType parameter).toBytes ++ ch.mLabel ++ ch.mProtocol) :
    OpenMessage.read data = ch.openHeader channelType parameter ∧
      ∀ stream messageStream,
        ({ makeIncoming with mStream := some stream }.incoming
          { data, type := .control, stream := messageStream }).channel =
        { makeIncoming with
          mStream := some stream
          mLabel := ch.mLabel
          mProtocol := ch.mProtocol
          mReliability := announcedReliability (ch.openHeader channelType parameter)
          mIsOpen := true } := by
  have hh : (ch.openHeader channelType parameter).Fits :=
    ⟨by simp [openHeader], hfits, by show ch.mLabel.length < _; omega,
      by show ch.mProtocol.length < _; omega⟩
  constructor
  · rw [hdata, List.append_assoc, OpenMessage.read_toBytes_append _ hh]
  · intro stream messageStream
    -- its first byte takes it to `processOpenMessage`
    let message : Message := { data, type := .control, stream := messageStream }
    have hhead : message.data.head? = some messageOpen := by
      show data.head? = _
      rw [hdata]
      rfl
    rw [incoming_of_messageOpen rfl rfl hhead]
    exact (processOpenMessage_of_layout { makeIncoming with mStream := some stream } rfl
      rfl rfl _ hh ch.mLabel ch.mProtocol rfl rfl message hdata).2

/-- When the tables agree, both ends apply what is announced. -/
theorem agrees_of_prInfo {ch : DataChannel} {channelType : UInt8} {parameter : ℕ}
    (hkind : ch.kind = .outgoing) {stream : ℕ} (hstream : ch.mStream = some stream)
    (hparameters : openParameters ch.mReliability = .ok (channelType, parameter))
    (hlabel : ch.mLabel.length ≤ 65535) (hprotocol : ch.mProtocol.length ≤ 65535)
    (hr : ¬ch.mReliability.NegativeRexmit) : ch.Agrees := by
  obtain ⟨htype, hfits, hinfo⟩ := prInfo_of_openParameters hparameters hr
  obtain ⟨hmask, hflag⟩ := channelType_masks ch.mReliability.unordered htype
  have hbytes := openBytes_eq ch hparameters hlabel hprotocol
  let message : Message :=
    { data := (ch.openHeader channelType parameter).toBytes ++ ch.mLabel ++ ch.mProtocol
      type := .control, stream }
  have hopen : ch.openOn =
      { channel := { ch with mSctpTransport := true }, effects := [.send message] } := by
    simp [openOn, hkind, openLocked, hstream, hbytes, Except.map, message, openHeader]
  have hdata : message.data =
      (ch.openHeader channelType parameter).toBytes ++ ch.mLabel ++ ch.mProtocol := rfl
  obtain ⟨hread, hincoming⟩ := incoming_openHeader hfits hlabel hprotocol hdata
  right
  refine ⟨message, by rw [hopen], ?_, fun stream' => ?_⟩
  · rw [hopen, hread]
    exact applies_of_prInfo (.inl (by simp [hkind])) hflag.symm (hinfo _ hmask rfl)
  · rw [hread, hincoming stream' stream]
    obtain ⟨hinfo', hunordered⟩ :=
      prInfo_announcedReliability (ch.openHeader channelType parameter) hfits
    exact applies_of_prInfo (.inr fun c hc => hc) hunordered hinfo'

/-- A message that the open channel lets pass makes `trySendMessage` throw. -/
theorem not_applies_of_prInfo {ch : DataChannel} {p : Policy} (hclosed : ch.mIsClosed = false)
    (htransport : ch.mSctpTransport = true) {stream : ℕ} (hstream : ch.mStream = some stream)
    {e : Exception} (hinfo : SctpTransport.prInfo ch.mReliability = .error e) :
    ¬ch.Applies (fun _ => True) p := by
  intro happlies
  -- the ACK message opens the channel
  let ack : Message := { data := [messageAck], type := .control }
  have hack : ch.calls [.incoming ack] = { ch with mIsOpen := true } := by
    simp [calls, call, incoming, hclosed, ack, messageAck, messageOpen]
  have hsent : (ch.calls [.incoming ack]).outgoingLocked 0 { data := [], type := .string } =
      .ok { data := [], type := .string, stream, reliability := some ch.mReliability } := by
    rw [hack]
    simp [outgoingLocked, hclosed, htransport, hstream, Message.size]
  obtain ⟨⟨t', spa, haccepted, -⟩, -⟩ := happlies [.incoming ack] (fun _ _ => trivial)
    (by rw [hack]) 0 _ _ (.inl rfl) hsent
    { mState := .connected, mMaxMessageSize := 0
      mSendQueue := { mLimit := 0, mAmountFunction := messageSizeFunc } } rfl
  simp [SctpTransport.trySendMessage, SctpTransport.sendvSpa, hinfo, Except.map] at haccepted

/-- An announced reliability with a negative number of retransmissions is not applied. -/
theorem not_agrees_of_negativeRexmit {ch : DataChannel} (hkind : ch.kind = .outgoing)
    (hclosed : ch.mIsClosed = false) {stream : ℕ} (hstream : ch.mStream = some stream)
    (hr : ch.mReliability.NegativeRexmit) (hlabel : ch.mLabel.length ≤ 65535)
    (hprotocol : ch.mProtocol.length ≤ 65535) : ¬ch.Agrees := by
  obtain ⟨hparameters, e, hinfo⟩ := prInfo_of_negativeRexmit hr
  have hbytes := openBytes_eq ch hparameters hlabel hprotocol
  have hopen : ch.openOn.thrown = none ∧
      ch.openOn.channel = { ch with mSctpTransport := true } := by
    simp [openOn, hkind, openLocked, hstream, hbytes, Except.map]
  rintro (⟨e, hthrown⟩ | ⟨message, -, happlies, -⟩)
  · rw [hopen.1] at hthrown
    cases hthrown
  · revert happlies
    rw [hopen.2]
    exact not_applies_of_prInfo hclosed rfl hstream hinfo

/-- **Announced and applied reliability.** They agree unless the deprecated `rexmit` is negative and
`open` does not throw for another reason. -/
theorem agrees_iff_not_negativeRexmit {label protocol : List UInt8} {r : Reliability}
    {ch : DataChannel} (hmake : make .outgoing label protocol r = .ok ch) (stream : ℕ) :
    Agrees { ch with mStream := some stream } ↔
      ¬(r.NegativeRexmit ∧ label.length ≤ 65535 ∧ protocol.length ≤ 65535) := by
  unfold make at hmake
  split_ifs at hmake
  obtain rfl := Except.ok.inj hmake
  constructor
  · rintro hagrees ⟨hnegative, hlabel, hprotocol⟩
    exact not_agrees_of_negativeRexmit rfl rfl rfl hnegative hlabel hprotocol hagrees
  · intro hr
    let ch : DataChannel :=
      { kind := .outgoing, mLabel := label, mProtocol := protocol, mReliability := r
        mStream := some stream }
    rcases openLocked_cases ch with ⟨e, hopen⟩ | ⟨stream', data, hstream, hbytes, -⟩
    · have hthrown : ch.openOn.thrown = some e := by
        rw [openOn]
        simp only [hopen, ch]
      exact .inl ⟨e, hthrown⟩
    · obtain ⟨channelType, parameter, hparameters, hlabel, hprotocol⟩ := openBytes_eq_ok hbytes
      exact agrees_of_prInfo rfl hstream hparameters hlabel hprotocol fun hnegative =>
        hr ⟨hnegative, hlabel, hprotocol⟩

/-- A channel with at most three retransmissions by the deprecated fields. -/
theorem agrees_threeRetransmits :
    Agrees
      { kind := .outgoing, mLabel := [65], mProtocol := [], mStream := some 2
        mReliability := { typeDeprecated := .rexmit, rexmit := .int 3 } } := by
  let r : Reliability := { typeDeprecated := .rexmit, rexmit := .int 3 }
  have hmake : make .outgoing [65] [] r =
      .ok { kind := .outgoing, mLabel := [65], mProtocol := [], mReliability := r } := rfl
  refine (agrees_iff_not_negativeRexmit hmake 2).2 ?_
  rintro ⟨⟨-, -, -, value, hneg, hvalue⟩, -⟩
  obtain rfl := Reliability.Rexmit.int.inj hvalue
  omega

/-- A channel with the deprecated number of retransmissions `-1`: announced as zero, its first
message is refused. -/
theorem not_agrees_negativeRexmit :
    ¬∀ (label protocol : List UInt8) (r : Reliability) (ch : DataChannel) (stream : ℕ),
      make .outgoing label protocol r = .ok ch → Agrees { ch with mStream := some stream } := by
  intro h
  let r : Reliability := { typeDeprecated := .rexmit, rexmit := .int (-1) }
  have hnegative : r.NegativeRexmit := ⟨rfl, rfl, rfl, -1, by omega, rfl⟩
  exact not_agrees_of_negativeRexmit rfl rfl rfl hnegative (by decide) (by decide)
    (h [] [] r _ 2 rfl)

end DataChannel

end Rtc
