import QuicRtc.Lib.BigEndian
import QuicRtc.Message

/-!
# Data channels

The channel objects of `impl/datachannel.cpp`: the negotiated `DataChannel`, the
`OutgoingDataChannel` that announces itself with an OPEN message, and the `IncomingDataChannel`
created when an OPEN message arrives.

A call on a channel may throw halfway, with part of its writes done. Its result is therefore an
`Outcome`: the channel after the call, the calls it made on the transport and the callbacks it
triggered, in order, and the exception it ended with, if any. Calls on the transport are taken to
return normally. The receive queue is represented by the effect `available` (a message pushed to
the queue and announced).
-/

namespace Rtc

/-! ## Establishment messages (RFC 8832) -/

/-- `MESSAGE_ACK`. -/
def messageAck : UInt8 := 0x02

/-- `MESSAGE_OPEN`. -/
def messageOpen : UInt8 := 0x03

/-- `CHANNEL_RELIABLE`. -/
def channelReliable : UInt8 := 0x00

/-- `CHANNEL_PARTIAL_RELIABLE_REXMIT`. -/
def channelPartialReliableRexmit : UInt8 := 0x01

/-- `CHANNEL_PARTIAL_RELIABLE_TIMED`. -/
def channelPartialReliableTimed : UInt8 := 0x02

/-- The packed header `OpenMessage`, with its integers in host order. The label and the protocol
follow it on the wire. -/
structure OpenMessage where
  type : UInt8
  channelType : UInt8
  priority : ℕ
  reliabilityParameter : ℕ
  labelLength : ℕ
  protocolLength : ℕ
  deriving DecidableEq, Repr

namespace OpenMessage

/-- `sizeof(OpenMessage)`. -/
def sizeOf : ℕ := 12

/-- The header as laid out in the buffer, integers converted by `htons` and `htonl`. -/
def toBytes (h : OpenMessage) : List UInt8 :=
  [h.type, h.channelType] ++ BigEndian.encode 2 h.priority ++
    BigEndian.encode 4 h.reliabilityParameter ++ BigEndian.encode 2 h.labelLength ++
    BigEndian.encode 2 h.protocolLength

/-- The header read from the first twelve bytes, integers converted by `ntohs` and `ntohl`. -/
def read (data : List UInt8) : OpenMessage where
  type := data.getD 0 0
  channelType := data.getD 1 0
  priority := BigEndian.decode ((data.drop 2).take 2)
  reliabilityParameter := BigEndian.decode ((data.drop 4).take 4)
  labelLength := BigEndian.decode ((data.drop 8).take 2)
  protocolLength := BigEndian.decode ((data.drop 10).take 2)

end OpenMessage

/-- `DataChannel::IsOpenMessage`. -/
def isOpenMessage (m : Message) : Bool :=
  m.type = .control && m.data.head? = some messageOpen

/-! ## Channel objects -/

/-- The dynamic type of a channel. -/
inductive DataChannel.Kind where
  | negotiated
  | outgoing
  | incoming
  deriving DecidableEq, Repr

/-- The state of a `DataChannel`. `mSctpTransport` says whether the weak pointer to the transport
locks. -/
structure DataChannel where
  kind : DataChannel.Kind
  mLabel : List UInt8
  mProtocol : List UInt8
  mReliability : Reliability
  mSctpTransport : Bool := false
  mStream : Option ℕ := none
  mIsOpen : Bool := false
  mIsClosed : Bool := false
  deriving DecidableEq, Repr

namespace DataChannel

/-- What a call on a channel does outside the channel. -/
inductive Effect where
  | send (message : Message)
  | closeStream (stream : ℕ)
  | available (message : Message)
  | triggerOpen
  | triggerClosed
  deriving DecidableEq, Repr

/-- The result of a call on a channel. -/
structure Outcome where
  channel : DataChannel
  effects : List Effect := []
  thrown : Option Exception := none
  deriving DecidableEq, Repr

/-- The message pushed by `SctpTransport::closeStream`. -/
def resetMessage (stream : ℕ) : Message := { data := [], type := .reset, stream }

/-- The message an effect hands to the transport, if any. -/
def Effect.message : Effect → Option Message
  | .send message => some message
  | .closeStream stream => some (resetMessage stream)
  | .available _ => none
  | .triggerOpen => none
  | .triggerClosed => none

/-- The messages a call hands to the transport, in order. -/
def Outcome.messages (outcome : Outcome) : List Message := outcome.effects.filterMap Effect.message

/-- The constructor of `DataChannel`, shared by the negotiated and the outgoing channels. -/
def make (kind : Kind) (label protocol : List UInt8) (reliability : Reliability) :
    Except Exception DataChannel :=
  if reliability.maxPacketLifeTime.isSome ∧ reliability.maxRetransmits.isSome then
    .error (.invalidArgument "Both maxPacketLifeTime and maxRetransmits are set")
  else
    .ok { kind, mLabel := label, mProtocol := protocol, mReliability := reliability }

/-- `IncomingDataChannel::IncomingDataChannel`: the transport is known from the start, everything
else comes from the OPEN message. -/
def makeIncoming : DataChannel where
  kind := .incoming
  mLabel := []
  mProtocol := []
  mReliability := {}
  mSctpTransport := true

/-- `DataChannel::isOpen`. -/
def isOpen (ch : DataChannel) : Bool := !ch.mIsClosed && ch.mIsOpen

/-- `DataChannel::isClosed`. -/
def isClosed (ch : DataChannel) : Bool := ch.mIsClosed

/-- `DataChannel::assignStream`. -/
def assignStream (ch : DataChannel) (stream : ℕ) : Except Exception DataChannel :=
  match ch.mStream with
  | some _ => .error (.logicError "DataChannel already has a stream assigned")
  | none => .ok { ch with mStream := some stream }

/-- `DataChannel::close`, also run by the destructor and by `remoteClose`. -/
def close (ch : DataChannel) : Outcome :=
  if ch.mIsClosed then { channel := ch }
  else
    { channel := { ch with mIsClosed := true }
      effects :=
        (match ch.mSctpTransport, ch.mStream with
          | true, some stream => [.closeStream stream]
          | _, _ => []) ++ [.triggerClosed] }

/-! ### Opening -/

/-- The channel type (without the unordered flag) and the reliability parameter announced by
`OutgoingDataChannel::open`. -/
def openParameters (r : Reliability) : Except Exception (UInt8 × ℕ) :=
  match r.maxPacketLifeTime, r.maxRetransmits with
  | some count, _ => (toUint32 count).map (channelPartialReliableTimed, ·)
  | none, some n => (toUint32 n).map (channelPartialReliableRexmit, ·)
  | none, none =>
    match r.typeDeprecated, r.rexmit with
    | .rexmit, .int value => (toUint32 (max value 0)).map (channelPartialReliableRexmit, ·)
    | .timed, .milliseconds count => (toUint32 count).map (channelPartialReliableTimed, ·)
    | .reliable, _ => .ok (channelReliable, 0)
    -- `std::get` on a variant that holds the other alternative
    | _, _ => .error .badVariantAccess

/-- The bytes of the OPEN message built by `OutgoingDataChannel::open`. -/
def openBytes (ch : DataChannel) : Except Exception (List UInt8) := do
  let (channelType, reliabilityParameter) ← openParameters ch.mReliability
  let labelLength ← toUint16 ch.mLabel.length
  let protocolLength ← toUint16 ch.mProtocol.length
  return OpenMessage.toBytes
      { type := messageOpen
        channelType := if ch.mReliability.unordered then channelType ||| 0x80 else channelType
        priority := 0
        reliabilityParameter, labelLength, protocolLength }
    ++ ch.mLabel ++ ch.mProtocol

/-- The OPEN message of a reliable channel without a label or a protocol. -/
def plainOpenMessage (stream : ℕ) : Message where
  data := OpenMessage.toBytes ⟨messageOpen, channelReliable, 0, 0, 0, 0⟩
  type := .control
  stream := stream

/-- The first part of `OutgoingDataChannel::open`, run under the channel's lock: publish the
transport and build the OPEN message. -/
def openLocked (ch : DataChannel) : DataChannel × Except Exception Message :=
  ({ ch with mSctpTransport := true },
    match ch.mStream with
    | none => .error (.runtimeError "DataChannel has no stream assigned")
    | some stream => ch.openBytes.map fun data => { data, type := .control, stream })

/-- `open`, dispatched on the dynamic type. Only an outgoing channel sends an OPEN message; an
incoming channel ignores the call. -/
def openOn (ch : DataChannel) : Outcome :=
  match ch.kind with
  | .negotiated =>
    let ch' := { ch with mSctpTransport := true }
    -- `exchange` is reached only if the channel is not closed
    if !ch.mIsClosed && !ch.mIsOpen then
      { channel := { ch' with mIsOpen := true }, effects := [.triggerOpen] }
    else { channel := ch' }
  | .outgoing =>
    match ch.openLocked with
    | (ch', .ok message) => { channel := ch', effects := [.send message] }
    | (ch', .error e) => { channel := ch', thrown := some e }
  | .incoming => { channel := ch }

/-! ### Receiving -/

/-- The conversion of a 32-bit unsigned value to `int`. -/
def toInt (p : ℕ) : ℤ := if p < 2147483648 then p else (p : ℤ) - 4294967296

/-- The reliability written by `IncomingDataChannel::processOpenMessage`, deprecated mirror fields
included. -/
def announcedReliability (h : OpenMessage) : Reliability :=
  let base : Reliability := { unordered := (h.channelType &&& 0x80) != 0 }
  if h.channelType &&& 0x7F = channelPartialReliableRexmit then
    { base with
      maxRetransmits := some h.reliabilityParameter
      typeDeprecated := .rexmit
      rexmit := .int (toInt h.reliabilityParameter) }
  else if h.channelType &&& 0x7F = channelPartialReliableTimed then
    { base with
      maxPacketLifeTime := some h.reliabilityParameter
      typeDeprecated := .timed
      rexmit := .milliseconds h.reliabilityParameter }
  else base

/-- The ACK message answering an OPEN message. -/
def ackMessage (stream : ℕ) : Message := { data := [messageAck], type := .control, stream }

/-- `IncomingDataChannel::processOpenMessage`. -/
def processOpenMessageIncoming (ch : DataChannel) (message : Message) : Outcome :=
  if !ch.mSctpTransport then
    { channel := ch, thrown := some (.logicError "DataChannel has no transport") }
  else
    match ch.mStream with
    | none => { channel := ch, thrown := some (.logicError "DataChannel has no stream assigned") }
    | some stream =>
      if message.size < OpenMessage.sizeOf then
        { channel := ch
          thrown := some (.invalidArgument "DataChannel open message too small") }
      else
        let header := OpenMessage.read message.data
        if message.size < OpenMessage.sizeOf + (header.labelLength + header.protocolLength) then
          { channel := ch
            thrown := some (.invalidArgument "DataChannel open message truncated") }
        else
          let rest := message.data.drop OpenMessage.sizeOf
          { channel :=
              { ch with
                mLabel := rest.take header.labelLength
                mProtocol := (rest.drop header.labelLength).take header.protocolLength
                mReliability := announcedReliability header
                mIsOpen := true }
            effects := .send (ackMessage stream) :: if ch.mIsOpen then [] else [.triggerOpen] }

/-- `processOpenMessage`, dispatched on the dynamic type. Only an incoming channel heeds it. -/
def processOpenMessage (ch : DataChannel) (message : Message) : Outcome :=
  match ch.kind with
  | .negotiated => { channel := ch }
  | .outgoing => { channel := ch }
  | .incoming => ch.processOpenMessageIncoming message

/-- `DataChannel::incoming`. -/
def incoming (ch : DataChannel) (message : Message) : Outcome :=
  if ch.mIsClosed then { channel := ch }
  else
    match message.type with
    | .control =>
      match message.data.head? with
      | none => { channel := ch }
      | some b =>
        if b = messageOpen then ch.processOpenMessage message
        else if b = messageAck then
          { channel := { ch with mIsOpen := true }
            effects := if ch.mIsOpen then [] else [.triggerOpen] }
        else { channel := ch }
    | .reset => ch.close
    | .string => { channel := ch, effects := [.available message] }
    | .binary => { channel := ch, effects := [.available message] }

/-! ### Sending -/

/-- The part of `DataChannel::outgoing` run under the channel's lock: check that the message may be
sent and stamp it with its stream and reliability. Before the ACK has been received the
reliability is left unset, so that the message is sent ordered. -/
def outgoingLocked (ch : DataChannel) (maxMessageSize : ℕ) (message : Message) :
    Except Exception Message :=
  if ch.mIsClosed then .error (.runtimeError "DataChannel is closed")
  else if !ch.mSctpTransport then .error (.runtimeError "DataChannel not open")
  else
    match ch.mStream with
    | none => .error (.logicError "DataChannel has no stream assigned")
    | some stream =>
      if message.size > maxMessageSize then
        .error (.invalidArgument "Message size exceeds limit")
      else
        .ok { message with
          reliability := if ch.mIsOpen then some ch.mReliability else none
          stream }

end DataChannel

end Rtc
