import Mathlib.Data.List.Basic
import QuicRtc.DataChannel.Spec
import QuicRtc.Lib.Transition

/-!
# The callbacks of a data channel

What the user's handlers observe of a channel (`impl/channel.cpp`, `impl/datachannel.cpp`): the open
and closed callbacks store a call that finds no handler and replay it when one is registered, and
messages wait in `mRecvQueue` until the open has been triggered and there is a message handler.
Every assignment of these callbacks, the null ones of `resetCallbacks` included, ends by clearing
the stored call, so that `close` forgets a missed open and a missed closed.

An incoming channel is not known to the user yet. Its open callback is `triggerDataChannel`, which
puts it into `mPendingDataChannels`; `triggerPendingDataChannels` hands it over to the data-channel
callback and triggers the open when that returns, whether or not the channel has been closed
meanwhile. `OutgoingDataChannel::open` does not look whether the channel is closed either, and a
message handler gets its messages even when the open has only been stored.

* `World`: a channel, its callbacks, and what the handlers observed.
* `Protocol`: what they should observe.
* `KeepsProtocol`: the steps after which they still do.

Calls are atomic, except for the data-channel callback, during which the user and the transport go
on. A message pushed to a full queue waits, so that its call is not enabled.
-/

namespace Rtc.Callbacks

/-- What the handlers observe. -/
inductive Observation where
  | open
  | closed
  | message (message : Message)
  deriving DecidableEq, Repr

/-- What `openCallback` calls: the user's handler, or `PeerConnection::triggerDataChannel`. -/
inductive OpenHandler where
  | user
  | triggerDataChannel
  deriving DecidableEq, Repr

/-- `RECV_QUEUE_LIMIT`. -/
def recvQueueLimit : ℕ := 1024

/-- A channel and its callbacks. -/
structure World where
  channel : DataChannel
  mOpenTriggered : Bool := false
  openCallback : Option OpenHandler := none
  /-- A call on `openCallback` is stored. -/
  openStored : Bool := false
  closedCallback : Bool := false
  closedStored : Bool := false
  messageCallback : Bool := false
  mRecvQueue : List Message := []
  /-- The peer connection has a data-channel callback. -/
  dataChannelCallback : Bool := false
  /-- The channel is in `mPendingDataChannels`. -/
  isPending : Bool := false
  /-- The user has got the channel from the data-channel callback. -/
  isHandedOver : Bool := false
  /-- This call of the data-channel callback has not returned. -/
  isRunning : Bool := false
  /-- `close` has been called. -/
  closeCalled : Bool := false
  /-- The messages pushed to `mRecvQueue`. -/
  arrived : List Message := []
  /-- What the handlers observed. -/
  trace : List Observation := []
  /-- The messages passed to the transport before and after `close`. -/
  passed : List Message := []
  passedAfterClose : List Message := []
  deriving DecidableEq, Repr

/-- The calls on a channel, the registrations, and the data-channel callback. -/
inductive Event where
  | openTransport
  | incoming (message : Message)
  | close
  | send (maxMessageSize : ℕ) (message : Message)
  | assignStream (stream : ℕ)
  | onOpen
  | onClosed
  | onMessage
  | onDataChannel (callback : Bool)
  | handOver
  | callbackReturns
  deriving DecidableEq, Repr

namespace World

/-- A handler is called. -/
def observe (w : World) (observation : Observation) : World :=
  { w with trace := w.trace ++ [observation] }

/-- `Channel::flushPendingMessages`. -/
def flushPendingMessages (w : World) : World :=
  if w.mOpenTriggered && w.messageCallback then
    { w with trace := w.trace ++ w.mRecvQueue.map .message, mRecvQueue := [] }
  else w

/-- `openCallback()`. `triggerDataChannel` resets the open callback. -/
def callOpen (w : World) : World :=
  match w.openCallback with
  -- `synchronized_stored_callback` keeps a call that finds no handler
  | none => { w with openStored := true }
  | some .user => w.observe .open
  -- `resetOpenCallback`, then the channel is pushed to `mPendingDataChannels`
  | some .triggerDataChannel =>
    { w with
      mOpenTriggered := false, openCallback := none, openStored := false, isPending := true }

/-- `Channel::triggerOpen`. -/
def triggerOpen (w : World) : World :=
  ({ w with mOpenTriggered := true }.callOpen).flushPendingMessages

/-- `Channel::triggerClosed`. -/
def triggerClosed (w : World) : World :=
  if w.closedCallback then w.observe .closed else { w with closedStored := true }

/-- `Channel::resetCallbacks`. -/
def resetCallbacks (w : World) : World :=
  { w with
    mOpenTriggered := false
    -- the assignments of null clear the stored calls as well
    openCallback := none, openStored := false
    closedCallback := false, closedStored := false
    messageCallback := false }

/-- A message is passed to the transport. -/
def pass (w : World) (message : Message) : World :=
  if w.closeCalled then { w with passedAfterClose := w.passedAfterClose ++ [message] }
  else { w with passed := w.passed ++ [message] }

/-- What a call on the channel does outside of it. -/
def effect (w : World) : DataChannel.Effect → World
  | .send message => w.pass message
  -- `SctpTransport::closeStream` sends a Reset message
  | .closeStream stream => w.pass (DataChannel.resetMessage stream)
  | .available message =>
    { w with
      mRecvQueue := w.mRecvQueue ++ [message]
      arrived := w.arrived ++ [message] }.flushPendingMessages
  | .triggerOpen => w.triggerOpen
  | .triggerClosed => w.triggerClosed

/-- The outcome of a call on the channel. -/
def apply (w : World) (outcome : DataChannel.Outcome) : World :=
  outcome.effects.foldl effect { w with channel := outcome.channel }

/-- `DataChannel::close`. -/
def close (w : World) : World :=
  -- also on a channel that is closed already
  { (w.apply w.channel.close).resetCallbacks with closeCalled := true }

/-- `DataChannel::incoming`. -/
def incoming (w : World) (message : Message) : World :=
  -- a Reset is answered by `close`, which resets the callbacks as well
  if !w.channel.mIsClosed && message.type = .reset then w.close
  else w.apply (w.channel.incoming message)

/-- A message waits for room in the receive queue. -/
def isBlocked (w : World) (message : Message) : Bool :=
  !w.channel.mIsClosed && (message.type = .string || message.type = .binary) &&
    recvQueueLimit ≤ w.mRecvQueue.length

/-- `DataChannel::outgoing`. -/
def send (w : World) (maxMessageSize : ℕ) (message : Message) : World :=
  match w.channel.outgoingLocked maxMessageSize message with
  | .ok message' => w.pass message'
  | .error _ => w

/-- `Channel::onOpen`. -/
def onOpen (w : World) : World :=
  let w := { w with openCallback := some .user }
  if w.openStored then { w.observe .open with openStored := false } else w

/-- `Channel::onClosed`. -/
def onClosed (w : World) : World :=
  let w := { w with closedCallback := true }
  if w.closedStored then { w.observe .closed with closedStored := false } else w

/-- `Channel::onMessage`. -/
def onMessage (w : World) : World := { w with messageCallback := true }.flushPendingMessages

/-- The user knows the channel. -/
def isKnown (w : World) : Bool := w.channel.kind ≠ .incoming || w.isHandedOver

/-- One event. -/
def step (w : World) : Event → Option World
  | .openTransport => some (w.apply w.channel.openOn)
  | .incoming message => if w.isBlocked message then none else some (w.incoming message)
  | .close => some w.close
  | .send maxMessageSize message => some (w.send maxMessageSize message)
  | .assignStream stream =>
    match w.channel.assignStream stream with
    | .ok channel => some { w with channel }
    | .error _ => some w
  | .onOpen => if w.isKnown then some w.onOpen else none
  | .onClosed => if w.isKnown then some w.onClosed else none
  | .onMessage => if w.isKnown then some w.onMessage else none
  | .onDataChannel callback => some { w with dataChannelCallback := callback }
  | .handOver =>
    -- the channel is popped before the callback is called
    if w.isPending && w.dataChannelCallback then
      some { w with isPending := false, isHandedOver := true, isRunning := true }
    else none
  | .callbackReturns =>
    -- `impl->triggerOpen()` after the callback, whatever became of the channel
    if w.isRunning then some { w with isRunning := false }.triggerOpen else none

/-- A channel as constructed. The peer connection sets the open callback of an incoming one. -/
def init (channel : DataChannel) (dataChannelCallback : Bool) : World where
  channel := channel
  openCallback := if channel.kind = .incoming then some .triggerDataChannel else none
  dataChannelCallback := dataChannelCallback

end World

/-- A channel created by the user, or by the peer connection for an incoming stream. -/
def Fresh (channel : DataChannel) : Prop :=
  (∃ kind label protocol reliability, kind ≠ .incoming ∧
      DataChannel.make kind label protocol reliability = .ok channel) ∨
    ∃ stream, channel = { DataChannel.makeIncoming with mStream := some stream }

/-- The message observed, if it is one. -/
def Observation.message? : Observation → Option Message
  | .open => none
  | .closed => none
  | .message m => some m

/-- The messages among what was observed, in order. -/
def delivered (trace : List Observation) : List Message := trace.filterMap Observation.message?

/-- What the handlers of a channel may observe. -/
structure Protocol (w : World) : Prop where
  /-- Open at most once. -/
  openOnce : w.trace.count .open ≤ 1
  /-- Closed at most once. -/
  closedOnce : w.trace.count .closed ≤ 1
  /-- No open after closed. -/
  openFirst : w.trace.Pairwise fun x y => x = .closed → y ≠ .open
  /-- No message before open. -/
  opened : ∀ m, .message m ∈ w.trace → .open ∈ w.trace
  messagesLater : w.trace.Pairwise fun x y => x.message?.isSome → y ≠ .open
  /-- Messages in the order of their arrival, each of them once. -/
  inOrder : delivered w.trace <+: w.arrived
  /-- No message is passed to the transport after `close`. -/
  silent : w.passedAfterClose = []

/-! ## The condition -/

namespace World

/-- The open may be triggered: where there is no handler, no message waits for one, and where there
is one, the closed handler has not been called. -/
def MayOpen (w : World) : Prop :=
  (w.openCallback = none → w.messageCallback = true → w.mRecvQueue = []) ∧
    (w.openCallback = some .user → .closed ∉ w.trace)

instance (w : World) : Decidable w.MayOpen := inferInstanceAs (Decidable (_ ∧ _))

/-- Messages may be flushed: the open has not been triggered, or it is not just stored. -/
def MayFlush (w : World) : Prop := w.mOpenTriggered = true → w.openStored = false

instance (w : World) : Decidable w.MayFlush := inferInstanceAs (Decidable (_ → _))

end World

/-- An ACK message. -/
def isAckMessage (message : Message) : Bool :=
  message.type = .control && message.data.head? = some messageAck

/-- The steps that keep the protocol. -/
def KeepsProtocol (w : World) : Event → Prop
  | .openTransport =>
    (w.channel.kind = .negotiated → w.channel.mIsClosed = false → w.channel.mIsOpen = false →
      w.MayOpen) ∧
    (w.channel.kind = .outgoing → w.channel.mIsClosed = true →
      w.channel.openLocked.2.toOption = none)
  | .incoming message =>
    w.channel.mIsClosed = false →
      (isAckMessage message = true → w.channel.mIsOpen = false → w.MayOpen) ∧
      (message.type = .string ∨ message.type = .binary → w.messageCallback = true → w.MayFlush)
  | .onOpen => w.openStored = true → .closed ∉ w.trace
  | .onMessage => w.mRecvQueue ≠ [] → w.MayFlush
  | .callbackReturns => w.MayOpen
  | _ => True

instance (w : World) : DecidablePred (KeepsProtocol w)
  | .openTransport => inferInstanceAs (Decidable (_ ∧ _))
  | .incoming _ => inferInstanceAs (Decidable (_ → _))
  | .onOpen => inferInstanceAs (Decidable (_ → _))
  | .onMessage => inferInstanceAs (Decidable (_ → _))
  | .callbackReturns => inferInstanceAs (Decidable w.MayOpen)
  | .close => isTrue trivial
  | .send _ _ => isTrue trivial
  | .assignStream _ => isTrue trivial
  | .onClosed => isTrue trivial
  | .onDataChannel _ => isTrue trivial
  | .handOver => isTrue trivial

end Rtc.Callbacks
