import QuicRtc.Callbacks.Defs
import QuicRtc.LocalDescription.Defs
import QuicRtc.Queue

/-!
# Receiving on a channel

What the user of a channel without a message callback receives: the receive queues of `DataChannel`,
`Track` and `WebSocket`, the messages that come into them, and `receive`, `peek` and
`availableAmount`, which each of the classes has for itself.

The queue holds shared pointers. The payload may be moved out of a message while its pointer stays
in the queue, so that a conversion also says what is left of the message. A control message in the
queue of a track may be shared with other tracks, and no operation changes it.
-/

namespace Rtc

/-- `message_variant`. -/
inductive MessageVariant where
  | binary (data : List UInt8)
  | string (data : List UInt8)
  deriving DecidableEq, Repr

/-- `to_variant(const Message &)`. -/
def toVariant (message : Message) : MessageVariant :=
  match message.type with
  | .string => .string message.data
  | .binary => .binary message.data
  | .control => .binary message.data
  | .reset => .binary message.data

/-- What `to_variant(Message &&)` leaves of the message: a string is copied, and anything else moved
out. The variant it returns is that of `toVariant`. -/
def Message.movedOut (message : Message) : Message :=
  match message.type with
  | .string => message
  | .binary => { message with data := [] }
  | .control => { message with data := [] }
  | .reset => { message with data := [] }

/-- The classes of channels, with what their `incoming` looks at. -/
inductive Channel.Object where
  | dataChannel (channel : DataChannel)
  | track (direction : LocalDescription.Direction)
  | webSocket
  deriving DecidableEq, Repr

/-- A channel. -/
structure Channel where
  object : Channel.Object
  mRecvQueue : Queue Message

namespace Channel

/-- The amount function of the queue. -/
def Object.amountFunction : Object → Message → ℕ
  | .dataChannel _ => messageSizeFunc
  | .track _ => Message.size
  | .webSocket => messageSizeFunc

/-- A channel as constructed. -/
def make (object : Object) : Channel where
  object := object
  mRecvQueue := { mLimit := Callbacks.recvQueueLimit, mAmountFunction := object.amountFunction }

/-! ## Reading -/

/-- `Track::trackMessageToVariant`: what it leaves of the message. -/
def trackMessage (message : Message) : Message :=
  match message.type with
  | .control => message
  | .binary => message.movedOut
  | .string => message.movedOut
  | .reset => message.movedOut

/-- What `peek` leaves of the message at the head. -/
def Object.peeked : Object → Message → Message
  | .dataChannel _, message => message
  | .track _, message => trackMessage message
  | .webSocket, message => message.movedOut

/-- `receive`: the queue gives the pointer away, and nothing is left of the message. -/
def receive (c : Channel) : Option MessageVariant × Channel :=
  (c.mRecvQueue.pop.1.map toVariant, { c with mRecvQueue := c.mRecvQueue.pop.2 })

/-- `peek`: the pointer at the head stays, with what the conversion leaves of the message. -/
def peek (c : Channel) : Option MessageVariant × Channel :=
  match c.mRecvQueue.peek with
  | none => (none, c)
  | some message =>
    (some (toVariant message),
      { c with
        mRecvQueue :=
          { c.mRecvQueue with
            mQueue := c.object.peeked message :: c.mRecvQueue.mQueue.tail } })

/-- `availableAmount`. -/
def availableAmount (c : Channel) : UInt64 := c.mRecvQueue.mAmount

/-! ## Incoming messages -/

/-- Push a message. `none` where `push` waits for room. -/
def push (c : Channel) (message : Message) : Option Channel :=
  if c.mRecvQueue.canPush then some { c with mRecvQueue := c.mRecvQueue.push message } else none

/-- The messages that `DataChannel::incoming` pushes. -/
def available (effects : List DataChannel.Effect) : List Message :=
  effects.filterMap fun
    | .available message => some message
    | _ => none

/-- The loop of `Track::incoming`: what comes to a full queue is dropped. -/
def pushAll (c : Channel) : List Message → Channel
  | [] => c
  | message :: messages =>
    if c.mRecvQueue.full then c
    else { c with mRecvQueue := c.mRecvQueue.push message }.pushAll messages

/-- `incoming`, for a message or the null pointer. The media handlers of a track, if there are any,
take the message to `chain [message]`, or throw. `WebSocket::remoteClose`, for the null pointer,
does not touch the queue. -/
def incoming (c : Channel) (message : Option Message)
    (chain : List Message → Option (List Message)) : Option Channel :=
  match c.object, message with
  | _, none => some c
  | .dataChannel channel, some message =>
    let outcome := channel.incoming message
    (available outcome.effects).foldlM push { c with object := .dataChannel outcome.channel }
  | .track direction, some message =>
    if (direction = .sendOnly ∨ direction = .inactive) ∧ message.type ≠ .control then some c
    else
      match chain [message] with
      | none => some c
      | some messages => some (c.pushAll messages)
  | .webSocket, some message =>
    if message.type = .string ∨ message.type = .binary then c.push message else some c

end Channel

end Rtc
