import Mathlib.Data.List.TakeDrop
import QuicRtc.Lib.Transition
import QuicRtc.Message
import QuicRtc.Transport

/-!
# The SCTP receive path

The receiving half of `impl/sctptransport.cpp`: `doRecv`, which puts the chunks returned by
`usrsctp_recvv` together, and `processData`, which puts the pieces of the deprecated partial
messages together and delivers user messages.

The buffers are lists over a type of bytes with a zero, the byte that `resize` pads with. The code
is the case of `UInt8`; bytes that also say where they come from follow the same functions.

`doRecv` is a machine with one step for each point where the outside world acts: the state read by
the test of the loop and the answer of `usrsctp_recvv`. Other threads and `processNotification`
change that state, so its value is part of the event. `processNotification` does not touch the
buffers of the receive path; its calls are recorded.
-/

namespace Rtc.SctpTransport

/-- `PayloadId`, the payload protocol identifiers of `sctptransport.hpp`. -/
inductive PayloadId where
  | control
  | string
  | binaryPartial
  | binary
  | stringPartial
  | stringEmpty
  | binaryEmpty
  | unknown (value : ℕ)
  deriving DecidableEq, Repr

/-- The conversion `PayloadId(ntohl(info.rcv_ppid))`. -/
def PayloadId.ofNat (value : ℕ) : PayloadId :=
  if value = 50 then .control
  else if value = 51 then .string
  else if value = 52 then .binaryPartial
  else if value = 53 then .binary
  else if value = 54 then .stringPartial
  else if value = 56 then .stringEmpty
  else if value = 57 then .binaryEmpty
  else .unknown value

/-- A message passed to `recv`, from one of the `make_message` calls of `processData`. -/
structure Received (β : Type*) where
  data : List β
  type : Message.Kind
  stream : ℕ
  deriving DecidableEq, Repr

/-- The receive side of an `SctpTransport`. -/
structure Receiver (β : Type*) where
  mMaxMessageSize : ℕ
  mPartialMessage : List β := []
  mPartialNotification : List β := []
  mPartialStringData : List β := []
  mPartialBinaryData : List β := []
  mBytesReceived : ℕ := 0
  deriving DecidableEq, Repr

/-- A record of the association with the fields of its receive info. -/
structure Incoming (β : Type*) where
  data : List β
  sid : ℕ
  ppid : PayloadId
  deriving DecidableEq, Repr

namespace Receiver

variable {β : Type*} [Zero β]

/-- The receive side of a new transport. -/
def fresh (β : Type*) (maxMessageSize : ℕ) : Receiver β := { mMaxMessageSize := maxMessageSize }

/-- `binary::resize`: cut, or pad with zero bytes. -/
def resize (data : List β) (size : ℕ) : List β := data.takeD size 0

/-- `SctpTransport::processData`: the receiver afterwards and the message passed to `recv`. -/
def processData (r : Receiver β) (data : List β) (sid : ℕ) (ppid : PayloadId) :
    Receiver β × Option (Received β) :=
  match ppid with
  | .control => (r, some { data, type := .control, stream := sid })
  | .stringPartial =>
    ({ r with mPartialStringData := resize (r.mPartialStringData ++ data) r.mMaxMessageSize }, none)
  | .string =>
    if r.mPartialStringData.isEmpty then
      ({ r with mBytesReceived := r.mBytesReceived + data.length },
        some { data, type := .string, stream := sid })
    else
      let message := resize (r.mPartialStringData ++ data) r.mMaxMessageSize
      ({ r with
          mBytesReceived := r.mBytesReceived + message.length
          mPartialStringData := [] },
        some { data := message, type := .string, stream := sid })
  | .stringEmpty =>
    ({ r with mPartialStringData := [] },
      some { data := r.mPartialStringData, type := .string, stream := sid })
  | .binaryPartial =>
    ({ r with mPartialBinaryData := resize (r.mPartialBinaryData ++ data) r.mMaxMessageSize }, none)
  | .binary =>
    if r.mPartialBinaryData.isEmpty then
      ({ r with mBytesReceived := r.mBytesReceived + data.length },
        some { data, type := .binary, stream := sid })
    else
      let message := resize (r.mPartialBinaryData ++ data) r.mMaxMessageSize
      ({ r with
          mBytesReceived := r.mBytesReceived + message.length
          mPartialBinaryData := [] },
        some { data := message, type := .binary, stream := sid })
  | .binaryEmpty =>
    ({ r with mPartialBinaryData := [] },
      some { data := r.mPartialBinaryData, type := .binary, stream := sid })
  | .unknown _ => (r, none)

/-- `processData` for the messages of a sequence: the receiver afterwards and what was passed to
`recv`, in order. -/
def processAll (r : Receiver β) : List (Incoming β) → Receiver β × List (Received β)
  | [] => (r, [])
  | e :: es =>
    let (r', message) := r.processData e.data e.sid e.ppid
    let (r'', messages) := r'.processAll es
    (r'', message.toList ++ messages)

end Receiver

/-! ## The machine of `doRecv` -/

/-- The fields of `sctp_rcvinfo` that `doRecv` reads, `rcv_ppid` in host order. -/
structure RcvInfo where
  rcvSid : ℕ
  rcvPpid : ℕ
  deriving DecidableEq, Repr

/-- What `usrsctp_recvv` returns: a piece of a notification or of a data message with its flags
`MSG_NOTIFICATION` and `MSG_EOR`, and the receive info if `infotype` says that there is one. -/
structure Chunk (β : Type*) where
  buffer : List β
  notification : Bool
  eor : Bool
  info : Option RcvInfo := none
  deriving DecidableEq, Repr

/-- The outcome of `usrsctp_recvv`: `len > 0`, `len == 0`, and `len < 0` with an `errno` that
breaks the loop (`EWOULDBLOCK`, `EAGAIN`, `ECONNRESET`) or another one. -/
inductive RecvvResult (β : Type*) where
  | chunk (chunk : Chunk β)
  | nothing
  | wouldBlock
  | failed (errno : ℕ)
  deriving DecidableEq, Repr

/-- A call made by `doRecv`. -/
inductive RecvCall (β : Type*) where
  | processData (data : List β) (sid : ℕ) (ppid : PayloadId)
  | processNotification (notification : List β)
  deriving DecidableEq, Repr

/-- Where the receive thread is. -/
inductive RecvPoint where
  /-- No `doRecv` is running. -/
  | idle
  /-- At the test of the loop. -/
  | test
  /-- In `usrsctp_recvv`. -/
  | recvv
  deriving DecidableEq, Repr

/-- The receiver, the control point and what can be observed: the calls made by `doRecv` and the
messages passed to `recv`. -/
structure RecvWorld (β : Type*) where
  receiver : Receiver β
  point : RecvPoint := .idle
  calls : List (RecvCall β) := []
  received : List (Received β) := []

/-- What happens outside the code. -/
inductive RecvEvent (β : Type*) where
  /-- The processor starts the task `doRecv`. `mRecvMutex` lets one run at a time. -/
  | doRecv
  /-- The test of the loop reads the state. -/
  | state (state : Transport.State)
  | recvv (result : RecvvResult β)
  deriving DecidableEq, Repr

namespace RecvWorld

variable {β : Type*} [Zero β]

/-- A transport that has received nothing yet. -/
def start (maxMessageSize : ℕ) : RecvWorld β where
  receiver := .fresh β maxMessageSize

/-- The rest of a round of the loop after a chunk of a notification. -/
def onNotification (w : RecvWorld β) (chunk : Chunk β) : RecvWorld β :=
  let notification := w.receiver.mPartialNotification ++ chunk.buffer
  if chunk.eor then
    { w with
      receiver := { w.receiver with mPartialNotification := [] }
      point := .test
      calls := w.calls ++ [.processNotification notification] }
  else
    { w with
      receiver := { w.receiver with mPartialNotification := notification }
      point := .test }

/-- The rest of a round of the loop after a chunk of a data message. -/
def onData (w : RecvWorld β) (chunk : Chunk β) : RecvWorld β :=
  let inserted := w.receiver.mPartialMessage ++ chunk.buffer
  let message :=
    if inserted.length > w.receiver.mMaxMessageSize then
      Receiver.resize inserted w.receiver.mMaxMessageSize
    else inserted
  if chunk.eor then
    let receiver := { w.receiver with mPartialMessage := [] }
    match chunk.info with
    -- the exception is caught behind the loop
    | none => { w with receiver, point := .idle }
    | some info =>
      let ppid := PayloadId.ofNat info.rcvPpid
      let (receiver, delivered) := receiver.processData message info.rcvSid ppid
      { w with
        receiver
        point := .test
        calls := w.calls ++ [.processData message info.rcvSid ppid]
        received := w.received ++ delivered.toList }
  else
    { w with
      receiver := { w.receiver with mPartialMessage := message }
      point := .test }

/-- The rest of a round of the loop of `doRecv`. -/
def onRecvv (w : RecvWorld β) : RecvvResult β → RecvWorld β
  | .chunk chunk => if chunk.notification then w.onNotification chunk else w.onData chunk
  | .nothing => { w with point := .idle }
  | .wouldBlock => { w with point := .idle }
  -- the exception is caught behind the loop
  | .failed _ => { w with point := .idle }

/-- One step. -/
def step (w : RecvWorld β) : RecvEvent β → Option (RecvWorld β)
  | .doRecv => if w.point = .idle then some { w with point := .test } else none
  | .state state =>
    if w.point = .test then
      if state = .disconnected ∨ state = .failed then some { w with point := .idle }
      else some { w with point := .recvv }
    else none
  | .recvv result => if w.point = .recvv then some (w.onRecvv result) else none

end RecvWorld

end Rtc.SctpTransport
