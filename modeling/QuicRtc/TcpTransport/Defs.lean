import Mathlib.Data.Int.Notation
import Mathlib.Data.Int.Order.Basic
import QuicRtc.Lib.Transition
import QuicRtc.PollService
import QuicRtc.Queue
import QuicRtc.Transport

/-!
# The TCP send path

The sending half of `impl/tcptransport.cpp`: `send`, `outgoing`, `trySendQueue`, `trySendMessage`,
`updateBufferedAmount` and the `Out` event of `process`.

`updateBufferedAmount` calls the user synchronously, who may call `send` again. As for the SCTP
transport, the functions are a machine with an explicit call stack (`Frame`), cut at the points
where the outside world acts: the answers of `::send` to one call of `trySendMessage` (event `next`)
and the body of the callback (a new call of `send`, or `callbackReturn`).

`mSendMutex` is not recursive. `send` holds it and `process` does not, so that a `send` made by the
callback waits for ever when it is reached through another `send`; such a call is not enabled here.
-/

namespace Rtc

/-- The send side of a `TcpTransport`, and the direction its socket is registered with in the
`PollService`. -/
structure TcpTransport where
  mState : Transport.State
  mSendQueue : Queue (List UInt8)
  mBufferedAmount : ℕ := 0
  poll : Option PollService.Direction := none

namespace TcpTransport

/-! ## Calls of `::send` -/

/-- The outcome of `::send`: the number of bytes written, `EAGAIN` or `EWOULDBLOCK`, or another
error. -/
inductive SendResult where
  | wrote (len : ℕ)
  | again
  | failed (errno : ℕ)
  deriving DecidableEq, Repr

/-- How `trySendMessage` ends: it returns `true`, or `false` with the message replaced by what is
left of it, or it throws. -/
inductive Outcome where
  | sent
  | blocked (message : List UInt8)
  | threw
  deriving DecidableEq, Repr

/-- The bytes that a call of `trySendMessage` has written to the socket, and how it ends. -/
structure Attempt where
  written : List UInt8
  outcome : Outcome
  deriving DecidableEq, Repr

/-- `TcpTransport::trySendMessage`, with the results of its calls of `::send`. It is `none` when
these are not the results of the calls that it makes; no call writes more than it is asked to. -/
def trySendMessage (message : List UInt8) : List SendResult → Option Attempt
  | [] => if message = [] then some { written := [], outcome := .sent } else none
  | result :: results =>
    if message = [] then none
    else
      match result with
      | .wrote len =>
        if len ≤ message.length then
          (trySendMessage (message.drop len) results).map fun attempt =>
            { attempt with written := message.take len ++ attempt.written }
        else none
      | .again => if results = [] then some { written := [], outcome := .blocked message } else none
      | .failed _ => if results = [] then some { written := [], outcome := .threw } else none

/-- `TcpTransport::updateBufferedAmount`: the transport after the update, and the amount passed to
the callback unless the call returned early. -/
def updateBufferedAmount (t : TcpTransport) (delta : ℤ) : TcpTransport × Option ℕ :=
  if delta = 0 then (t, none)
  else
    let amount := (max (t.mBufferedAmount + delta) 0).toNat
    ({ t with mBufferedAmount := amount }, some amount)

/-- `TcpTransport::setPoll`. -/
def setPoll (t : TcpTransport) (direction : PollService.Direction) : TcpTransport :=
  { t with poll := some direction }

/-! ## The machine -/

/-- A call in progress. -/
inductive Frame where
  /-- `trySendQueue`, at the test of its loop. -/
  | trySendQueue
  /-- `outgoing`, waiting for `trySendQueue` to return. -/
  | outgoing (message : List UInt8)
  /-- `outgoing`, about to push the message on the queue. -/
  | push (message : List UInt8)
  /-- `outgoing`, about to call `setPoll`. -/
  | register
  /-- `send` without a message, waiting for `trySendQueue` to return. -/
  | flush
  /-- The `Out` event of `process`, waiting for `trySendQueue` to return. -/
  | processOut
  /-- The user's code, called by `triggerBufferedAmount`. -/
  | bufferedAmountCallback
  deriving DecidableEq, Repr

/-- The call has locked `mSendMutex`. -/
def Frame.locked : Frame → Bool
  | .outgoing _ => true
  | .push _ => true
  | .register => true
  | .flush => true
  | .trySendQueue => false
  | .processOut => false
  | .bufferedAmountCallback => false

/-- What happens outside the code of the transport. -/
inductive Event where
  | send (message : List UInt8)
  | processOut
  | next (results : List SendResult)
  | callbackReturn
  deriving DecidableEq, Repr

/-- The transport, its call stack (innermost call first) and what can be observed of it: the bytes
written to the socket, the amounts reported to the callback, the messages the transport took charge
of, in the order it did, and those whose call ended with an exception. -/
structure World where
  transport : TcpTransport
  stack : List Frame := []
  written : List UInt8 := []
  reports : List ℕ := []
  accepted : List (List UInt8) := []
  refused : List (List UInt8) := []

/-- A transport that has just become connected. -/
def fresh : TcpTransport where
  mState := .connected
  mSendQueue := { mLimit := 0, mAmountFunction := fun _ => 1 }
  poll := some .pollIn

/-- The message of an `outgoing` that has neither taken charge of it nor ended. -/
def Frame.pending : Frame → Option (List UInt8)
  | .outgoing message => some message
  | .push message => some message
  | _ => none

/-- The frames that an exception leaves: those down to the code that catches it, which is
`triggerBufferedAmount` or `process`. -/
def unwound : List Frame → List Frame
  | [] => []
  | .bufferedAmountCallback :: _ => []
  | .processOut :: _ => []
  | frame :: rest => frame :: unwound rest

/-- The frames left after an exception, and whether `process` has caught it. -/
def unwind : List Frame → List Frame × Bool
  | [] => ([], false)
  | .bufferedAmountCallback :: rest => (.bufferedAmountCallback :: rest, false)
  | .processOut :: rest => (rest, true)
  | _ :: rest => unwind rest

/-- What the caller of `trySendQueue` does when it returns `false`. -/
def returnBlocked : List Frame → List Frame
  | .outgoing message :: rest => .push message :: rest
  | .flush :: rest => rest
  | .processOut :: rest => rest
  | stack => stack

namespace World

/-- The initial world of a connected transport. -/
def start : World := { transport := fresh }

/-- An exception leaves the innermost calls. When `process` catches it, the connection ends. -/
def throw (w : World) : World :=
  let (stack, caught) := unwind w.stack
  let t := if caught then { w.transport with mState := .disconnected, poll := none }
    else w.transport
  { w with transport := t, stack,
           refused := w.refused ++ (unwound w.stack).filterMap Frame.pending }

/-- `updateBufferedAmount`, entering the callback if it reports an amount. -/
def updateAmount (w : World) (delta : ℤ) : World :=
  match w.transport.updateBufferedAmount delta with
  | (t, none) => { w with transport := t }
  | (t, some amount) =>
    { w with
      transport := t
      stack := .bufferedAmountCallback :: w.stack
      reports := w.reports ++ [amount] }

/-- `send`, up to its call of `trySendQueue`. -/
def send (w : World) (message : List UInt8) : World :=
  if w.transport.mState ≠ .connected then { w with refused := w.refused ++ [message] }
  else if message = [] then { w with stack := .trySendQueue :: .flush :: w.stack }
  else { w with stack := .trySendQueue :: .outgoing message :: w.stack }

/-- `outgoing`, from its `push` on the queue. The frame of `outgoing` has been taken off the
stack. -/
def push (w : World) (message : List UInt8) : World :=
  updateAmount
    { w with
      transport := { w.transport with mSendQueue := w.transport.mSendQueue.push message }
      stack := .register :: w.stack }
    message.length

/-- `outgoing`, from its call of `trySendMessage`. The frame of `outgoing` has been taken off the
stack. -/
def sendDirect (w : World) (message : List UInt8) (results : List SendResult) : Option World :=
  (trySendMessage message results).map fun attempt =>
    let w' := { w with written := w.written ++ attempt.written }
    match attempt.outcome with
    | .sent => { w' with accepted := w.accepted ++ [message] }
    | .blocked rest => { w' with accepted := w.accepted ++ [message] }.push rest
    | .threw => { w' with stack := .outgoing message :: w.stack }.throw

/-- What the caller of `trySendQueue` does when it returns `true`. -/
def returnSent (w : World) (results : List SendResult) : Option World :=
  match w.stack with
  | .outgoing message :: rest => { w with stack := rest }.sendDirect message results
  | .flush :: rest => if results = [] then some { w with stack := rest } else none
  | .processOut :: rest =>
    if results = [] then
      some { w with transport := w.transport.setPoll .pollIn, stack := rest }
    else none
  | _ => none

/-- One round of the loop of `trySendQueue`, whose frame has been taken off the stack. -/
def trySendQueue (w : World) (results : List SendResult) : Option World :=
  match w.transport.mSendQueue.peek with
  | none => w.returnSent results
  | some message =>
    (trySendMessage message results).map fun attempt =>
      let t := w.transport
      let w' := { w with written := w.written ++ attempt.written }
      match attempt.outcome with
      | .sent =>
        { w' with
          transport := { t with mSendQueue := t.mSendQueue.pop.2 }
          stack := .trySendQueue :: w.stack }.updateAmount (-message.length)
      | .blocked rest =>
        { w' with
          transport := { t with mSendQueue := (t.mSendQueue.exchange rest).2 }
          stack := returnBlocked w.stack }.updateAmount (-message.length + rest.length)
      | .threw => w'.throw

/-- `send` may be called when no call is in progress, or from a callback that is not made under the
mutex. -/
def maySend (w : World) : Bool :=
  match w.stack with
  | [] => true
  | .bufferedAmountCallback :: rest => !rest.any Frame.locked
  | _ => false

/-- One step: an event, followed by the code up to the next point where the outside acts. -/
def step (w : World) : Event → Option World
  | .send message => if w.maySend then some (w.send message) else none
  | .processOut =>
    if w.stack = [] then some { w with stack := [.trySendQueue, .processOut] } else none
  | .next results =>
    match w.stack with
    | .trySendQueue :: stack => { w with stack }.trySendQueue results
    | .push message :: stack =>
      if results = [] then
        some ({ w with stack, accepted := w.accepted ++ [message] }.push message)
      else none
    | .register :: stack =>
      if results = [] then some { w with transport := w.transport.setPoll .both, stack } else none
    | _ => none
  | .callbackReturn =>
    match w.stack with
    | .bufferedAmountCallback :: stack => some { w with stack }
    | _ => none

end World

end TcpTransport

end Rtc
