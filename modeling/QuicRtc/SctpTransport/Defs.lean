import Mathlib.Data.Finset.Attr
import Mathlib.Logic.Function.Basic
import QuicRtc.Lib.Transition
import QuicRtc.Message
import QuicRtc.Queue
import QuicRtc.Transport

/-!
# The SCTP send path

The sending half of `impl/sctptransport.cpp`: `send`, `flush`, `doFlush`, `closeStream`, `close`,
the loop `trySendQueue`, `trySendMessage` and `updateBufferedAmount`.

All of them but `close` run under the recursive mutex `mSendMutex`, and `updateBufferedAmount`
calls the user synchronously with the mutex held, so the user may call `send` again from inside
`send`; `close` takes no lock and may come at any time. The functions are therefore modelled as a
machine with an explicit call stack (`Frame`), cut at the points where the outside world acts: an
answer of `usrsctp_sendv` or `usrsctp_shutdown` (event `next`) and the body of the buffered-amount
callback (a new call, or `callbackReturn`). `World.step` executes the code between two such points.

The flush tasks that `closeStream` and `close` put on the processor are `flush` events that may
occur at any time. `mPendingFlushCount` only schedules those tasks and is left out. The amounts in
`mBufferedAmount` are unbounded; `size_t` wrap-around is out of reach for queued bytes.
-/

namespace Rtc

/-- The send side of an `SctpTransport`. -/
structure SctpTransport where
  mState : Transport.State
  mMaxMessageSize : ℕ
  mSendQueue : Queue Message
  mSendShutdown : Bool := false
  mBufferedAmount : ℕ → Option ℕ := fun _ => none
  mBytesSent : ℕ := 0

namespace SctpTransport

/-! ## Calls into usrsctp -/

/-- The partial reliability policy of a message, `pr_policy`. -/
inductive PrPolicy where
  | none
  | rtx
  | ttl
  deriving DecidableEq, Repr

/-- The parameters `sctp_sendv_spa` of a data message. -/
structure SendvSpa where
  sid : ℕ
  ppid : ℕ
  unordered : Bool
  prPolicy : PrPolicy
  prValue : ℕ
  deriving DecidableEq, Repr

/-- What the transport hands to usrsctp: a data message, the reset of an outgoing stream, the
shutdown of the sending direction (`SHUT_WR`), and the early shutdown of a connection attempt. -/
inductive Output where
  | sendv (message : Message) (spa : SendvSpa)
  | resetStream (message : Message)
  | shutdown
  | earlyShutdown
  deriving DecidableEq, Repr

/-- The message handed over, for a data message or a reset. -/
def Output.message : Output → Option Message
  | .sendv m _ => some m
  | .resetStream m => some m
  | .shutdown => none
  | .earlyShutdown => none

/-- The messages handed to usrsctp, in order. -/
def handed (outputs : List Output) : List Message := outputs.filterMap Output.message

/-- The outcome of `usrsctp_sendv`: success, `EWOULDBLOCK` or `EAGAIN`, or another error. -/
inductive SendvResult where
  | sent
  | wouldBlock
  | failed (errno : ℕ)
  deriving DecidableEq, Repr

/-- The outcome of `usrsctp_shutdown`. -/
inductive ShutdownResult where
  | done
  | notConnected
  | failed
  deriving DecidableEq, Repr

/-- The answers usrsctp gives to the call made in one step, if any. -/
structure Answer where
  sendv : SendvResult := .sent
  shutdown : ShutdownResult := .done
  deriving DecidableEq, Repr

/-- The payload protocol identifier of a data message. -/
def ppid (m : Message) : ℕ :=
  match m.type with
  | .string => if m.empty then 56 else 51
  | .binary => if m.empty then 57 else 53
  | .control => 50
  | .reset => 0

/-- The policy and its value selected by `trySendMessage` for a reliability. -/
def prInfo (r : Reliability) : Except Exception (PrPolicy × ℕ) :=
  match r.maxPacketLifeTime, r.maxRetransmits with
  | some count, _ => (toUint32 count).map (.ttl, ·)
  | none, some n => (toUint32 n).map (.rtx, ·)
  | none, none =>
    match r.typeDeprecated, r.rexmit with
    | .rexmit, .int value => (toUint32 value).map (.rtx, ·)
    | .timed, .milliseconds count => (toUint32 count).map (.ttl, ·)
    | .reliable, _ => .ok (.none, 0)
    | _, _ => .error .badVariantAccess

/-- The `sctp_sendv_spa` built by `trySendMessage`. A message without reliability is sent with the
default one. -/
def sendvSpa (m : Message) : Except Exception SendvSpa :=
  let reliability := m.reliability.getD {}
  (prInfo reliability).map fun (prPolicy, prValue) =>
    { sid := m.stream % 65536, ppid := ppid m, unordered := reliability.unordered,
      prPolicy, prValue }

/-- The result of `trySendMessage`. -/
inductive TrySend where
  /-- It returned `true`. -/
  | accepted (transport : SctpTransport) (output : Output)
  /-- It returned `false`. -/
  | blocked
  | threw (e : Exception)

/-- `SctpTransport::trySendMessage`. A reset always goes through `sendReset`, whatever usrsctp
answers. -/
def trySendMessage (t : SctpTransport) (m : Message) (result : SendvResult) : TrySend :=
  if t.mState ≠ .connected then .blocked
  else
    match m.type with
    -- `sendReset` logs a failure of `usrsctp_setsockopt` and returns
    | .reset => .accepted t (.resetStream m)
    | _ =>
      match sendvSpa m with
      | .error e => .threw e
      | .ok spa =>
        match result with
        | .sent =>
          .accepted { t with mBytesSent := t.mBytesSent + messageSizeFunc m } (.sendv m spa)
        | .wouldBlock => .blocked
        | .failed errno => .threw (.runtimeError ("Sending failed, errno=" ++ toString errno))

/-- `SctpTransport::updateBufferedAmount`: the transport after the update, and the amount passed to
the callback unless the call returned early. -/
def updateBufferedAmount (t : SctpTransport) (streamId : ℕ) (delta : ℤ) :
    SctpTransport × Option ℕ :=
  if delta = 0 then (t, none)
  else
    let amount := (max ((t.mBufferedAmount streamId).getD 0 + delta) 0).toNat
    ({ t with
        mBufferedAmount := Function.update t.mBufferedAmount streamId
          (if amount = 0 then none else some amount) },
      some amount)

/-! ## The machine -/

/-- A call in progress. -/
inductive Frame where
  /-- `trySendQueue`, at the test of its loop. -/
  | trySendQueue
  /-- `send`, waiting for `trySendQueue` to return. -/
  | sendFlushing (message : Message)
  /-- `send`, about to push the message on the queue. -/
  | sendQueueing (message : Message)
  /-- The user's code, called by `triggerBufferedAmount`. -/
  | bufferedAmountCallback
  deriving DecidableEq, Repr

/-- What happens outside the code of the transport. -/
inductive Event where
  | send (message : Option Message)
  | flush
  | doFlush
  | closeStream (stream : ℕ)
  | close
  | next (answer : Answer)
  | callbackReturn
  deriving DecidableEq, Repr

/-- The transport, its call stack (innermost call first) and what can be observed of it: the calls
into usrsctp, the amounts reported to the callback, the messages passed to `send` and
`closeStream` (`called`), those the transport took charge of, in the order it did (`accepted`), and
those whose call ended with an exception (`refused`). -/
structure World where
  transport : SctpTransport
  stack : List Frame := []
  outputs : List Output := []
  reports : List (ℕ × ℕ) := []
  called : List Message := []
  accepted : List Message := []
  refused : List Message := []

/-- A transport that has just become connected. -/
def fresh (maxMessageSize : ℕ) : SctpTransport where
  mState := .connected
  mMaxMessageSize := maxMessageSize
  mSendQueue := { mLimit := 0, mAmountFunction := messageSizeFunc }

/-- The message of a `send` that has neither taken charge of it nor ended. -/
def Frame.pending : Frame → Option Message
  | .sendFlushing m => some m
  | .sendQueueing m => some m
  | .trySendQueue => none
  | .bufferedAmountCallback => none

/-- The messages of the `send` calls in progress that have not taken charge of them yet. -/
def pendingSends (stack : List Frame) : List Message := stack.filterMap Frame.pending

/-- The frames an exception leaves: those down to the callback from which the call was made. The
exception ends in that callback or is caught by `triggerBufferedAmount`. -/
def unwound : List Frame → List Frame
  | [] => []
  | .bufferedAmountCallback :: _ => []
  | frame :: rest => frame :: unwound rest

/-- The frames left after an exception. -/
def unwind : List Frame → List Frame
  | [] => []
  | .bufferedAmountCallback :: rest => .bufferedAmountCallback :: rest
  | _ :: rest => unwind rest

/-- What the caller of `trySendQueue` does when it returns `false`. -/
def returnBlocked : List Frame → List Frame
  | .sendFlushing m :: rest => .sendQueueing m :: rest
  | stack => stack

namespace World

/-- The initial world of a connected transport. -/
def start (maxMessageSize : ℕ) : World := { transport := fresh maxMessageSize }

/-- An exception leaves the innermost calls. -/
def throw (w : World) : World :=
  { w with stack := unwind w.stack, refused := w.refused ++ pendingSends (unwound w.stack) }

/-- `updateBufferedAmount`, entering the callback if it reports an amount. -/
def updateAmount (w : World) (streamId : ℕ) (delta : ℤ) : World :=
  match w.transport.updateBufferedAmount streamId delta with
  | (t, none) => { w with transport := t }
  | (t, some amount) =>
    { w with
      transport := t
      stack := .bufferedAmountCallback :: w.stack
      reports := w.reports ++ [(streamId, amount)] }

/-- `send`, up to its call of `trySendQueue`. -/
def send (w : World) (message : Option Message) : World :=
  if w.transport.mState ≠ .connected then w
  else
    match message with
    | none => { w with stack := .trySendQueue :: w.stack }
    | some m =>
      if m.size > w.transport.mMaxMessageSize then w
      else
        { w with
          stack := .trySendQueue :: .sendFlushing m :: w.stack
          called := w.called ++ [m] }

/-- `closeStream`. -/
def closeStream (w : World) (stream : ℕ) : World :=
  match toUint16 stream with
  | .error _ => w
  | .ok streamId =>
    let m : Message := { data := [], type := .reset, stream := streamId }
    { w with
      transport := { w.transport with mSendQueue := w.transport.mSendQueue.push m }
      called := w.called ++ [m]
      accepted := w.accepted ++ [m] }

/-- `close`. -/
def close (w : World) : World :=
  let t := { w.transport with mSendQueue := w.transport.mSendQueue.stop }
  if w.transport.mState = .connecting then
    { w with transport := { t with mState := .failed }, outputs := w.outputs ++ [.earlyShutdown] }
  else { w with transport := t }

/-- The end of `trySendQueue`, when the queue is empty: shut the sending direction down once the
queue has been stopped. If that fails the transport becomes disconnected. -/
def shutdownIfStopped (w : World) (result : ShutdownResult) : World :=
  if !w.transport.mSendQueue.running && !w.transport.mSendShutdown then
    { w with
      transport :=
        { w.transport with
          mSendShutdown := true
          mState := if result = .failed then .disconnected else w.transport.mState }
      outputs := w.outputs ++ [.shutdown] }
  else w

/-- `send`, from its call of `trySendMessage`. The frame of `send` has been taken off the stack. -/
def sendDirect (w : World) (m : Message) (result : SendvResult) : World :=
  match w.transport.trySendMessage m result with
  | .blocked => { w with stack := .sendQueueing m :: w.stack }
  | .threw _ => { w with stack := .sendFlushing m :: w.stack }.throw
  | .accepted t output =>
    { w with
      transport := t
      outputs := w.outputs ++ [output]
      accepted := w.accepted ++ [m] }

/-- What the caller of `trySendQueue` does when it returns `true`. -/
def returnFlushed (w : World) (result : SendvResult) : World :=
  match w.stack with
  | .sendFlushing m :: rest => { w with stack := rest }.sendDirect m result
  | _ => w

/-- One round of the loop of `trySendQueue`, whose frame has been taken off the stack. -/
def trySendQueue (w : World) (answer : Answer) : World :=
  match w.transport.mSendQueue.peek with
  | none => (w.shutdownIfStopped answer.shutdown).returnFlushed answer.sendv
  | some m =>
    match w.transport.trySendMessage m answer.sendv with
    | .blocked => { w with stack := returnBlocked w.stack }
    | .threw _ => w.throw
    | .accepted t output =>
      -- nothing runs between `peek` and `pop`, so the popped message is `m`
      let w' :=
        { w with
          transport := { t with mSendQueue := t.mSendQueue.pop.2 }
          outputs := w.outputs ++ [output] }
      match toUint16 m.stream with
      | .error _ => w'.throw
      | .ok streamId =>
        { w' with stack := .trySendQueue :: w.stack }.updateAmount streamId (-messageSizeFunc m)

/-- `send`, from its `push` on the queue. The frame of `send` has been taken off the stack. -/
def sendQueueing (w : World) (m : Message) : World :=
  let w' :=
    { w with
      transport := { w.transport with mSendQueue := w.transport.mSendQueue.push m }
      accepted := w.accepted ++ [m] }
  match toUint16 m.stream with
  | .error _ => w'.throw
  | .ok streamId => w'.updateAmount streamId (messageSizeFunc m)

/-- A public function may be called when no call is in progress, or from the callback. -/
def mayCall (w : World) : Bool :=
  match w.stack with
  | [] => true
  | .bufferedAmountCallback :: _ => true
  | _ => false

/-- One step: an event, followed by the code up to the next point where the outside acts. -/
def step (w : World) : Event → Option World
  | .send message => if w.mayCall then some (w.send message) else none
  | .closeStream stream => if w.mayCall then some (w.closeStream stream) else none
  | .flush =>
    if w.mayCall then
      if w.transport.mState ≠ .connected then some w
      else some { w with stack := .trySendQueue :: w.stack }
    else none
  -- `doFlush` is a task of the transport's processor, not called from inside the callback
  | .doFlush => if w.stack = [] then some { w with stack := [.trySendQueue] } else none
  -- `close` does not take the mutex, so it may come between any two steps of a call
  | .close => some w.close
  | .next answer =>
    match w.stack with
    | .trySendQueue :: stack => some ({ w with stack }.trySendQueue answer)
    | .sendQueueing m :: stack => some ({ w with stack }.sendQueueing m)
    | _ => none
  | .callbackReturn =>
    match w.stack with
    | .bufferedAmountCallback :: stack => some { w with stack }
    | _ => none

end World

end SctpTransport

end Rtc
