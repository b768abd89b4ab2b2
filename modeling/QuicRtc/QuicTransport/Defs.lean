import Mathlib.Data.Int.Notation
import Mathlib.Data.List.Basic
import Mathlib.Logic.Function.Basic
import QuicRtc.Lib.Transition
import QuicRtc.Message
import QuicRtc.Queue
import QuicRtc.SctpTransport.Defs

/-!
# The QUIC transport

`impl/quicktransport.cpp` over the lsquic library: the connection and its state, the send queue with
its flush tasks, and the registry of streams.

Of lsquic only what its callbacks promise is modelled (`World`): the connections between
`on_new_conn` and `on_conn_closed`, and the streams between `on_new_stream` and `on_close`.
Connections and streams are pointers, given as numbers; lsquic may reuse the address of one that is
gone.

A call of `send` is cut where other threads may act: the push on the queue, and the increment and
test of the counter with the `enqueue` that it decides. A flush task is cut into `trySendQueue` and
the decrement. The processor runs its tasks one at a time and in order (`Processor.serialised`), so
only the first flush task moves.

`mPendingFlushCount` is an `atomic<int>`, which wraps around, and an integer here. By
`mPendingFlushCount_bound` the two are the same in every run of fewer than 2^31 steps. The
statistics other than `mBytesSent`, and the buffered amounts, which nothing updates, are left out.
-/

namespace Rtc

/-- The state of a `QuicTransport`. -/
structure QuicTransport where
  mState : Transport.State := .disconnected
  /-- `mConn`, which the constructor does not initialise. -/
  mConn : Option ℕ
  /-- `mConnCtx->conn`. -/
  conn : Option ℕ := none
  /-- `mConnCtx->streams`. -/
  streams : ℕ → Option ℕ := fun _ => none
  /-- `mConnCtx->streamIds`. -/
  streamIds : ℕ → Option ℕ := fun _ => none
  /-- `mConnCtx->nextStreamId`, a 16-bit counter. -/
  nextStreamId : ℕ := 0
  mSendQueue : Queue Message := { mLimit := 0, mAmountFunction := fun _ => 1 }
  mSendShutdown : Bool := false
  mPendingFlushCount : ℤ := 0
  mBytesSent : ℕ := 0

namespace QuicTransport

/-- A call into lsquic: on a connection, whether it was alive; on a stream, whether it was open. -/
inductive Call where
  | makeStream (conn : ℕ) (alive : Bool)
  | streamClose (stream : ℕ) (isOpen : Bool)
  deriving DecidableEq, Repr

/-- A call of `stop` or `close`: the connections alive then, and the one on which
`lsquic_conn_close` was called. -/
structure Closing where
  alive : List ℕ
  closed : Option ℕ
  deriving DecidableEq, Repr

/-- How far a flush task has come. -/
inductive FlushTask where
  /-- It will call `trySendQueue`. -/
  | queued
  /-- It has returned from `trySendQueue` and will decrement the counter. -/
  | flushed
  deriving DecidableEq, Repr

/-- The transport, lsquic, the calls of `send` that have pushed their message and have not
incremented the counter, the flush tasks on the processor, and a record of the calls into lsquic. -/
structure World where
  transport : QuicTransport
  conns : List ℕ := []
  openStreams : List ℕ := []
  /-- Streams closed by `lsquic_stream_close` whose `on_close` is still to come. -/
  closingStreams : List ℕ := []
  sending : ℕ := 0
  tasks : List FlushTask := []
  calls : List Call := []
  closings : List Closing := []

/-- What the user, the other threads and lsquic do. -/
inductive Event where
  | start
  | stop
  | close
  /-- `send`, up to the push on the queue. -/
  | push (message : Message)
  /-- `enqueueFlush`, called by a `send` that has pushed its message. -/
  | enqueueFlush
  /-- The call of `doFlush` by the flush task. -/
  | doFlush
  /-- The decrement at the end of the flush task. -/
  | decrement
  | flush
  | closeStream (stream : ℕ)
  | sendReset (streamId : ℕ)
  | onNewConn (conn : ℕ)
  | onHskDone (conn : ℕ) (ok : Bool)
  | onConnClosed (conn : ℕ)
  | onNewStream (stream : ℕ)
  | onStreamClose (stream : ℕ)
  deriving DecidableEq, Repr

namespace World

/-- A new transport. -/
def init (mConn : Option ℕ) : World := { transport := { mConn } }

/-- `Transport::changeState`. -/
def changeState (w : World) (mState : Transport.State) : World :=
  { w with transport := { w.transport with mState } }

/-- `QuicTransport::start`. `connect` does not create a connection yet; it only changes the
state. -/
def start (w : World) : World :=
  -- `connect` is a stub that reports `Connected`
  if w.transport.mState = .disconnected then (w.changeState .connecting).changeState .connected
  else w

/-- `QuicTransport::stop`. -/
def stop (w : World) : World :=
  { w with
    -- `lsquic_conn_close(mConn)` if `mConn` is set; `mConnCtx->conn` is not looked at
    transport := { w.transport with mConn := none, mState := .disconnected }
    closings := w.closings ++ [{ alive := w.conns, closed := w.transport.mConn }] }

/-- `QuicTransport::close`. -/
def close (w : World) : World :=
  { w with
    transport := { w.transport with mState := .disconnected }
    closings := w.closings ++ [{ alive := w.conns, closed := w.transport.mConn }] }

/-! ### Sending -/

/-- `QuicTransport::send`, up to its push on the queue. -/
def push (w : World) (message : Message) : World :=
  if w.transport.mState ≠ .connected then w
  else
    { w with
      transport := { w.transport with mSendQueue := w.transport.mSendQueue.push message }
      sending := w.sending + 1 }

/-- `enqueueFlush`. -/
def enqueueFlush (w : World) : World :=
  let count := w.transport.mPendingFlushCount + 1
  { w with
    transport := { w.transport with mPendingFlushCount := count }
    sending := w.sending - 1
    -- the increment counts the call, not the task
    tasks := if count = 1 then w.tasks ++ [.queued] else w.tasks }

/-- `trySendMessage`: a stream is made for the message if there is a connection. -/
def trySendMessage (w : World) (message : Message) : Option World :=
  w.transport.conn.map fun conn =>
    { w with
      transport := { w.transport with mBytesSent := w.transport.mBytesSent + message.size }
      calls := w.calls ++ [.makeStream conn (w.conns.contains conn)] }

/-- The loop of `trySendQueue`, on the messages in the queue. -/
def trySendLoop : List Message → World → World
  | [], w => w
  | message :: rest, w =>
    -- a message that cannot be sent stays at the front
    if w.transport.mSendShutdown then w
    else
      match w.trySendMessage message with
      | some w =>
        trySendLoop rest
          { w with transport := { w.transport with mSendQueue := w.transport.mSendQueue.pop.2 } }
      | none => w

/-- `trySendQueue`, under the send mutex. -/
def trySendQueue (w : World) : World := trySendLoop w.transport.mSendQueue.mQueue w

/-! ### Streams -/

/-- `lsquic_stream_close`. -/
def streamClose (w : World) (stream : ℕ) : World :=
  { w with
    openStreams := w.openStreams.filter (· ≠ stream)
    closingStreams :=
      if w.openStreams.contains stream then w.closingStreams ++ [stream] else w.closingStreams
    calls := w.calls ++ [.streamClose stream (w.openStreams.contains stream)] }

/-- `QuicTransport::closeStream`. The `unsigned int` is converted to the 16-bit key of the map. -/
def closeStream (w : World) (stream : ℕ) : World :=
  let streamId := stream % 65536
  match w.transport.streamIds streamId with
  | none => w
  | some found =>
    let w' := w.streamClose found
    { w' with
      transport :=
        { w'.transport with
          -- both entries are erased, here only
          streams := Function.update w.transport.streams found none
          streamIds := Function.update w.transport.streamIds streamId none } }

/-- `sendReset`, which closes the stream in place of a reset. -/
def sendReset (w : World) (streamId : ℕ) : World :=
  match w.transport.streamIds streamId with
  | none => w
  | some found => w.streamClose found

/-- `on_new_stream`. -/
def onNewStream (w : World) (stream : ℕ) : World :=
  let streamId := w.transport.nextStreamId
  { w with
    transport :=
      { w.transport with
        nextStreamId := (streamId + 1) % 65536
        -- an older stream with this id loses its entry in `streamIds`
        streams := Function.update w.transport.streams stream (some streamId)
        streamIds := Function.update w.transport.streamIds streamId (some stream) }
    openStreams := w.openStreams ++ [stream] }

/-- `on_stream_close`, which only deletes the context of the stream. -/
def onStreamClose (w : World) (stream : ℕ) : World :=
  { w with
    openStreams := w.openStreams.filter (· ≠ stream)
    closingStreams := w.closingStreams.filter (· ≠ stream) }

/-! ### Connections -/

/-- `on_new_conn`. -/
def onNewConn (w : World) (conn : ℕ) : World :=
  { w with
    -- `mConn` is not set
    transport := { w.transport with conn := some conn, mState := .connected }
    conns := w.conns ++ [conn] }

/-- `on_conn_closed`. -/
def onConnClosed (w : World) (conn : ℕ) : World :=
  { w.changeState .disconnected with conns := w.conns.filter (· ≠ conn) }

/-- One step. The callbacks of lsquic come for connections and streams in the order it promises. -/
def step (w : World) : Event → Option World
  | .start => some w.start
  | .stop => some w.stop
  | .close => some w.close
  | .push message => some (w.push message)
  | .enqueueFlush => if 0 < w.sending then some w.enqueueFlush else none
  | .doFlush =>
    match w.tasks with
    | .queued :: tasks => some { w.trySendQueue with tasks := .flushed :: tasks }
    | _ => none
  | .decrement =>
    match w.tasks with
    | .flushed :: tasks =>
      some
        { w with
          transport :=
            { w.transport with mPendingFlushCount := w.transport.mPendingFlushCount - 1 }
          tasks }
    | _ => none
  | .flush => some w.trySendQueue
  | .closeStream stream => some (w.closeStream stream)
  | .sendReset streamId => if streamId < 65536 then some (w.sendReset streamId) else none
  | .onNewConn conn => if conn ∈ w.conns then none else some (w.onNewConn conn)
  | .onHskDone conn ok =>
    if conn ∈ w.conns then some (w.changeState (if ok then .connected else .failed)) else none
  | .onConnClosed conn => if conn ∈ w.conns then some (w.onConnClosed conn) else none
  | .onNewStream stream =>
    if stream ∈ w.openStreams ∨ stream ∈ w.closingStreams then none
    else some (w.onNewStream stream)
  | .onStreamClose stream =>
    if stream ∈ w.openStreams ∨ stream ∈ w.closingStreams then some (w.onStreamClose stream)
    else none

end World

end QuicTransport

end Rtc
