import QuicRtc.Lib.Interleaving
import QuicRtc.Lib.Transition
import QuicRtc.WsTransport.Incoming

/-!
# Closing a WebSocket

`WebSocket` of `impl/websocket.cpp` over its `WsTransport`, with the threads that use them: the
users' threads, the thread that receives, which runs `WsTransport::incoming`, and those of the
teardown and of the close timeout.

A call is a list of operations, cut at each access to a member that threads share. The members that
only the receiving thread uses are in `Receiver`. What the lower transport is given, the CLOSE
frames received and the messages delivered are observed in order.

The machine starts when `initWsTransport` has started the transport. `remoteClose` may be called at
any time: by the user in `forceClose`, by the lower transports and by the connection timeout.
-/

namespace Rtc

/-- `WebSocket::State`. -/
inductive WebSocket.State where
  | connecting
  | open
  | closing
  | closed
  deriving DecidableEq, Repr

namespace WebSocket

open WsTransport (Config Opcode messageType parseFrame)

/-- What happens at the borders of the transport. -/
inductive Observation where
  /-- The lower transport has taken a frame. -/
  | sent (frame : WsTransport.Frame)
  /-- `recvFrame` is called with a CLOSE frame. -/
  | receivedClose
  /-- The receive callback is called with a message. -/
  | delivered (message : Message)
  deriving DecidableEq, Repr

/-- What a thread does next. -/
inductive Operation where
  /-- `WebSocket::outgoing`. -/
  | outgoing (message : Message)
  /-- `WebSocket::outgoing`, behind the test of the state. -/
  | checkTransport (message : Message)
  /-- `WsTransport::send`. -/
  | send (message : Message)
  /-- `sendFrame` in `send`. -/
  | sendMessage (message : Message)
  /-- `WebSocket::close`. -/
  | close
  /-- `WebSocket::close`: `changeState(State::Closing)`. -/
  | changeToClosing
  /-- `WebSocket::close`, behind the change of the state. -/
  | stop
  /-- `WebSocket::remoteClose`, behind `close`. -/
  | testClosed
  /-- `WebSocket::closeTransports`. -/
  | closeTransports
  /-- `closeTransports`, behind the change of the state. -/
  | exchangeTransport
  /-- `closeTransports`: `onRecv(nullptr)`. -/
  | resetRecv
  /-- `closeTransports`: `onStateChange(nullptr)`, and the teardown. -/
  | resetStateChange
  /-- `WsTransport::close`, also as `stop`. -/
  | wsClose
  /-- `WsTransport::close`, behind the test of the state. -/
  | exchangeCloseSent
  /-- `sendFrame` in `WsTransport::close`. -/
  | sendClose
  /-- `Transport::changeState`. -/
  | changeState (state : Transport.State)
  /-- `changeState`: the call of the state-change callback. -/
  | stateChange (state : Transport.State)
  /-- The callback for `State::Connected`. -/
  | testConnecting
  /-- The callback for `State::Connected`, behind the test of the state. -/
  | changeToOpen
  /-- `Transport::recv`. -/
  | recv (message : Option Message)
  /-- `sendFrame` with a PING frame. -/
  | sendPing
  /-- `sendFrame` with a PONG frame. -/
  | sendPong (payload : List UInt8)
  /-- `sendHttpResponse`. -/
  | sendHttpResponse
  /-- `sendHttpError`. -/
  | sendHttpError (code : ℕ)
  /-- The end of `incoming` after an error, and for the null pointer. -/
  | disconnect
  deriving DecidableEq, Repr

/-- `WebSocket::remoteClose`. -/
def remoteClose : List Operation := [.close, .testClosed]

/-- The members that threads share. -/
structure Shared where
  /-- `WebSocket::state`. -/
  state : State := .connecting
  /-- `mWsTransport` is not null. -/
  mWsTransport : Bool := true
  mState : Transport.State := .connecting
  mCloseSent : Bool := false
  mRecvCallback : Bool := true
  mStateChangeCallback : Bool := true
  trace : List Observation := []
  deriving DecidableEq, Repr

/-- What an operation leads to. -/
structure Outcome where
  shared : Shared
  /-- What the thread does next. -/
  next : List Operation := []
  /-- The threads that are started. -/
  started : List (List Operation) := []
  /-- The exception that leaves the call. -/
  threw : Option Exception := none

variable (config : Config)

namespace Shared

/-- An observation. -/
def observe (c : Shared) (observation : Observation) : Shared :=
  { c with trace := c.trace ++ [observation] }

/-- `sendFrame`. The lower transport may throw. -/
def sendFrame (c : Shared) (frame : WsTransport.Frame) (failure : Option Exception) : Shared :=
  if failure.isSome then c else c.observe (.sent frame)

/-- The frame that `WsTransport::send` makes. -/
def messageFrame (message : Message) : WsTransport.Frame :=
  { opcode := if message.type = .string then .textFrame else .binaryFrame
    payload := message.data
    mask := config.mIsClient }

/-- A thread executes an operation. The lower transport throws `failure` if it is called. -/
def exec (c : Shared) (failure : Option Exception) : Operation → Outcome
  | .outgoing message =>
    if c.state ≠ .open then
      { shared := c, threw := some (.runtimeError "WebSocket is not open") }
    else { shared := c, next := [.checkTransport message] }
  | .checkTransport message =>
    if c.mWsTransport = false then
      { shared := c, threw := some (.runtimeError "WebSocket is not open") }
    else if message.size > config.mMaxMessageSize.toNat then
      { shared := c, threw := some (.runtimeError "Message size exceeds limit") }
    else { shared := c, next := [.send message] }
  | .send message =>
    if c.mState ≠ .connected then
      { shared := c, threw := some (.runtimeError "WebSocket is not open") }
    else { shared := c, next := [.sendMessage message] }
  | .sendMessage message =>
    { shared := c.sendFrame (messageFrame config message) failure, threw := failure }
  | .close =>
    if c.state = .connecting ∨ c.state = .open then { shared := c, next := [.changeToClosing] }
    else { shared := c }
  | .changeToClosing => { shared := { c with state := .closing }, next := [.stop] }
  | .stop =>
    if c.mWsTransport then { shared := c, next := [.wsClose] }
    else { shared := c, next := remoteClose }
  | .testClosed =>
    if c.state ≠ .closed then { shared := c, next := [.closeTransports] } else { shared := c }
  | .closeTransports =>
    if c.state = .closed then { shared := c }
    else { shared := { c with state := .closed }, next := [.exchangeTransport] }
  | .exchangeTransport =>
    if c.mWsTransport then { shared := { c with mWsTransport := false }, next := [.resetRecv] }
    else { shared := c }
  | .resetRecv => { shared := { c with mRecvCallback := false }, next := [.resetStateChange] }
  | .resetStateChange =>
    -- the task of the `TearDownProcessor` stops the transport
    { shared := { c with mStateChangeCallback := false }, started := [[.wsClose]] }
  | .wsClose =>
    if c.mState ≠ .connected then { shared := c } else { shared := c, next := [.exchangeCloseSent] }
  | .exchangeCloseSent =>
    if c.mCloseSent then { shared := c }
    else { shared := { c with mCloseSent := true }, next := [.sendClose] }
  | .sendClose =>
    let shared := c.sendFrame { opcode := .close, mask := config.mIsClient } failure
    if failure.isSome then { shared, next := [.changeState .disconnected] }
    -- the close timeout is scheduled
    else { shared, started := [[.changeState .disconnected]] }
  | .changeState state =>
    if c.mState = state then { shared := c }
    else { shared := { c with mState := state }, next := [.stateChange state] }
  | .stateChange state =>
    if c.mStateChangeCallback = false then { shared := c }
    else
      match state with
      | .connected => { shared := c, next := [.testConnecting] }
      | .failed => { shared := c, next := remoteClose }
      | .disconnected => { shared := c, next := remoteClose }
      | _ => { shared := c }
  | .testConnecting =>
    if c.state = .connecting then { shared := c, next := [.changeToOpen] } else { shared := c }
  | .changeToOpen => { shared := { c with state := .open } }
  | .recv message =>
    if c.mRecvCallback = false then { shared := c }
    else
      -- `WebSocket::incoming`
      match message with
      | none => { shared := c, next := remoteClose }
      | some message => { shared := c.observe (.delivered message) }
  | .sendPing =>
    let payload := [0, 0, 0, 0]
    { shared := c.sendFrame { opcode := .ping, payload, mask := config.mIsClient } failure
      threw := failure }
  | .sendPong payload =>
    { shared := c.sendFrame { opcode := .pong, payload, mask := config.mIsClient } failure
      threw := failure }
  | .sendHttpResponse =>
    if failure.isSome then { shared := c, threw := failure }
    else { shared := c, next := [.changeState .connected] }
  | .sendHttpError _ => { shared := c, next := [.disconnect] }
  | .disconnect =>
    if c.mState = .connected then
      { shared := c, next := [.changeState .disconnected, .recv none] }
    else { shared := c, next := [.changeState .failed] }

end Shared

/-! ## The receiving thread -/

/-- How far a call of `incoming` has come, once its operations are executed. -/
inductive Phase where
  /-- No call, or at its end. -/
  | idle
  /-- The message is in the buffer: about to test for `State::Connecting`. -/
  | inserted
  /-- The handshake has the length `len`, and the state has changed. -/
  | opened (len : ℕ)
  /-- About to test for `State::Connected`. -/
  | accepted
  /-- The PING frame is sent. -/
  | pinged
  /-- At the test of the loop over the frames. -/
  | looping
  /-- `recvFrame` has returned: about to erase the frame. -/
  | handled (len : ℕ)
  deriving DecidableEq, Repr

/-- The members that only the receiving thread uses, and its call of `incoming`. -/
structure Receiver where
  mHandshake : WsHandshake
  mBuffer : List UInt8 := []
  mPartial : List UInt8 := []
  /-- The constructor leaves it without a value. -/
  mPartialOpcode : Opcode
  mIgnoreLength : ℕ := 0
  mOutstandingPings : ℤ := 0
  /-- `message->size()`. -/
  size : ℕ := 0
  phase : Phase := .idle
  operations : List Operation := []
  deriving DecidableEq, Repr

namespace Receiver

/-- The receiving thread goes on with operations. -/
def perform (r : Receiver) (operations : List Operation) : Receiver := { r with operations }

/-- What `incoming` does after an exception. -/
def fail (r : Receiver) (e : WsHandshake.Error) : Receiver :=
  let r := { r with phase := .idle }
  match e with
  | .requestError _ responseCode => r.perform [.sendHttpError responseCode]
  | _ => r.perform [.disconnect]

/-- The handshake in `incoming`. -/
def acceptHandshake (r : Receiver) : Receiver :=
  if config.mIsClient then
    match r.mHandshake.parseHttpResponse config.sha1 r.mBuffer with
    | .error e => r.fail e
    | .ok len =>
      if len = 0 then { r with phase := .accepted }
      else { r with phase := .opened len }.perform [.changeState .connected]
  else
    match r.mHandshake.parseHttpRequest r.mBuffer with
    | (.error e, mHandshake) => { r with mHandshake }.fail e
    | (.ok len, mHandshake) =>
      if len = 0 then { r with mHandshake, phase := .accepted }
      else { r with mHandshake, phase := .opened len }.perform [.sendHttpResponse]

/-- The part of `incoming` for `State::Connected`, up to the loop. -/
def receive (r : Receiver) : Receiver :=
  if r.size = 0 then { r with phase := .pinged }.perform [.sendPing]
  else
    let len := min r.mIgnoreLength r.mBuffer.length
    { r with
      mBuffer := r.mBuffer.drop len
      mIgnoreLength := r.mIgnoreLength - len
      phase := if r.mIgnoreLength - len = 0 then .looping else .idle }

/-- `addOutstandingPing`. -/
def addOutstandingPing (r : Receiver) : Receiver :=
  let r := { r with mOutstandingPings := r.mOutstandingPings + 1, phase := .idle }
  if config.mMaxOutstandingPings > 0 ∧ r.mOutstandingPings > config.mMaxOutstandingPings then
    r.perform [.changeState .failed]
  else r

/-- The message made of the fragments received. -/
def partialMessage (r : Receiver) : Message :=
  { data := r.mPartial, type := messageType r.mPartialOpcode }

/-- The call of `recv` for an unfinished message, if there is one. -/
def flushPartial (r : Receiver) : List Operation :=
  if r.mPartial ≠ [] then [.recv (some r.partialMessage)] else []

/-- `recvFrame`. -/
def recvFrame (r : Receiver) (frame : WsTransport.Frame) : Receiver :=
  let limit := config.mMaxMessageSize.toNat
  if frame.opcode = .textFrame ∨ frame.opcode = .binaryFrame then
    let payload := frame.payload.take limit
    let r' := { r with mPartial := [], mPartialOpcode := frame.opcode }
    if frame.fin then
      let message := { data := payload, type := messageType frame.opcode }
      r'.perform (r.flushPartial ++ [.recv (some message)])
    else { r' with mPartial := payload }.perform r.flushPartial
  else if frame.opcode = .continuation then
    let r := { r with mPartial := (r.mPartial ++ frame.payload).take limit }
    if frame.fin then { r with mPartial := [] }.perform [.recv (some r.partialMessage)] else r
  else if frame.opcode = .ping then r.perform [.sendPong frame.payload]
  else if frame.opcode = .pong then { r with mOutstandingPings := 0 }
  else if frame.opcode = .close then r.perform [.wsClose, .changeState .disconnected]
  else r.perform [.wsClose]

/-- `recvFrame` is called with a CLOSE frame. -/
def observeFrame (c : Shared) (frame : WsTransport.Frame) : Shared :=
  if frame.opcode = .close then c.observe .receivedClose else c

/-- The loop of `incoming` over the frames: `parseFrame` and `recvFrame`. -/
def nextFrame (c : Shared) (r : Receiver) : Shared × Receiver :=
  let parsed := parseFrame config.mMaxMessageSize r.mBuffer
  match parsed.frame with
  | none => (c, { r with phase := .idle })
  | some frame =>
    -- the size of a frame can be `0` as well, modulo the range of `size_t`
    if parsed.size = 0 then (c, { r with mBuffer := parsed.buffer, phase := .idle }) else
    let r := { r with mBuffer := parsed.buffer, phase := .handled parsed.size }
    (observeFrame c frame, r.recvFrame config frame)

/-- The loop of `incoming` over the frames, behind `recvFrame`. -/
def eraseFrame (r : Receiver) (len : ℕ) : Receiver :=
  if len > r.mBuffer.length then
    { r with mIgnoreLength := len - r.mBuffer.length, mBuffer := [], phase := .idle }
  else { r with mBuffer := r.mBuffer.drop len, phase := .looping }

/-- The receiving thread goes on with `incoming`. -/
def proceed (c : Shared) (r : Receiver) : Option (Shared × Receiver) :=
  match r.phase with
  | .idle => none
  | .inserted =>
    if c.mState ≠ .connecting then some (c, { r with phase := .accepted })
    else some (c, r.acceptHandshake config)
  | .opened len => some (c, { r with mBuffer := r.mBuffer.drop len, phase := .accepted })
  | .accepted =>
    if c.mState ≠ .connected then some (c, { r with phase := .idle }) else some (c, r.receive)
  | .pinged => some (c, r.addOutstandingPing config)
  | .looping => some (nextFrame config c r)
  | .handled len => some (c, r.eraseFrame len)

end Receiver

/-! ## The threads -/

/-- The calls that start a thread. -/
inductive Call where
  | send (message : Message)
  | close
  | remoteClose
  deriving DecidableEq, Repr

/-- The operations of a call. -/
def Call.operations : Call → List Operation
  | .send message => [.outgoing message]
  | .close => [.close]
  | .remoteClose => WebSocket.remoteClose

/-- A WebSocket and its threads. -/
structure Threads where
  shared : Shared := {}
  receiver : Receiver
  /-- The operations of the threads other than the receiving one. -/
  threads : List (List Operation) := []
  deriving DecidableEq, Repr

/-- The steps of the threads. -/
inductive Step where
  /-- A thread calls a method of the WebSocket. -/
  | call (call : Call)
  /-- Thread `i` executes its next operation. -/
  | thread (i : ℕ) (failure : Option Exception)
  /-- The lower transport calls `incoming`. -/
  | incoming (message : Option (List UInt8))
  /-- The receiving thread executes its next operation. -/
  | receiver (failure : Option Exception)
  /-- The receiving thread goes on with `incoming`. -/
  | proceed
  deriving DecidableEq, Repr

namespace Threads

/-- A transport that has been started. -/
def start (mHandshake : WsHandshake) (mPartialOpcode : Opcode) : Threads :=
  { receiver := { mHandshake, mPartialOpcode } }

/-- `WsTransport::incoming`, up to the handshake. -/
def incoming (s : Threads) (message : Option (List UInt8)) : Threads :=
  if s.shared.mState ≠ .connecting ∧ s.shared.mState ≠ .connected then s
  else
    let r := s.receiver
    match message with
    | none => { s with receiver := r.perform [.disconnect] }
    | some message =>
      { s with
        receiver :=
          { r with
            mBuffer := r.mBuffer ++ message, size := message.length, phase := .inserted } }

/-- Thread `i` executes its next operation. -/
def threadStep (s : Threads) (i : ℕ) (failure : Option Exception) : Option Threads :=
  match s.threads[i]? with
  | some (operation :: rest) =>
    let outcome := s.shared.exec config failure operation
    some
      { s with
        shared := outcome.shared
        threads := Interleaving.resume s.threads i (outcome.next ++ rest) outcome.started }
  | _ => none

/-- The receiving thread executes its next operation. An exception is caught in `incoming`. -/
def receiverStep (s : Threads) (failure : Option Exception) : Option Threads :=
  match s.receiver.operations with
  | [] => none
  | operation :: rest =>
    let outcome := s.shared.exec config failure operation
    let r :=
      match outcome.threw with
      | none => s.receiver.perform (outcome.next ++ rest)
      | some _ => { s.receiver with phase := .idle }.perform (.disconnect :: rest)
    some { shared := outcome.shared, receiver := r, threads := s.threads ++ outcome.started }

/-- One step. -/
def step (s : Threads) : Step → Option Threads
  | .call call => some { s with threads := s.threads ++ [call.operations] }
  | .thread i failure => s.threadStep config i failure
  | .incoming message =>
    if s.receiver.phase = .idle ∧ s.receiver.operations = [] then some (s.incoming message)
    else none
  | .receiver failure => s.receiverStep config failure
  | .proceed =>
    if s.receiver.operations = [] then
      (s.receiver.proceed config s.shared).map fun (shared, receiver) => { s with shared, receiver }
    else none

/-- The operations that are still to be executed. -/
def pending (s : Threads) : List Operation := s.receiver.operations ++ s.threads.flatten

/-- The operation that a step executes. -/
def executed (s : Threads) : Step → Option (Operation × Option Exception)
  | .thread i failure => (s.threads[i]?.bind List.head?).map (·, failure)
  | .receiver failure => s.receiver.operations.head?.map (·, failure)
  | _ => none

end Threads

end WebSocket

end Rtc
