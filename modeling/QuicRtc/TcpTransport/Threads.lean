import QuicRtc.TcpTransport.Defs

/-!
# Threads of a TCP transport

The interleavings of `send` with the events of the poll thread, cut wherever another thread can act.

* A call of `send` holds `mSendMutex`. It is made by a user's thread, or by the poll thread from
  inside an event: by the upper transport in `In` and `Timeout`, by the buffered-amount callback in
  `Out`.
* The poll thread runs `process` under the mutex of the `PollService`, which is recursive. A user's
  thread waits for it in `setPoll`, the poll thread does not.
* `Out` runs `trySendQueue` without `mSendMutex`, next to the loop of a `send`.

The machine starts when the connection has just been established, in the `changeState(Connected)` in
front of the first registration with `In`: on the poll thread in the callback of `attempt`, or in
`start` on the thread that has accepted the socket. The state callback starts the upper transports,
which may send; in `start` these sends are like those of a user's thread.
-/

namespace Rtc.TcpTransport

/-- How far a call of `trySendQueue` has come. -/
inductive Drain where
  /-- At the test of the loop. -/
  | test
  /-- The message has been sent: about to pop it. -/
  | sent (size : ℕ)
  /-- `::send` would block: about to exchange the message. -/
  | blocked (size : ℕ) (message : List UInt8)
  /-- In `updateBufferedAmount`, behind `pop`. -/
  | popped
  /-- In `updateBufferedAmount`, behind `exchange`. -/
  | exchanged
  deriving DecidableEq, Repr

/-- What a step of `trySendQueue` leads to. -/
inductive DrainResult where
  | running (drain : Drain)
  | returned (result : Bool)
  | threw
  deriving DecidableEq, Repr

/-- The threads that call `send`. -/
inductive Thread where
  | user
  | poll
  deriving DecidableEq, Repr

/-- How far a call of `send` has come. -/
inductive SendPhase where
  /-- In `trySendQueue`. -/
  | draining (drain : Drain)
  /-- `trySendQueue` has returned `true`: about to call `trySendMessage`. -/
  | sending
  /-- About to push what is left of the message. -/
  | pushing (message : List UInt8)
  /-- The message is pushed: about to call `setPoll`. -/
  | registering
  deriving DecidableEq, Repr

/-- The call of `send` that holds `mSendMutex`. -/
structure Send where
  thread : Thread
  message : List UInt8
  phase : SendPhase := .draining .test
  deriving DecidableEq, Repr

/-- What the poll thread is doing in `process`, or in the callback of `attempt`. -/
inductive Process where
  /-- `Out`, in `trySendQueue`. -/
  | out (drain : Drain)
  /-- `Out`: `trySendQueue` has returned `true`, about to call `setPoll`. -/
  | register
  /-- `In`, in `incoming`. -/
  | incoming
  /-- `Timeout`, in `incoming` with the empty message. -/
  | timeout
  /-- The callback of `attempt`, in `changeState(Connected)`. -/
  | connected
  /-- `Timeout` or the callback of `attempt`: about to call `setPoll`. -/
  | registerIn
  deriving DecidableEq, Repr

/-- The poll thread is in code of the user or of the upper transport, which may call `send`. -/
def Process.mayCall : Process → Bool
  | .out .popped => true
  | .out .exchanged => true
  | .incoming => true
  | .timeout => true
  | .connected => true
  | _ => false

/-- The transport and its threads. `starting` says that `start` is in `changeState` or behind it: it
has not called `setPoll` yet. -/
structure Threads where
  transport : TcpTransport
  sender : Option Send := none
  process : Option Process := none
  starting : Bool := false

/-- The events of the `PollService`. -/
inductive PollEvent where
  | pollIn
  | pollOut
  | timeout
  deriving DecidableEq, Repr

/-- The steps of the threads. -/
inductive Step where
  /-- A user's thread calls `send` and gets the mutex. -/
  | send (message : List UInt8)
  /-- The code that the poll thread has called calls `send`. -/
  | nested (message : List UInt8)
  /-- The `send` in progress goes on, with the results of `::send`. -/
  | sender (results : List SendResult)
  /-- `start` calls `setPoll`. -/
  | start
  /-- The `PollService` calls `process`. -/
  | poll (event : PollEvent)
  /-- `process` goes on, with the results of `::send`. -/
  | process (results : List SendResult)
  /-- `::recv` reports the end of the connection. -/
  | closed
  deriving DecidableEq, Repr

/-- One step of `trySendQueue`. -/
def drainStep (t : TcpTransport) (results : List SendResult) :
    Drain → Option (TcpTransport × DrainResult)
  | .test =>
    match t.mSendQueue.peek with
    | none => if results = [] then some (t, .returned true) else none
    | some message =>
      (trySendMessage message results).map fun attempt =>
        match attempt.outcome with
        | .sent => (t, .running (.sent message.length))
        | .blocked rest => (t, .running (.blocked message.length rest))
        | .threw => (t, .threw)
  | .sent size =>
    let t := { t with mSendQueue := t.mSendQueue.pop.2 }
    some ((t.updateBufferedAmount (-size)).1, .running .popped)
  | .blocked size message =>
    let t := { t with mSendQueue := (t.mSendQueue.exchange message).2 }
    some ((t.updateBufferedAmount (-size + message.length)).1, .running .exchanged)
  | .popped => some (t, .running .test)
  | .exchanged => some (t, .returned false)

namespace Threads

/-- A connection that has just been established, by the callback of `attempt` if the transport is
active. The socket is registered with `Out` until then, an accepted one is not registered. -/
def init (mIsActive : Bool) : Threads :=
  if mIsActive then
    { transport := { fresh with poll := some .pollOut }, process := some .connected }
  else { transport := { fresh with poll := none }, starting := true }

/-- `send`, once the mutex is locked. It throws when the transport is not connected. -/
def beginSend (s : Threads) (thread : Thread) (message : List UInt8) : Threads :=
  if s.transport.mState ≠ .connected then s
  else { s with sender := some { thread, message } }

/-- The `send` in progress goes on. The user's thread waits in `setPoll` for the poll thread. -/
def sendStep (s : Threads) (send : Send) (results : List SendResult) : Option Threads :=
  match send.phase with
  | .draining drain =>
    (drainStep s.transport results drain).map fun (transport, result) =>
      match result with
      | .running drain =>
        { s with transport, sender := some { send with phase := .draining drain } }
      | .returned sent =>
        let next : Option SendPhase :=
          if send.message = [] then none
          else if sent then some .sending
          else some (.pushing send.message)
        { s with transport, sender := next.map fun phase => { send with phase } }
      | .threw => { s with transport, sender := none }
  | .sending =>
    (trySendMessage send.message results).map fun attempt =>
      match attempt.outcome with
      | .sent => { s with sender := none }
      | .blocked rest => { s with sender := some { send with phase := .pushing rest } }
      | .threw => { s with sender := none }
  | .pushing message =>
    let t := { s.transport with mSendQueue := s.transport.mSendQueue.push message }
    some
      { s with
        transport := (t.updateBufferedAmount message.length).1
        sender := some { send with phase := .registering } }
  | .registering =>
    if send.thread = .user ∧ s.process ≠ none then none
    else some { s with transport := s.transport.setPoll .both, sender := none }

/-- The end of `process` after an error: the socket is removed from the `PollService`. -/
def disconnect (s : Threads) : Threads :=
  { s with
    transport := { s.transport with mState := .disconnected, poll := none }
    process := none }

/-- The poll thread goes on with `process`. -/
def processStep (s : Threads) (process : Process) (results : List SendResult) : Option Threads :=
  match process with
  | .out drain =>
    (drainStep s.transport results drain).map fun (transport, result) =>
      match result with
      | .running drain => { s with transport, process := some (.out drain) }
      | .returned sent => { s with transport, process := if sent then some .register else none }
      | .threw => { s with transport }.disconnect
  | .register => some { s with transport := s.transport.setPoll .pollIn, process := none }
  | .incoming => some { s with process := none }
  | .timeout => some { s with process := some .registerIn }
  | .connected => some { s with process := some .registerIn }
  | .registerIn => some { s with transport := s.transport.setPoll .pollIn, process := none }

/-- The end of `start`. It waits in `setPoll` for the poll thread. -/
def startStep (s : Threads) : Option Threads :=
  if s.starting ∧ s.process = none then
    some { s with transport := s.transport.setPoll .pollIn, starting := false }
  else none

/-- The `PollService` calls `process`. A timeout is set for the direction `In` only, and the entry
is erased before the call. -/
def pollStep (s : Threads) : PollEvent → Option Threads
  | .pollIn =>
    if s.transport.poll = some .pollIn ∨ s.transport.poll = some .both then
      some { s with process := some .incoming }
    else none
  | .pollOut =>
    if s.transport.poll = some .pollOut ∨ s.transport.poll = some .both then
      some { s with process := some (.out .test) }
    else none
  | .timeout =>
    if s.transport.poll = some .pollIn then
      some { s with transport := { s.transport with poll := none }, process := some .timeout }
    else none

/-- The poll thread is not waiting for a `send` that it has called. -/
def pollRuns (s : Threads) : Prop := ∀ send, s.sender = some send → send.thread ≠ .poll

instance (s : Threads) : Decidable s.pollRuns :=
  match h : s.sender with
  | none => isTrue (by simp [pollRuns, h])
  | some send => decidable_of_iff (send.thread ≠ .poll) (by simp [pollRuns, h])

/-- One step of a thread. -/
def step (s : Threads) : Step → Option Threads
  | .send message => if s.sender = none then some (s.beginSend .user message) else none
  | .nested message =>
    if s.sender = none ∧ s.process.any Process.mayCall then some (s.beginSend .poll message)
    else none
  | .sender results => s.sender.bind fun send => s.sendStep send results
  | .start => s.startStep
  | .poll event => if s.process = none then s.pollStep event else none
  | .process results =>
    if s.pollRuns then s.process.bind fun process => s.processStep process results else none
  | .closed =>
    if s.pollRuns ∧ s.process = some .incoming then some s.disconnect else none

end Threads

end Rtc.TcpTransport
