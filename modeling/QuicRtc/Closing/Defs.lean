import Mathlib.Data.List.Basic

/-!
# Closing a peer connection

`closeTransports` sets `iceState` and then `state` to `Closed`, passes `Closed` to the two callbacks
and unregisters them (`impl/peerconnection.cpp`). Meanwhile the transports report their states, the
processor runs the callback tasks enqueued before, and other threads may close the connection too.

`changeState` leaves `Closed` alone, since its loop of `load` and `compare_exchange_weak` gives up
on it. `changeIceState` is an unconditional `exchange`: an ICE transport that reports its state
late takes `iceState` out of the sink state. It also steals the callback after the exchange, and a
second `closeTransports`, for which `iceState` is closed already, may get to `resetCallbacks` in
between.

* `Op`, `exec`: the atomic steps of the threads.
* `World`, `step`: the threads over the shared state.

`closeTransports` detaches the state callbacks of the transports last, after `resetCallbacks`, so a
transport may report a state at any time before that; that none does so later is not used. The calls
on the callbacks are atomic, as they hold the mutex of the callback.
-/

namespace Rtc.Closing

/-! ## Threads -/

/-- `PeerConnection::State`. -/
inductive State where
  | new
  | connecting
  | connected
  | disconnected
  | failed
  | closed
  deriving DecidableEq, Repr

/-- `PeerConnection::IceState`. -/
inductive IceState where
  | new
  | checking
  | connected
  | completed
  | failed
  | disconnected
  | closed
  deriving DecidableEq, Repr

/-- `Transport::State`. -/
inductive TransportState where
  | disconnected
  | connecting
  | connected
  | completed
  | failed
  deriving DecidableEq, Repr

/-- A task of the processor: `trigger` of a callback, or `remoteClose`. -/
inductive Task where
  | state (state : State)
  | ice (state : IceState)
  | remoteClose
  deriving DecidableEq, Repr

/-- The members of the peer connection. `stateSet` and `iceSet` record that a `closeTransports` has
set `state` and `iceState`; `stateCalls` and `iceCalls` are what the user's callbacks received. -/
structure Shared where
  state : State := .new
  iceState : IceState := .new
  closing : Bool := false
  /-- `mSctpTransport` is not null. -/
  mSctpTransport : Bool := false
  stateChangeCallback : Bool := true
  iceStateChangeCallback : Bool := true
  queue : List Task := []
  stateCalls : List State := []
  iceCalls : List IceState := []
  stateSet : Bool := false
  iceSet : Bool := false
  deriving DecidableEq, Repr

/-- What a thread does next. -/
inductive Op where
  /-- `close()`: `closing.exchange(true)`. -/
  | close
  /-- Load the SCTP transport and stop it, or go on with `remoteClose`. -/
  | stopTransport
  | remoteClose
  /-- `remoteClose()` after `close()`: `state.load() != State::Closed`. -/
  | checkState
  | closeTransports
  /-- `changeIceState`: the exchange, the steal of the callback, the call on it, the task. -/
  | exchangeIce (newState : IceState)
  | stealIce
  | callIce (callback : Bool)
  | enqueueIce (newState : IceState)
  /-- `changeState`: the load, the exchange, the steal of the callback, the call on it, the task. -/
  | loadState (newState : State)
  | casState (current newState : State)
  | stealState
  | callState (callback : Bool)
  | enqueueState (newState : State)
  | resetCallbacks
  | enqueueRemoteClose
  deriving DecidableEq, Repr

/-- Execute one step of a thread: the members after it, and what the thread does before it goes on.
`Closed` is set by `closeTransports` only, so the steps that follow in it follow here. -/
def exec (s : Shared) : Op → Shared × List Op
  | .close => if s.closing then (s, []) else ({ s with closing := true }, [.stopTransport])
  -- stopping the SCTP transport makes it report `Disconnected`, which enqueues `remoteClose`
  | .stopTransport => (s, if s.mSctpTransport then [] else [.remoteClose])
  | .remoteClose => (s, [.close, .checkState])
  -- `closeDataChannels` and `closeTracks`, enqueued here, do not touch these members
  | .checkState => (s, if s.state = .closed then [] else [.closeTransports])
  | .closeTransports => (s, [.exchangeIce .closed])
  -- unconditional: when the state was the same already, only the callback is skipped
  | .exchangeIce newState =>
    if newState = .closed then
      ({ s with iceState := newState, iceSet := true },
        if s.iceState = newState then [.loadState .closed] else [.stealIce, .loadState .closed])
    else
      ({ s with iceState := newState },
        if s.iceState = newState then [] else [.enqueueIce newState])
  -- a callback moved from is empty, for the tasks and for other closers
  | .stealIce => ({ s with iceStateChangeCallback := false }, [.callIce s.iceStateChangeCallback])
  | .callIce callback =>
    (if callback then { s with iceCalls := s.iceCalls ++ [.closed] } else s, [])
  | .enqueueIce newState => ({ s with queue := s.queue ++ [.ice newState] }, [])
  -- `Closed` is never left, and a second `Closed` ends `closeTransports`
  | .loadState newState =>
    (s, if s.state = .closed ∨ s.state = newState then [] else [.casState s.state newState])
  | .casState current newState =>
    if s.state = current then
      if newState = .closed then
        ({ s with state := newState, stateSet := true }, [.stealState])
      else ({ s with state := newState }, [.enqueueState newState])
    -- another thread has changed `state` since the load
    else (s, [.loadState newState])
  | .stealState => ({ s with stateChangeCallback := false }, [.callState s.stateChangeCallback])
  | .callState callback =>
    -- `closeTransports` goes on, since `changeState` returned true
    (if callback then { s with stateCalls := s.stateCalls ++ [.closed] } else s, [.resetCallbacks])
  | .enqueueState newState => ({ s with queue := s.queue ++ [.state newState] }, [])
  | .resetCallbacks =>
    ({ s with stateChangeCallback := false, iceStateChangeCallback := false }, [])
  | .enqueueRemoteClose => ({ s with queue := s.queue ++ [.remoteClose] }, [])

/-- What starts a thread: the state callback of a transport, a failed initialisation, or a call. -/
inductive Call where
  | ice (transportState : TransportState) (dtlsFails : Bool)
  | dtls (transportState : TransportState) (hasApplication sctpFails : Bool)
  | sctp (transportState : TransportState)
  | initIceFails
  | close
  | remoteClose
  | closeTransports
  deriving DecidableEq, Repr

/-- The state callbacks of `initIceTransport`, `initDtlsTransport` and `initSctpTransport`, and the
calls. -/
def Call.ops : Call → List Op
  | .ice .connecting _ => [.exchangeIce .checking, .loadState .connecting]
  -- `initDtlsTransport` may throw, and then changes the state to `Failed`
  | .ice .connected dtlsFails =>
    .exchangeIce .connected :: if dtlsFails then [.loadState .failed] else []
  | .ice .completed _ => [.exchangeIce .completed]
  | .ice .failed _ => [.exchangeIce .failed, .loadState .failed, .enqueueRemoteClose]
  | .ice .disconnected _ =>
    [.exchangeIce .disconnected, .loadState .disconnected, .enqueueRemoteClose]
  | .dtls .connected hasApplication sctpFails =>
    -- with data channels the state waits for the SCTP transport
    if hasApplication then if sctpFails then [.loadState .failed] else []
    else [.loadState .connected]
  | .dtls .failed _ _ => [.loadState .failed, .enqueueRemoteClose]
  | .dtls .disconnected _ _ => [.loadState .disconnected, .enqueueRemoteClose]
  | .dtls _ _ _ => []
  | .sctp .connected => [.loadState .connected]
  | .sctp .failed => [.loadState .failed, .enqueueRemoteClose]
  | .sctp .disconnected => [.loadState .disconnected, .enqueueRemoteClose]
  | .sctp _ => []
  | .initIceFails => [.loadState .failed]
  | .close => [.close]
  | .remoteClose => [.remoteClose]
  | .closeTransports => [.closeTransports]

/-- The members and what each thread has to do. -/
structure World where
  shared : Shared := {}
  threads : List (List Op) := []
  deriving DecidableEq, Repr

/-- What may happen next. `casFail` is a spurious failure of `compare_exchange_weak`. -/
inductive Event where
  | start (call : Call)
  | run (thread : ℕ)
  | casFail (thread : ℕ)
  | task
  | setSctpTransport (present : Bool)
  deriving DecidableEq, Repr

namespace World

/-- What the threads have to do, together. -/
def pending (w : World) : List Op := w.threads.flatten

/-- The next step of a thread. -/
def next (w : World) (thread : ℕ) : Option Op := w.threads[thread]?.bind List.head?

/-- Run a task of the processor. -/
def runTask (w : World) : Task → World
  | .state state =>
    if w.shared.stateChangeCallback then
      { w with shared := { w.shared with stateCalls := w.shared.stateCalls ++ [state] } }
    else w
  | .ice state =>
    if w.shared.iceStateChangeCallback then
      { w with shared := { w.shared with iceCalls := w.shared.iceCalls ++ [state] } }
    else w
  | .remoteClose => { w with threads := w.threads ++ [[.remoteClose]] }

/-- One event. -/
def step (w : World) : Event → Option World
  | .start call => some { w with threads := w.threads ++ [call.ops] }
  | .run thread =>
    match w.threads[thread]? with
    | some (op :: rest) =>
      some { shared := (exec w.shared op).1
             threads := w.threads.set thread ((exec w.shared op).2 ++ rest) }
    | _ => none
  | .casFail thread =>
    match w.threads[thread]? with
    | some (.casState _ newState :: rest) =>
      some { w with threads := w.threads.set thread (.loadState newState :: rest) }
    | _ => none
  | .task =>
    match w.shared.queue with
    | [] => none
    | task :: queue => some (runTask { w with shared := { w.shared with queue } } task)
  | .setSctpTransport present =>
    some { w with shared := { w.shared with mSctpTransport := present } }

end World

end Rtc.Closing
