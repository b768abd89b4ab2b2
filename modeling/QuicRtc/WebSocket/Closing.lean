import QuicRtc.WebSocket.Sending
import QuicRtc.WsHandshake.Agreement

/-!
# Messages behind a received CLOSE frame

The loop of `incoming` goes on behind a CLOSE frame, and nothing in it tests the state again. What
stops the messages is `onRecv(nullptr)`, which the change of the state leads to: in the receiving
thread, before the loop goes on, or in another thread that has changed the state before, which may
still be on its way.

* `Closes`: the invariant of the threads that close the WebSocket;
* `Settled`: the receiving thread is past the handshake;
* `Resets`: the invariant of the runs in which the resets come in order;
* `closing_of_meets`: the three properties, each with its condition.
-/

namespace Rtc.WebSocket

open Interleaving
open WsTransport (Config Opcode)

variable {config : Config} {c : Shared} {failure : Option Exception} {operation : Operation}
  {pending pending' : List Operation} {observation : Observation}

/-- A message is delivered. -/
def Observation.isDelivered : Observation → Bool
  | .delivered _ => true
  | _ => false

/-- No message is delivered behind a received CLOSE frame. -/
def NoDeliveryAfterClose (trace : List Observation) : Prop :=
  trace.Pairwise fun o o' => o = .receivedClose → o'.isDelivered = false

/-- When a message is about to be delivered behind a received CLOSE frame, no other thread is on its
way to the reset of the receive callback. -/
def DeliversInOrder (s : Threads) (e : Step) : Bool :=
  match s.executed e with
  | some (.recv (some _), _) =>
    !(s.shared.mRecvCallback && decide (.receivedClose ∈ s.shared.trace) &&
      s.threads.flatten.any Operation.isClosing)
  | _ => true

/-- Another thread is on its way to the reset of the receive callback, which is still to come. -/
def Threads.resetting (s : Threads) : Bool :=
  s.shared.mRecvCallback && s.threads.flatten.any Operation.isClosing

/-- The receiving thread does not go on to the frames behind a CLOSE frame while another thread is
on its way to the reset of the receive callback. -/
def ResetsInOrder (s : Threads) (e : Step) : Bool :=
  match e, s.receiver.phase with
  | .proceed, .looping => !(decide (.receivedClose ∈ s.shared.trace) && s.resetting)
  | _, _ => true

/-! ## The threads that close -/

/-- The transport is disconnected, or has failed. -/
def Shared.isDown (c : Shared) : Prop := c.mState = .disconnected ∨ c.mState = .failed

/-- While the receive callback is set, some thread is on its way to its reset from wherever the
closing has come to. -/
structure Closes (c : Shared) (pending : List Operation) : Prop where
  closed : c.state = .closed → c.mRecvCallback = true →
    .exchangeTransport ∈ pending ∨ .resetRecv ∈ pending
  released : c.mWsTransport = false → c.mRecvCallback = true → .resetRecv ∈ pending
  resetting : .resetStateChange ∈ pending → c.mRecvCallback = false
  reset : c.mStateChangeCallback = false → c.mRecvCallback = false
  down : c.isDown → c.mRecvCallback = true → ∃ x ∈ pending, x.isClosing = true

namespace Closes

theorem start (mHandshake : WsHandshake) (mPartialOpcode : Opcode) :
    Closes (Threads.start mHandshake mPartialOpcode).shared
      (Threads.start mHandshake mPartialOpcode).pending where
  closed := nofun
  released := nofun
  resetting := nofun
  reset := nofun
  down := by rintro (h | h) <;> cases h

theorem add (h : Closes c pending) {new : List Operation}
    (hpending : pending'.Perm (new ++ pending)) (hnew : ∀ x ∈ new, x.isEntry = true) :
    Closes c pending' := by
  have hmem : ∀ {x : Operation}, x ∈ pending → x ∈ pending' :=
    fun hx => hpending.mem_iff.2 (List.mem_append_right _ hx)
  refine ⟨fun hstate hcallback => (h.closed hstate hcallback).imp hmem hmem,
    fun htransport hcallback => hmem (h.released htransport hcallback), fun hreset => ?_, h.reset,
    fun hdown hcallback => ?_⟩
  · rcases List.mem_append.1 (hpending.mem_iff.1 hreset) with hadded | hold
    · exact absurd (hnew _ hadded) (by decide)
    · exact h.resetting hold
  · obtain ⟨x, hx, hclosing⟩ := h.down hdown hcallback
    exact ⟨x, hmem hx, hclosing⟩

theorem observe (h : Closes c pending) (observation : Observation) :
    Closes (c.observe observation) pending where
  closed := h.closed
  released := h.released
  resetting := h.resetting
  reset := h.reset
  down := h.down

/-- The operations on the way to the reset are still pending. -/
theorem transfer (h : Closes c pending) {c' : Shared}
    (hkeep : ∀ x ∈ pending, x.isClosing = true → x ∈ pending')
    (hreset : .resetStateChange ∈ pending' → .resetStateChange ∈ pending)
    (hrecv : c'.mRecvCallback = c.mRecvCallback) (htransport : c'.mWsTransport = c.mWsTransport)
    (hstateChange : c'.mStateChangeCallback = c.mStateChangeCallback)
    (hstate : c'.state = .closed → c.state = .closed) (hdown : c'.isDown → c.isDown) :
    Closes c' pending' := by
  refine ⟨fun hclosed hcallback => ?_, fun hreleased hcallback => ?_, fun hresetting => ?_,
    fun hnone => ?_, fun hdown' hcallback => ?_⟩
  · rw [hrecv] at hcallback
    exact (h.closed (hstate hclosed) hcallback).imp (hkeep _ · rfl) (hkeep _ · rfl)
  · rw [htransport] at hreleased
    rw [hrecv] at hcallback
    exact hkeep _ (h.released hreleased hcallback) rfl
  · rw [hrecv]
    exact h.resetting (hreset hresetting)
  · rw [hstateChange] at hnone
    rw [hrecv]
    exact h.reset hnone
  · rw [hrecv] at hcallback
    obtain ⟨x, hx, hclosing⟩ := h.down (hdown hdown') hcallback
    exact ⟨x, hkeep x hx hclosing, hclosing⟩

/-- `resetRecv` alone leads to `resetStateChange`. -/
theorem mem_resetStateChange
    (hexecutes : Executes operation (c.exec config failure operation).operations pending pending')
    (hne : operation ≠ .resetRecv) (h : .resetStateChange ∈ pending') :
    .resetStateChange ∈ pending := by
  rcases hexecutes.mem_cases h with hnew | hold
  · cases Shared.leads_of_mem hnew with
    | resetStateChange => exact absurd rfl hne
    | lost state hmem => simp at hmem
    | recvClose hmem => simp at hmem
  · exact hold

/-- An operation that is not on the way to the reset. -/
theorem of_not_isClosing (h : Closes c pending) (hclosing : operation.isClosing = false)
    (hexecutes : Executes operation (c.exec config failure operation).operations pending pending')
    {c' : Shared} (hrecv : c'.mRecvCallback = c.mRecvCallback)
    (htransport : c'.mWsTransport = c.mWsTransport)
    (hstateChange : c'.mStateChangeCallback = c.mStateChangeCallback)
    (hstate : c'.state = .closed → c.state = .closed) (hdown : c'.isDown → c.isDown) :
    Closes c' pending' := by
  refine h.transfer (fun x hx hxclosing => hexecutes.mem_of_ne hx ?_)
    (mem_resetStateChange hexecutes ?_) hrecv htransport hstateChange hstate hdown
  · rintro rfl
    rw [hclosing] at hxclosing
    cases hxclosing
  · rintro rfl
    cases hclosing

/-- A thread on the way to the reset goes on, or another one is on the way as well. -/
theorem of_isClosing (h : Closes c pending) (hne : operation ≠ .resetRecv)
    (hexecutes : Executes operation (c.exec config failure operation).operations pending pending')
    {c' : Shared} (hrecv : c'.mRecvCallback = c.mRecvCallback)
    (hstateChange : c'.mStateChangeCallback = c.mStateChangeCallback)
    (hclosed : c'.state = .closed → c.mRecvCallback = true →
      .exchangeTransport ∈ pending' ∨ .resetRecv ∈ pending')
    (hreleased : c'.mWsTransport = false → c.mRecvCallback = true → .resetRecv ∈ pending')
    (hdown : c.mRecvCallback = true → ∃ x ∈ pending', x.isClosing = true) : Closes c' pending' := by
  refine ⟨?_, ?_, fun hresetting => ?_, fun hnone => ?_, ?_⟩
  · rw [hrecv]
    exact hclosed
  · rw [hrecv]
    exact hreleased
  · rw [hrecv]
    exact h.resetting (mem_resetStateChange hexecutes hne hresetting)
  · rw [hstateChange] at hnone
    rw [hrecv]
    exact h.reset hnone
  · rw [hrecv]
    exact fun _ => hdown

/-- The thread that has closed the WebSocket is still on its way. -/
theorem closed_kept (h : Closes c pending)
    (hexecutes : Executes operation (c.exec config failure operation).operations pending pending')
    (hexchange : .exchangeTransport ≠ operation) (hreset : .resetRecv ≠ operation)
    (hstate : c.state = .closed) (hcallback : c.mRecvCallback = true) :
    .exchangeTransport ∈ pending' ∨ .resetRecv ∈ pending' :=
  (h.closed hstate hcallback).imp (hexecutes.mem_of_ne · hexchange)
    (hexecutes.mem_of_ne · hreset)

/-- So is the one that has released the transport. -/
theorem released_kept (h : Closes c pending)
    (hexecutes : Executes operation (c.exec config failure operation).operations pending pending')
    (hreset : .resetRecv ≠ operation) (htransport : c.mWsTransport = false)
    (hcallback : c.mRecvCallback = true) : .resetRecv ∈ pending' :=
  hexecutes.mem_of_ne (h.released htransport hcallback) hreset

/-- A transport that goes down leads to the state change callback. -/
theorem exec_changeState (h : Closes c pending) {state : Transport.State}
    (hexecutes : Executes (.changeState state)
      (c.exec config failure (.changeState state)).operations pending pending') :
    Closes (c.exec config failure (.changeState state)).shared pending' := by
  by_cases hsame : c.mState = state
  · have hexec : (c.exec config failure (.changeState state)).shared = c := by
      simp [Shared.exec, hsame]
    rw [hexec]
    exact h.of_not_isClosing rfl hexecutes rfl rfl rfl id id
  · have hexec : c.exec config failure (.changeState state) =
        { shared := { c with mState := state }, next := [.stateChange state] } := by
      simp only [Shared.exec, if_neg hsame]
    have hkept : Closes c pending' := h.of_not_isClosing rfl hexecutes rfl rfl rfl id id
    rw [hexec] at hexecutes ⊢
    refine ⟨hkept.closed, hkept.released, hkept.resetting, hkept.reset, fun hdown _ => ?_⟩
    refine ⟨.stateChange state, hexecutes.mem_new List.mem_cons_self, ?_⟩
    rcases hdown with hdown | hdown
    · simp [Operation.isClosing, show state = .disconnected from hdown]
    · simp [Operation.isClosing, show state = .failed from hdown]

/-- The state change callback closes, unless it was reset before the receive callback. -/
theorem exec_stateChange (h : Closes c pending) {state : Transport.State}
    (hexecutes : Executes (.stateChange state)
      (c.exec config failure (.stateChange state)).operations pending pending') :
    Closes (c.exec config failure (.stateChange state)).shared pending' := by
  rw [Shared.exec_of_not_isWrite config c failure rfl]
  by_cases hclosing : (Operation.stateChange state).isClosing = true
  · refine h.of_isClosing (by simp) hexecutes rfl rfl (h.closed_kept hexecutes (by simp) (by simp))
      (h.released_kept hexecutes (by simp)) fun hcallback => ?_
    -- `resetStateChange` comes behind `resetRecv`, so that the callback is still there
    have hset : c.mStateChangeCallback = true := by
      by_contra hnone
      rw [h.reset (Bool.eq_false_of_not_eq_true hnone)] at hcallback
      cases hcallback
    refine ⟨.testClosed, hexecutes.mem_new ?_, rfl⟩
    cases state with
    | disconnected => simp [Shared.exec, Outcome.operations, remoteClose, hset]
    | failed => simp [Shared.exec, Outcome.operations, remoteClose, hset]
    | _ => cases hclosing
  · exact h.of_not_isClosing (Bool.eq_false_of_not_eq_true hclosing) hexecutes rfl rfl rfl id id

/-- A WebSocket that is not closed is closed next. -/
theorem exec_testClosed (h : Closes c pending)
    (hexecutes : Executes .testClosed (c.exec config failure .testClosed).operations pending
      pending') :
    Closes (c.exec config failure .testClosed).shared pending' := by
  rw [Shared.exec_of_not_isWrite config c failure rfl]
  have hclosed := h.closed_kept hexecutes (by simp) (by simp)
  refine h.of_isClosing (by simp) hexecutes rfl rfl hclosed (h.released_kept hexecutes (by simp))
    fun hcallback => ?_
  by_cases hstate : c.state = .closed
  · -- another thread has closed it
    rcases hclosed hstate hcallback with hmem | hmem
    · exact ⟨_, hmem, rfl⟩
    · exact ⟨_, hmem, rfl⟩
  · refine ⟨.closeTransports, hexecutes.mem_new ?_, rfl⟩
    simp [Shared.exec, Outcome.operations, hstate]

/-- The first thread that closes goes on to the exchange of the transport. -/
theorem exec_closeTransports (h : Closes c pending)
    (hexecutes : Executes .closeTransports (c.exec config failure .closeTransports).operations
      pending pending') :
    Closes (c.exec config failure .closeTransports).shared pending' := by
  have hreleased := h.released_kept hexecutes (by simp)
  by_cases hstate : c.state = .closed
  · have hexec : (c.exec config failure .closeTransports).shared = c := by
      simp [Shared.exec, hstate]
    have hclosed := h.closed_kept hexecutes (by simp) (by simp) hstate
    rw [hexec]
    refine h.of_isClosing (by simp) hexecutes rfl rfl (fun _ => hclosed) hreleased
      fun hcallback => ?_
    rcases hclosed hcallback with hmem | hmem
    · exact ⟨_, hmem, rfl⟩
    · exact ⟨_, hmem, rfl⟩
  · have hnew : .exchangeTransport ∈ pending' := by
      refine hexecutes.mem_new ?_
      simp [Shared.exec, Outcome.operations, hstate]
    have hexec : (c.exec config failure .closeTransports).shared = { c with state := .closed } := by
      simp [Shared.exec, hstate]
    rw [hexec]
    exact h.of_isClosing (by simp) hexecutes rfl rfl (fun _ _ => Or.inl hnew) hreleased
      fun _ => ⟨_, hnew, rfl⟩

/-- The thread that gets the transport resets the callbacks. -/
theorem exec_exchangeTransport (h : Closes c pending)
    (hexecutes : Executes .exchangeTransport (c.exec config failure .exchangeTransport).operations
      pending pending') :
    Closes (c.exec config failure .exchangeTransport).shared pending' := by
  have hreset : c.mRecvCallback = true → .resetRecv ∈ pending' := by
    intro hcallback
    cases htransport : c.mWsTransport with
    | false => exact h.released_kept hexecutes (by simp) htransport hcallback
    | true =>
      refine hexecutes.mem_new ?_
      simp [Shared.exec, Outcome.operations, htransport]
  -- the transport is gone afterwards, whether it was there or not
  simp only [Shared.exec]
  split_ifs
  · exact h.of_isClosing (by simp) hexecutes rfl rfl (fun _ hcallback => Or.inr (hreset hcallback))
      (fun _ => hreset) fun hcallback => ⟨_, hreset hcallback, rfl⟩
  · exact h.of_isClosing (by simp) hexecutes rfl rfl (fun _ hcallback => Or.inr (hreset hcallback))
      (fun _ => hreset) fun hcallback => ⟨_, hreset hcallback, rfl⟩

theorem exec (h : Closes c pending)
    (hexecutes : Executes operation (c.exec config failure operation).operations pending pending') :
    Closes (c.exec config failure operation).shared pending' := by
  cases operation with
  | changeToClosing => exact h.of_not_isClosing rfl hexecutes rfl rfl rfl (by simp [Shared.exec]) id
  | changeToOpen => exact h.of_not_isClosing rfl hexecutes rfl rfl rfl (by simp [Shared.exec]) id
  | exchangeCloseSent =>
    simp only [Shared.exec]
    split_ifs
    · exact h.of_not_isClosing rfl hexecutes rfl rfl rfl id id
    · exact h.of_not_isClosing rfl hexecutes rfl rfl rfl id id
  | changeState state => exact h.exec_changeState hexecutes
  | stateChange state => exact h.exec_stateChange hexecutes
  | testClosed => exact h.exec_testClosed hexecutes
  | closeTransports => exact h.exec_closeTransports hexecutes
  | exchangeTransport => exact h.exec_exchangeTransport hexecutes
  | resetRecv =>
    exact ⟨by simp [Shared.exec], by simp [Shared.exec], fun _ => rfl, fun _ => rfl,
      by simp [Shared.exec]⟩
  | resetStateChange =>
    -- the same thread has reset the receive callback just before
    have hcallback : c.mRecvCallback = false := h.resetting hexecutes.op_mem
    have hvacuous : ∀ {P : Prop}, c.mRecvCallback = true → P := by
      intro P htrue
      rw [hcallback] at htrue
      cases htrue
    exact ⟨fun _ => hvacuous, fun _ => hvacuous, fun _ => hcallback, fun _ => hcallback,
      fun _ => hvacuous⟩
  | _ =>
    rw [Shared.exec_of_not_isWrite config c failure rfl]
    exact h.of_not_isClosing rfl hexecutes rfl rfl rfl id id

theorem step {s s' : Threads} {e : Step} (h : Closes s.shared s.pending)
    (hstep : s.step config e = some s') : Closes s'.shared s'.pending := by
  rcases Threads.step_cases hstep with ⟨operation, failure, -, hruns⟩ | hadds
  · obtain ⟨mid, caught, hexecutes, hpending, hcaught⟩ := hruns.pending
    rw [hruns.shared]
    refine (h.exec hexecutes).add (.of_eq hpending) fun x hx => ?_
    rw [hcaught x hx]
    rfl
  · obtain ⟨new, hpending, hnew⟩ := hadds.pending
    have hadd := h.add hpending hnew
    rcases hadds.shared with hshared | hshared
    · rwa [hshared]
    · rw [hshared]
      exact hadd.observe .receivedClose

end Closes

/-! ## The receiving thread -/

namespace Shared

/-- The operations that an operation leads to deliver nothing. -/
theorem isDelivery_operations {x : Operation}
    (h : x ∈ (c.exec config failure operation).operations) : x.isDelivery = false := by
  cases leads_of_mem h with
  | lost state hmem =>
    rcases mem_remoteClose.1 hmem with rfl | rfl <;> rfl
  | recvClose hmem =>
    rcases mem_remoteClose.1 hmem with rfl | rfl <;> rfl
  | _ => rfl

/-- The handshake alone leads to an operation that opens the transport. -/
theorem isOpening_operations {x : Operation} (hop : operation.isOpening = false)
    (h : x ∈ (c.exec config failure operation).operations) : x.isOpening = false := by
  cases leads_of_mem h with
  | changeToConnected => cases hop
  | lost state hmem =>
    rcases mem_remoteClose.1 hmem with rfl | rfl <;> rfl
  | recvClose hmem =>
    rcases mem_remoteClose.1 hmem with rfl | rfl <;> rfl
  | _ => rfl

/-- The threads that are started do not open the transport. -/
theorem isOpening_started {x : Operation}
    (h : x ∈ (c.exec config failure operation).started.flatten) : x.isOpening = false := by
  cases hop : operation.isOpening with
  | false => exact isOpening_operations hop (List.mem_append_right _ h)
  | true =>
    cases operation with
    | changeState state => simp [exec, apply_ite Outcome.started] at h
    | sendHttpResponse => simp [exec, apply_ite Outcome.started] at h
    | _ => cases hop

/-- An operation that does not open the transport leaves its state, or disconnects it. -/
theorem mState_exec_of_not_isOpening (config : Config) (c : Shared) (failure : Option Exception)
    {operation : Operation} (hop : operation.isOpening = false) :
    (c.exec config failure operation).shared.mState = c.mState ∨
      (c.exec config failure operation).shared.isDown := by
  refine (mState_exec config c failure operation).imp id ?_
  rintro ⟨state, rfl, hstate⟩
  unfold isDown
  rw [hstate]
  by_contra hdown
  rw [not_or] at hdown
  simp [Operation.isOpening, hdown.1, hdown.2] at hop

theorem receivedClose_mem_exec
    (h : .receivedClose ∈ (c.exec config failure operation).shared.trace) :
    .receivedClose ∈ c.trace := by
  rcases trace_exec config c failure operation with htrace | ⟨o, hobserves, htrace⟩
  · rwa [htrace] at h
  · rw [htrace] at h
    refine (List.mem_append.1 h).resolve_right fun hlast => ?_
    obtain rfl := List.mem_singleton.1 hlast
    cases hobserves

/-- Nobody sets the receive callback again. -/
theorem mRecvCallback_exec (config : Config) (c : Shared) (failure : Option Exception)
    (operation : Operation) (h : c.mRecvCallback = false) :
    (c.exec config failure operation).shared.mRecvCallback = false := by
  by_cases hwrite : operation.isWrite = true
  · cases operation with
    | resetRecv => rfl
    | changeToClosing => exact h
    | changeToOpen => exact h
    | resetStateChange => exact h
    | closeTransports =>
      simp only [exec]
      split_ifs <;> exact h
    | exchangeTransport =>
      simp only [exec]
      split_ifs <;> exact h
    | exchangeCloseSent =>
      simp only [exec]
      split_ifs <;> exact h
    | changeState state =>
      simp only [exec]
      split_ifs <;> exact h
    | _ => cases hwrite
  · rw [exec_of_not_isWrite config c failure (Bool.eq_false_of_not_eq_true hwrite)]
    exact h

theorem isDown_ne_connecting (h : c.isDown) : c.mState ≠ .connecting := by
  rcases h with h | h <;> simp [h]

end Shared

namespace Threads

variable {s s' : Threads} {e : Step}

/-- The receiving thread is past the handshake. -/
structure Settled (s : Threads) : Prop where
  state : s.shared.mState ≠ .connecting
  operations : ∀ x ∈ s.receiver.operations, x.isOpening = false

/-- The invariant of the receiving thread. -/
structure Received (s : Threads) : Prop where
  threads : ∀ x ∈ s.threads.flatten, x.isDelivery = false ∧ x.isOpening = false
  delivery : (∀ x ∈ s.receiver.operations, x.isDelivery = true) ∨
    ∀ x ∈ s.receiver.operations, x.isDelivery = false
  loop : s.receiver.phase.isLoop = true → s.Settled
  close : .receivedClose ∈ s.shared.trace →
    s.Settled ∧ (s.shared.isDown ∨ .changeState .disconnected ∈ s.receiver.operations)

/-- The operations behind `incoming`, up to the handshake. -/
theorem incoming_spec (s : Threads) (message : Option (List UInt8))
    (hidle : s.receiver.phase = .idle) (hops : s.receiver.operations = []) :
    (s.incoming message).shared = s.shared ∧ (s.incoming message).threads = s.threads ∧
      (s.incoming message).receiver.phase.isLoop = false ∧
      ∀ x ∈ (s.incoming message).receiver.operations, x = .disconnect := by
  unfold incoming
  split_ifs
  · exact ⟨rfl, rfl, by rw [hidle]; rfl, by simp [hops]⟩
  · cases message with
    | none => exact ⟨rfl, rfl, by simp [hidle, Phase.isLoop], by simp⟩
    | some message => exact ⟨rfl, rfl, rfl, by simp [hops]⟩

namespace Received

theorem start (mHandshake : WsHandshake) (mPartialOpcode : Opcode) :
    (Threads.start mHandshake mPartialOpcode).Received where
  threads := by simp [Threads.start]
  delivery := by simp [Threads.start]
  loop := by simp [Threads.start, Phase.isLoop]
  close := by simp [Threads.start]

/-- The operations of the other threads neither deliver nor open. -/
theorem threads_step (h : s.Received) (hstep : s.step config e = some s') :
    ∀ x ∈ s'.threads.flatten, x.isDelivery = false ∧ x.isOpening = false := by
  cases Takes.of_step hstep with
  | call call =>
    intro x hx
    simp only [List.flatten_append, List.flatten_cons, List.flatten_nil, List.append_nil] at hx
    rcases List.mem_append.1 hx with hold | hnew
    · exact h.threads x hold
    · exact (callOperations_spec call x hnew).2
  | @thread i failure operation rest hthread =>
    have hexecutes := Executes.resume hthread (s.shared.exec config failure operation).next
      (s.shared.exec config failure operation).started
    intro x hx
    rcases hexecutes.mem_cases hx with hnew | hold
    · exact ⟨Shared.isDelivery_operations hnew,
        Shared.isOpening_operations (h.threads operation hexecutes.op_mem).2 hnew⟩
    · exact h.threads x hold
  | incoming message hidle hops =>
    rw [(incoming_spec s message hidle hops).2.1]
    exact h.threads
  | @receiver failure operation rest receiver hops hreceiver =>
    dsimp only
    rw [List.flatten_append]
    intro x hx
    rcases List.mem_append.1 hx with hold | hnew
    · exact h.threads x hold
    · exact ⟨Shared.isDelivery_operations (List.mem_append_right _ hnew),
        Shared.isOpening_started hnew⟩
  | proceed => exact h.threads

/-- The operation that another thread executes. -/
theorem thread_mem {i : ℕ} {rest : List Operation}
    (hthread : s.threads[i]? = some (operation :: rest)) : operation ∈ s.threads.flatten :=
  List.mem_flatten.2 ⟨_, List.mem_of_getElem? hthread, List.mem_cons_self⟩

/-- What is down stays down once the handshake is over. -/
theorem isDown_exec (hop : operation.isOpening = false) (hdown : c.isDown) :
    (c.exec config failure operation).shared.isDown := by
  rcases Shared.mState_exec_of_not_isOpening config c failure hop with hsame | hdown'
  · unfold Shared.isDown
    rwa [hsame]
  · exact hdown'

theorem ne_connecting_exec (hop : operation.isOpening = false) (hstate : c.mState ≠ .connecting) :
    (c.exec config failure operation).shared.mState ≠ .connecting := by
  rcases Shared.mState_exec_of_not_isOpening config c failure hop with hsame | hdown
  · rwa [hsame]
  · exact Shared.isDown_ne_connecting hdown

end Received

/-- Once the handshake is over, it stays over. -/
theorem Settled.step (h : s.Received) (hsettled : s.Settled) (hstep : s.step config e = some s') :
    s'.Settled := by
  cases Takes.of_step hstep with
  | call => exact ⟨hsettled.state, hsettled.operations⟩
  | @thread i failure operation rest hthread =>
    have hop := (h.threads operation (Received.thread_mem hthread)).2
    exact ⟨Received.ne_connecting_exec hop hsettled.state, hsettled.operations⟩
  | incoming message hidle hops =>
    obtain ⟨hshared, -, -, hnew⟩ := incoming_spec s message hidle hops
    refine ⟨by rw [hshared]; exact hsettled.state, fun x hx => ?_⟩
    rw [hnew x hx]
    rfl
  | @receiver failure operation rest receiver hops hreceiver =>
    have hop : operation.isOpening = false :=
      hsettled.operations operation (by rw [hops]; exact List.mem_cons_self)
    have hrest : ∀ x ∈ rest, x.isOpening = false := fun x hx =>
      hsettled.operations x (by rw [hops]; exact List.mem_cons_of_mem _ hx)
    refine ⟨Received.ne_connecting_exec hop hsettled.state, ?_⟩
    -- what the operation leads to comes before the rest, and so does the handler of an exception
    rcases hreceiver with ⟨hnext, -⟩ | ⟨-, hnext, -⟩
    · rw [hnext]
      intro x hx
      rcases List.mem_append.1 hx with hnew | hold
      · exact Shared.isOpening_operations hop (List.mem_append_left _ hnew)
      · exact hrest x hold
    · rw [hnext]
      exact List.forall_mem_cons.2 ⟨rfl, hrest⟩
  | proceed hops hproceed =>
    have hspec := Receiver.proceed_spec hops hproceed
    constructor
    · rcases hspec.shared with rfl | ⟨rfl, -⟩
      · exact hsettled.state
      · exact hsettled.state
    · -- only a transport that is connecting goes on to open
      intro x hx
      by_contra hopening
      exact hsettled.state (hspec.opening x hx (Bool.eq_true_of_not_eq_false hopening))

namespace Received

/-- A delivery leads to no other operation, and does not throw. -/
theorem exec_of_isDelivery (config : Config) (c : Shared) (failure : Option Exception)
    {operation : Operation} (h : operation.isDelivery = true) :
    (c.exec config failure operation).next = [] ∧
      (c.exec config failure operation).threw = none := by
  cases operation with
  | recv message =>
    cases message with
    | none => cases h
    | some message => simp [Shared.exec, apply_ite Outcome.next, apply_ite Outcome.threw]
  | _ => cases h

/-- The receiving thread delivers messages only, or none. -/
theorem delivery_step (h : s.Received) (hstep : s.step config e = some s') :
    (∀ x ∈ s'.receiver.operations, x.isDelivery = true) ∨
      ∀ x ∈ s'.receiver.operations, x.isDelivery = false := by
  cases Takes.of_step hstep with
  | call => exact h.delivery
  | thread => exact h.delivery
  | incoming message hidle hops =>
    right
    intro x hx
    rw [(incoming_spec s message hidle hops).2.2.2 x hx]
    rfl
  | @receiver failure operation rest receiver hops hreceiver =>
    have hdelivery := h.delivery
    rw [hops] at hdelivery
    rcases hdelivery with hall | hnone
    · -- a delivery leads to nothing, so that deliveries are left
      obtain ⟨hop, hrest⟩ := List.forall_mem_cons.1 hall
      obtain ⟨hnext, hthrew⟩ := exec_of_isDelivery config s.shared failure hop
      rcases hreceiver with ⟨hoperations, -⟩ | ⟨⟨e, hthrew'⟩, -⟩
      · left
        rwa [hoperations, hnext, List.nil_append]
      · rw [hthrew] at hthrew'
        cases hthrew'
    · obtain ⟨-, hrest⟩ := List.forall_mem_cons.1 hnone
      right
      rcases hreceiver with ⟨hoperations, -⟩ | ⟨-, hoperations, -⟩
      · rw [hoperations]
        intro x hx
        rcases List.mem_append.1 hx with hnew | hold
        · exact Shared.isDelivery_operations (List.mem_append_left _ hnew)
        · exact hrest x hold
      · rw [hoperations]
        exact List.forall_mem_cons.2 ⟨rfl, hrest⟩
  | proceed hops hproceed =>
    exact (Receiver.proceed_spec hops hproceed).delivery

/-- The loop over the frames is reached when the handshake is over. -/
theorem loop_step (h : s.Received) (hstep : s.step config e = some s')
    (hloop : s'.receiver.phase.isLoop = true) : s'.Settled := by
  cases Takes.of_step hstep with
  | call => exact (h.loop hloop).step h hstep
  | thread => exact (h.loop hloop).step h hstep
  | incoming message hidle hops =>
    rw [(incoming_spec s message hidle hops).2.2.1] at hloop
    cases hloop
  | @receiver failure operation rest receiver hops hreceiver =>
    rcases hreceiver with ⟨-, hphase⟩ | ⟨-, -, hphase⟩
    · rw [hphase] at hloop
      exact (h.loop hloop).step h hstep
    · rw [hphase] at hloop
      cases hloop
  | proceed hops hproceed =>
    have hspec := Receiver.proceed_spec hops hproceed
    rcases hspec.loop hloop with hold | hconnected
    · exact (h.loop hold).step h hstep
    · refine Settled.step h ⟨by simp [hconnected], ?_⟩ hstep
      rw [hops]
      exact List.forall_mem_nil _

/-- Behind a CLOSE frame the transport is down, or the receiving thread is about to disconnect
it. -/
theorem close_step (h : s.Received) (hstep : s.step config e = some s')
    (hclose : .receivedClose ∈ s'.shared.trace) :
    s'.Settled ∧ (s'.shared.isDown ∨ .changeState .disconnected ∈ s'.receiver.operations) := by
  cases Takes.of_step hstep with
  | call => exact (h.close hclose).imp (·.step h hstep) id
  | @thread i failure operation rest hthread =>
    obtain ⟨hsettled, hdown⟩ := h.close (Shared.receivedClose_mem_exec hclose)
    have hop := (h.threads operation (thread_mem hthread)).2
    exact ⟨hsettled.step h hstep, hdown.imp (isDown_exec hop) id⟩
  | incoming message hidle hops =>
    have hshared := (incoming_spec s message hidle hops).1
    rw [hshared] at hclose ⊢
    obtain ⟨hsettled, hdown⟩ := h.close hclose
    refine ⟨hsettled.step h hstep, hdown.imp id fun hmem => ?_⟩
    rw [hops] at hmem
    cases hmem
  | @receiver failure operation rest receiver hops hreceiver =>
    obtain ⟨hsettled, hdown⟩ := h.close (Shared.receivedClose_mem_exec hclose)
    have hop : operation.isOpening = false :=
      hsettled.operations operation (by rw [hops]; exact List.mem_cons_self)
    refine ⟨hsettled.step h hstep, ?_⟩
    rcases hdown with hdown | hmem
    · exact Or.inl (isDown_exec hop hdown)
    · rw [hops] at hmem
      rcases List.mem_cons.1 hmem with rfl | hrest
      · -- the disconnect is executed now
        left
        left
        simp only [Shared.exec]
        split_ifs with heq
        · exact heq
        · rfl
      · right
        rcases hreceiver with ⟨hoperations, -⟩ | ⟨-, hoperations, -⟩
        · rw [hoperations]
          exact List.mem_append_right _ hrest
        · rw [hoperations]
          exact List.mem_cons_of_mem _ hrest
  | proceed hops hproceed =>
    have hspec := Receiver.proceed_spec hops hproceed
    rcases hspec.shared with rfl | ⟨-, hloop, hmem⟩
    · obtain ⟨hsettled, hdown⟩ := h.close hclose
      refine ⟨hsettled.step h hstep, hdown.imp id fun hmem => ?_⟩
      rw [hops] at hmem
      cases hmem
    · exact ⟨(h.loop hloop).step h hstep, Or.inr hmem⟩

theorem step (h : s.Received) (hstep : s.step config e = some s') : s'.Received :=
  ⟨h.threads_step hstep, h.delivery_step hstep, h.loop_step hstep, h.close_step hstep⟩

/-- A message is delivered by the receiving thread. -/
theorem mem_of_executed (h : s.Received) {message : Message}
    (hexecuted : s.executed e = some (.recv (some message), failure)) :
    .recv (some message) ∈ s.receiver.operations := by
  cases e with
  | thread i failure' =>
    exfalso
    obtain ⟨operation, hhead, heq⟩ := Option.map_eq_some_iff.1 hexecuted
    obtain ⟨ops, hthread, hhead⟩ := Option.bind_eq_some_iff.1 hhead
    obtain ⟨rfl, -⟩ := Prod.mk.inj heq
    have hmem : Operation.recv (some message) ∈ s.threads.flatten :=
      List.mem_flatten.2 ⟨ops, List.mem_of_getElem? hthread, List.mem_of_head? hhead⟩
    exact absurd (h.threads _ hmem).1 (by simp [Operation.isDelivery])
  | receiver failure' =>
    obtain ⟨operation, hhead, heq⟩ := Option.map_eq_some_iff.1 hexecuted
    obtain ⟨rfl, -⟩ := Prod.mk.inj heq
    exact List.mem_of_head? hhead
  | call call => cases hexecuted
  | incoming message => cases hexecuted
  | proceed => cases hexecuted

/-- The receive callback is not set when a message behind a CLOSE frame is delivered in order. -/
theorem not_delivered (h : s.Received) (hcloses : Closes s.shared s.pending)
    (hok : DeliversInOrder s e = true) {message : Message}
    (hexecuted : s.executed e = some (.recv (some message), failure))
    (hclose : .receivedClose ∈ s.shared.trace) : s.shared.mRecvCallback = false := by
  by_contra hset
  have hcallback : s.shared.mRecvCallback = true := Bool.eq_true_of_not_eq_false hset
  -- the receiving thread delivers, and does nothing else
  have hall : ∀ x ∈ s.receiver.operations, x.isDelivery = true := by
    refine h.delivery.resolve_right fun hnone => ?_
    exact absurd (hnone _ (h.mem_of_executed hexecuted)) (by simp [Operation.isDelivery])
  have hdown : s.shared.isDown := by
    refine (h.close hclose).2.resolve_right fun hmem => ?_
    exact absurd (hall _ hmem) (by decide)
  obtain ⟨x, hx, hclosing⟩ := hcloses.down hdown hcallback
  rcases List.mem_append.1 hx with hreceiver | hthreads
  · have hdelivery := hall x hreceiver
    cases x with
    | recv message => cases hclosing
    | _ => cases hdelivery
  · simp only [DeliversInOrder, hexecuted, hcallback, hclose, decide_true, Bool.and_self,
      Bool.true_and, Bool.not_eq_true', List.any_eq_false] at hok
    exact hok x hthreads hclosing

end Received

end Threads

/-! ## Runs -/

variable {s s' : Threads} {e : Step}

/-- What holds as long as nothing is delivered behind a CLOSE frame. -/
structure Quiet (s : Threads) : Prop where
  closes : Closes s.shared s.pending
  received : s.Received
  trace : NoDeliveryAfterClose s.shared.trace

/-- A step in which nothing is delivered behind a CLOSE frame, because the callback is not set. -/
theorem Quiet.step_of_reset (h : Quiet s)
    (hreset : ∀ message failure, s.executed e = some (.recv (some message), failure) →
      .receivedClose ∈ s.shared.trace → s.shared.mRecvCallback = false)
    (hstep : s.step config e = some s') : Quiet s' := by
  refine ⟨h.closes.step hstep, h.received.step hstep, ?_⟩
  have happend : ∀ {o : Observation},
      (.receivedClose ∈ s.shared.trace → o.isDelivered = false) →
        NoDeliveryAfterClose (s.shared.trace ++ [o]) := by
    intro o ho
    refine List.pairwise_append.2 ⟨h.trace, List.pairwise_singleton _ _, ?_⟩
    rintro o' hmem o'' hlast rfl
    obtain rfl := List.mem_singleton.1 hlast
    exact ho hmem
  rcases Threads.step_cases hstep with ⟨operation, failure, hexecuted, hruns⟩ | hadds
  · rw [hruns.shared]
    rcases Shared.trace_exec config s.shared failure operation with htrace | ⟨o, hobserves, htrace⟩
    · rw [htrace]
      exact h.trace
    · rw [htrace]
      refine happend fun hclose => ?_
      cases hobserves with
      | delivered message failure hcallback =>
        rw [hreset message failure hexecuted hclose] at hcallback
        cases hcallback
      | _ => rfl
  · rcases hadds.shared with hshared | hshared
    · rw [hshared]
      exact h.trace
    · rw [hshared]
      exact happend fun _ => rfl

theorem Quiet.step (h : Quiet s) (hok : DeliversInOrder s e = true)
    (hstep : s.step config e = some s') : Quiet s' :=
  h.step_of_reset (fun _ _ => h.received.not_delivered h.closes hok) hstep

/-- What holds in every run of `ResetsInOrder` steps: the callback has been reset when the receiving
thread has a message behind a CLOSE frame. -/
structure Resets (s : Threads) : Prop where
  quiet : Quiet s
  reset : .receivedClose ∈ s.shared.trace →
    ∀ x ∈ s.receiver.operations, x.isDelivery = true → s.shared.mRecvCallback = false

namespace Resets

theorem start (mHandshake : WsHandshake) (mPartialOpcode : Opcode) :
    Resets (Threads.start mHandshake mPartialOpcode) where
  quiet := ⟨Closes.start mHandshake mPartialOpcode, .start mHandshake mPartialOpcode,
    List.Pairwise.nil⟩
  reset := by simp [Threads.start]

/-- The receiving thread finds a message in the loop only, when no other thread is on its way. -/
theorem reset_step (h : Resets s) (hok : ResetsInOrder s e = true)
    (hstep : s.step config e = some s') (hclose : .receivedClose ∈ s'.shared.trace) :
    ∀ x ∈ s'.receiver.operations, x.isDelivery = true → s'.shared.mRecvCallback = false := by
  cases Threads.Takes.of_step hstep with
  | call => exact h.reset hclose
  | @thread i failure operation rest hthread =>
    intro x hx hdelivery
    exact Shared.mRecvCallback_exec config s.shared failure operation
      (h.reset (Shared.receivedClose_mem_exec hclose) x hx hdelivery)
  | incoming message hidle hops =>
    intro x hx hdelivery
    rw [(Threads.incoming_spec s message hidle hops).2.2.2 x hx] at hdelivery
    cases hdelivery
  | @receiver failure operation rest receiver hops hreceiver =>
    intro x hx hdelivery
    -- a message that is left was there before
    have hrest : x ∈ rest := by
      rcases hreceiver with ⟨hoperations, -⟩ | ⟨-, hoperations, -⟩
      · rw [hoperations] at hx
        refine (List.mem_append.1 hx).resolve_left fun hnew => ?_
        rw [Shared.isDelivery_operations (List.mem_append_left _ hnew)] at hdelivery
        cases hdelivery
      · rw [hoperations] at hx
        refine (List.mem_cons.1 hx).resolve_left fun hdisconnect => ?_
        rw [hdisconnect] at hdelivery
        cases hdelivery
    have hmem : x ∈ s.receiver.operations := by
      rw [hops]
      exact List.mem_cons_of_mem _ hrest
    exact Shared.mRecvCallback_exec config s.shared failure operation
      (h.reset (Shared.receivedClose_mem_exec hclose) x hmem hdelivery)
  | proceed hops hproceed =>
    intro x hx hdelivery
    have hspec := Receiver.proceed_spec hops hproceed
    have hlooping := hspec.looping x hx hdelivery
    rcases hspec.shared with rfl | ⟨-, -, hdisconnect⟩
    · have hdown : s.shared.isDown := by
        refine (h.quiet.received.close hclose).2.resolve_right fun hmem => ?_
        rw [hops] at hmem
        cases hmem
      by_contra hset
      obtain ⟨y, hy, hclosing⟩ := h.quiet.closes.down hdown (Bool.eq_true_of_not_eq_false hset)
      -- the receiving thread has nothing to do, so that it is another one
      rw [Threads.pending, hops, List.nil_append] at hy
      have hany : s.threads.flatten.any Operation.isClosing = true :=
        List.any_eq_true.2 ⟨y, hy, hclosing⟩
      simp [ResetsInOrder, Threads.resetting, hlooping, hclose, hany, hset] at hok
    · -- the CLOSE frame itself
      exfalso
      rcases hspec.delivery with hall | hnone
      · exact absurd (hall _ hdisconnect) (by decide)
      · rw [hnone x hx] at hdelivery
        cases hdelivery

theorem step (h : Resets s) (hok : ResetsInOrder s e = true)
    (hstep : s.step config e = some s') : Resets s' := by
  have hquiet : Quiet s' := by
    apply h.quiet.step_of_reset _ hstep
    intro message failure hexecuted hclose
    exact h.reset hclose _ (h.quiet.received.mem_of_executed hexecuted) rfl
  exact ⟨hquiet, h.reset_step hok hstep⟩

end Resets

/-- In every run a transport sends at most one CLOSE frame. No TEXT or BINARY frame follows it if
every `send` tests the state in order. No message is delivered behind a received CLOSE frame if no
other thread is on its way to the reset of the receive callback, either when the message is about to
be delivered or when the receiving thread goes on to the next frame. -/
theorem closing_of_meets (config : Config) {mHandshake : WsHandshake} {mPartialOpcode : Opcode}
    {es : List Step} {t : Threads}
    (hrun : Transition.run (Threads.step config) (Threads.start mHandshake mPartialOpcode) es =
      some t) :
    t.shared.trace.countP Observation.isSentClose ≤ 1 ∧
      (Transition.Meets (Threads.step config) (fun s e => SendsInOrder s e = true)
          (Threads.start mHandshake mPartialOpcode) es → SilentAfterClose t.shared.trace) ∧
      (Transition.Meets (Threads.step config) (fun s e => DeliversInOrder s e = true)
          (Threads.start mHandshake mPartialOpcode) es → NoDeliveryAfterClose t.shared.trace) ∧
      (Transition.Meets (Threads.step config) (fun s e => ResetsInOrder s e = true)
          (Threads.start mHandshake mPartialOpcode) es → NoDeliveryAfterClose t.shared.trace) := by
  refine ⟨?_, fun hmeets => ?_, fun hmeets => ?_, fun hmeets => ?_⟩
  · have hclose : CloseOnce t.shared t.pending :=
      Transition.run_invariant_all (P := fun s => CloseOnce s.shared s.pending)
        (fun _ _ _ h hstep => h.step hstep) (CloseOnce.start mHandshake mPartialOpcode) hrun
    unfold CloseOnce at hclose
    have hflag := Bool.toNat_le t.shared.mCloseSent
    omega
  · have hsilenced : Silenced t.shared t.pending :=
      Transition.run_invariant (P := fun s => Silenced s.shared s.pending)
        (fun _ _ _ h hok hstep => h.step hok hstep) (Silenced.start mHandshake mPartialOpcode)
        hmeets hrun
    exact hsilenced.trace
  · have hquiet : Quiet t :=
      Transition.run_invariant (fun _ _ _ h hok hstep => h.step hok hstep)
        (Resets.start mHandshake mPartialOpcode).quiet hmeets hrun
    exact hquiet.trace
  · have hresets : Resets t := Transition.run_invariant
      (fun _ _ _ h hok hstep => h.step hok hstep) (.start mHandshake mPartialOpcode) hmeets hrun
    exact hresets.quiet.trace

instance (trace : List Observation) : Decidable (SilentAfterClose trace) :=
  inferInstanceAs (Decidable (List.Pairwise _ _))

/-- A server without a limit on the pings. -/
def exampleConfig : Config :=
  { mIsClient := false
    mMaxMessageSize := 262144
    mMaxOutstandingPings := 0
    sha1 := fun _ => []
    handshakeKey := Vector.replicate 16 0
    maskingKey := fun _ => Vector.replicate 4 0 }

/-- The handshake of a client. -/
def exampleClient : WsHandshake :=
  { mHost := bytes "localhost", mPath := bytes "/", mKey := bytes "key" }

/-- The request of the client. -/
def exampleRequest : List UInt8 := Http.block (WsHandshake.requestLines exampleClient)

/-- The receiving thread of the server, in a call with the request and frames behind it. -/
def exampleReceiver (mHandshake : WsHandshake) (phase : Phase) (frames : List UInt8) : Receiver :=
  { mHandshake
    mBuffer := exampleRequest ++ frames
    mPartialOpcode := .continuation
    size := (exampleRequest ++ frames).length
    phase }

/-- The server has parsed the request. -/
def exampleAccepted (frames : List UInt8) : Threads :=
  { receiver := (exampleReceiver exampleClient (.opened exampleRequest.length) frames).perform
      [.sendHttpResponse] }

/-- The server is open, and at the first frame. -/
def exampleOpen (frames : List UInt8) : Threads :=
  { shared := { state := .open, mState := .connected }
    receiver := { exampleReceiver exampleClient .looping frames with mBuffer := frames } }

/-- The steps up to the first frame. -/
def exampleSteps (frames : List UInt8) : List Step :=
  [.incoming (some (exampleRequest ++ frames)), .proceed] ++
    (List.replicate 5 (.receiver none) ++ [.proceed, .proceed])

theorem run_exampleRequest (frames : List UInt8) :
    Transition.run (Threads.step exampleConfig) (Threads.start {} .continuation)
      [.incoming (some (exampleRequest ++ frames)), .proceed] = some (exampleAccepted frames) := by
  have hparse : WsHandshake.parseHttpRequest {} (exampleRequest ++ frames) =
      (.ok exampleRequest.length, exampleClient) :=
    WsHandshake.parseHttpRequest_requestLines
      ⟨by decide, ⟨by decide, by decide⟩, by decide, by decide⟩
      ⟨by decide, forall_mem_of_all (by decide)⟩ ⟨by decide, by decide⟩ (by simp [exampleClient])
      frames
  have hlength : exampleRequest.length ≠ 0 := WsHandshake.length_block_pos _
  have hincoming : (Threads.start {} .continuation).step exampleConfig
      (.incoming (some (exampleRequest ++ frames))) =
        some { receiver := exampleReceiver {} .inserted frames } := by
    simp [Threads.step, Threads.start, Threads.incoming, exampleReceiver]
  have hproceed : Threads.step exampleConfig
      { receiver := exampleReceiver {} .inserted frames } .proceed =
        some (exampleAccepted frames) := by
    simp [Threads.step, Receiver.proceed, Receiver.acceptHandshake, exampleReceiver, exampleConfig,
      hparse, hlength, Receiver.perform, exampleAccepted]
  exact Transition.run_cons.2 ⟨_, hincoming, Transition.run_cons.2 ⟨_, hproceed, rfl⟩⟩

theorem run_exampleOpened (frames : List UInt8) :
    Transition.run (Threads.step exampleConfig) (exampleAccepted frames)
      (List.replicate 5 (.receiver none)) =
        some
          { shared := { state := .open, mState := .connected }
            receiver := exampleReceiver exampleClient (.opened exampleRequest.length) frames } :=
  rfl

theorem run_exampleSteps (frames : List UInt8) :
    Transition.run (Threads.step exampleConfig) (Threads.start {} .continuation)
      (exampleSteps frames) = some (exampleOpen frames) := by
  have hne : exampleRequest ≠ [] := fun hnil => WsHandshake.length_block_pos _ (by
    rw [show Http.block (WsHandshake.requestLines exampleClient) = [] from hnil, List.length_nil])
  have herased : Transition.run (Threads.step exampleConfig)
      { shared := { state := .open, mState := .connected }
        receiver := exampleReceiver exampleClient (.opened exampleRequest.length) frames }
      [.proceed, .proceed] = some (exampleOpen frames) := by
    simp [Transition.run, Threads.step, Receiver.proceed, Receiver.receive, exampleReceiver,
      exampleOpen, hne]
  exact Transition.run_append.2 ⟨_, run_exampleRequest frames,
    Transition.run_append.2 ⟨_, run_exampleOpened frames, herased⟩⟩

/-- A message of the server, and a client's CLOSE frame that closes the WebSocket, with a message
behind it. -/
def exampleClose : List Step :=
  [.call (.send { data := [104], type := .string })] ++ (List.replicate 4 (.thread 0 none) ++
    ([.proceed] ++ (List.replicate 14 (.receiver none) ++ [.proceed, .proceed, .receiver none])))

/-- The message behind the CLOSE frame is not delivered. -/
theorem closing_of_meets_received :
    ∃ es t, Transition.run (Threads.step exampleConfig) (Threads.start {} .continuation) es =
        some t ∧
      t.shared.trace =
        [.sent { opcode := .textFrame, payload := [104], mask := false }, .receivedClose,
          .sent { opcode := .close, mask := false }] ∧
      t.shared.trace.countP Observation.isSentClose ≤ 1 ∧ SilentAfterClose t.shared.trace ∧
        NoDeliveryAfterClose t.shared.trace := by
  obtain ⟨t, hrest⟩ : ∃ t, Transition.run (Threads.step exampleConfig)
      (exampleOpen [0x88, 0x00, 0x81, 0x01, 0x61]) exampleClose = some t :=
    Option.isSome_iff_exists.1 rfl
  have htrace : t.shared.trace =
      [.sent { opcode := .textFrame, payload := [104], mask := false }, .receivedClose,
        .sent { opcode := .close, mask := false }] := by
    have hmap : (Transition.run (Threads.step exampleConfig)
        (exampleOpen [0x88, 0x00, 0x81, 0x01, 0x61]) exampleClose).map (·.shared.trace) =
        some [.sent { opcode := .textFrame, payload := [104], mask := false }, .receivedClose,
          .sent { opcode := .close, mask := false }] := by
      decide
    rw [hrest] at hmap
    exact Option.some.inj hmap
  have hrun := Transition.run_append.2 ⟨_, run_exampleSteps _, hrest⟩
  -- the conditions allow the handshake, so only the part behind it is evaluated
  have hmeets : ∀ ok : Threads → Step → Bool, (∀ s m, ok s (.incoming m) = true) →
      (∀ s, s.receiver.phase ≠ .looping → ok s .proceed = true) →
      Transition.Meets (Threads.step exampleConfig) (fun s e => ok s e = true)
        (exampleAccepted [0x88, 0x00, 0x81, 0x01, 0x61]) (List.replicate 5 (.receiver none)) →
      Transition.Meets (Threads.step exampleConfig) (fun s e => ok s e = true)
        (exampleOpen [0x88, 0x00, 0x81, 0x01, 0x61]) exampleClose →
      Transition.Meets (Threads.step exampleConfig) (fun s e => ok s e = true)
        (Threads.start {} .continuation)
        (exampleSteps [0x88, 0x00, 0x81, 0x01, 0x61] ++ exampleClose) := by
    intro ok hincoming hproceed hreceiver hclose
    refine Transition.meets_append (run_exampleSteps _) ?_ hclose
    refine Transition.meets_append (run_exampleRequest _) ⟨hincoming _ _, fun s' hs' => ?_⟩ ?_
    · obtain rfl : _ = s' := Option.some.inj hs'
      exact ⟨hproceed _ nofun, fun _ _ => trivial⟩
    · refine Transition.meets_append (run_exampleOpened _) hreceiver
        ⟨hproceed _ nofun, fun s' hs' => ?_⟩
      obtain rfl : _ = s' := Option.some.inj hs'
      exact ⟨hproceed _ nofun, fun _ _ => trivial⟩
  obtain ⟨hclose, hsilent, -, hquiet⟩ := closing_of_meets exampleConfig hrun
  refine ⟨_, t, hrun, htrace, hclose, hsilent ?_, hquiet ?_⟩
  · exact hmeets SendsInOrder (fun _ _ => rfl) (fun _ _ => rfl) (by decide) (by decide)
  · refine hmeets ResetsInOrder (fun _ _ => rfl) (fun s hphase => ?_) (by decide) (by decide)
    unfold ResetsInOrder
    split
    · next hlooping => exact absurd hlooping hphase
    · rfl

/-- The answer to an unknown opcode leaves the WebSocket open: the user's next message follows the
CLOSE frame. -/
theorem unknown_opcode_then_send :
    ¬∀ (config : Config) mHandshake mPartialOpcode es t,
      Transition.run (Threads.step config) (Threads.start mHandshake mPartialOpcode) es = some t →
        t.shared.trace.countP Observation.isSentClose ≤ 1 ∧ SilentAfterClose t.shared.trace ∧
          NoDeliveryAfterClose t.shared.trace := by
  intro hall
  have hrun : Transition.run (Threads.step exampleConfig) (exampleOpen [0x83, 0x00])
      [.proceed, .receiver none, .receiver none, .receiver none,
        .call (.send { data := [104], type := .string }), .thread 1 none, .thread 1 none,
        .thread 1 none, .thread 1 none] = some _ := rfl
  obtain ⟨-, hsilent, -⟩ := hall exampleConfig {} .continuation _ _
    (Transition.run_append.2 ⟨_, run_exampleSteps [0x83, 0x00], hrun⟩)
  revert hsilent
  decide

end Rtc.WebSocket
