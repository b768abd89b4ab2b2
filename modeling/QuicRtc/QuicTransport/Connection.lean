import QuicRtc.QuicTransport.Flush

/-!
# The connection of the QUIC transport

The transport refers to its connection in two places: `mConn`, which `stop` and `close` use and
which no function sets, and `mConnCtx->conn`, which `on_new_conn` sets and nothing resets. `start`
reports `Connected` without a connection.

* `Lifetime`: the state is `Connected` only while a connection exists, streams are made on
  connections that are alive, and `stop` and `close` close the connection that is alive.
* `KeepsLifetime`: the steps that preserve it.
* `lifetime_iff`: it holds all along a run exactly when all its steps preserve it.
-/

namespace Rtc.QuicTransport

/-- The connection is used while it is alive, and only then. -/
structure Lifetime (w : World) : Prop where
  connected : w.transport.mState = .connected → w.conns ≠ []
  makes : ∀ conn, .makeStream conn false ∉ w.calls
  closes : ∀ closing ∈ w.closings, ∀ conn ∈ closing.alive, closing.closed = some conn

/-- `trySendQueue` makes a stream: the queue is not empty and `mConnCtx->conn` is set. -/
def sendsOn (w : World) (conn : ℕ) : Prop :=
  w.transport.conn = some conn ∧ w.transport.mSendQueue.mQueue ≠ [] ∧
    w.transport.mSendShutdown = false

instance (w : World) (conn : ℕ) : Decidable (sendsOn w conn) :=
  inferInstanceAs (Decidable (_ ∧ _ ∧ _))

/-- The steps that preserve the property: `start` with a connection or without effect, sending on a
connection that is alive, and `stop` and `close` when `mConn` is the connection that is alive or
there is none. -/
def KeepsLifetime (w : World) : Event → Prop
  | .start => w.transport.mState = .disconnected → w.conns ≠ []
  | .stop => ∀ conn ∈ w.conns, w.transport.mConn = some conn
  | .close => ∀ conn ∈ w.conns, w.transport.mConn = some conn
  | .doFlush => ∀ conn ∈ w.transport.conn, sendsOn w conn → conn ∈ w.conns
  | .flush => ∀ conn ∈ w.transport.conn, sendsOn w conn → conn ∈ w.conns
  | _ => True

instance (w : World) : DecidablePred (KeepsLifetime w)
  | .start => inferInstanceAs (Decidable (_ → _))
  | .stop => inferInstanceAs (Decidable (∀ conn ∈ w.conns, w.transport.mConn = some conn))
  | .close => inferInstanceAs (Decidable (∀ conn ∈ w.conns, w.transport.mConn = some conn))
  | .doFlush =>
    inferInstanceAs (Decidable (∀ conn ∈ w.transport.conn, sendsOn w conn → conn ∈ w.conns))
  | .flush =>
    inferInstanceAs (Decidable (∀ conn ∈ w.transport.conn, sendsOn w conn → conn ∈ w.conns))
  | .push _ => isTrue trivial
  | .enqueueFlush => isTrue trivial
  | .decrement => isTrue trivial
  | .closeStream _ => isTrue trivial
  | .sendReset _ => isTrue trivial
  | .onNewConn _ => isTrue trivial
  | .onHskDone _ _ => isTrue trivial
  | .onConnClosed _ => isTrue trivial
  | .onNewStream _ => isTrue trivial
  | .onStreamClose _ => isTrue trivial

namespace Lifetime

variable {w w' : World}

theorem init (mConn : Option ℕ) : Lifetime (World.init mConn) := by
  constructor <;> simp [World.init]

/-- Steps that touch neither the state nor the connections, and make no stream. -/
theorem of_frame (h : Lifetime w) (hstate : w'.transport.mState = w.transport.mState)
    (hconns : w'.conns = w.conns)
    (hcalls : ∀ conn, .makeStream conn false ∈ w'.calls → .makeStream conn false ∈ w.calls)
    (hclosings : w'.closings = w.closings) : Lifetime w' where
  connected := by
    rw [hstate, hconns]
    exact h.connected
  makes := fun conn hmem => h.makes conn (hcalls conn hmem)
  closes := by
    rw [hclosings]
    exact h.closes

/-- `lsquic_stream_close` makes no stream. -/
theorem streamClose (h : Lifetime w) {stream : ℕ} : Lifetime (w.streamClose stream) := by
  refine h.of_frame rfl rfl (fun _ hmem => ?_) rfl
  simpa [World.streamClose] using hmem

/-- `trySendQueue` keeps the property exactly when the connection it sends on is alive. -/
theorem trySendQueue_iff (h : Lifetime w) :
    Lifetime w.trySendQueue ↔ ∀ conn ∈ w.transport.conn, sendsOn w conn → conn ∈ w.conns := by
  rcases trySendQueue_cases w with ⟨hsame, hnot⟩ |
    ⟨c, mSendQueue, mBytesSent, hconn, hshutdown, -, heq⟩
  · -- nothing is sent, and the condition holds for want of a message or a connection
    rw [hsame]
    refine iff_of_true h fun conn hconn hsends => ?_
    obtain ⟨-, hqueue, hshutdown⟩ := hsends
    rcases hnot with hempty | hstopped | hnone
    · exact absurd hempty hqueue
    · rw [hshutdown] at hstopped
      cases hstopped
    · rw [hnone] at hconn
      cases hconn
  · rw [heq]
    constructor
    · intro h' conn hmem hsends
      obtain rfl : c = conn := Option.some.inj (hconn.symm.trans hmem)
      -- there is a message, so a stream is made on a connection that is not alive
      by_contra hdead
      refine h'.makes c (List.mem_append_right _ (List.mem_replicate.2 ⟨?_, ?_⟩))
      · simpa using hsends.2.1
      · simp [hdead]
    · intro halive
      refine h.of_frame rfl rfl (fun conn hmem => ?_) rfl
      rcases List.mem_append.1 hmem with hmem | hmem
      · exact hmem
      · obtain ⟨hne, hcall⟩ := List.mem_replicate.1 hmem
        have hlive := halive c hconn ⟨hconn, by simpa using hne, hshutdown⟩
        simp [hlive] at hcall

/-- `stop` and `close` keep the property exactly when `mConn` is the connection that is alive. -/
theorem closing_iff (h : Lifetime w) {transport : QuicTransport}
    (hstate : transport.mState ≠ .connected) :
    Lifetime
        { w with
          transport
          closings := w.closings ++ [{ alive := w.conns, closed := w.transport.mConn }] } ↔
      ∀ conn ∈ w.conns, w.transport.mConn = some conn := by
  constructor
  · intro h'
    -- the record of this very call
    exact h'.closes { alive := w.conns, closed := w.transport.mConn } (by simp)
  · intro hconn
    refine ⟨fun hconnected => absurd hconnected hstate, h.makes, fun closing hmem => ?_⟩
    rcases List.mem_append.1 hmem with hmem | hmem
    · exact h.closes closing hmem
    · rw [List.mem_singleton.1 hmem]
      exact hconn

/-- The property and the condition of one step. -/
theorem step_iff {e : Event} (h : Lifetime w) (hstep : w.Takes e w') :
    Lifetime w' ↔ KeepsLifetime w e := by
  cases hstep with
  | start hstate =>
    -- `connect` reports `Connected` whether or not there is a connection
    constructor
    · exact fun h' _ => h'.connected rfl
    · exact fun hok => ⟨fun _ => hok hstate, h.makes, h.closes⟩
  | startAgain hstate => exact iff_of_true h fun hdisconnected => absurd hdisconnected hstate
  | stop => exact h.closing_iff (by simp)
  | close => exact h.closing_iff (by simp)
  | doFlush htasks =>
    rw [KeepsLifetime, ← h.trySendQueue_iff]
    constructor
    · exact fun h' => h'.of_frame rfl rfl (fun _ => id) rfl
    · exact fun h' => h'.of_frame rfl rfl (fun _ => id) rfl
  | flush => exact h.trySendQueue_iff
  | push => exact iff_of_true (h.of_frame rfl rfl (fun _ => id) rfl) trivial
  | pushRefused => exact iff_of_true h trivial
  | enqueueFlush => exact iff_of_true (h.of_frame rfl rfl (fun _ => id) rfl) trivial
  | decrement htasks => exact iff_of_true (h.of_frame rfl rfl (fun _ => id) rfl) trivial
  | @closeStream _ found _ =>
    have hclosed : Lifetime (w.streamClose found) := h.streamClose
    exact iff_of_true (hclosed.of_frame rfl rfl (fun _ => id) rfl) trivial
  | closeStreamUnknown => exact iff_of_true h trivial
  | sendReset hfound => exact iff_of_true h.streamClose trivial
  | sendResetUnknown hnone => exact iff_of_true h trivial
  | onNewConn => exact iff_of_true ⟨fun _ => by simp [World.onNewConn], h.makes, h.closes⟩ trivial
  | onHskDone hconn =>
    exact iff_of_true ⟨fun _ => List.ne_nil_of_mem hconn, h.makes, h.closes⟩ trivial
  | onConnClosed =>
    -- the state is `Disconnected`, whatever other connections there are
    refine iff_of_true ⟨?_, h.makes, h.closes⟩ trivial
    intro hconnected
    cases hconnected
  | onNewStream hnew => exact iff_of_true (h.of_frame rfl rfl (fun _ => id) rfl) trivial
  | onStreamClose => exact iff_of_true (h.of_frame rfl rfl (fun _ => id) rfl) trivial

end Lifetime

/-- In every run: the connection is used exactly while it is alive, in every state reached, exactly
when `start` comes with a connection or without effect, messages are sent on connections that are
alive, and `stop` and `close` come when `mConn` is the connection that is alive or there is none. -/
theorem lifetime_iff {mConn : Option ℕ} {events : List Event} {w : World}
    (hrun : Transition.run World.step (World.init mConn) events = some w) :
    (∀ before, before <+: events → ∀ w',
        Transition.run World.step (World.init mConn) before = some w' → Lifetime w') ↔
      Transition.Meets World.step KeepsLifetime (World.init mConn) events :=
  Transition.forall_prefix_iff_meets
    (fun _ _ _ hw hok hstep => (hw.step_iff (.of_step hstep)).2 hok)
    (fun _ _ _ hw hmiss hstep h' => hmiss ((hw.step_iff (.of_step hstep)).1 h'))
    (Lifetime.init mConn) hrun

/-- A connection that carries a message and ends before `stop`. -/
def connectionEvents : List Event :=
  [.onNewConn 7, .onHskDone 7 true, .push (byteMessage 1), .enqueueFlush, .doFlush, .decrement,
    .onConnClosed 7, .stop]

theorem lifetime_iff_connectionEvents :
    ∃ w, Transition.run World.step (World.init none) connectionEvents = some w ∧
      w.calls = [.makeStream 7 true] ∧
      ∀ before, before <+: connectionEvents → ∀ w',
        Transition.run World.step (World.init none) before = some w' → Lifetime w' := by
  have hok : Transition.Meets World.step KeepsLifetime (World.init none) connectionEvents := by
    decide
  have hrun : ∃ w, Transition.run World.step (World.init none) connectionEvents = some w ∧
      w.calls = [.makeStream 7 true] := ⟨_, rfl, rfl⟩
  obtain ⟨w, hrun, hcalls⟩ := hrun
  exact ⟨w, hrun, hcalls, (lifetime_iff hrun).2 hok⟩

/-- The connection ends while a message is in the queue, and the flush task makes a stream on it.
`start` then reports `Connected`, and `stop` closes nothing although a connection is alive. -/
theorem uses_dead_connection :
    ∃ w, Transition.run World.step (World.init none)
        [.onNewConn 7, .push (byteMessage 1), .enqueueFlush, .onConnClosed 7, .doFlush, .start] =
          some w ∧
      .makeStream 7 false ∈ w.calls ∧ w.transport.mState = .connected ∧ w.conns = [] ∧
      ¬Lifetime w ∧
      ∃ w', Transition.run World.step w [.onNewConn 8, .stop] = some w' ∧
        w'.closings = [{ alive := [8], closed := none }] := by
  refine ⟨_, rfl, by decide, rfl, rfl, fun h => h.connected rfl rfl, _, rfl, by decide⟩

end Rtc.QuicTransport
