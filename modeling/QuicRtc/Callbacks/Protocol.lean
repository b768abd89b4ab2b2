import QuicRtc.Callbacks.Steps
import QuicRtc.Lib.Transition

/-!
# The callback protocol

A step that misses the condition breaks the protocol at once, so that the protocol holds all along a
run exactly when every step meets the condition (`protocol_iff`).
-/

namespace Rtc.Callbacks

namespace Inv

variable {w w' : World}

/-! ## The steps that break the protocol -/

/-- Open is observed after closed. -/
theorem not_of_open {trace rest : List Observation} (htrace : w'.trace = trace ++ .open :: rest)
    (hclosed : .closed ∈ trace) : ¬Protocol w' := by
  intro hprotocol
  have hfirst := hprotocol.openFirst
  rw [htrace, List.pairwise_append] at hfirst
  exact hfirst.2.2 _ hclosed _ List.mem_cons_self rfl rfl

/-- Messages are delivered although open has not been observed. -/
theorem not_flushPendingMessages (htriggered : w.mOpenTriggered = true)
    (hcallback : w.messageCallback = true) (hqueue : w.mRecvQueue ≠ [])
    (hopen : .open ∉ w.trace) : ¬Protocol w.flushPendingMessages := by
  intro hprotocol
  obtain ⟨m, hm⟩ := List.exists_mem_of_ne_nil _ hqueue
  have htrace : w.flushPendingMessages.trace = w.trace ++ w.mRecvQueue.map .message := by
    simp [World.flushPendingMessages, htriggered, hcallback]
  have hopened := hprotocol.opened m
  rw [htrace] at hopened
  have hmem := hopened (List.mem_append_right _ (List.mem_map_of_mem hm))
  simp [hopen] at hmem

/-- The open is triggered when it may not. -/
theorem not_triggerOpen (hopen : .open ∉ w.trace) (hmiss : ¬w.MayOpen) :
    ¬Protocol w.triggerOpen := by
  unfold World.MayOpen at hmiss
  rw [not_and_or] at hmiss
  rcases hmiss with hnone | huser
  · push Not at hnone
    obtain ⟨hcallback, hmessage, hqueue⟩ := hnone
    have heq : w.triggerOpen =
        { w with mOpenTriggered := true, openStored := true }.flushPendingMessages := by
      simp [World.triggerOpen, World.callOpen, hcallback]
    rw [heq]
    -- the open is stored, and the waiting messages overtake it
    exact not_flushPendingMessages rfl hmessage hqueue hopen
  · push Not at huser
    obtain ⟨hcallback, hseen⟩ := huser
    have heq : w.triggerOpen =
        ({ w with mOpenTriggered := true }.observe .open).flushPendingMessages := by
      simp [World.triggerOpen, World.callOpen, hcallback]
    rw [heq]
    unfold World.flushPendingMessages
    split
    · -- messages flushed behind the open do not change that it came after closed
      exact not_of_open (List.append_assoc _ [_] _) hseen
    · exact not_of_open rfl hseen

/-- A channel that is not incoming opens when it may not. -/
theorem not_apply_open (h : Inv w) {outcome : DataChannel.Outcome}
    (hkind : w.channel.kind ≠ .incoming) (hopen : w.channel.mIsOpen = false)
    (hopen' : outcome.channel.mIsOpen = true) (heffects : outcome.effects = [.triggerOpen])
    (hmiss : ¬w.MayOpen) :
    ¬Protocol (w.apply outcome) := by
  have heq : w.apply outcome = { w with channel := outcome.channel }.triggerOpen := by
    simp [World.apply, heffects, World.effect]
  obtain ⟨hnone, -⟩ := h.only_open hkind hopen hopen'
  have hmiss' : ¬World.MayOpen { w with channel := outcome.channel } := hmiss
  rw [heq]
  exact not_triggerOpen hnone hmiss'

theorem not_openTransport (h : Inv w) (hmiss : ¬KeepsProtocol w .openTransport) :
    ¬Protocol (w.apply w.channel.openOn) := by
  simp only [KeepsProtocol, not_and_or] at hmiss
  rcases hmiss with hmiss | hmiss
  · push Not at hmiss
    obtain ⟨hkind, hclosed, hopen, hmiss⟩ := hmiss
    rcases openOn_effects w.channel with
      ⟨-, -, -, heq⟩ | ⟨message, hkind', -⟩ | ⟨hsame, -⟩
    · rw [heq]
      exact h.not_apply_open (by simp [hkind]) hopen rfl rfl hmiss
    · simp [hkind] at hkind'
    · have hopen' := hsame.2.1
      simp [DataChannel.openOn, hkind, hclosed, hopen] at hopen'
  · push Not at hmiss
    obtain ⟨hkind, hclosed, hmessage⟩ := hmiss
    rcases openOn_effects w.channel with
      ⟨hkind', -⟩ | ⟨message, -, -, heq⟩ | ⟨-, heffects⟩
    · simp [hkind] at hkind'
    · intro hprotocol
      -- the OPEN message is passed to the transport after `close`
      have hcalled : w.closeCalled = true := h.closeCalled.trans hclosed
      have hsilent := hprotocol.silent
      rw [heq] at hsilent
      simp [World.apply, World.effect, World.pass, hcalled] at hsilent
    · rcases DataChannel.openLocked_cases w.channel with ⟨e, hopen⟩ | ⟨_, _, -, -, hopen⟩
      · simp [hopen, Except.toOption] at hmessage
      · simp [DataChannel.openOn, hkind, hopen] at heffects

theorem not_incoming (h : Inv w) {message : Message}
    (hmiss : ¬KeepsProtocol w (.incoming message)) : ¬Protocol (w.incoming message) := by
  simp only [KeepsProtocol, Classical.not_imp, not_and_or] at hmiss
  obtain ⟨hclosed, hmiss⟩ := hmiss
  -- a Reset is always met, since closing breaks nothing
  have hreset : message.type ≠ .reset := by
    intro hreset
    simp [isAckMessage, hreset] at hmiss
  have hincoming : w.incoming message = w.apply (w.channel.incoming message) := by
    simp [World.incoming, hreset]
  rw [hincoming]
  rcases hmiss with ⟨hack, hopen, hmiss⟩ | ⟨hdata, hcallback, hmiss⟩
  · have hack' : message.type = .control ∧ message.data.head? = some messageAck := by
      simpa [isAckMessage] using hack
    have heq : w.channel.incoming message =
        { channel := { w.channel with mIsOpen := true }, effects := [.triggerOpen] } := by
      simp [DataChannel.incoming, hclosed, hack'.1, hack'.2, messageAck, messageOpen, hopen]
    rw [heq]
    refine h.not_apply_open (fun hkind => ?_) hopen rfl rfl hmiss
    -- an incoming channel is not known to the user yet
    have hinternal := h.incoming hkind hclosed hopen
    exact hmiss ⟨by simp [hinternal], by simp [hinternal]⟩
  · have heq : w.channel.incoming message =
        { channel := w.channel, effects := [.available message] } := by
      rcases hdata with hdata | hdata
      · simp [DataChannel.incoming, hclosed, hdata]
      · simp [DataChannel.incoming, hclosed, hdata]
    -- the open is stored, so the message is delivered before it
    simp only [World.MayFlush, Classical.not_imp, Bool.not_eq_false] at hmiss
    have hopen : .open ∉ w.trace := h.openOnce (Or.inr hmiss.2)
    have heq' : w.apply { channel := w.channel, effects := [.available message] } =
        { w with
          mRecvQueue := w.mRecvQueue ++ [message]
          arrived := w.arrived ++ [message] }.flushPendingMessages := rfl
    rw [heq, heq']
    exact not_flushPendingMessages hmiss.1 hcallback (by simp) hopen

/-- Every step that misses the condition breaks the protocol. -/
theorem not_step {e : Event} (h : Inv w) (hmiss : ¬KeepsProtocol w e)
    (hstep : w.step e = some w') : ¬Protocol w' := by
  cases e with
  | openTransport =>
    cases hstep
    exact h.not_openTransport hmiss
  | incoming message =>
    simp only [World.step, Option.ite_none_left_eq_some, Option.some.injEq] at hstep
    obtain ⟨-, rfl⟩ := hstep
    exact h.not_incoming hmiss
  | onOpen =>
    simp only [World.step, Option.ite_none_right_eq_some, Option.some.injEq] at hstep
    obtain ⟨-, rfl⟩ := hstep
    simp only [KeepsProtocol, Classical.not_imp, not_not] at hmiss
    have htrace : w.onOpen.trace = w.trace ++ .open :: [] := by
      simp [World.onOpen, hmiss.1, World.observe]
    exact not_of_open htrace hmiss.2
  | onMessage =>
    simp only [World.step, Option.ite_none_right_eq_some, Option.some.injEq] at hstep
    obtain ⟨-, rfl⟩ := hstep
    simp only [KeepsProtocol, World.MayFlush, Classical.not_imp, Bool.not_eq_false] at hmiss
    obtain ⟨hqueue, htriggered, hstored⟩ := hmiss
    have hopen : .open ∉ w.trace := h.openOnce (Or.inr hstored)
    exact not_flushPendingMessages htriggered rfl hqueue hopen
  | callbackReturns =>
    simp only [World.step, Option.ite_none_right_eq_some, Option.some.injEq] at hstep
    obtain ⟨hrunning, rfl⟩ := hstep
    -- the callback that returns was the one of the open event
    have hopen : .open ∉ w.trace := by
      refine h.openOnce (Or.inl ?_)
      simp only [World.opensLeft, hrunning, Bool.toNat_true]
      omega
    exact not_triggerOpen hopen hmiss
  | close => exact absurd trivial hmiss
  | send maxMessageSize message => exact absurd trivial hmiss
  | assignStream stream => exact absurd trivial hmiss
  | onClosed => exact absurd trivial hmiss
  | onDataChannel callback => exact absurd trivial hmiss
  | handOver => exact absurd trivial hmiss

end Inv

/-! ## The protocol -/

/-- For every channel, whether or not there is a data-channel callback at first, and every run: the
handlers observe what they should in every state reached exactly when no outgoing channel is opened
after it was closed, the open is not triggered or replayed after the closed handler was called, and
no message is delivered while the open is stored for want of a handler. -/
theorem protocol_iff {channel : DataChannel} (hfresh : Fresh channel) {dataChannelCallback : Bool}
    {events : List Event} {w : World}
    (hrun : Transition.run World.step (World.init channel dataChannelCallback) events = some w) :
    (∀ before, before <+: events → ∀ w',
        Transition.run World.step (World.init channel dataChannelCallback) before = some w' →
          Protocol w') ↔
      Transition.Meets World.step KeepsProtocol (World.init channel dataChannelCallback) events :=
  Transition.forall_prefix_iff_meets_of_invariant (fun _ hw => hw.protocol)
    (fun _ _ _ hw hok hstep => hw.step hok hstep)
    (fun _ _ _ hw hmiss hstep => hw.not_step hmiss hstep) (Inv.init hfresh dataChannelCallback) hrun

/-- The incoming channel of stream 1. -/
def incomingChannel : DataChannel := { DataChannel.makeIncoming with mStream := some 1 }

/-- A message on stream 1. -/
def letter (b : UInt8) : Message := { data := [b], type := .string, stream := 1 }

/-- An incoming channel that gets a message while it is pending, and is closed by the peer. -/
def pendingEvents : List Event :=
  [.incoming (DataChannel.plainOpenMessage 1), .incoming (letter 65), .onDataChannel true,
    .handOver, .onOpen, .onClosed, .onMessage, .callbackReturns, .incoming (letter 66),
    .incoming (DataChannel.resetMessage 1), .close]

theorem protocol_iff_pendingEvents :
    ∃ w, Transition.run World.step (World.init incomingChannel false) pendingEvents = some w ∧
      w.trace = [.open, .message (letter 65), .message (letter 66), .closed] ∧
      ∀ before, before <+: pendingEvents → ∀ w',
        Transition.run World.step (World.init incomingChannel false) before = some w' →
          Protocol w' := by
  have hok : Transition.Meets World.step KeepsProtocol (World.init incomingChannel false)
      pendingEvents := by decide
  have hrun : ∃ w, Transition.run World.step (World.init incomingChannel false) pendingEvents =
        some w ∧
      w.trace = [.open, .message (letter 65), .message (letter 66), .closed] :=
    ⟨_, rfl, by decide⟩
  obtain ⟨w, hrun, htrace⟩ := hrun
  exact ⟨w, hrun, htrace, (protocol_iff (Or.inr ⟨1, rfl⟩) hrun).2 hok⟩

/-- A reliable outgoing channel without a label or a protocol. -/
def outgoingChannel : DataChannel :=
  { kind := .outgoing, mLabel := [], mProtocol := [], mReliability := {} }

/-- A channel is reset by the peer while it is handed over, after its closed handler was registered
and before its open handler is: the user gets the open after the closed. An outgoing channel is
opened after it was closed: it passes an OPEN message to the transport. An open channel gets its
message handler first: it delivers a message before the open. -/
theorem breaks_protocol :
    (∃ w, Transition.run World.step (World.init incomingChannel false)
        [.incoming (DataChannel.plainOpenMessage 1), .onDataChannel true, .handOver, .onClosed,
          .incoming (DataChannel.resetMessage 1), .onOpen, .callbackReturns] = some w ∧
        w.trace = [.closed, .open] ∧ ¬Protocol w) ∧
      (∃ w, Transition.run World.step (World.init outgoingChannel false)
          [.assignStream 1, .close, .openTransport] = some w ∧
        w.passedAfterClose.length = 1 ∧ ¬Protocol w) ∧
      ∃ w, Transition.run World.step (World.init outgoingChannel false)
        [.assignStream 1, .openTransport, .incoming (DataChannel.ackMessage 1),
          .incoming (letter 65), .onMessage, .onOpen] = some w ∧
        w.trace = [.message (letter 65), .open] ∧ ¬Protocol w := by
  refine ⟨⟨_, rfl, by decide, fun h => ?_⟩, ⟨_, rfl, by decide, fun h => ?_⟩,
    ⟨_, rfl, by decide, fun h => ?_⟩⟩
  · exact absurd h.openFirst (by decide)
  · exact absurd h.silent (by decide)
  · exact absurd h.messagesLater (by decide)

end Rtc.Callbacks
