import QuicRtc.Callbacks.Defs

/-!
# The invariant of the callbacks

The open is triggered for the user at most once: `opensLeft` counts the ways that are left, a
channel closes once, and what was observed or is stored adds up. The lemmas say how the parts of the
calls (a message passed on, the waiting messages delivered, the open triggered, the channel closed)
preserve it.
-/

namespace Rtc.Callbacks

/-- How often `triggerDataChannel` may still be called. -/
def internalOpens : Option OpenHandler → ℕ
  | some .triggerDataChannel => 1
  | some .user => 0
  | none => 0

/-- How often a channel that is not incoming may still open. -/
def directOpens : DataChannel.Kind → Bool → ℕ
  | .incoming, _ => 0
  | _, mIsOpen => (!mIsOpen).toNat

/-- How often the open may still be triggered for the user. An incoming channel goes through
`triggerDataChannel`, the pending channels and the data-channel callback. -/
def World.opensLeft (w : World) : ℕ :=
  internalOpens w.openCallback + w.isPending.toNat + w.isRunning.toNat +
    directOpens w.channel.kind w.channel.mIsOpen

/-- The invariant of a channel and its callbacks. -/
structure Inv (w : World) : Prop where
  closeCalled : w.closeCalled = w.channel.mIsClosed
  closedCount : w.trace.count .closed + w.closedStored.toNat ≤ w.channel.mIsClosed.toNat
  openCount : w.trace.count .open + w.openStored.toNat + w.opensLeft ≤ 1
  opened : w.mOpenTriggered = true → .open ∈ w.trace ∨ w.openStored = true
  internal : w.openCallback = some .triggerDataChannel → w.channel.kind = .incoming
  incoming : w.channel.kind = .incoming → w.channel.mIsClosed = false →
    w.channel.mIsOpen = false → w.openCallback = some .triggerDataChannel
  known : w.isPending = true ∨ w.isHandedOver = true →
    w.channel.kind = .incoming ∧ w.channel.mIsOpen = true
  inOrder : delivered w.trace ++ w.mRecvQueue = w.arrived
  protocol : Protocol w

@[simp]
theorem directOpens_open (kind : DataChannel.Kind) : directOpens kind true = 0 := by
  cases kind <;> rfl

theorem directOpens_of_ne {kind : DataChannel.Kind} (hkind : kind ≠ .incoming) :
    directOpens kind false = 1 := by
  cases kind with
  | negotiated => rfl
  | outgoing => rfl
  | incoming => exact absurd rfl hkind

theorem Inv.init {channel : DataChannel} (hfresh : Fresh channel) (dataChannelCallback : Bool) :
    Inv (World.init channel dataChannelCallback) := by
  -- neither constructor opens or closes the channel
  obtain ⟨hopen, hclosed⟩ : channel.mIsOpen = false ∧ channel.mIsClosed = false := by
    rcases hfresh with ⟨kind, label, protocol, reliability, -, hmake⟩ | ⟨stream, rfl⟩
    · unfold DataChannel.make at hmake
      split at hmake
      · cases hmake
      · cases hmake
        exact ⟨rfl, rfl⟩
    · exact ⟨rfl, rfl⟩
  constructor
  · exact hclosed.symm
  · simp [World.init, hclosed]
  · -- one way to open is left: the internal handler, or the channel itself
    by_cases hkind : channel.kind = .incoming
    · simp [World.init, World.opensLeft, hkind, internalOpens, directOpens]
    · simp [World.init, World.opensLeft, hkind, hopen, internalOpens, directOpens_of_ne]
  · simp [World.init]
  · simp [World.init]
  · intro hkind _ _
    simp [World.init, show channel.kind = .incoming from hkind]
  · simp [World.init]
  · rfl
  · constructor <;> simp [World.init, delivered]

/-! ## What the handlers observe -/

@[simp]
theorem delivered_append (trace trace' : List Observation) :
    delivered (trace ++ trace') = delivered trace ++ delivered trace' := List.filterMap_append

@[simp]
theorem delivered_open : delivered [.open] = [] := rfl

@[simp]
theorem delivered_closed : delivered [.closed] = [] := rfl

@[simp]
theorem delivered_messages (messages : List Message) :
    delivered (messages.map .message) = messages := by
  induction messages with
  | nil => rfl
  | cons m messages ih => exact congrArg (m :: ·) ih

@[simp]
theorem count_open_messages (messages : List Message) :
    (messages.map Observation.message).count .open = 0 := by
  simp [List.count_eq_zero]

@[simp]
theorem count_closed_messages (messages : List Message) :
    (messages.map Observation.message).count .closed = 0 := by
  simp [List.count_eq_zero]

/-- What comes later is not open. -/
theorem pairwise_append_ne_open {trace later : List Observation} {p : Observation → Prop}
    (h : trace.Pairwise fun x y => p x → y ≠ .open) (hlater : ∀ y ∈ later, y ≠ .open) :
    (trace ++ later).Pairwise fun x y => p x → y ≠ .open := by
  refine List.pairwise_append.2 ⟨h, ?_, fun x _ y hy _ => hlater y hy⟩
  exact List.pairwise_of_forall_mem_list fun _ _ y hy _ => hlater y hy

namespace Protocol

variable {w w' : World}

theorem congr (h : Protocol w) (htrace : w'.trace = w.trace) (harrived : w'.arrived = w.arrived)
    (hpassed : w'.passedAfterClose = w.passedAfterClose) : Protocol w' where
  openOnce := htrace ▸ h.openOnce
  closedOnce := htrace ▸ h.closedOnce
  openFirst := htrace ▸ h.openFirst
  opened := htrace ▸ h.opened
  messagesLater := htrace ▸ h.messagesLater
  inOrder := by
    rw [htrace, harrived]
    exact h.inOrder
  silent := hpassed.trans h.silent

/-- The first open, before closed and every message. -/
theorem observeOpen (h : Protocol w) (hopen : .open ∉ w.trace) (hclosed : .closed ∉ w.trace) :
    Protocol (w.observe .open) where
  openOnce := by simp [World.observe, List.count_eq_zero.2 hopen]
  closedOnce := by simpa [World.observe] using h.closedOnce
  openFirst := by
    refine List.pairwise_append.2 ⟨h.openFirst, by simp, ?_⟩
    -- nothing that came before is closed
    rintro x hx y - rfl
    exact absurd hx hclosed
  opened := by simp [World.observe]
  messagesLater := by
    refine List.pairwise_append.2 ⟨h.messagesLater, by simp, ?_⟩
    intro x hx y _ hmessage
    cases x with
    | «open» => cases hmessage
    | closed => cases hmessage
    -- a message would have come after an earlier open
    | message m => exact absurd (h.opened m hx) hopen
  inOrder := by simpa [World.observe] using h.inOrder
  silent := h.silent

theorem observeClosed (h : Protocol w) (hclosed : .closed ∉ w.trace) :
    Protocol (w.observe .closed) where
  openOnce := by simpa [World.observe] using h.openOnce
  closedOnce := by simp [World.observe, List.count_eq_zero.2 hclosed]
  openFirst := pairwise_append_ne_open h.openFirst (by simp)
  opened := by simpa [World.observe] using h.opened
  messagesLater := pairwise_append_ne_open h.messagesLater (by simp)
  inOrder := by simpa [World.observe] using h.inOrder
  silent := h.silent

/-- Messages in the order of their arrival, after open. -/
theorem observeMessages (h : Protocol w) {messages : List Message}
    (hopened : messages ≠ [] → .open ∈ w.trace)
    (harrived : delivered w.trace ++ messages = w.arrived)
    (htrace : w'.trace = w.trace ++ messages.map .message) (hsame : w'.arrived = w.arrived)
    (hpassed : w'.passedAfterClose = w.passedAfterClose) : Protocol w' where
  openOnce := by simpa [htrace] using h.openOnce
  closedOnce := by simpa [htrace] using h.closedOnce
  openFirst := by
    rw [htrace]
    exact pairwise_append_ne_open h.openFirst (by simp)
  opened := by
    intro m hm
    rw [htrace] at hm ⊢
    rcases List.mem_append.1 hm with hm | hm
    · exact List.mem_append_left _ (h.opened m hm)
    · obtain ⟨m', hm', -⟩ := List.mem_map.1 hm
      exact List.mem_append_left _ (hopened (List.ne_nil_of_mem hm'))
  messagesLater := by
    rw [htrace]
    exact pairwise_append_ne_open h.messagesLater (by simp)
  inOrder := by
    refine ⟨[], ?_⟩
    rw [List.append_nil, htrace, hsame, delivered_append, delivered_messages]
    exact harrived
  silent := hpassed.trans h.silent

end Protocol

namespace Inv

variable {w w' : World}

theorem openOnce (h : Inv w) (hleft : 0 < w.opensLeft ∨ w.openStored = true) :
    .open ∉ w.trace := by
  have hcount := h.openCount
  rw [← List.count_eq_zero]
  rcases hleft with hleft | hstored
  · omega
  · rw [hstored] at hcount
    simp only [Bool.toNat_true] at hcount
    omega

/-- A change of the channel that concerns neither its kind nor its flags. -/
theorem setChannel (h : Inv w) {channel : DataChannel} (hkind : channel.kind = w.channel.kind)
    (hopen : channel.mIsOpen = w.channel.mIsOpen)
    (hclosed : channel.mIsClosed = w.channel.mIsClosed) : Inv { w with channel } where
  closeCalled := by simpa only [hclosed] using h.closeCalled
  closedCount := by simpa only [hclosed] using h.closedCount
  openCount := by simpa only [World.opensLeft, hkind, hopen] using h.openCount
  opened := h.opened
  internal := by simpa only [hkind] using h.internal
  incoming := by simpa only [hkind, hopen, hclosed] using h.incoming
  known := by simpa only [hkind, hopen] using h.known
  inOrder := h.inOrder
  protocol := h.protocol.congr rfl rfl rfl

/-- A message passed to the transport before `close`. -/
theorem pass (h : Inv w) (hclosed : w.channel.mIsClosed = false) (message : Message) :
    Inv (w.pass message) := by
  have hcalled : w.closeCalled = false := h.closeCalled.trans hclosed
  have hpass : w.pass message = { w with passed := w.passed ++ [message] } :=
    if_neg (by simp [hcalled])
  rw [hpass]
  exact { h with protocol := h.protocol.congr rfl rfl rfl }

/-- The waiting messages are delivered when the open has been observed. -/
theorem flushPendingMessages (h : Inv w)
    (hok : w.messageCallback = true → w.mRecvQueue ≠ [] → w.MayFlush) :
    Inv w.flushPendingMessages := by
  unfold World.flushPendingMessages
  split
  · next hflush =>
    simp only [Bool.and_eq_true] at hflush
    -- the open was triggered and is not stored, so the handler has observed it
    have hopened : w.mRecvQueue ≠ [] → .open ∈ w.trace := by
      intro hqueue
      have hstored := hok hflush.2 hqueue hflush.1
      rcases h.opened hflush.1 with hopen | hopen
      · exact hopen
      · simp [hstored] at hopen
    refine
      { closeCalled := h.closeCalled
        closedCount := ?_
        openCount := ?_
        opened := fun htriggered => ?_
        internal := h.internal
        incoming := h.incoming
        known := h.known
        inOrder := ?_
        protocol := ?_ }
    · simpa using h.closedCount
    · simpa [World.opensLeft] using h.openCount
    · exact (h.opened htriggered).imp_left fun hopen => List.mem_append_left _ hopen
    · simpa using h.inOrder
    · exact h.protocol.observeMessages hopened h.inOrder rfl rfl rfl
  · exact h

/-- The user's handler observes the open, and no other is left. -/
theorem observeOpen (h : Inv w) (hopen : .open ∉ w.trace) (hclosed : .closed ∉ w.trace)
    (hleft : w.opensLeft = 0) (mOpenTriggered : Bool) :
    Inv { w.observe .open with mOpenTriggered, openStored := false } := by
  refine
    { h with
      closedCount := ?_
      openCount := ?_
      opened := fun _ => Or.inl (List.mem_append_right _ List.mem_cons_self)
      inOrder := ?_
      protocol := (h.protocol.observeOpen hopen hclosed).congr rfl rfl rfl }
  · simpa [World.observe] using h.closedCount
  · have hleft' :
        World.opensLeft { w.observe .open with mOpenTriggered, openStored := false } = 0 := hleft
    rw [hleft']
    simp [World.observe, List.count_eq_zero.2 hopen]
  · simpa [World.observe] using h.inOrder

/-- The open is triggered for the user, once. -/
theorem triggerOpen (h : Inv w) (hopen : .open ∉ w.trace) (hstored : w.openStored = false)
    (hleft : w.opensLeft = 0) (hok : w.MayOpen) : Inv w.triggerOpen := by
  have hcount : w.trace.count .open = 0 := List.count_eq_zero.2 hopen
  unfold World.triggerOpen World.callOpen
  dsimp only
  split
  · next hcallback =>
    -- there is no handler, the call is stored
    have hinv : Inv { w with mOpenTriggered := true, openStored := true } := by
      refine { h with openCount := ?_, opened := fun _ => Or.inr rfl, protocol := ?_ }
      · simpa [hcount, World.opensLeft] using hleft
      · exact h.protocol.congr rfl rfl rfl
    exact hinv.flushPendingMessages fun hmessage hqueue =>
      absurd (hok.1 hcallback hmessage) hqueue
  · next hcallback =>
    -- the handler observes it at once, and the waiting messages after it
    have hinv : Inv ({ w with mOpenTriggered := true }.observe .open) := by
      simpa only [World.observe, hstored] using
        h.observeOpen hopen (hok.2 hcallback) hleft true
    exact hinv.flushPendingMessages fun _ _ _ => hstored
  · next hcallback => simp [World.opensLeft, hcallback, internalOpens] at hleft
    -- the internal handler would be a way left

/-- The open of an incoming channel puts it into `mPendingDataChannels`. -/
theorem triggerOpen_internal (h : Inv w)
    (hcallback : w.openCallback = some .triggerDataChannel)
    (hopen : w.channel.mIsOpen = true) : Inv w.triggerOpen := by
  have hkind := h.internal hcallback
  have hcount := h.openCount
  have heq : w.triggerOpen =
      { w with
        mOpenTriggered := false, openCallback := none, openStored := false
        isPending := true } := by
    simp [World.triggerOpen, World.callOpen, hcallback, World.flushPendingMessages]
  rw [heq]
  refine
    { h with
      openCount := ?_
      opened := by simp
      internal := by simp
      incoming := by simp [hopen]
      known := fun _ => ⟨hkind, hopen⟩
      protocol := h.protocol.congr rfl rfl rfl }
  -- the way through `triggerDataChannel` becomes the one through the pending channels
  simp only [World.opensLeft, hcallback, internalOpens] at hcount
  simp only [World.opensLeft, internalOpens, Bool.toNat_true, Bool.toNat_false]
  omega

/-- The channel is open now. -/
theorem setOpen (h : Inv w) {channel : DataChannel} (hkind : channel.kind = w.channel.kind)
    (hopen : channel.mIsOpen = true) (hclosed : channel.mIsClosed = w.channel.mIsClosed) :
    Inv { w with channel } where
  closeCalled := by simpa only [hclosed] using h.closeCalled
  closedCount := by simpa only [hclosed] using h.closedCount
  openCount := by
    have hcount := h.openCount
    simp only [World.opensLeft, hkind, hopen, directOpens_open] at hcount ⊢
    omega
  opened := h.opened
  internal := by simpa only [hkind] using h.internal
  incoming := by simp [hopen]
  known := fun hknown => ⟨hkind.trans (h.known hknown).1, hopen⟩
  inOrder := h.inOrder
  protocol := h.protocol.congr rfl rfl rfl

/-- The facts that make the open of a channel that is not incoming the only one. -/
theorem only_open (h : Inv w) (hkind : w.channel.kind ≠ .incoming)
    (hopen : w.channel.mIsOpen = false) {channel : DataChannel} (hopen' : channel.mIsOpen = true) :
    .open ∉ w.trace ∧ w.openStored = false ∧ World.opensLeft { w with channel } = 0 := by
  have hcount := h.openCount
  simp only [World.opensLeft, hopen, directOpens_of_ne hkind] at hcount
  refine ⟨List.count_eq_zero.1 (by omega), Bool.toNat_eq_zero.1 (by omega), ?_⟩
  simp only [World.opensLeft, hopen', directOpens_open]
  omega

/-- A channel is closed and its callbacks are reset. -/
theorem of_close (h : Inv w)
    (hchannel : w'.channel = { w.channel with mIsClosed := true })
    (hcalled : w'.closeCalled = true) (htriggered : w'.mOpenTriggered = false)
    (hcallback : w'.openCallback = none) (hpending : w'.isPending = w.isPending)
    (hhanded : w'.isHandedOver = w.isHandedOver) (hrunning : w'.isRunning = w.isRunning)
    (hstored : w'.openStored = false) (hmissed : w'.closedStored = false)
    (hopen : w'.trace.count .open = w.trace.count .open)
    (hclosed : w'.trace.count .closed ≤ 1)
    (hinOrder : delivered w'.trace ++ w'.mRecvQueue = w'.arrived)
    (hprotocol : Protocol w') : Inv w' where
  closeCalled := by rw [hcalled, hchannel]
  closedCount := by
    rw [hmissed, hchannel, Bool.toNat_false, Bool.toNat_true, Nat.add_zero]
    exact hclosed
  openCount := by
    -- closing takes the internal handler away and leaves the other ways
    have hle : w'.opensLeft ≤ w.opensLeft := by
      simp only [World.opensLeft, hchannel, hcallback, hpending, hrunning, internalOpens]
      omega
    have hcount := h.openCount
    rw [hopen, hstored, Bool.toNat_false]
    omega
  opened := by simp [htriggered]
  internal := by simp [hcallback]
  incoming := by simp [hchannel]
  known := by
    rw [hpending, hhanded, hchannel]
    exact h.known
  inOrder := hinOrder
  protocol := hprotocol

/-- `DataChannel::close` on a channel that was not closed: the messages it passes to the transport
are passed before, and `triggerClosed` is called. -/
theorem apply_close (h : Inv w) (hclosed : w.channel.mIsClosed = false) :
    ∃ passed, w.apply w.channel.close =
      { w with channel := { w.channel with mIsClosed := true }, passed }.triggerClosed := by
  have hcalled : w.closeCalled = false := h.closeCalled.trans hclosed
  cases htransport : w.channel.mSctpTransport with
  | false =>
    refine ⟨w.passed, ?_⟩
    simp [World.apply, DataChannel.close, hclosed, htransport, World.effect]
  | true =>
    cases hstream : w.channel.mStream with
    | none =>
      refine ⟨w.passed, ?_⟩
      simp [World.apply, DataChannel.close, hclosed, htransport, hstream, World.effect]
    | some stream =>
      refine ⟨w.passed ++ [DataChannel.resetMessage stream], ?_⟩
      -- the Reset of this very call is not one after `close`
      simp [World.apply, DataChannel.close, hclosed, htransport, hstream, World.effect,
        World.pass, hcalled]

theorem close (h : Inv w) : Inv w.close := by
  have hcount := h.closedCount
  cases hclosed : w.channel.mIsClosed with
  | true =>
    -- a second `close` only resets the callbacks
    have heq : w.close = { w.resetCallbacks with closeCalled := true } := by
      simp [World.close, World.apply, DataChannel.close, hclosed]
    have hchannel : w.channel = { w.channel with mIsClosed := true } := by rw [← hclosed]
    rw [heq]
    exact h.of_close hchannel rfl rfl rfl rfl rfl rfl rfl rfl rfl h.protocol.closedOnce h.inOrder
      (h.protocol.congr rfl rfl rfl)
  | false =>
    obtain ⟨passed, happly⟩ := h.apply_close hclosed
    rw [hclosed, Bool.toNat_false] at hcount
    -- the first `close` is observed, or missed for want of a handler
    have hnone : .closed ∉ w.trace := List.count_eq_zero.1 (by omega)
    unfold World.close
    rw [happly]
    unfold World.triggerClosed
    split
    · have hobserved := h.protocol.observeClosed hnone
      refine h.of_close rfl rfl rfl rfl rfl rfl rfl rfl rfl ?_ hobserved.closedOnce ?_
        (hobserved.congr rfl rfl rfl)
      · simp [World.resetCallbacks, World.observe]
      · simpa [World.resetCallbacks, World.observe] using h.inOrder
    · exact h.of_close rfl rfl rfl rfl rfl rfl rfl rfl rfl rfl h.protocol.closedOnce h.inOrder
        (h.protocol.congr rfl rfl rfl)

end Inv

end Rtc.Callbacks
