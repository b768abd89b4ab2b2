import Mathlib.Data.List.Basic
import QuicRtc.DataChannel.Spec
import QuicRtc.Lib.Transition

/-!
# QUIC data channels

`QuicDataChannel` (`impl/quicdatachannel.cpp`) derives from `DataChannel` and declares the members
`mIsOpen`, `mIsClosed`, `mStream`, `mLabel`, `mProtocol` and `mRecvQueue` a second time. Its own
functions work on its own members, while `isOpen` and `isClosed` return those of the base class,
which only calls through the static type `DataChannel` change; `open` also clears `mIsClosed`.

* `World`: a channel, the transports, and the messages passed to them.
* `Lifecycle`: the flags agree with what the channel does, and a closed channel stays closed.
* `lifecycle_iff`: this holds all along a run exactly when no step opens the channel on a transport
  or closes it.

Transports are numbered; a weak pointer to a transport locks while the transport exists.
-/

namespace Rtc

/-- The dynamic type of a QUIC channel. -/
inductive QuicDataChannel.Kind where
  | outgoing
  | incoming
  deriving DecidableEq, Repr

/-- The state of a `QuicDataChannel`: the members of the base class (`base`) and its own. -/
structure QuicDataChannel where
  kind : QuicDataChannel.Kind
  base : DataChannel
  mQuicTransport : Option ℕ := none
  mStream : Option ℕ := none
  mLabel : List UInt8 := []
  mProtocol : List UInt8 := []
  mIsOpen : Bool := false
  mIsClosed : Bool := false
  mRecvQueue : List Message := []
  deriving DecidableEq, Repr

namespace QuicDataChannel

/-- `OutgoingQuicDataChannel::OutgoingQuicDataChannel`. The arguments go to the base class, of which
`QuicDataChannel` overrides `processOpenMessage` but not the `open` on an SCTP transport. -/
def makeOutgoing (label protocol : List UInt8) (reliability : Reliability) :
    Except Exception QuicDataChannel :=
  (DataChannel.make .negotiated label protocol reliability).map fun base =>
    { kind := .outgoing, base }

/-- `IncomingQuicDataChannel::IncomingQuicDataChannel`. -/
def makeIncoming (transport : ℕ) : QuicDataChannel where
  kind := .incoming
  base := { kind := .negotiated, mLabel := [], mProtocol := [], mReliability := {} }
  mQuicTransport := some transport

/-- `QuicDataChannel::isOpen`. -/
def isOpen (ch : QuicDataChannel) : Bool := ch.base.isOpen

/-- `QuicDataChannel::isClosed`. -/
def isClosed (ch : QuicDataChannel) : Bool := ch.base.isClosed

/-- `QuicDataChannel::IsOpenMessage`. -/
def isOpenMessage (message : Option Message) : Bool := message.any (0 < ·.size)

/-- `"QUIC_DATA_CHANNEL_OPEN:"`. -/
def openTag : List UInt8 := "QUIC_DATA_CHANNEL_OPEN:".toList.map (·.toNat.toUInt8)

/-- The rest of the data behind the first occurrence of the tag. -/
def afterTag : List UInt8 → Option (List UInt8)
  | [] => none
  | b :: rest =>
    if openTag.isPrefixOf (b :: rest) then some ((b :: rest).drop openTag.length)
    else afterTag rest

/-- The label and the protocol in an open message, separated by the first colon. -/
def parseOpenMessage (data : List UInt8) : Option (List UInt8 × List UInt8) :=
  (afterTag data).bind fun remaining =>
    (remaining.idxOf? 58).map fun colonPos =>
      (remaining.take colonPos, remaining.drop (colonPos + 1))

/-- The message that `OutgoingQuicDataChannel::open` sends. -/
def openMessage (ch : QuicDataChannel) : Message where
  data := openTag ++ ch.mLabel ++ [58] ++ ch.mProtocol
  type := .string

/-- What a channel does to a transport. -/
inductive Effect where
  | send (transport : ℕ) (message : Message)
  | closeStream (transport stream : ℕ)
  deriving DecidableEq, Repr

/-- The channel, the transports and whether they exist, and what was done to them. `closeRan`
records that `close` or `remoteClose` has been called. -/
structure World where
  channel : QuicDataChannel
  transports : List Bool := []
  effects : List Effect := []
  closeRan : Bool := false
  deriving DecidableEq, Repr

/-- A call through the static type `DataChannel`. -/
inductive BaseCall where
  /-- `open` on an SCTP transport. -/
  | open
  /-- `close` or `remoteClose`. -/
  | close
  | incoming (message : Message)
  deriving DecidableEq, Repr

/-- The calls on the channel, and the transports that come and go. -/
inductive Event where
  | open (transport : Option ℕ)
  | processOpenMessage (message : Option Message)
  | outgoing (message : Message)
  | incoming (message : Option Message)
  | close
  | remoteClose
  | assignStream (stream : ℕ)
  | base (call : BaseCall)
  | newTransport
  | destroyTransport (transport : ℕ)
  deriving DecidableEq, Repr

namespace World

/-- Lock the weak pointer to the transport. -/
def lock (w : World) : Option ℕ :=
  w.channel.mQuicTransport.filter fun transport => w.transports.getD transport false

/-- `QuicDataChannel::open`, and what `OutgoingQuicDataChannel::open` adds to it. -/
def openOn (w : World) (transport : Option ℕ) : World :=
  { w with
    -- the flags of the base class stay as they are
    channel := { w.channel with mQuicTransport := transport, mIsOpen := true, mIsClosed := false }
    effects := match w.channel.kind, transport with
      -- the overriding function sends the label and the protocol
      | .outgoing, some t => w.effects ++ [.send t w.channel.openMessage]
      | _, _ => w.effects }

/-- `processOpenMessage`. An outgoing channel ignores it. -/
def processOpenMessage (w : World) (message : Option Message) : World :=
  match w.channel.kind, message with
  | .incoming, some m =>
    if isOpenMessage (some m) then
      let w' := match parseOpenMessage m.data with
        | some (mLabel, mProtocol) => { w with channel := { w.channel with mLabel, mProtocol } }
        | none => w
      -- `open(mQuicTransport.lock())`, with the transport the channel was created on
      match w.lock with
      | some transport => w'.openOn (some transport)
      | none => w'
    else w
  | _, _ => w

/-- The transport to which `outgoing` passes a message, if any. -/
def passesTo (w : World) : Option ℕ :=
  -- its own flags, not those that `isOpen` returns
  if !w.channel.mIsOpen || w.channel.mIsClosed then none else w.lock

/-- `QuicDataChannel::outgoing`. -/
def outgoing (w : World) (message : Message) : World :=
  match w.passesTo with
  | some transport => { w with effects := w.effects ++ [.send transport message] }
  | none => w

/-- `QuicDataChannel::incoming`. -/
def incoming (w : World) (message : Option Message) : World :=
  match message with
  | none => w
  | some m =>
    if w.channel.mIsClosed then w
    else { w with channel := { w.channel with mRecvQueue := w.channel.mRecvQueue ++ [m] } }

/-- `QuicDataChannel::close`. -/
def close (w : World) : World :=
  if w.channel.mIsClosed then { w with closeRan := true }
  else
    { w with
      channel := { w.channel with mIsClosed := true, mIsOpen := false }
      effects := match w.lock, w.channel.mStream with
        | some transport, some stream => w.effects ++ [.closeStream transport stream]
        | _, _ => w.effects
      closeRan := true }

/-- `QuicDataChannel::remoteClose`. -/
def remoteClose (w : World) : World :=
  if w.channel.mIsClosed then { w with closeRan := true }
  else
    { w with
      channel := { w.channel with mIsClosed := true, mIsOpen := false }
      closeRan := true }

/-- A call through the static type `DataChannel`. Only `processOpenMessage` is dispatched to the
QUIC channel. -/
def baseCall (w : World) : BaseCall → World
  | .open => { w with channel := { w.channel with base := w.channel.base.openOn.channel } }
  | .close =>
    { w with
      channel := { w.channel with base := w.channel.base.close.channel }
      closeRan := true }
  | .incoming message =>
    if !w.channel.base.mIsClosed && Rtc.isOpenMessage message then
      w.processOpenMessage (some message)
    else
      { w with
        channel := { w.channel with base := (w.channel.base.incoming message).channel }
        closeRan := w.closeRan || (!w.channel.base.mIsClosed && message.type = .reset) }

/-- One call. A shared pointer is passed to `open`, so its transport exists. -/
def step (w : World) : Event → Option World
  | .open transport =>
    if transport.all (w.transports.getD · false) then some (w.openOn transport) else none
  | .processOpenMessage message => some (w.processOpenMessage message)
  | .outgoing message => some (w.outgoing message)
  | .incoming message => some (w.incoming message)
  | .close => some w.close
  | .remoteClose => some w.remoteClose
  | .assignStream stream =>
    some { w with channel := { w.channel with mStream := some stream } }
  | .base call => some (w.baseCall call)
  | .newTransport => some { w with transports := w.transports ++ [true] }
  | .destroyTransport transport => some { w with transports := w.transports.set transport false }

/-- `incoming` drops messages. -/
def Drops (w : World) : Prop := ∀ message, w.incoming (some message) = w

end World

/-- A channel as constructed. -/
def Fresh (ch : QuicDataChannel) : Prop :=
  (∃ label protocol reliability, makeOutgoing label protocol reliability = .ok ch) ∨
    ∃ transport, ch = makeIncoming transport

/-- A channel says it is open while it passes messages to a transport, says it is closed while it
drops messages, and does neither accept nor deliver messages once closed. -/
structure Lifecycle (w : World) : Prop where
  isOpen : w.channel.isOpen = true ↔ w.passesTo.isSome = true
  isClosed : w.channel.isClosed = true ↔ w.Drops
  final : w.closeRan = true → w.passesTo = none ∧ w.Drops

/-- `processOpenMessage` opens the channel. -/
def Opens (w : World) (message : Option Message) : Prop :=
  w.channel.kind = .incoming ∧ isOpenMessage message = true ∧ w.lock.isSome = true

instance (w : World) (message : Option Message) : Decidable (Opens w message) :=
  inferInstanceAs (Decidable (_ ∧ _ ∧ _))

/-- A message that changes the flags of the base class: a reset or an ACK. -/
def ChangesBase (message : Message) : Prop :=
  message.type = .reset ∨ message.type = .control ∧ message.data.head? = some messageAck

instance : DecidablePred ChangesBase := fun _ => inferInstanceAs (Decidable (_ ∨ _ ∧ _))

/-- The steps that preserve the lifecycle: the channel is neither opened on a transport nor closed,
through either static type. -/
def KeepsLifecycle (w : World) : Event → Prop
  | .open transport => transport = none
  | .processOpenMessage message => ¬Opens w message
  | .close => False
  | .remoteClose => False
  | .base .open => False
  | .base .close => False
  | .base (.incoming message) =>
    ¬ChangesBase message ∧ (Rtc.isOpenMessage message = true → ¬Opens w (some message))
  | _ => True

instance (w : World) : DecidablePred (KeepsLifecycle w)
  | .open _ => inferInstanceAs (Decidable (_ = _))
  | .processOpenMessage _ => inferInstanceAs (Decidable (¬_))
  | .close => isFalse id
  | .remoteClose => isFalse id
  | .base .open => isFalse id
  | .base .close => isFalse id
  | .base (.incoming _) => inferInstanceAs (Decidable (_ ∧ (_ → _)))
  | .outgoing _ => isTrue trivial
  | .incoming _ => isTrue trivial
  | .assignStream _ => isTrue trivial
  | .newTransport => isTrue trivial
  | .destroyTransport _ => isTrue trivial

/-- The state kept by these steps: neither copy of the flags says that the channel is closed, that
of the base class does not say that it is open, and if its own does then there is no transport. -/
structure Untouched (w : World) : Prop where
  kind : w.channel.base.kind = .negotiated
  baseIsOpen : w.channel.base.mIsOpen = false
  baseIsClosed : w.channel.base.mIsClosed = false
  mIsClosed : w.channel.mIsClosed = false
  mIsOpen : w.channel.mIsOpen = true → w.channel.mQuicTransport = none
  closeRan : w.closeRan = false

/-! ## The steps that preserve the lifecycle -/

theorem drops_iff (w : World) : w.Drops ↔ w.channel.mIsClosed = true := by
  constructor
  · intro h
    by_contra hopen
    -- an open channel keeps every message, whatever it is
    have hdropped := h { data := [], type := .binary }
    have hqueue := congrArg (fun w => w.channel.mRecvQueue.length) hdropped
    simp [World.incoming, hopen] at hqueue
  · intro hclosed message
    simp [World.incoming, hclosed]

namespace Untouched

variable {w w' : World}

theorem of_fresh {ch : QuicDataChannel} {transports : List Bool} (hfresh : Fresh ch) :
    Untouched { channel := ch, transports } := by
  rcases hfresh with ⟨label, protocol, reliability, hmake⟩ | ⟨transport, rfl⟩
  · -- the constructors leave both copies of the flags false
    unfold makeOutgoing DataChannel.make at hmake
    split at hmake
    · cases hmake
    · cases hmake
      constructor <;> simp
  · constructor <;> simp [makeIncoming]

theorem passesTo (h : Untouched w) : w.passesTo = none := by
  unfold World.passesTo
  split
  · rfl
  · next hopen =>
    have hopen : w.channel.mIsOpen = true := by
      rw [h.mIsClosed] at hopen
      simpa using hopen
    simp [World.lock, h.mIsOpen hopen]

theorem lifecycle (h : Untouched w) : Lifecycle w where
  isOpen := by simp [isOpen, DataChannel.isOpen, h.baseIsOpen, h.passesTo]
  isClosed := by simp [isClosed, DataChannel.isClosed, h.baseIsClosed, drops_iff, h.mIsClosed]
  final := by simp [h.closeRan]

/-- Steps that touch neither the flags nor the transport of the channel. -/
theorem of_frame (h : Untouched w) (hbase : w'.channel.base = w.channel.base)
    (hclosed : w'.channel.mIsClosed = w.channel.mIsClosed)
    (hopen : w'.channel.mIsOpen = w.channel.mIsOpen)
    (htransport : w'.channel.mQuicTransport = w.channel.mQuicTransport)
    (hran : w'.closeRan = w.closeRan) : Untouched w' where
  kind := hbase ▸ h.kind
  baseIsOpen := hbase ▸ h.baseIsOpen
  baseIsClosed := hbase ▸ h.baseIsClosed
  mIsClosed := hclosed ▸ h.mIsClosed
  mIsOpen := by
    rw [hopen, htransport]
    exact h.mIsOpen
  closeRan := hran ▸ h.closeRan

end Untouched

/-- `processOpenMessage` opens the channel on the transport the weak pointer locks, or leaves the
flags alone. -/
theorem processOpenMessage_cases (w : World) (message : Option Message) :
    (¬Opens w message ∧ ∃ mLabel mProtocol,
        w.processOpenMessage message =
          { w with channel := { w.channel with mLabel, mProtocol } }) ∨
      ∃ transport mLabel mProtocol, Opens w message ∧ w.lock = some transport ∧
        w.processOpenMessage message =
          World.openOn { w with channel := { w.channel with mLabel, mProtocol } }
            (some transport) := by
  unfold World.processOpenMessage
  cases hkind : w.channel.kind with
  | outgoing => exact Or.inl ⟨by simp [Opens, hkind], _, _, rfl⟩
  | incoming =>
    cases message with
    | none => exact Or.inl ⟨by simp [Opens, isOpenMessage], _, _, rfl⟩
    | some m =>
      dsimp only
      split
      · next hopen =>
        cases hlock : w.lock with
        -- the names are taken even if nothing is opened
        | none =>
          left
          refine ⟨by simp [Opens, hlock], ?_⟩
          cases parseOpenMessage m.data with
          | none => exact ⟨_, _, rfl⟩
          | some names => exact ⟨_, _, rfl⟩
        | some transport =>
          right
          have hopens : Opens w (some m) := ⟨hkind, hopen, by simp [hlock]⟩
          cases parseOpenMessage m.data with
          | none => exact ⟨transport, _, _, hopens, rfl, rfl⟩
          | some names => exact ⟨transport, _, _, hopens, rfl, rfl⟩
      · next hempty => exact Or.inl ⟨by simp [Opens, hempty], _, _, rfl⟩

namespace Untouched

variable {w w' : World}

/-- `processOpenMessage` without opening. -/
theorem processOpenMessage (h : Untouched w) {message : Option Message}
    (hopens : ¬Opens w message) : Untouched (w.processOpenMessage message) := by
  rcases processOpenMessage_cases w message with
    ⟨-, mLabel, mProtocol, heq⟩ | ⟨_, _, _, hopens', -⟩
  · rw [heq]
    exact h.of_frame rfl rfl rfl rfl rfl
  · exact absurd hopens' hopens

/-- Calls through the base class that do not change the flags. -/
theorem baseIncoming (h : Untouched w) {message : Message} (hbase : ¬ChangesBase message)
    (hopens : Rtc.isOpenMessage message = true → ¬Opens w (some message)) :
    Untouched (w.baseCall (.incoming message)) := by
  unfold World.baseCall
  dsimp only
  split
  · next hopen =>
    simp only [Bool.and_eq_true] at hopen
    exact h.processOpenMessage (hopens hopen.2)
  · next hother =>
    have hother : Rtc.isOpenMessage message = false := by
      simpa [h.baseIsClosed] using hother
    have hreset : message.type ≠ .reset := fun hreset => hbase (Or.inl hreset)
    have hsame : (w.channel.base.incoming message).channel = w.channel.base := by
      unfold DataChannel.incoming
      rw [h.baseIsClosed]
      cases htype : message.type with
      | control =>
        cases hhead : message.data.head? with
        | none => rfl
        | some b =>
          -- neither an ACK nor an OPEN, so the base class ignores it
          have hack : b ≠ messageAck := fun hack => hbase (Or.inr ⟨htype, hack ▸ hhead⟩)
          have hopen : b ≠ messageOpen := by
            rintro rfl
            simp [Rtc.isOpenMessage, htype, hhead] at hother
          simp [hack, hopen]
      | reset => exact absurd htype hreset
      | string => rfl
      | binary => rfl
    exact h.of_frame hsame rfl rfl rfl (by simp [hreset])

/-- Every step that meets the condition keeps the state. -/
theorem step {e : Event} (h : Untouched w) (hok : KeepsLifecycle w e)
    (hstep : w.step e = some w') : Untouched w' := by
  cases e with
  | «open» transport =>
    obtain rfl : transport = none := hok
    simp only [World.step, Option.ite_none_right_eq_some, Option.some.injEq] at hstep
    obtain ⟨-, rfl⟩ := hstep
    -- opened on no transport, it passes messages nowhere
    exact ⟨h.kind, h.baseIsOpen, h.baseIsClosed, rfl, fun _ => rfl, h.closeRan⟩
  | processOpenMessage message =>
    cases hstep
    exact h.processOpenMessage hok
  | outgoing message =>
    cases hstep
    simpa [World.outgoing, h.passesTo] using h
  | incoming message =>
    cases hstep
    cases message with
    | none => exact h
    | some m =>
      simp only [World.incoming, h.mIsClosed, Bool.false_eq_true, if_false]
      exact h.of_frame rfl h.mIsClosed.symm rfl rfl rfl
  | close => exact absurd hok id
  | remoteClose => exact absurd hok id
  | assignStream stream =>
    cases hstep
    exact h.of_frame rfl rfl rfl rfl rfl
  | base call =>
    cases hstep
    cases call with
    | «open» => exact absurd hok id
    | close => exact absurd hok id
    | incoming message => exact h.baseIncoming hok.1 hok.2
  | newTransport =>
    cases hstep
    exact h.of_frame rfl rfl rfl rfl rfl
  | destroyTransport transport =>
    cases hstep
    exact h.of_frame rfl rfl rfl rfl rfl

/-! ## The steps that end it -/

/-- A channel opened on a transport passes messages to it, but does not say it is open. -/
theorem not_openOn (h : Untouched w) {transport : ℕ}
    (hlive : w.transports.getD transport false = true) :
    ¬Lifecycle (w.openOn (some transport)) := by
  intro h'
  have hpasses : (w.openOn (some transport)).passesTo = some transport := by
    simpa [World.passesTo, World.openOn, World.lock] using hlive
  -- `isOpen` returns the flag of the base class, which `open` did not set
  have hopen := h'.isOpen.2 (by rw [hpasses]; rfl)
  simp [isOpen, DataChannel.isOpen, World.openOn, h.baseIsOpen] at hopen

theorem not_processOpenMessage (h : Untouched w) {message : Option Message}
    (hopens : Opens w message) : ¬Lifecycle (w.processOpenMessage message) := by
  rcases processOpenMessage_cases w message with
    ⟨hopens', -⟩ | ⟨transport, mLabel, mProtocol, -, hlock, heq⟩
  · exact absurd hopens hopens'
  · rw [heq]
    have hlive : w.transports.getD transport false = true := by
      simp only [World.lock, Option.filter_eq_some_iff] at hlock
      exact hlock.2
    have hnamed : Untouched { w with channel := { w.channel with mLabel, mProtocol } } :=
      h.of_frame rfl rfl rfl rfl rfl
    exact hnamed.not_openOn hlive

/-- The base class says the channel is closed, but it does not drop messages. -/
theorem not_of_baseIsClosed (hbase : w.channel.base.mIsClosed = true)
    (hopen : w.channel.mIsClosed = false) : ¬Lifecycle w := by
  intro h'
  have hdrops := (drops_iff w).1 (h'.isClosed.1 hbase)
  rw [hopen] at hdrops
  cases hdrops

/-- The base class says the channel is open, but it passes no message to a transport. -/
theorem not_of_baseIsOpen (hopen : w.channel.base.mIsOpen = true)
    (hbase : w.channel.base.mIsClosed = false) (hpasses : w.passesTo = none) : ¬Lifecycle w := by
  intro h'
  have hsome := h'.isOpen.1 (by simp [isOpen, DataChannel.isOpen, hopen, hbase])
  rw [hpasses] at hsome
  cases hsome

/-- The channel drops messages, but the base class does not say that it is closed. -/
theorem not_of_mIsClosed (hbase : w.channel.base.mIsClosed = false)
    (hclosed : w.channel.mIsClosed = true) : ¬Lifecycle w := by
  intro h'
  have hisClosed := h'.isClosed.2 ((drops_iff w).2 hclosed)
  simp [isClosed, DataChannel.isClosed, hbase] at hisClosed

theorem not_baseIncoming (h : Untouched w) {message : Message}
    (hmiss : ¬(¬ChangesBase message ∧
      (Rtc.isOpenMessage message = true → ¬Opens w (some message)))) :
    ¬Lifecycle (w.baseCall (.incoming message)) := by
  unfold World.baseCall
  dsimp only
  -- an open message is answered by this layer, any other one by the base class
  by_cases hopen : Rtc.isOpenMessage message = true
  · have htype : message.type = .control ∧ message.data.head? = some messageOpen := by
      simpa [Rtc.isOpenMessage] using hopen
    have hbase : ¬ChangesBase message := by
      rintro (hreset | ⟨-, hack⟩)
      · simp [htype.1] at hreset
      · rw [htype.2] at hack
        exact absurd hack (by decide)
    have hopens : Opens w (some message) := by
      by_contra hnot
      exact hmiss ⟨hbase, fun _ => hnot⟩
    simp only [h.baseIsClosed, hopen, Bool.not_false, Bool.and_self, if_true]
    exact h.not_processOpenMessage hopens
  · have hbase : ChangesBase message := by
      by_contra hnot
      exact hmiss ⟨hnot, fun hopen' => absurd hopen' hopen⟩
    simp only [hopen, Bool.and_false, Bool.false_eq_true, if_false]
    rcases hbase with hreset | ⟨htype, hack⟩
    · refine not_of_baseIsClosed ?_ h.mIsClosed
      rw [DataChannel.incoming_reset _ hreset]
      exact DataChannel.mIsClosed_close _
    · have hincoming : (w.channel.base.incoming message).channel =
          { w.channel.base with mIsOpen := true } := by
        unfold DataChannel.incoming
        simp [h.baseIsClosed, htype, hack, messageAck, messageOpen]
      refine not_of_baseIsOpen ?_ ?_ h.passesTo
      · simp [hincoming]
      · simp [hincoming, h.baseIsClosed]

/-- Every step that misses the condition ends the lifecycle. -/
theorem not_step {e : Event} (h : Untouched w) (hmiss : ¬KeepsLifecycle w e)
    (hstep : w.step e = some w') : ¬Lifecycle w' := by
  cases e with
  | «open» transport =>
    simp only [World.step, Option.ite_none_right_eq_some, Option.some.injEq] at hstep
    obtain ⟨hlive, rfl⟩ := hstep
    obtain ⟨t, rfl⟩ := Option.ne_none_iff_exists'.1 hmiss
    exact h.not_openOn (by simpa using hlive)
  | processOpenMessage message =>
    cases hstep
    exact h.not_processOpenMessage (not_not.1 hmiss)
  | close =>
    cases hstep
    -- it drops messages from now on, and `isClosed` returns the flag of the base class
    have hclose : w.close.channel = { w.channel with mIsClosed := true, mIsOpen := false } := by
      simp [World.close, h.mIsClosed]
    exact not_of_mIsClosed (by simp [hclose, h.baseIsClosed]) (by simp [hclose])
  | remoteClose =>
    cases hstep
    have hclose : w.remoteClose.channel =
        { w.channel with mIsClosed := true, mIsOpen := false } := by
      simp [World.remoteClose, h.mIsClosed]
    exact not_of_mIsClosed (by simp [hclose, h.baseIsClosed]) (by simp [hclose])
  | base call =>
    cases hstep
    cases call with
    | «open» =>
      have hopen : w.channel.base.openOn.channel =
          { w.channel.base with mSctpTransport := true, mIsOpen := true } := by
        simp [DataChannel.openOn, h.kind, h.baseIsClosed, h.baseIsOpen]
      refine not_of_baseIsOpen ?_ ?_ h.passesTo
      · simp [World.baseCall, hopen]
      · simp [World.baseCall, hopen, h.baseIsClosed]
    | close => exact not_of_baseIsClosed (DataChannel.mIsClosed_close _) h.mIsClosed
    | incoming message => exact h.not_baseIncoming hmiss
  | outgoing message => exact absurd trivial hmiss
  | incoming message => exact absurd trivial hmiss
  | assignStream stream => exact absurd trivial hmiss
  | newTransport => exact absurd trivial hmiss
  | destroyTransport transport => exact absurd trivial hmiss

end Untouched

/-! ## The lifecycle -/

/-- In every run of a channel, whatever transports exist at its start: the lifecycle holds in every
state reached exactly when no step opens the channel on a transport or closes it, through either
static type. -/
theorem lifecycle_iff {ch : QuicDataChannel} (hfresh : Fresh ch) {transports : List Bool}
    {events : List Event} {w : World}
    (hrun : Transition.run World.step { channel := ch, transports } events = some w) :
    (∀ before, before <+: events → ∀ w',
        Transition.run World.step { channel := ch, transports } before = some w' →
          Lifecycle w') ↔
      Transition.Meets World.step KeepsLifecycle { channel := ch, transports } events :=
  Transition.forall_prefix_iff_meets_of_invariant (fun _ hw => hw.lifecycle)
    (fun _ _ _ hw hok hstep => hw.step hok hstep)
    (fun _ _ _ hw hmiss hstep => hw.not_step hmiss hstep) (Untouched.of_fresh hfresh) hrun

/-- An incoming channel whose transport is destroyed before the open message arrives. -/
def lateOpenEvents : List Event :=
  [.assignStream 1, .incoming (some { data := [65], type := .string }), .destroyTransport 0,
    .processOpenMessage (some { data := openTag ++ [97, 58, 98], type := .string }),
    .open none, .outgoing { data := [66], type := .string }]

theorem lifecycle_iff_lateOpenEvents :
    ∃ w, Transition.run World.step { channel := makeIncoming 0, transports := [true] }
        lateOpenEvents = some w ∧
      w.channel.mLabel = [97] ∧ w.channel.mProtocol = [98] ∧ w.channel.mRecvQueue.length = 1 ∧
      ∀ before, before <+: lateOpenEvents → ∀ w',
        Transition.run World.step { channel := makeIncoming 0, transports := [true] } before =
          some w' → Lifecycle w' := by
  have hok : Transition.Meets World.step KeepsLifecycle
      { channel := makeIncoming 0, transports := [true] } lateOpenEvents := by
    decide
  have hrun : ∃ w, Transition.run World.step { channel := makeIncoming 0, transports := [true] }
      lateOpenEvents = some w ∧
      w.channel.mLabel = [97] ∧ w.channel.mProtocol = [98] ∧ w.channel.mRecvQueue.length = 1 :=
    ⟨_, rfl, by decide, by decide, by decide⟩
  obtain ⟨w, hrun, hlabel, hprotocol, hqueue⟩ := hrun
  exact ⟨w, hrun, hlabel, hprotocol, hqueue,
    (lifecycle_iff (Or.inr ⟨0, rfl⟩) hrun).2 hok⟩

/-- A channel closed and opened again: it sends and receives, and says it is not open. -/
theorem reopens_after_close :
    ∃ w, Transition.run World.step { channel := makeIncoming 0, transports := [true] }
        [.close, .open (some 0)] = some w ∧
      w.closeRan = true ∧ w.passesTo = some 0 ∧ ¬w.Drops ∧ w.channel.isOpen = false ∧
      ¬Lifecycle w := by
  refine ⟨_, rfl, rfl, by decide, ?_, rfl, fun h => ?_⟩
  · rw [drops_iff]
    decide
  · exact absurd (h.final rfl).1 (by decide)

end QuicDataChannel

end Rtc
