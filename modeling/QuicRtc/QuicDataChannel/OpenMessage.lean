import QuicRtc.QuicDataChannel

/-!
# The open message of a QUIC data channel

`OutgoingQuicDataChannel::open` sends its own `mLabel` and `mProtocol`, and
`IncomingQuicDataChannel::processOpenMessage` writes what it parses to its own. The constructors
pass the label and the protocol to the base class, and `label` and `protocol` return the copies of
the base class. A message is taken for an open message when it is not empty.

* `Named`: which of the two copies a channel of either kind never writes.
* `RoundTrip`, `Ignored`: what an open message and any other message should do.
* `roundTrip_iff`: they do exactly when the label and the protocol are empty and the other message
  does not get as far as `open`.
-/

namespace Rtc

/-- A negotiated channel of the base class writes its label and protocol only when constructed. -/
theorem DataChannel.names_incoming {ch : DataChannel} (hkind : ch.kind = .negotiated)
    (message : Message) :
    (ch.incoming message).channel.kind = ch.kind ∧
      (ch.incoming message).channel.mLabel = ch.mLabel ∧
      (ch.incoming message).channel.mProtocol = ch.mProtocol := by
  unfold DataChannel.incoming
  by_cases hclosed : ch.mIsClosed = true
  · simp [hclosed]
  · cases message.type with
    | control =>
      cases message.data.head? with
      | none => simp [hclosed]
      | some b =>
        -- `processOpenMessage` of the base class does nothing for this kind
        simp only [hclosed, DataChannel.processOpenMessage, hkind]
        split_ifs <;> simp [hkind]
    | reset => simp [hclosed, DataChannel.close]
    | string => simp [hclosed]
    | binary => simp [hclosed]

namespace QuicDataChannel

/-- `QuicDataChannel::label`. -/
def label (ch : QuicDataChannel) : List UInt8 := ch.base.mLabel

/-- `QuicDataChannel::protocol`. -/
def protocol (ch : QuicDataChannel) : List UInt8 := ch.base.mProtocol

/-- The form of the messages that `OutgoingQuicDataChannel::open` sends. -/
def OpenForm (data : List UInt8) : Prop :=
  ∃ label protocol, data = openTag ++ label ++ [58] ++ protocol

theorem OpenForm.length_le {data : List UInt8} (h : OpenForm data) : 24 ≤ data.length := by
  obtain ⟨label, protocol, rfl⟩ := h
  have htag : openTag.length = 23 := by decide +kernel
  simp only [List.length_append, htag, List.length_singleton]
  omega

/-- The message that `open` of an outgoing channel sends, created with this label and protocol,
after any events and on any transport. -/
def Sends (label protocol : List UInt8) (sent : Message) : Prop :=
  ∃ reliability ch transports events w transport,
    makeOutgoing label protocol reliability = .ok ch ∧
      Transition.run World.step { channel := ch, transports } events = some w ∧
      w.transports.getD transport false = true ∧
      (w.openOn (some transport)).effects = w.effects ++ [.send transport sent]

/-- The open message of a channel with this label and protocol gives the receiving channel the same
label and protocol. -/
structure RoundTrip (label protocol : List UInt8) (sent : Message) (w : World) : Prop where
  label : (w.processOpenMessage (some sent)).channel.label = label
  protocol : (w.processOpenMessage (some sent)).channel.protocol = protocol

/-- A message that changes neither the label nor the protocol and does not open the channel. -/
structure Ignored (w : World) (message : Option Message) : Prop where
  label : (w.processOpenMessage message).channel.label = w.channel.label
  protocol : (w.processOpenMessage message).channel.protocol = w.channel.protocol
  mIsOpen : (w.processOpenMessage message).channel.mIsOpen = w.channel.mIsOpen
  mIsClosed : (w.processOpenMessage message).channel.mIsClosed = w.channel.mIsClosed

/-! ## The copies that stay as constructed -/

/-- A channel of the given kind whose base class keeps the label and the protocol of the
constructor, and, if it is an outgoing one, whose own copies are empty. -/
structure Named (kind : Kind) (label protocol : List UInt8) (w : World) : Prop where
  kind : w.channel.kind = kind
  baseKind : w.channel.base.kind = .negotiated
  label : w.channel.label = label
  protocol : w.channel.protocol = protocol
  mLabel : w.channel.kind = .outgoing → w.channel.mLabel = []
  mProtocol : w.channel.kind = .outgoing → w.channel.mProtocol = []

namespace Named

variable {kind : Kind} {label protocol : List UInt8} {w w' : World}

theorem of_makeIncoming (transport : ℕ) (transports : List Bool) :
    Named .incoming [] [] { channel := makeIncoming transport, transports } := by
  constructor <;> simp [makeIncoming, QuicDataChannel.label, QuicDataChannel.protocol]

/-- Steps that touch neither copy. -/
theorem of_frame (h : Named kind label protocol w)
    (hkind : w'.channel.kind = w.channel.kind)
    (hbaseKind : w'.channel.base.kind = w.channel.base.kind)
    (hlabel : w'.channel.label = w.channel.label)
    (hprotocol : w'.channel.protocol = w.channel.protocol)
    (hmLabel : w'.channel.mLabel = w.channel.mLabel)
    (hmProtocol : w'.channel.mProtocol = w.channel.mProtocol) : Named kind label protocol w' where
  kind := hkind.trans h.kind
  baseKind := hbaseKind.trans h.baseKind
  label := hlabel.trans h.label
  protocol := hprotocol.trans h.protocol
  mLabel := fun hout => hmLabel.trans (h.mLabel (hkind ▸ hout))
  mProtocol := fun hout => hmProtocol.trans (h.mProtocol (hkind ▸ hout))

theorem openOn (h : Named kind label protocol w) (transport : Option ℕ) :
    Named kind label protocol (w.openOn transport) :=
  h.of_frame rfl rfl rfl rfl rfl rfl

theorem processOpenMessage (h : Named kind label protocol w) (message : Option Message) :
    Named kind label protocol (w.processOpenMessage message) := by
  cases kind with
  | outgoing =>
    have hsame : w.processOpenMessage message = w := by simp [World.processOpenMessage, h.kind]
    rw [hsame]
    exact h
  | incoming =>
    -- only the copies of the derived class are written
    have hwrite (mLabel mProtocol : List UInt8) : Named .incoming label protocol
        { w with channel := { w.channel with mLabel, mProtocol } } :=
      ⟨h.kind, h.baseKind, h.label, h.protocol, by simp [h.kind], by simp [h.kind]⟩
    rcases processOpenMessage_cases w message with
      ⟨-, mLabel, mProtocol, heq⟩ | ⟨transport, mLabel, mProtocol, -, -, heq⟩
    · rw [heq]
      exact hwrite mLabel mProtocol
    · rw [heq]
      exact (hwrite mLabel mProtocol).openOn _

/-- A call through the base class writes neither of its copies: the channel is of the kind whose
`processOpenMessage` the derived class overrides. -/
theorem baseCall (h : Named kind label protocol w) (call : BaseCall) :
    Named kind label protocol (w.baseCall call) := by
  -- every other branch leaves the kind, the label and the protocol of the base class
  have hbase {base : DataChannel} {closeRan : Bool} (hkind : base.kind = w.channel.base.kind)
      (hlabel : base.mLabel = w.channel.base.mLabel)
      (hprotocol : base.mProtocol = w.channel.base.mProtocol) :
      Named kind label protocol { w with channel := { w.channel with base }, closeRan } :=
    h.of_frame rfl hkind hlabel hprotocol rfl rfl
  cases call with
  | «open» =>
    have hopen : w.channel.base.openOn.channel.kind = w.channel.base.kind ∧
        w.channel.base.openOn.channel.mLabel = w.channel.base.mLabel ∧
        w.channel.base.openOn.channel.mProtocol = w.channel.base.mProtocol := by
      simp only [DataChannel.openOn, h.baseKind]
      split <;> simp
    exact hbase hopen.1 hopen.2.1 hopen.2.2
  | close =>
    have hclose : w.channel.base.close.channel.kind = w.channel.base.kind ∧
        w.channel.base.close.channel.mLabel = w.channel.base.mLabel ∧
        w.channel.base.close.channel.mProtocol = w.channel.base.mProtocol := by
      unfold DataChannel.close
      split <;> simp
    exact hbase hclose.1 hclose.2.1 hclose.2.2
  | incoming message =>
    unfold World.baseCall
    dsimp only
    split
    · exact h.processOpenMessage (some message)
    · obtain ⟨hkind, hlabel, hprotocol⟩ :=
        DataChannel.names_incoming h.baseKind message
      exact hbase hkind hlabel hprotocol

/-- Every step leaves the names alone. -/
theorem step {e : Event} (h : Named kind label protocol w) (hstep : w.step e = some w') :
    Named kind label protocol w' := by
  cases e with
  | «open» transport =>
    simp only [World.step, Option.ite_none_right_eq_some, Option.some.injEq] at hstep
    obtain ⟨-, rfl⟩ := hstep
    exact h.openOn transport
  | processOpenMessage message =>
    cases hstep
    exact h.processOpenMessage message
  -- from here on the label, the protocol and the messages stay as they are
  | outgoing message =>
    cases hstep
    unfold World.outgoing
    split
    · exact h.of_frame rfl rfl rfl rfl rfl rfl
    · exact h
  | incoming message =>
    cases hstep
    cases message with
    | none => exact h
    | some m =>
      unfold World.incoming
      dsimp only
      split
      · exact h
      · exact h.of_frame rfl rfl rfl rfl rfl rfl
  | close =>
    cases hstep
    unfold World.close
    split <;> exact h.of_frame rfl rfl rfl rfl rfl rfl
  | remoteClose =>
    cases hstep
    unfold World.remoteClose
    split <;> exact h.of_frame rfl rfl rfl rfl rfl rfl
  | assignStream stream =>
    cases hstep
    exact h.of_frame rfl rfl rfl rfl rfl rfl
  | base call =>
    cases hstep
    exact h.baseCall call
  | newTransport =>
    cases hstep
    exact h.of_frame rfl rfl rfl rfl rfl rfl
  | destroyTransport transport =>
    cases hstep
    exact h.of_frame rfl rfl rfl rfl rfl rfl

theorem run {w w' : World} {events : List Event} (h : Named kind label protocol w)
    (hrun : Transition.run World.step w events = some w') : Named kind label protocol w' :=
  Transition.run_invariant_all (fun _ _ _ hw hstep => hw.step hstep) h hrun

end Named

/-! ## What a message does -/

/-- Whatever the message, the label and the protocol of the incoming channel stay empty. -/
theorem Named.label_processOpenMessage {w : World} (h : Named .incoming [] [] w)
    (message : Option Message) :
    (w.processOpenMessage message).channel.label = [] ∧
      (w.processOpenMessage message).channel.protocol = [] :=
  ⟨(h.processOpenMessage message).label, (h.processOpenMessage message).protocol⟩

/-- A message leaves the flags alone exactly when it does not get as far as `open` or the channel
is open already. -/
theorem flags_processOpenMessage_iff (w : World) (message : Option Message) :
    ((w.processOpenMessage message).channel.mIsOpen = w.channel.mIsOpen ∧
        (w.processOpenMessage message).channel.mIsClosed = w.channel.mIsClosed) ↔
      ¬Opens w message ∨ w.channel.mIsOpen = true ∧ w.channel.mIsClosed = false := by
  rcases processOpenMessage_cases w message with
    ⟨hopens, mLabel, mProtocol, heq⟩ | ⟨transport, mLabel, mProtocol, hopens, -, heq⟩
  · rw [heq]
    simp [hopens]
  · rw [heq]
    simp only [World.openOn, hopens, not_true_eq_false, false_or]
    constructor
    · rintro ⟨hopen, hclosed⟩
      exact ⟨hopen.symm, hclosed.symm⟩
    · rintro ⟨hopen, hclosed⟩
      exact ⟨hopen.symm, hclosed.symm⟩

/-! ## The round trip -/

/-- Every label and protocol can be sent. -/
theorem exists_sends (label protocol : List UInt8) : ∃ sent, Sends label protocol sent := by
  refine ⟨{ data := openTag ++ [58], type := .string }, {}, _, [true], [], _, 0, rfl, rfl, rfl, ?_⟩
  simp [World.openOn, openMessage]

/-- An incoming channel, in any state it can reach, processes the open message of a channel created
with a label and a protocol; it processes another message instead. The label and the protocol come
through, and the other message is ignored unless it has the form of an open message, exactly when
both are empty and the other message, if of another form, is empty or finds no transport or an open
channel. -/
theorem roundTrip_iff {t : ℕ} {transports : List Bool} {events : List Event} {w : World}
    (hrun : Transition.run World.step { channel := makeIncoming t, transports } events = some w)
    (label protocol : List UInt8) (other : Option Message) :
    ((∀ sent, Sends label protocol sent → RoundTrip label protocol sent w) ∧
        ((∀ m, other = some m → ¬OpenForm m.data) → Ignored w other)) ↔
      label = [] ∧ protocol = [] ∧
        ((∃ m, other = some m ∧ OpenForm m.data) ∨ isOpenMessage other = false ∨
          w.lock = none ∨ w.channel.mIsOpen = true ∧ w.channel.mIsClosed = false) := by
  have hincoming : Named .incoming [] [] w :=
    (Named.of_makeIncoming t transports).run hrun
  have hopens : ¬Opens w other ↔ isOpenMessage other = false ∨ w.lock = none := by
    unfold Opens
    rw [hincoming.kind]
    cases isOpenMessage other <;> cases w.lock <;> simp
  constructor
  · rintro ⟨htrip, hignored⟩
    obtain ⟨sent, hsent⟩ := exists_sends label protocol
    refine ⟨?_, ?_, ?_⟩
    · rw [← (htrip sent hsent).label]
      exact (hincoming.label_processOpenMessage sent).1
    · rw [← (htrip sent hsent).protocol]
      exact (hincoming.label_processOpenMessage sent).2
    · by_cases hform : ∃ m, other = some m ∧ OpenForm m.data
      · exact Or.inl hform
      · -- then its flags are those before, which `open` would have written
        have hkept := hignored fun m hm hopen => hform ⟨m, hm, hopen⟩
        rcases (flags_processOpenMessage_iff w other).1 ⟨hkept.mIsOpen, hkept.mIsClosed⟩ with
          hnot | hopen
        · rcases hopens.1 hnot with hempty | hlock
          · exact Or.inr (Or.inl hempty)
          · exact Or.inr (Or.inr (Or.inl hlock))
        · exact Or.inr (Or.inr (Or.inr hopen))
  · rintro ⟨rfl, rfl, hother⟩
    have hnames (message : Option Message) := hincoming.label_processOpenMessage message
    refine ⟨fun sent _ => ⟨(hnames sent).1, (hnames sent).2⟩, fun hform => ?_⟩
    have hflags : ¬Opens w other ∨ w.channel.mIsOpen = true ∧ w.channel.mIsClosed = false := by
      rcases hother with ⟨m, hm, hopen⟩ | hempty | hlock | hopen
      · exact absurd hopen (hform m hm)
      · exact Or.inl (hopens.2 (Or.inl hempty))
      · exact Or.inl (hopens.2 (Or.inr hlock))
      · exact Or.inr hopen
    obtain ⟨hmIsOpen, hmIsClosed⟩ := (flags_processOpenMessage_iff w other).2 hflags
    exact ⟨(hnames _).1.trans hincoming.label.symm, (hnames _).2.trans hincoming.protocol.symm,
      hmIsOpen, hmIsClosed⟩

/-- Empty names come through, and an empty message is ignored. -/
theorem roundTrip_iff_empty :
    ∃ w, Transition.run World.step { channel := makeIncoming 0, transports := [true] }
        [.assignStream 1] = some w ∧
      (∀ sent, Sends [] [] sent → RoundTrip [] [] sent w) ∧
      Ignored w (some { data := [], type := .string }) := by
  have hrun : ∃ w, Transition.run World.step { channel := makeIncoming 0, transports := [true] }
      [.assignStream 1] = some w := by simp [Transition.run, World.step]
  obtain ⟨w, hrun⟩ := hrun
  have h := (roundTrip_iff hrun [] [] (some { data := [], type := .string })).2
    ⟨rfl, rfl, Or.inr (Or.inl (by decide))⟩
  refine ⟨_, hrun, h.1, h.2 fun m hm hform => ?_⟩
  have hlength := hform.length_le
  cases hm
  simp at hlength

/-- A channel named "a" with the protocol "b": both are empty at the other end. There the message
"c" opens the channel. -/
theorem not_roundTrip :
    (∃ sent, Sends [97] [98] sent ∧
      ¬RoundTrip [97] [98] sent { channel := makeIncoming 0, transports := [true] }) ∧
      ¬OpenForm [99] ∧
      ¬Ignored { channel := makeIncoming 0, transports := [true] }
        (some { data := [99], type := .string }) := by
  refine ⟨?_, ?_, fun h => ?_⟩
  · obtain ⟨sent, hsent⟩ := exists_sends [97] [98]
    refine ⟨sent, hsent, fun h => ?_⟩
    have hempty := ((Named.of_makeIncoming 0 [true]).label_processOpenMessage (some sent)).1
    rw [h.label] at hempty
    cases hempty
  · intro hform
    have hlength := hform.length_le
    simp at hlength
  · exact absurd h.mIsOpen (by decide)

end QuicDataChannel

end Rtc
