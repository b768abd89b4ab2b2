import QuicRtc.DataChannel.Defs

/-!
# What the calls on a channel do

One lemma for each member function of a channel, listing what it may change and the messages it may
hand to the transport. `Keeps` collects what no call ever changes.
-/

namespace Rtc.DataChannel

/-- What a call never changes: the kind of the channel, its stream, a known transport and the closed
flag, once set. -/
structure Keeps (ch ch' : DataChannel) : Prop where
  kind : ch'.kind = ch.kind
  mStream : ch'.mStream = ch.mStream
  mSctpTransport : ch.mSctpTransport = true → ch'.mSctpTransport = true
  mIsClosed : ch.mIsClosed = true → ch'.mIsClosed = true

theorem Keeps.refl (ch : DataChannel) : Keeps ch ch := ⟨rfl, rfl, id, id⟩

/-- `close` resets the stream of a channel that was not closed, if it can. -/
theorem close_cases (ch : DataChannel) :
    (ch.mIsClosed = true ∧ ch.close = { channel := ch }) ∨
      ch.mIsClosed = false ∧ ch.close.channel = { ch with mIsClosed := true } ∧
        ch.close.thrown = none ∧
        ((∃ stream, ch.mSctpTransport = true ∧ ch.mStream = some stream ∧
            ch.close.messages = [resetMessage stream]) ∨
          (ch.mSctpTransport = false ∨ ch.mStream = none) ∧ ch.close.messages = []) := by
  unfold close
  cases hclosed : ch.mIsClosed with
  | true => exact Or.inl ⟨rfl, rfl⟩
  | false =>
    refine Or.inr ⟨rfl, rfl, rfl, ?_⟩
    cases htransport : ch.mSctpTransport with
    | false => exact Or.inr ⟨Or.inl rfl, rfl⟩
    | true =>
      cases hstream : ch.mStream with
      | none => exact Or.inr ⟨Or.inr rfl, rfl⟩
      | some stream => exact Or.inl ⟨stream, rfl, rfl, rfl⟩

@[simp]
theorem mIsClosed_close (ch : DataChannel) : ch.close.channel.mIsClosed = true := by
  rcases close_cases ch with ⟨hclosed, hclose⟩ | ⟨-, hclose, -⟩
  · rw [hclose]
    exact hclosed
  · rw [hclose]

/-- A reset closes the channel. -/
theorem incoming_reset (ch : DataChannel) {message : Message} (hreset : message.type = .reset) :
    ch.incoming message = ch.close := by
  unfold incoming
  split
  · next hclosed => simp [close, hclosed]
    -- a closed channel ignores the reset, as `close` does
  · rw [hreset]

/-- The locked part of `open` publishes the transport, and builds the OPEN message or throws. -/
theorem openLocked_cases (ch : DataChannel) :
    (∃ e, ch.openLocked = ({ ch with mSctpTransport := true }, .error e)) ∨
      ∃ stream data, ch.mStream = some stream ∧ ch.openBytes = .ok data ∧
        ch.openLocked =
          ({ ch with mSctpTransport := true }, .ok { data, type := .control, stream }) := by
  unfold openLocked
  split
  · exact Or.inl ⟨_, rfl⟩
  · next stream hstream =>
    cases hbytes : ch.openBytes with
    | error e => exact Or.inl ⟨e, rfl⟩
    | ok data => exact Or.inr ⟨stream, data, hstream, rfl, rfl⟩

/-- `open` on a channel: an outgoing channel hands over an OPEN message on its stream, unless it
throws. -/
theorem openOn_cases (ch : DataChannel) :
    (ch.openOn.messages = [] ∧ Keeps ch ch.openOn.channel ∧
        ch.openOn.channel.mIsClosed = ch.mIsClosed) ∨
      ∃ stream data, ch.kind = .outgoing ∧ ch.mStream = some stream ∧ ch.openBytes = .ok data ∧
        ch.openOn =
          { channel := { ch with mSctpTransport := true }
            effects := [.send { data, type := .control, stream }] } := by
  unfold openOn
  split
  · -- a negotiated channel opens without a message
    left
    dsimp only
    split <;> exact ⟨rfl, ⟨rfl, rfl, fun _ => rfl, id⟩, rfl⟩
  · next hkind =>
    rcases openLocked_cases ch with ⟨e, hopen⟩ | ⟨stream, data, hstream, hbytes, hopen⟩
    · rw [hopen]
      exact Or.inl ⟨rfl, ⟨rfl, rfl, fun _ => rfl, id⟩, rfl⟩
    · rw [hopen]
      exact Or.inr ⟨stream, data, hkind, hstream, hbytes, rfl⟩
  · exact Or.inl ⟨rfl, Keeps.refl ch, rfl⟩

/-- An incoming channel that processes an OPEN message answers with an ACK message, unless it
throws. -/
theorem processOpenMessageIncoming_cases (ch : DataChannel) (message : Message) :
    (ch.processOpenMessageIncoming message).messages = [] ∧
        (ch.processOpenMessageIncoming message).channel = ch ∨
      ∃ stream, ch.mStream = some stream ∧
        (ch.processOpenMessageIncoming message).messages = [ackMessage stream] ∧
        (ch.processOpenMessageIncoming message).thrown = none ∧
        Keeps ch (ch.processOpenMessageIncoming message).channel ∧
        (ch.processOpenMessageIncoming message).channel.mIsClosed = ch.mIsClosed ∧
        (ch.processOpenMessageIncoming message).channel.mSctpTransport = ch.mSctpTransport := by
  unfold processOpenMessageIncoming
  split
  · exact Or.inl ⟨rfl, rfl⟩
  · split
    · exact Or.inl ⟨rfl, rfl⟩
    · next stream hstream =>
      split
      · exact Or.inl ⟨rfl, rfl⟩
      · dsimp only
        split
        · exact Or.inl ⟨rfl, rfl⟩
        · refine Or.inr ⟨stream, hstream, ?_, rfl, ⟨rfl, rfl, id, id⟩, rfl, rfl⟩
          cases ch.mIsOpen <;> rfl

/-- `incoming` on a message: a reset closes the channel, an OPEN message may be answered with an
ACK message, and nothing is handed over otherwise. -/
theorem incoming_cases (ch : DataChannel) (message : Message) :
    (message.type = .reset ∧ ch.incoming message = ch.close) ∨
      Keeps ch (ch.incoming message).channel ∧
        ((ch.incoming message).channel.mIsClosed = ch.mIsClosed ∧
          (ch.incoming message).channel.mSctpTransport = ch.mSctpTransport) ∧
        ((ch.incoming message).messages = [] ∨
          ∃ stream, ch.mStream = some stream ∧ ch.kind = .incoming ∧ ch.mIsClosed = false ∧
            (ch.incoming message).messages = [ackMessage stream]) := by
  unfold incoming
  split
  · exact Or.inr ⟨Keeps.refl ch, ⟨rfl, rfl⟩, Or.inl rfl⟩
  · next hclosed =>
    split
    · right
      split
      · exact ⟨Keeps.refl ch, ⟨rfl, rfl⟩, Or.inl rfl⟩
      · split
        · unfold processOpenMessage
          split
          · exact ⟨Keeps.refl ch, ⟨rfl, rfl⟩, Or.inl rfl⟩
          · exact ⟨Keeps.refl ch, ⟨rfl, rfl⟩, Or.inl rfl⟩
          · next hkind =>
            -- only an incoming channel answers
            rcases processOpenMessageIncoming_cases ch message with
              ⟨hmessages, hchannel⟩ | ⟨stream, hstream, hmessages, -, hkeeps, hsame⟩
            · rw [hchannel]
              exact ⟨Keeps.refl ch, ⟨rfl, rfl⟩, Or.inl hmessages⟩
            · have hopen : ch.mIsClosed = false := by simpa using hclosed
              exact ⟨hkeeps, hsame, Or.inr ⟨stream, hstream, hkind, hopen, hmessages⟩⟩
        · split
          · -- an ACK message
            refine ⟨⟨rfl, rfl, id, id⟩, ⟨rfl, rfl⟩, Or.inl ?_⟩
            cases ch.mIsOpen <;> rfl
          · exact ⟨Keeps.refl ch, ⟨rfl, rfl⟩, Or.inl rfl⟩
    · next hreset => exact Or.inl ⟨hreset, rfl⟩
    · exact Or.inr ⟨Keeps.refl ch, ⟨rfl, rfl⟩, Or.inl rfl⟩
    · exact Or.inr ⟨Keeps.refl ch, ⟨rfl, rfl⟩, Or.inl rfl⟩

/-! ## What every call keeps -/

theorem keeps_close (ch : DataChannel) : Keeps ch ch.close.channel := by
  rcases close_cases ch with ⟨-, hclose⟩ | ⟨-, hchannel, -⟩
  · rw [hclose]
    exact Keeps.refl ch
  · rw [hchannel]
    exact ⟨rfl, rfl, id, fun _ => rfl⟩

theorem keeps_openOn (ch : DataChannel) : Keeps ch ch.openOn.channel := by
  rcases openOn_cases ch with ⟨-, hkeeps, -⟩ | ⟨stream, data, -, -, -, hopen⟩
  · exact hkeeps
  · rw [hopen]
    exact ⟨rfl, rfl, fun _ => rfl, id⟩

theorem keeps_incoming (ch : DataChannel) (message : Message) :
    Keeps ch (ch.incoming message).channel := by
  rcases incoming_cases ch message with ⟨-, hclose⟩ | ⟨hkeeps, -⟩
  · rw [hclose]
    exact keeps_close ch
  · exact hkeeps

/-! ## OPEN messages -/

/-- `close` hands over no OPEN message. -/
theorem close_quiet (ch : DataChannel) : ∀ m ∈ ch.close.messages, isOpenMessage m = false := by
  intro m hm
  rcases close_cases ch with ⟨-, hclose⟩ | ⟨-, -, -, ⟨stream, -, -, hmessages⟩ | ⟨-, hmessages⟩⟩
  · rw [hclose] at hm
    cases hm
  · rw [hmessages, List.mem_singleton] at hm
    rw [hm]
    rfl
  · rw [hmessages] at hm
    cases hm

/-- `incoming` hands over no OPEN message. -/
theorem incoming_quiet (message : Message) (ch : DataChannel) :
    ∀ m ∈ (ch.incoming message).messages, isOpenMessage m = false := by
  intro m hm
  rcases incoming_cases ch message with
    ⟨-, hclose⟩ | ⟨-, -, hmessages | ⟨stream, -, -, -, hmessages⟩⟩
  · rw [hclose] at hm
    exact close_quiet ch m hm
  · rw [hmessages] at hm
    cases hm
  · rw [hmessages, List.mem_singleton] at hm
    rw [hm]
    rfl

/-! ## The transport of a channel -/

@[simp]
theorem mSctpTransport_close (ch : DataChannel) :
    ch.close.channel.mSctpTransport = ch.mSctpTransport := by
  unfold close
  split <;> rfl

/-- Only `open` sets the transport. -/
@[simp]
theorem mSctpTransport_incoming (ch : DataChannel) (message : Message) :
    (ch.incoming message).channel.mSctpTransport = ch.mSctpTransport := by
  rcases incoming_cases ch message with ⟨-, hclose⟩ | ⟨-, ⟨-, htransport⟩, -⟩
  · rw [hclose]
    exact mSctpTransport_close ch
  · exact htransport

/-! ## Sending -/

/-- A message that the locked part of `outgoing` lets pass is stamped with the stream and, once the
channel is open, with its reliability. -/
theorem outgoingLocked_eq_ok {ch : DataChannel} {maxMessageSize : ℕ} {message sent : Message}
    (h : ch.outgoingLocked maxMessageSize message = .ok sent) :
    ch.mSctpTransport = true ∧ ∃ stream, ch.mStream = some stream ∧
      sent = { message with
        reliability := if ch.mIsOpen then some ch.mReliability else none
        stream } := by
  unfold outgoingLocked at h
  split at h
  · cases h
  · split at h
    · cases h
    · next htransport =>
      split at h
      · cases h
      · next stream hstream =>
        split at h
        · cases h
        · exact ⟨by simpa using htransport, stream, hstream, (Except.ok.inj h).symm⟩

end Rtc.DataChannel
