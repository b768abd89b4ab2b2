import Mathlib.Logic.Function.Basic
import QuicRtc.DataChannel.OpenMessage
import QuicRtc.DataChannel.Spec
import QuicRtc.Lib.Transition
import QuicRtc.SctpTransport.Defs

/-!
# The OPEN message and user messages

`OutgoingDataChannel::open` publishes the transport under the lock, releases the lock, and only
then hands the OPEN message over. A call of `outgoing` on another thread may find the transport in
between and hand its message over first. In every interleaving without this overlap the OPEN message
is the first on the stream, and the peer receives it first.

* `Opening`: one outgoing channel, the thread that opens it, the threads that send on it, and the
  delivery to the peer.
* `OpenFirst`: the invariant; the OPEN message is the first message handed over and delivered.
* `OpenFirst.step`: every step preserves it, provided that it is `SentAfterOpen`.
* `open_first`: the property of whole runs.
-/

namespace Rtc.DataChannel

/-- How far the call of `open` has come. -/
inductive OpenThread where
  | notStarted
  /-- The lock is released and the message is still to be handed over. -/
  | unlocked (message : Message)
  | sent
  | threw
  deriving DecidableEq, Repr

/-- An outgoing channel that is being opened. `stamped` are the messages that calls of `outgoing`,
one for each thread, have prepared under the lock and not yet handed over. `handed` is the sequence
of messages handed to `SctpTransport::send`, `acked` its length when the ACK message was processed,
and `delivered` the positions of those delivered to the peer, in order. -/
structure Opening where
  channel : DataChannel
  maxMessageSize : ℕ
  thread : OpenThread := .notStarted
  stamped : ℕ → Option Message := fun _ => none
  handed : List Message := []
  acked : Option ℕ := none
  delivered : List ℕ := []

/-- The steps of the threads, and of the network. -/
inductive OpeningStep where
  | openLocked
  | openSend
  | outgoingLocked (thread : ℕ) (message : Message)
  | outgoingSend (thread : ℕ)
  | incoming (message : Message)
  | close
  | deliver (position : ℕ)
  deriving DecidableEq, Repr

/-- A message of the user. -/
def isUserMessage (m : Message) : Bool := m.type = .binary || m.type = .string

/-- An ACK message. -/
def isAckMessage (m : Message) : Bool := m.type = .control && m.data.head? = some messageAck

/-- The message is sent ordered and without a partial reliability policy. -/
def orderedReliable (m : Message) : Bool :=
  match SctpTransport.sendvSpa m with
  | .ok spa => !spa.unordered && spa.prPolicy = .none
  | .error _ => false

namespace Opening

/-- A new outgoing channel. -/
def start (channel : DataChannel) (maxMessageSize : ℕ) : Opening :=
  { channel :=
      { channel with
        kind := .outgoing
        mSctpTransport := false
        mIsOpen := false }
    maxMessageSize }

/-- Ordered delivery on the stream: an ordered message is delivered after all earlier ordered and
reliable ones. Others may be late or lost. -/
def deliverable (w : Opening) (position : ℕ) (m : Message) : Bool :=
  match SctpTransport.sendvSpa m with
  | .error _ => false
  | .ok spa =>
    spa.unordered || (List.range position).all fun earlier =>
      (w.handed[earlier]?).all fun m' => !orderedReliable m' || decide (earlier ∈ w.delivered)

/-- The peer has received the OPEN message. -/
def openDelivered (w : Opening) : Bool :=
  w.delivered.any fun position => (w.handed[position]?).any isOpenMessage

/-- One step. The peer sends an ACK message in answer to the OPEN message only. -/
def step (w : Opening) : OpeningStep → Option Opening
  | .openLocked =>
    match w.thread with
    | .notStarted =>
      match w.channel.openLocked with
      | (channel, .ok message) => some { w with channel, thread := .unlocked message }
      -- the exception leaves the transport published
      | (channel, .error _) => some { w with channel, thread := .threw }
    | _ => none
  | .openSend =>
    match w.thread with
    | .unlocked message => some { w with thread := .sent, handed := w.handed ++ [message] }
    | _ => none
  -- a thread makes one call of `outgoing` at a time
  | .outgoingLocked thread message =>
    if w.stamped thread = none ∧ isUserMessage message then
      match w.channel.outgoingLocked w.maxMessageSize message with
      | .error _ => some w
      | .ok m => some { w with stamped := Function.update w.stamped thread (some m) }
    else none
  | .outgoingSend thread =>
    match w.stamped thread with
    | some m =>
      some { w with
        stamped := Function.update w.stamped thread none
        handed := w.handed ++ [m] }
    | none => none
  | .incoming message =>
    if isAckMessage message && !w.openDelivered then none
    else
      let channel := (w.channel.incoming message).channel
      some { w with
        channel
        acked := if w.acked.isNone && channel.mIsOpen then some w.handed.length else w.acked }
  | .close => some { w with channel := w.channel.close.channel }
  | .deliver position =>
    match w.handed[position]? with
    | some m =>
      if position ∉ w.delivered ∧ w.deliverable position m then
        some { w with delivered := w.delivered ++ [position] }
      else none
    | none => none

end Opening

/-- What `open` announces is in range, so that it does not throw once the transport is published,
and no call of `outgoing` hands its message over while `open` is between its lock and its send. -/
def SentAfterOpen (w : Opening) : OpeningStep → Prop
  | .openLocked =>
    w.channel.mStream.isSome ∧ w.channel.mLabel.length ≤ 65535 ∧
      w.channel.mProtocol.length ≤ 65535 ∧ (openParameters w.channel.mReliability).isOk
  | .outgoingSend _ => ∀ message, w.thread ≠ .unlocked message
  | _ => True

instance (w : Opening) : DecidablePred (SentAfterOpen w)
  | .openLocked =>
    inferInstanceAs (Decidable (w.channel.mStream.isSome ∧ w.channel.mLabel.length ≤ 65535 ∧
      w.channel.mProtocol.length ≤ 65535 ∧ (openParameters w.channel.mReliability).isOk))
  | .outgoingSend _ =>
    match hthread : w.thread with
    | .unlocked m => isFalse (by simp [SentAfterOpen, hthread])
    | .notStarted => isTrue (by simp [SentAfterOpen, hthread])
    | .sent => isTrue (by simp [SentAfterOpen, hthread])
    | .threw => isTrue (by simp [SentAfterOpen, hthread])
  | .openSend => isTrue trivial
  | .outgoingLocked _ _ => isTrue trivial
  | .incoming _ => isTrue trivial
  | .close => isTrue trivial
  | .deliver _ => isTrue trivial

/-- The invariant. -/
structure OpenFirst (w : Opening) : Prop where
  kind : w.channel.kind = .outgoing
  notThrew : w.thread ≠ .threw
  /-- Nothing can be sent before the transport is published. -/
  notStarted : w.thread = .notStarted → w.channel.mSctpTransport = false ∧ ∀ i, w.stamped i = none
  unlocked : ∀ m, w.thread = .unlocked m → isOpenMessage m = true ∧ orderedReliable m = true
  /-- Nothing is handed over before the OPEN message. -/
  first : w.handed = [] ∨ ∃ o rest, w.handed = o :: rest ∧ isOpenMessage o = true ∧
    orderedReliable o = true ∧ ∀ m ∈ rest, isOpenMessage m = false
  sent : w.thread = .sent ↔ w.handed ≠ []
  /-- Messages prepared before the ACK have the default reliability. -/
  stamped : ∀ i m, w.stamped i = some m →
    isUserMessage m = true ∧ (m.reliability = none ∨ w.acked.isSome)
  default : ∀ i m, w.handed[i]? = some m → isOpenMessage m = false →
    m.reliability = none ∨ ∃ k, w.acked = some k ∧ k ≤ i
  isOpen : w.channel.mIsOpen = true → w.acked.isSome
  acked_le : ∀ k, w.acked = some k → k ≤ w.handed.length
  /-- The ACK answers the OPEN message. -/
  acked : w.acked.isSome → 0 ∈ w.delivered
  delivered : w.delivered = [] ∨ w.delivered.head? = some 0

/-! ## Preservation -/

/-- A message without reliability is sent with the default policy. -/
theorem sendvSpa_default {m : Message} (h : m.reliability = none) :
    ∃ spa, SctpTransport.sendvSpa m = .ok spa ∧ spa.unordered = false ∧ spa.prPolicy = .none := by
  have hspa : SctpTransport.sendvSpa m = .ok
      { sid := m.stream % 65536, ppid := SctpTransport.ppid m, unordered := false,
        prPolicy := .none, prValue := 0 } := by
    rw [SctpTransport.sendvSpa, h]
    rfl
  exact ⟨_, hspa, rfl, rfl⟩

/-- A user message is not an OPEN message. -/
theorem isOpenMessage_of_user {m : Message} (h : isUserMessage m = true) :
    isOpenMessage m = false := by
  simp only [isUserMessage, Bool.or_eq_true, decide_eq_true_eq] at h
  rcases h with htype | htype <;> simp [isOpenMessage, htype]

/-- The locked part of `open` does not throw on announcements in range. -/
theorem openLocked_ok {ch : DataChannel} (hstream : ch.mStream.isSome)
    (hlabel : ch.mLabel.length ≤ 65535) (hprotocol : ch.mProtocol.length ≤ 65535)
    (hparameters : (openParameters ch.mReliability).isOk) :
    ∃ m, ch.openLocked = ({ ch with mSctpTransport := true }, .ok m) ∧ isOpenMessage m = true ∧
      orderedReliable m = true := by
  obtain ⟨stream, hstream⟩ := Option.isSome_iff_exists.1 hstream
  cases hparams : openParameters ch.mReliability with
  | error e =>
    rw [hparams] at hparameters
    cases hparameters
  | ok parameters =>
    have hbytes := openBytes_eq ch hparams hlabel hprotocol
    refine ⟨_, by rw [openLocked, hstream, hbytes]; rfl, ?_, ?_⟩
    · rfl
    · rfl

namespace OpenFirst

variable {w : Opening}

theorem start (channel : DataChannel) (maxMessageSize : ℕ) :
    OpenFirst (Opening.start channel maxMessageSize) := by
  constructor <;> simp [Opening.start]

/-- Nothing is handed over until the OPEN message is. -/
theorem handed_eq_nil (h : OpenFirst w) (hthread : w.thread ≠ .sent) : w.handed = [] := by
  by_contra hne
  exact hthread (h.sent.2 hne)

/-- The locked part of `outgoing` stamps a user message; before the ACK, with no reliability. -/
theorem outgoingLocked_ok {ch : DataChannel} {maxMessageSize : ℕ} {message m : Message}
    (h : ch.outgoingLocked maxMessageSize message = .ok m) (huser : isUserMessage message = true) :
    ch.mSctpTransport = true ∧ isUserMessage m = true ∧
      (m.reliability = none ∨ ch.mIsOpen = true) := by
  obtain ⟨htransport, stream, -, rfl⟩ := outgoingLocked_eq_ok h
  refine ⟨htransport, huser, ?_⟩
  cases hopen : ch.mIsOpen with
  | false => exact Or.inl rfl
  | true => exact Or.inr rfl

/-- An ordered message that is delivered comes after the OPEN message. -/
theorem deliver (h : OpenFirst w) {position : ℕ} {m : Message}
    (hm : w.handed[position]? = some m) (hok : w.deliverable position m = true) :
    OpenFirst { w with delivered := w.delivered ++ [position] } := by
  refine { h with acked := ?_, delivered := ?_ }
  · exact fun hacked => List.mem_append_left _ (h.acked hacked)
  · right
    rcases h.delivered with hnil | hhead
    · -- the first message delivered is the OPEN message: the others are ordered after it, or are
      -- sent after the ACK
      suffices hzero : position = 0 by simp [hnil, hzero]
      by_contra hne
      rcases h.first with hempty | ⟨o, rest, hhanded, -, hordered, hrest⟩
      · simp [hempty] at hm
      · have hacked : w.acked = none := by
          by_contra hsome
          have := h.acked (Option.isSome_iff_ne_none.2 hsome)
          simp [hnil] at this
        obtain ⟨k, rfl⟩ := Nat.exists_eq_succ_of_ne_zero hne
        have hmem : m ∈ rest := by
          rw [hhanded, List.getElem?_cons_succ] at hm
          exact List.mem_of_getElem? hm
        have hdefault : m.reliability = none := by
          rcases h.default _ m hm (hrest m hmem) with hnone | ⟨n, hn, -⟩
          · exact hnone
          · rw [hacked] at hn
            cases hn
        obtain ⟨spa, hspa, hunordered, -⟩ := sendvSpa_default hdefault
        simp only [Opening.deliverable, hspa, hunordered, Bool.false_or, List.all_eq_true] at hok
        have hfirst := hok 0 (List.mem_range.2 (Nat.succ_pos k))
        simp [hhanded, hordered, hnil] at hfirst
    · cases hdelivered : w.delivered with
      | nil => simp [hdelivered] at hhead
      | cons first rest => simpa [hdelivered] using hhead

/-- A user message handed over after the OPEN message. -/
theorem outgoingSend (h : OpenFirst w) {thread : ℕ} {m : Message}
    (hm : w.stamped thread = some m) (hok : ∀ message, w.thread ≠ .unlocked message) :
    OpenFirst
      { w with
        stamped := Function.update w.stamped thread none
        handed := w.handed ++ [m] } := by
  obtain ⟨huser, hreliability⟩ := h.stamped thread m hm
  have hsent : w.thread = .sent := by
    cases hthread : w.thread with
    | notStarted =>
      have hnone := (h.notStarted hthread).2 thread
      rw [hm] at hnone
      cases hnone
    -- the overlap: the transport is published, the OPEN message not handed over
    | unlocked message => exact absurd hthread (hok message)
    | sent => rfl
    | threw => exact absurd hthread h.notThrew
  have hnot : isOpenMessage m = false := isOpenMessage_of_user huser
  have hstamped : ∀ i m', Function.update w.stamped thread none i = some m' →
      w.stamped i = some m' := by
    intro i m' hi
    by_cases heq : i = thread
    · simp [heq] at hi
    · rwa [Function.update_of_ne heq] at hi
  refine
    { h with
      notStarted := ?_, first := ?_, sent := ?_, stamped := ?_, default := ?_, acked_le := ?_ }
  · -- the thread has sent the OPEN message already
    intro hthread
    rw [show w.thread = .notStarted from hthread] at hsent
    cases hsent
  · right
    rcases h.first with hempty | ⟨o, rest, hhanded, hopen, hordered, hrest⟩
    · exact absurd hempty (h.sent.1 hsent)
    · refine ⟨o, rest ++ [m], by simp [hhanded], hopen, hordered, ?_⟩
      intro m' hm'
      rcases List.mem_append.1 hm' with hm' | hm'
      · exact hrest m' hm'
      · rw [List.mem_singleton.1 hm']
        exact hnot
  · simp [hsent]
  · exact fun i m' hi => h.stamped i m' (hstamped i m' hi)
  · intro i m' hi hopen
    rw [List.getElem?_append] at hi
    split at hi
    · exact h.default i m' hi hopen
    · next hge =>
      obtain rfl : m = m' := by
        rw [List.getElem?_singleton] at hi
        split at hi
        · exact Option.some.inj hi
        · cases hi
      -- stamped after the ACK, the message is handed over after it too
      rcases hreliability with hnone | hacked
      · exact Or.inl hnone
      · obtain ⟨k, hk⟩ := Option.isSome_iff_exists.1 hacked
        exact Or.inr ⟨k, hk, Nat.le_trans (h.acked_le k hk) (Nat.le_of_not_lt hge)⟩
  · intro k hk
    rw [List.length_append]
    exact Nat.le_trans (h.acked_le k hk) (Nat.le_add_right _ _)

/-- The OPEN message is handed over; nothing was before it. -/
theorem openSend (h : OpenFirst w) {message : Message} (hthread : w.thread = .unlocked message) :
    OpenFirst { w with thread := .sent, handed := w.handed ++ [message] } := by
  obtain ⟨hopen, hordered⟩ := h.unlocked message hthread
  have hempty : w.handed = [] := h.handed_eq_nil (by simp [hthread])
  refine
    { h with
      notThrew := by simp, notStarted := by simp, unlocked := by simp, sent := by simp
      first := Or.inr ⟨message, [], by simp [hempty], hopen, hordered, by simp⟩
      default := ?_, acked_le := ?_ }
  · intro i m hi hnot
    have hmem : m ∈ w.handed ++ [message] := List.mem_of_getElem? hi
    rw [hempty, List.nil_append, List.mem_singleton] at hmem
    rw [hmem, hopen] at hnot
    cases hnot
  · intro k hk
    rw [List.length_append]
    exact Nat.le_trans (h.acked_le k hk) (Nat.le_add_right _ _)

/-- An outgoing channel becomes open with an ACK message only. -/
theorem mIsOpen_incoming {ch : DataChannel} (hkind : ch.kind = .outgoing) {message : Message}
    (h : (ch.incoming message).channel.mIsOpen = true) :
    ch.mIsOpen = true ∨ isAckMessage message = true := by
  unfold incoming at h
  split at h
  · exact Or.inl h
  · split at h
    · next htype =>
      split at h
      · exact Or.inl h
      · next b hb =>
        split at h
        · rw [processOpenMessage, hkind] at h
          exact Or.inl h
        · split at h
          · next hack => exact Or.inr (by simp [isAckMessage, htype, hb, hack])
          · exact Or.inl h
    · left
      unfold close at h
      split at h <;> exact h
    · exact Or.inl h
    · exact Or.inl h

/-- The channel receives a message. An ACK message comes after the delivery of the OPEN message. -/
theorem incoming (h : OpenFirst w) {message : Message}
    (hok : (isAckMessage message && !w.openDelivered) = false) {channel : DataChannel}
    (hchannel : channel = (w.channel.incoming message).channel) :
    OpenFirst
      { w with
        channel
        acked := if w.acked.isNone && channel.mIsOpen then some w.handed.length else w.acked } := by
  have hkeeps := keeps_incoming w.channel message
  rw [← hchannel] at hkeeps
  have hdelivered : isAckMessage message = true → 0 ∈ w.delivered := by
    intro hack
    simp only [hack, Bool.true_and, Bool.not_eq_false', Opening.openDelivered, List.any_eq_true,
      Option.any_eq_true] at hok
    obtain ⟨position, hmem, m, hm, hopen⟩ := hok
    -- the only OPEN message handed over is the first one
    rcases h.first with hempty | ⟨o, rest, hhanded, -, -, hrest⟩
    · simp [hempty] at hm
    · cases position with
      | zero => exact hmem
      | succ k =>
        rw [hhanded, List.getElem?_cons_succ] at hm
        rw [hrest m (List.mem_of_getElem? hm)] at hopen
        cases hopen
  -- `acked` is set by an ACK message only
  have hacked : (if w.acked.isNone && channel.mIsOpen then some w.handed.length
      else w.acked).isSome = true → w.acked.isSome = true ∨ isAckMessage message = true := by
    intro hsome
    split at hsome
    · next hnew =>
      rw [Bool.and_eq_true, hchannel] at hnew
      rcases mIsOpen_incoming h.kind hnew.2 with hopen | hack
      · exact Or.inl (h.isOpen hopen)
      · exact Or.inr hack
    · exact Or.inl hsome
  refine
    { h with
      kind := hkeeps.kind.trans h.kind
      notStarted := ?_, stamped := ?_, default := ?_, isOpen := ?_, acked_le := ?_, acked := ?_ }
  · intro hthread
    obtain ⟨htransport, hnone⟩ := h.notStarted hthread
    exact ⟨by rw [hchannel, mSctpTransport_incoming, htransport], hnone⟩
  · intro i m hi
    obtain ⟨huser, hnone | hsome⟩ := h.stamped i m hi
    · exact ⟨huser, Or.inl hnone⟩
    · refine ⟨huser, Or.inr ?_⟩
      dsimp only
      split
      · rfl
      · exact hsome
  · intro i m hi hnot
    rcases h.default i m hi hnot with hnone | ⟨k, hk, hle⟩
    · exact Or.inl hnone
    · exact Or.inr ⟨k, by simp [hk], hle⟩
  · intro hopen
    dsimp only
    split
    · rfl
    · next hold =>
      rw [show channel.mIsOpen = true from hopen, Bool.and_true, Option.isNone_iff_eq_none] at hold
      exact Option.isSome_iff_ne_none.2 hold
  · intro k hk
    dsimp only at hk
    split at hk
    · rw [← Option.some.inj hk]
    · exact h.acked_le k hk
  · intro hsome
    rcases hacked hsome with hold | hack
    · exact h.acked hold
    · exact hdelivered hack

/-- Every step preserves the invariant, provided that user messages wait for the OPEN message. -/
theorem step {e : OpeningStep} {w' : Opening} (h : OpenFirst w) (hok : SentAfterOpen w e)
    (hstep : w.step e = some w') : OpenFirst w' := by
  cases e with
  | openLocked =>
    simp only [Opening.step] at hstep
    split at hstep
    · next hthread =>
      obtain ⟨hstream, hlabel, hprotocol, hparameters⟩ := hok
      obtain ⟨m, hlocked, hopen, hordered⟩ :=
        openLocked_ok hstream hlabel hprotocol hparameters
      rw [hlocked] at hstep
      cases hstep
      have hempty : w.handed = [] := h.handed_eq_nil (by simp [hthread])
      refine
        { h with
          notThrew := by simp, notStarted := by simp, sent := by simp [hempty]
          unlocked := ?_ }
      intro m' hm'
      cases hm'
      exact ⟨hopen, hordered⟩
    · cases hstep
  | openSend =>
    simp only [Opening.step] at hstep
    split at hstep
    · next message hthread =>
      cases hstep
      exact h.openSend hthread
    · cases hstep
  | outgoingLocked thread message =>
    simp only [Opening.step, Option.ite_none_right_eq_some] at hstep
    obtain ⟨⟨-, huser⟩, hstep⟩ := hstep
    split at hstep
    · cases hstep
      exact h
    · next m hlocked =>
      cases hstep
      -- `outgoing` does not throw only if it finds the transport, so `open` has started
      obtain ⟨htransport, huser', hreliability⟩ := outgoingLocked_ok hlocked huser
      refine { h with notStarted := ?_, stamped := ?_ }
      · intro hthread
        rw [(h.notStarted hthread).1] at htransport
        cases htransport
      · intro i m' hi
        by_cases heq : i = thread
        · subst heq
          obtain rfl : m = m' := by simpa using hi
          exact ⟨huser', hreliability.imp_right h.isOpen⟩
        · dsimp only at hi
          rw [Function.update_of_ne heq] at hi
          exact h.stamped i m' hi
  | outgoingSend thread =>
    simp only [Opening.step] at hstep
    split at hstep
    · next m hm =>
      cases hstep
      exact h.outgoingSend hm hok
    · cases hstep
  | incoming message =>
    simp only [Opening.step] at hstep
    split at hstep
    · cases hstep
    · next hack =>
      cases hstep
      exact h.incoming (by simpa using hack) rfl
  | close =>
    cases hstep
    have hkeeps := keeps_close w.channel
    refine { h with kind := hkeeps.kind.trans h.kind, notStarted := ?_, isOpen := ?_ }
    · intro hthread
      obtain ⟨htransport, hnone⟩ := h.notStarted hthread
      exact ⟨by rw [mSctpTransport_close, htransport], hnone⟩
    · intro hopen
      refine h.isOpen ?_
      unfold close at hopen
      split at hopen <;> exact hopen
  | deliver position =>
    simp only [Opening.step] at hstep
    split at hstep
    · next m hm =>
      rw [Option.ite_none_right_eq_some] at hstep
      obtain ⟨⟨-, hdeliverable⟩, hstep⟩ := hstep
      cases hstep
      exact h.deliver hm hdeliverable
    · cases hstep

end OpenFirst

/-- In every interleaving in which `open` does not throw and no user message is handed over between
its lock and its send:

* every user message is handed over after the OPEN message;
* every user message handed over before the ACK is processed is sent ordered and reliable;
* the peer receives the OPEN message before every user message. -/
theorem open_first {channel : DataChannel} {maxMessageSize : ℕ} {steps : List OpeningStep}
    {w : Opening}
    (hrun : Transition.run Opening.step (Opening.start channel maxMessageSize) steps = some w)
    (hok : Transition.Meets Opening.step SentAfterOpen (Opening.start channel maxMessageSize)
      steps) :
    (∀ (i : ℕ) (m : Message), w.handed[i]? = some m → isUserMessage m = true →
        ∃ j o, j < i ∧ w.handed[j]? = some o ∧ isOpenMessage o = true) ∧
      (∀ (i : ℕ) (m : Message), w.handed[i]? = some m → isUserMessage m = true →
        (∀ k, w.acked = some k → i < k) →
        ∃ spa, SctpTransport.sendvSpa m = .ok spa ∧ spa.unordered = false ∧
          spa.prPolicy = .none) ∧
      ∀ before after i m, w.delivered = before ++ i :: after → w.handed[i]? = some m →
        isUserMessage m = true →
          ∃ j o, j ∈ before ∧ w.handed[j]? = some o ∧ isOpenMessage o = true := by
  have h : OpenFirst w := Transition.run_invariant
    (fun _ _ _ hw hstepOk hstep => hw.step hstepOk hstep) (OpenFirst.start channel maxMessageSize)
    hok hrun
  -- a user message is never the first one, and the first one is the OPEN message
  have hfirst : ∀ (i : ℕ) (m : Message), w.handed[i]? = some m → isUserMessage m = true →
      0 < i ∧ ∃ o, w.handed[0]? = some o ∧ isOpenMessage o = true := by
    intro i m hm huser
    rcases h.first with hempty | ⟨o, rest, hhanded, hopen, -, -⟩
    · simp [hempty] at hm
    · refine ⟨?_, o, by simp [hhanded], hopen⟩
      by_contra hzero
      obtain rfl : i = 0 := by omega
      obtain rfl : o = m := by simpa [hhanded] using hm
      rw [isOpenMessage_of_user huser] at hopen
      cases hopen
  refine ⟨?_, ?_, ?_⟩
  · intro i m hm huser
    obtain ⟨hpos, o, ho, hopen⟩ := hfirst i m hm huser
    exact ⟨0, o, hpos, ho, hopen⟩
  · intro i m hm huser hbefore
    rcases h.default i m hm (isOpenMessage_of_user huser) with hnone | ⟨k, hk, hle⟩
    · exact sendvSpa_default hnone
    · exact absurd (hbefore k hk) (Nat.not_lt_of_le hle)
  · intro before after i m hsplit hm huser
    obtain ⟨hpos, o, ho, hopen⟩ := hfirst i m hm huser
    refine ⟨0, o, ?_, ho, hopen⟩
    rcases h.delivered with hempty | hhead
    · simp [hempty] at hsplit
    · cases before with
      | nil =>
        -- the first position delivered is 0, which is no user message
        obtain rfl : i = 0 := by simpa [hsplit] using hhead
        omega
      | cons first rest =>
        obtain rfl : first = 0 := by simpa [hsplit] using hhead
        exact List.mem_cons_self

/-- A channel without a label on stream 0, with an unordered reliability. -/
def unorderedChannel : DataChannel where
  kind := .outgoing
  mLabel := []
  mProtocol := []
  mReliability := { unordered := true }
  mStream := some 0

/-- One message sent before the ACK and one after it, which overtakes the first. -/
def unorderedSteps : List OpeningStep :=
  [.openLocked, .outgoingLocked 0 { data := [1], type := .binary }, .openSend, .outgoingSend 0,
    .deliver 0, .incoming (ackMessage 0),
    .outgoingLocked 0 { data := [2], type := .binary }, .outgoingSend 0, .deliver 2, .deliver 1]

theorem open_first_unorderedSteps :
    ∃ w, Transition.run Opening.step (Opening.start unorderedChannel 16) unorderedSteps = some w ∧
      Transition.Meets Opening.step SentAfterOpen (Opening.start unorderedChannel 16)
        unorderedSteps ∧
      w.delivered = [0, 2, 1] ∧ w.acked = some 2 ∧
      ∃ j o, j ∈ [0] ∧ w.handed[j]? = some o ∧ isOpenMessage o = true := by
  have hok : Transition.Meets Opening.step SentAfterOpen (Opening.start unorderedChannel 16)
      unorderedSteps := by
    decide
  exact ⟨_, rfl, hok, by decide, by decide,
    (open_first rfl hok).2.2 [0] [1] 2 _ rfl rfl (by decide)⟩

/-- A call of `outgoing` on another thread finds the transport before the OPEN message is handed
over: the user message is first on the stream, and the first the peer receives. -/
theorem user_message_before_open :
    ∃ w, Transition.run Opening.step (Opening.start unorderedChannel 16)
        [.openLocked, .outgoingLocked 0 { data := [1], type := .binary }, .outgoingSend 0,
          .openSend, .deliver 0] = some w ∧
      w.handed.map isOpenMessage = [false, true] ∧ w.handed.map isUserMessage = [true, false] ∧
      w.delivered = [0] :=
  ⟨_, rfl, by decide, by decide, by decide⟩

end Rtc.DataChannel
