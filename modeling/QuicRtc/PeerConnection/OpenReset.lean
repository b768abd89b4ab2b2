import Mathlib.Data.List.Chain
import QuicRtc.PeerConnection.StreamTable

/-!
# OPEN messages and resets on a stream

A stream id is used again once the reset of the peer has freed it. On each stream, what a peer hands
to its transport never has two OPEN messages without a reset between them: the channel that sent the
first one stays registered until the peer resets the stream, and has been closed by then, which
hands over a reset as its transport is known.

* `controls`: the OPEN messages and resets on a stream.
* `Utters`: what a call on a channel may hand over, in terms of these.
* `Announcing`: the invariant of a peer connection, with the preservation lemmas.

The invariant breaks if a channel is opened twice; `openDataChannels` therefore has to find no
channel that is open on this side and waits for the ACK of the peer.
-/

namespace Rtc.PeerConnection

/-- A message that opens or resets a stream. -/
inductive Control where
  | opening
  | reset
  deriving DecidableEq, Repr

/-- What a message means for a stream, if anything. -/
def control (stream : ℕ) (m : Message) : Option Control :=
  if m.stream % 65536 ≠ stream then none
  else if isOpenMessage m then some .opening
  else if m.type = .reset then some .reset
  else none

/-- The OPEN messages and resets on a stream, in order. -/
def controls (stream : ℕ) (messages : List Message) : List Control :=
  messages.filterMap (control stream)

/-- There is a reset between any two OPEN messages. -/
def Alternates (word : List Control) : Prop := word.IsChain fun a b => a = .opening → b = .reset

/-- The messages handed to the transport so far. -/
def sent (pc : PeerConnection) : List Message := pc.handed.map (·.2)

/-- A channel that has its transport and is not closed is registered on the stream. -/
def Announced (pc : PeerConnection) (stream : ℕ) : Prop :=
  ∃ c o, pc.mDataChannels.lookup stream = some c ∧ pc.objects[c]? = some o ∧
    o.channel.mIsClosed = false ∧ o.channel.mSctpTransport = true

/-- OPEN messages and resets alternate on every stream, and a stream whose last OPEN message was not
followed by a reset is announced. -/
def Heard (announced : ℕ → Prop) (messages : List Message) : Prop :=
  ∀ stream, Alternates (controls stream messages) ∧
    ((controls stream messages).getLast? = some .opening → announced stream)

/-- OPEN messages and resets alternate on every stream, and an OPEN message that was not followed
by a reset is that of a registered channel. -/
def Word (pc : PeerConnection) : Prop := Heard pc.Announced pc.sent

variable {pc pc' : PeerConnection} {p : ℕ}

/-! ## Words -/

@[simp]
theorem controls_append (stream : ℕ) (ms ms' : List Message) :
    controls stream (ms ++ ms') = controls stream ms ++ controls stream ms' :=
  List.filterMap_append

/-- A reset is a control message on its stream. -/
theorem controls_resetMessage (stream t : ℕ) :
    controls stream [DataChannel.resetMessage t] = if t % 65536 = stream then [.reset] else [] := by
  by_cases heq : t % 65536 = stream
  · subst heq
    simp [controls, control, DataChannel.resetMessage, isOpenMessage]
  · simp [controls, control, DataChannel.resetMessage, heq]

/-- A message that neither opens nor resets. -/
theorem controls_eq_nil {stream : ℕ} {m : Message} (hopen : isOpenMessage m = false)
    (hreset : m.type ≠ .reset) : controls stream [m] = [] := by
  simp [controls, control, hopen, hreset]

/-- What is handed over next, on each stream: nothing, with the stream as announced as before, or a
reset, or an OPEN message that announces the stream. -/
theorem Heard.append {announced announced' : ℕ → Prop} {messages : List Message}
    (h : Heard announced messages) {out : List Message}
    (hout : ∀ stream,
      (controls stream out = [] ∧ (announced stream → announced' stream)) ∨
      controls stream out = [.reset] ∨
      (controls stream out = [.opening] ∧ ¬announced stream ∧ announced' stream)) :
    Heard announced' (messages ++ out) := by
  intro stream
  obtain ⟨halternates, hlast⟩ := h stream
  rw [controls_append]
  -- split on what the stream hears next; only an OPEN message can break the alternation
  rcases hout stream with ⟨hnil, hkept⟩ | hreset | ⟨hopening, hfresh, hannounced⟩
  · rw [hnil, List.append_nil]
    exact ⟨halternates, fun hopening => hkept (hlast hopening)⟩
  · rw [hreset]
    refine ⟨List.isChain_append.2 ⟨halternates, List.isChain_singleton _, ?_⟩, by simp⟩
    intro a _ b hb _
    simpa [eq_comm] using hb
  · rw [hopening]
    refine ⟨List.isChain_append.2 ⟨halternates, List.isChain_singleton _, ?_⟩,
      fun _ => hannounced⟩
    -- two OPEN messages in a row would mean that the stream was announced already
    rintro a ha b - rfl
    exact (hfresh (hlast ha)).elim

theorem Word.append (h : Word pc) {out : List Message} (hsent : pc'.sent = pc.sent ++ out)
    (hout : ∀ stream,
      (controls stream out = [] ∧ (pc.Announced stream → pc'.Announced stream)) ∨
      controls stream out = [.reset] ∨
      (controls stream out = [.opening] ∧ ¬pc.Announced stream ∧ pc'.Announced stream)) :
    Word pc' := by
  unfold Word
  rw [hsent]
  exact Heard.append h hout

/-! ## Calls on a channel -/

/-- What a call on a channel hands over, on each stream: nothing, with a channel that had its
transport and was not closed still in that state, or a reset, or the first OPEN message of the
channel, which has to be registered. -/
def Utters (registered : ℕ → Prop) (ch ch' : DataChannel) (out : List Message) : Prop :=
  ∀ stream,
    (controls stream out = [] ∧
      (ch.mStream = some stream → ch.mIsClosed = false → ch.mSctpTransport = true →
        ch'.mIsClosed = false ∧ ch'.mSctpTransport = true)) ∨
    controls stream out = [.reset] ∨
    (controls stream out = [.opening] ∧ registered stream ∧ ch.mSctpTransport = false ∧
      ch'.mIsClosed = false ∧ ch'.mSctpTransport = true)

variable {registered : ℕ → Prop} {ch : DataChannel}

/-- A closed channel resets its stream, if it is known to the peer. -/
theorem utters_close (hbound : ∀ stream, ch.mStream = some stream → stream < 65536) :
    Utters registered ch ch.close.channel ch.close.messages := by
  intro stream
  rcases DataChannel.close_cases ch with
    ⟨-, hclose⟩ | ⟨-, -, -, ⟨t, -, hstream, hmessages⟩ | ⟨hnone, hmessages⟩⟩
  · rw [hclose]
    exact .inl ⟨rfl, fun _ hclosed htransport => ⟨hclosed, htransport⟩⟩
  · -- a reset on the stream of the channel, and nothing on any other stream
    rw [hmessages, controls_resetMessage, Nat.mod_eq_of_lt (hbound t hstream)]
    by_cases heq : t = stream
    · exact .inr (.inl (if_pos heq))
    · refine .inl ⟨if_neg heq, fun hstream' => ?_⟩
      exact (heq (Option.some.inj (hstream.symm.trans hstream'))).elim
  · rw [hmessages]
    -- without a transport or a stream the peer does not know the channel
    refine .inl ⟨rfl, fun hstream _ htransport => ?_⟩
    rcases hnone with hnone | hnone
    · rw [htransport] at hnone
      cases hnone
    · rw [hstream] at hnone
      cases hnone

/-- An incoming message is answered with an ACK message at most, unless it is a reset. -/
theorem utters_incoming (hbound : ∀ stream, ch.mStream = some stream → stream < 65536)
    (message : Message) :
    Utters registered ch (ch.incoming message).channel (ch.incoming message).messages := by
  rcases DataChannel.incoming_cases ch message with
    ⟨-, hclose⟩ | ⟨-, ⟨hclosed, htransport⟩, hmessages⟩
  · -- a reset closes the channel
    rw [hclose]
    exact utters_close hbound
  · intro stream
    rw [hclosed, htransport]
    refine .inl ⟨?_, fun _ hclosed htransport => ⟨hclosed, htransport⟩⟩
    rcases hmessages with hmessages | ⟨t, -, -, -, hmessages⟩
    · rw [hmessages]
      rfl
    · rw [hmessages]
      exact controls_eq_nil rfl (by simp [DataChannel.ackMessage])

/-- `open` on a registered channel that is not closed and was not opened before. -/
theorem utters_openOn (hclosed : ch.mIsClosed = false)
    (hfirst : ch.kind = .outgoing → ch.mSctpTransport = false)
    (hstream : ∀ stream, ch.mStream = some stream → stream < 65536 ∧ registered stream) :
    Utters registered ch ch.openOn.channel ch.openOn.messages := by
  intro stream
  rcases DataChannel.openOn_cases ch with
    ⟨hmessages, hkeeps, hclosed'⟩ | ⟨t, data, hkind, ht, -, hopen⟩
  · rw [hmessages]
    exact .inl ⟨rfl, fun _ hclosed htransport =>
      ⟨hclosed'.trans hclosed, hkeeps.mSctpTransport htransport⟩⟩
  · obtain ⟨hbound, hregistered⟩ := hstream t ht
    have hmessages : ch.openOn.messages = [{ data, type := .control, stream := t }] := by
      rw [hopen]
      rfl
    rw [hmessages, hopen]
    -- the OPEN message is on the stream of the channel only
    by_cases heq : t = stream
    · subst heq
      by_cases hdata : isOpenMessage { data, type := .control, stream := t } = true
      · refine .inr (.inr ⟨?_, hregistered, hfirst hkind, hclosed, rfl⟩)
        simp [controls, control, Nat.mod_eq_of_lt hbound, hdata]
      · refine .inl ⟨controls_eq_nil (by simpa using hdata) (by simp), ?_⟩
        exact fun _ hclosed _ => ⟨hclosed, rfl⟩
    · refine .inl ⟨?_, fun _ hclosed _ => ⟨hclosed, rfl⟩⟩
      simp [controls, control, Nat.mod_eq_of_lt hbound, heq]

/-! ## The invariant -/

/-- What holds of every channel object: its stream has 16 bits, and the parity of this peer if the
channel was created here, and an object that is not live any more is closed. -/
structure Sound (p : ℕ) (o : Object) : Prop where
  stream : ∀ stream, o.channel.mStream = some stream →
    stream < 65536 ∧ (o.channel.kind = .outgoing → stream % 2 = p)
  dead : o.live = false → o.channel.mIsClosed = true

/-- The invariant of a peer connection that assigns streams of parity `p`. -/
structure Announcing (p : ℕ) (pc : PeerConnection) : Prop where
  role : pc.mIceTransport.map parity = some p
  consistent : Consistent pc
  registered : Registered pc
  sound : ∀ (c : ℕ) (o : Object), pc.objects[c]? = some o → Sound p o
  /-- A channel is closed once its stream was reset. -/
  removed : ∀ c ∈ pc.removed, ∃ o, pc.objects[c]? = some o ∧ o.channel.mIsClosed = true
  /-- OPEN messages are sent on streams of the own parity. -/
  opens : ∀ m ∈ pc.sent, isOpenMessage m = true → m.stream < 65536 ∧ m.stream % 2 = p
  word : Word pc

/-- Another registered channel is not touched by a change of one object. -/
theorem Announced.of_update {c : ℕ} {g : Object → Object} {stream : ℕ}
    (h : pc.Announced stream) (htable : pc'.mDataChannels = pc.mDataChannels)
    (hobjects : ∀ c', pc'.objects[c']? = (pc.objects[c']?).map fun o => if c = c' then g o else o)
    (hself : ∀ o, pc.mDataChannels.lookup stream = some c → pc.objects[c]? = some o →
      o.channel.mIsClosed = false → o.channel.mSctpTransport = true →
      (g o).channel.mIsClosed = false ∧ (g o).channel.mSctpTransport = true) :
    pc'.Announced stream := by
  obtain ⟨c', o, hlookup, ho, hclosed, htransport⟩ := h
  rw [← htable] at hlookup
  refine ⟨c', if c = c' then g o else o, hlookup, by rw [hobjects, ho]; rfl, ?_⟩
  split
  · next heq =>
    subst heq
    exact hself o (htable ▸ hlookup) ho hclosed htransport
  · exact ⟨hclosed, htransport⟩

/-- One object changes, in a call on its channel: the invariant is preserved if the channel utters
what it may. -/
theorem Announcing.of_update (h : Announcing p pc) {c : ℕ} {g : Object → Object}
    {out : List Message} (htable : pc'.mDataChannels = pc.mDataChannels)
    (hremoved : pc'.removed = pc.removed) (hice : pc'.mIceTransport = pc.mIceTransport)
    (hobjects : ∀ c', pc'.objects[c']? = (pc.objects[c']?).map fun o => if c = c' then g o else o)
    (hsent : pc'.sent = pc.sent ++ out)
    (hkeeps : ∀ o, DataChannel.Keeps o.channel (g o).channel)
    (hlive : ∀ o, (g o).live = true → o.live = true)
    (hdead : ∀ o, (g o).live = false → o.live = false ∨ (g o).channel.mIsClosed = true)
    (hopens : ∀ m ∈ out, isOpenMessage m = true → m.stream < 65536 ∧ m.stream % 2 = p)
    (hutters : ∀ o, pc.objects[c]? = some o →
      Utters (fun stream => pc.mDataChannels.lookup stream = some c) o.channel (g o).channel out)
    (hnone : pc.objects[c]? = none → out = []) : Announcing p pc' where
  role := hice ▸ h.role
  consistent := by
    refine h.consistent.of_objects htable fun c' o ho _ => ?_
    rw [hobjects, ho]
    refine ⟨_, rfl, ?_⟩
    split
    · exact (hkeeps o).mStream
    · rfl
  registered := by
    refine h.registered.of_objects htable hremoved fun c' o' ho' hlive' => ?_
    rw [hobjects, Option.map_eq_some_iff] at ho'
    obtain ⟨o, ho, rfl⟩ := ho'
    refine ⟨o, ho, ?_, ?_⟩
    · split at hlive'
      · exact hlive o hlive'
      · exact hlive'
    · split
      · exact (hkeeps o).mStream.symm
      · rfl
  sound := by
    intro c' o' ho'
    rw [hobjects, Option.map_eq_some_iff] at ho'
    obtain ⟨o, ho, rfl⟩ := ho'
    have hsound := h.sound c' o ho
    split
    · refine ⟨fun stream hstream => ?_, fun hdead' => ?_⟩
      · rw [(hkeeps o).kind]
        exact hsound.stream stream ((hkeeps o).mStream ▸ hstream)
      · rcases hdead o hdead' with hdead | hclosed
        · exact (hkeeps o).mIsClosed (hsound.dead hdead)
        · exact hclosed
    · exact hsound
  removed := by
    intro c' hc'
    obtain ⟨o, ho, hclosed⟩ := h.removed c' (hremoved ▸ hc')
    rw [hobjects, ho]
    refine ⟨_, rfl, ?_⟩
    split
    · exact (hkeeps o).mIsClosed hclosed
    · exact hclosed
  opens := by
    intro m hm
    rw [hsent] at hm
    rcases List.mem_append.1 hm with hm | hm
    · exact h.opens m hm
    · exact hopens m hm
  -- the word grows by what the channel utters, on each stream
  word := by
    refine h.word.append hsent fun stream => ?_
    cases ho : pc.objects[c]? with
    | none =>
      refine .inl ⟨by rw [hnone ho]; rfl, fun hannounced => ?_⟩
      refine hannounced.of_update htable hobjects fun o _ ho' => ?_
      rw [ho] at ho'
      cases ho'
    | some o =>
      rcases hutters o ho stream with ⟨hnil, hkept⟩ | hreset | ⟨hopening, hlookup, hfirst, hopen⟩
      · refine .inl ⟨hnil, fun hannounced => ?_⟩
        refine hannounced.of_update htable hobjects fun o' hlookup ho' => ?_
        obtain rfl : o = o' := Option.some.inj (ho.symm.trans ho')
        -- an entry for the changed channel is under the stream of the channel
        obtain ⟨o', ho', hstream⟩ := h.consistent stream c hlookup
        obtain rfl : o = o' := Option.some.inj (ho.symm.trans ho')
        exact hkept hstream
      · exact .inr (.inl hreset)
      · refine .inr (.inr ⟨hopening, ?_, ?_⟩)
        · -- the registered channel had no transport, so its stream was not announced
          rintro ⟨c', o', hlookup', ho', -, htransport⟩
          obtain rfl : c = c' := Option.some.inj (hlookup.symm.trans hlookup')
          obtain rfl : o = o' := Option.some.inj (ho.symm.trans ho')
          rw [hfirst] at htransport
          cases htransport
        · exact ⟨c, g o, by rw [htable]; exact hlookup, by rw [hobjects, ho]; simp, hopen⟩

/-! ## Calls and elementary changes -/

/-- The messages a call on a channel adds. -/
theorem sent_call (pc : PeerConnection) (c : ℕ) (function : DataChannel → DataChannel.Outcome) :
    (pc.call c function).1.sent =
      pc.sent ++ ((pc.objects[c]?).map fun o => (function o.channel).messages).getD [] := by
  unfold call sent
  split
  · next hnone => simp [hnone]
  · next o ho => simp [ho, Function.comp_def]

/-- The messages the destruction of a channel adds. -/
theorem sent_destroy (pc : PeerConnection) (c : ℕ) :
    (pc.destroy c).sent =
      pc.sent ++ ((pc.objects[c]?).map fun o => o.channel.close.messages).getD [] := by
  unfold destroy
  rw [sent_call]
  simp only [List.getElem?_modify_eq, Option.map_eq_map, Option.map_map]
  rfl

namespace Announcing

/-- A call on a channel. -/
theorem call (h : Announcing p pc) {c : ℕ} {function : DataChannel → DataChannel.Outcome}
    (hkeeps : ∀ ch, DataChannel.Keeps ch (function ch).channel)
    (hopens : ∀ o, pc.objects[c]? = some o → ∀ m ∈ (function o.channel).messages,
      isOpenMessage m = true → m.stream < 65536 ∧ m.stream % 2 = p)
    (hutters : ∀ o, pc.objects[c]? = some o →
      Utters (fun stream => pc.mDataChannels.lookup stream = some c) o.channel
        (function o.channel).channel (function o.channel).messages) :
    Announcing p (pc.call c function).1 := by
  obtain ⟨htable, -, hremoved, hice, -⟩ := call_frame pc c function
  refine h.of_update (g := fun o => { o with channel := (function o.channel).channel }) htable
    hremoved hice (getElem?_objects_call pc c · function) (sent_call pc c function)
    (fun o => hkeeps o.channel) (fun _ => id) (fun _ => .inl) ?_ ?_ ?_
  · intro m hm
    cases ho : pc.objects[c]? with
    | none => simp [ho] at hm
    | some o => exact hopens o ho m (by simpa [ho] using hm)
  · intro o ho
    simpa [ho] using hutters o ho
  · intro hnone
    simp [hnone]

/-- A call that hands over no OPEN message. -/
theorem call_quiet (h : Announcing p pc) (c : ℕ) {function : DataChannel → DataChannel.Outcome}
    (hkeeps : ∀ ch, DataChannel.Keeps ch (function ch).channel)
    (hquiet : ∀ ch, ∀ m ∈ (function ch).messages, isOpenMessage m = false)
    (hutters : ∀ ch, (∀ stream, ch.mStream = some stream → stream < 65536) →
      Utters (fun stream => pc.mDataChannels.lookup stream = some c) ch (function ch).channel
        (function ch).messages) :
    Announcing p (pc.call c function).1 := by
  refine h.call hkeeps (fun o _ m hm hopen => ?_) fun o ho => ?_
  · rw [hquiet o.channel m hm] at hopen
    cases hopen
  · exact hutters o.channel fun stream hstream => ((h.sound c o ho).stream stream hstream).1

/-- A channel is closed. -/
theorem close (h : Announcing p pc) (c : ℕ) : Announcing p (pc.call c DataChannel.close).1 :=
  h.call_quiet c DataChannel.keeps_close DataChannel.close_quiet
    fun _ hbound => utters_close hbound

/-- A channel receives a message. -/
theorem incoming (h : Announcing p pc) (c : ℕ) (message : Message) :
    Announcing p (pc.call c (·.incoming message)).1 :=
  h.call_quiet c (fun ch => DataChannel.keeps_incoming ch message)
    (DataChannel.incoming_quiet message) fun _ hbound => utters_incoming hbound message

/-- A channel is destroyed. -/
theorem destroy (h : Announcing p pc) (c : ℕ) : Announcing p (pc.destroy c) := by
  -- the object is closed and not live any more
  obtain ⟨htable, -, hremoved, hice, -⟩ := destroy_frame pc c
  refine h.of_update (g := fun o => { channel := o.channel.close.channel, live := false }) htable
    hremoved hice (getElem?_objects_destroy pc c) (sent_destroy pc c)
    (fun o => DataChannel.keeps_close o.channel) (by simp) (fun o _ => .inr (by simp)) ?_ ?_ ?_
  · intro m hm hopen
    cases ho : pc.objects[c]? with
    | none => simp [ho] at hm
    | some o =>
      rw [DataChannel.close_quiet o.channel m (by simpa [ho] using hm)] at hopen
      cases hopen
  · intro o ho
    have hbound : ∀ stream, o.channel.mStream = some stream → stream < 65536 :=
      fun stream hstream => ((h.sound c o ho).stream stream hstream).1
    simpa [ho] using utters_close hbound
  · intro hnone
    simp [hnone]

/-- A new object, in a state whose table still has the old entries. -/
theorem of_append (h : Announcing p pc) {o : Object} (hsound : Sound p o)
    (hobjects : pc'.objects = pc.objects ++ [o]) (hremoved : pc'.removed = pc.removed)
    (hice : pc'.mIceTransport = pc.mIceTransport)
    (hhanded : pc'.handed = pc.handed) (hconsistent : Consistent pc')
    (hregistered : Registered pc')
    (htable : ∀ stream c, pc.mDataChannels.lookup stream = some c →
      pc'.mDataChannels.lookup stream = some c) : Announcing p pc' where
  role := hice ▸ h.role
  consistent := hconsistent
  registered := hregistered
  sound := by
    intro c o' ho'
    rw [hobjects, getElem?_objects_append] at ho'
    rcases ho' with ho' | ⟨-, rfl⟩
    · exact h.sound c o' ho'
    · exact hsound
  removed := by
    intro c hc
    obtain ⟨o', ho', hclosed⟩ := h.removed c (hremoved ▸ hc)
    exact ⟨o', by rw [hobjects]; exact getElem?_objects_append.2 (.inl ho'), hclosed⟩
  opens := by
    unfold sent
    rw [hhanded]
    exact h.opens
  -- nothing is sent, and what was open on a stream still is
  word := by
    have hsent : pc'.sent = pc.sent ++ [] := by simp [sent, hhanded]
    refine h.word.append hsent fun stream => .inl ⟨rfl, ?_⟩
    rintro ⟨c, o', hlookup, ho', hopen⟩
    exact ⟨c, o', htable stream c hlookup,
      by rw [hobjects]; exact getElem?_objects_append.2 (.inl ho'), hopen⟩

/-- Every elementary change preserves the invariant. -/
theorem change (h : Announcing p pc) (hchange : Change pc pc') : Announcing p pc' := by
  have hconsistent := h.consistent.change hchange
  have hregistered := h.registered.change hchange
  cases hchange with
  | close c => exact h.close c
  | incoming c message => exact h.incoming c message
  | destroy c => exact h.destroy c
  | @assign c stream channel role hlock hnone hrole hparity hmax hfree =>
    obtain ⟨o, ho, hlive, rfl⟩ := lock_eq_some.1 hlock
    have hp : parity role = p := by simpa [hrole] using h.role
    -- only the object that gets the stream changes
    have hobjects (c' : ℕ) : (pc.setChannel c
        { o.channel with mStream := some stream }).objects[c']? =
          (pc.objects[c']?).map fun o' =>
            if c = c' then { o' with channel := { o.channel with mStream := some stream } }
            else o' := by
      simp only [setChannel, List.getElem?_modify]
      rfl
    refine ⟨h.role, hconsistent, hregistered, ?_, ?_, h.opens, ?_⟩
    · intro c' o' ho'
      rw [hobjects, Option.map_eq_some_iff] at ho'
      obtain ⟨o'', ho'', rfl⟩ := ho'
      split
      · next heq =>
        subst heq
        obtain rfl : o = o'' := Option.some.inj (ho.symm.trans ho'')
        refine ⟨?_, (h.sound c o ho).dead⟩
        rintro _ ⟨⟩
        exact ⟨Nat.lt_of_le_of_lt hmax pc.maxDataChannelStream_lt, fun _ => hparity.trans hp⟩
      · exact h.sound c' o'' ho''
    · intro c' hc'
      obtain ⟨o', ho', hclosed⟩ := h.removed c' hc'
      rw [hobjects, ho']
      refine ⟨_, rfl, ?_⟩
      split
      · next heq =>
        subst heq
        obtain rfl : o = o' := Option.some.inj (ho.symm.trans ho')
        exact hclosed
      · exact hclosed
    · refine h.word.append (List.append_nil _).symm fun s => .inl ⟨rfl, ?_⟩
      rintro ⟨c', o', hlookup, ho', hopen⟩
      obtain ⟨o'', ho'', hstream⟩ := h.consistent s c' hlookup
      -- the channel had no stream, so it is not the one registered there
      have hne : c ≠ c' := by
        rintro rfl
        obtain rfl : o = o'' := Option.some.inj (ho.symm.trans ho'')
        rw [hnone] at hstream
        cases hstream
      have hs : s ≠ stream := by
        rintro rfl
        exact hfree (AList.lookup_isSome.1 (by rw [hlookup]; rfl))
      refine ⟨c', o', (AList.lookup_insert_ne hs).trans hlookup, ?_, hopen⟩
      rw [hobjects, ho', Option.map_some, if_neg hne]
  | settle =>
    exact ⟨h.role, hconsistent, hregistered, h.sound, h.removed, h.opens, h.word⟩
  | @accept stream role hrole hparity hfree hbound =>
    refine h.of_append ⟨?_, by simp⟩ rfl rfl rfl rfl hconsistent hregistered ?_
    · rintro _ ⟨⟩
      exact ⟨hbound, by simp [DataChannel.makeIncoming]⟩
    · -- the stream was free, so the other entries stay
      intro s c hlookup
      have hne : s ≠ stream := by
        rintro rfl
        exact hfree (AList.lookup_isSome.1 (by rw [hlookup]; rfl))
      exact (AList.lookup_insert_ne hne).trans hlookup
  | rehash hperm =>
    refine ⟨h.role, hconsistent, hregistered, h.sound, h.removed, h.opens, ?_⟩
    refine h.word.append (List.append_nil _).symm fun s => .inl ⟨rfl, ?_⟩
    rintro ⟨c, o, hlookup, ho⟩
    exact ⟨c, o, (AList.perm_lookup hperm).trans hlookup, ho⟩
  | handReset stream =>
    refine ⟨h.role, hconsistent, hregistered, h.sound, h.removed, ?_, ?_⟩
    · intro m hm
      simp only [sent, List.map_append, List.map_cons, List.map_nil, List.mem_append,
        List.mem_singleton] at hm
      rcases hm with hm | rfl
      · exact h.opens m hm
      · intro hopen
        cases hopen
    · have hsent :
          sent { pc with handed := pc.handed ++ [(none, DataChannel.resetMessage stream)] } =
            pc.sent ++ [DataChannel.resetMessage stream] := by
        simp [sent]
      refine h.word.append hsent fun s => ?_
      rw [controls_resetMessage]
      by_cases heq : stream % 65536 = s
      · exact .inr (.inl (if_pos heq))
      · exact .inl ⟨if_neg heq, id⟩

theorem changes (h : Announcing p pc) (hchanges : Changes pc pc') : Announcing p pc' :=
  hchanges.invariant (fun _ _ h hchange => h.change hchange) h

/-! ## Resets -/

/-- The entry of a closed channel is removed. -/
theorem removeDataChannel (h : Announcing p pc) {stream c : ℕ} {o : Object}
    (hlookup : pc.mDataChannels.lookup stream = some c) (ho : pc.objects[c]? = some o)
    (hclosed : o.channel.mIsClosed = true) : Announcing p (pc.removeDataChannel stream) where
  role := h.role
  consistent := h.consistent.removeDataChannel stream
  registered := h.registered.removeDataChannel stream
  sound := h.sound
  removed := by
    intro c' hc'
    simp only [PeerConnection.removeDataChannel, hlookup, Option.toList_some, List.mem_append,
      List.mem_singleton] at hc'
    rcases hc' with hc' | rfl
    · exact h.removed c' hc'
    · exact ⟨o, ho, hclosed⟩
  opens := h.opens
  word := by
    refine h.word.append (List.append_nil _).symm fun s => .inl ⟨rfl, ?_⟩
    rintro ⟨c', o', hlookup', ho', hopen, htransport⟩
    -- the removed entry is that of a closed channel
    have hs : s ≠ stream := by
      rintro rfl
      obtain rfl : c = c' := Option.some.inj (hlookup.symm.trans hlookup')
      obtain rfl : o = o' := Option.some.inj (ho.symm.trans ho')
      rw [hclosed] at hopen
      cases hopen
    exact ⟨c', o', (AList.lookup_erase_ne hs).trans hlookup', ho', hopen, htransport⟩

end Announcing

/-- The entry of a channel may as well be removed after a call on the channel. -/
theorem call_removeDataChannel (pc : PeerConnection) (stream c : ℕ)
    (function : DataChannel → DataChannel.Outcome) :
    ((pc.removeDataChannel stream).call c function).1 =
      (pc.call c function).1.removeDataChannel stream := by
  unfold call
  cases ho : pc.objects[c]? with
  | none => simp [removeDataChannel, ho]
  | some o => simp [removeDataChannel, ho, setChannel]

namespace Announcing

/-- `forwardMessage`. The channel whose stream is reset is closed before its entry can be used
again. -/
theorem forwardMessage (h : Announcing p pc) (message : Message) :
    Announcing p (pc.forwardMessage (some message)).1 := by
  by_cases hreset : message.type = .reset
  · rcases forwardMessage_reset pc hreset with hsame | ⟨c, hlookup, hforward⟩
    · rw [hsame]
      exact h
    · rw [hforward]
      obtain ⟨o, ho, -⟩ := h.consistent _ c hlookup
      split
      · -- the channel is closed by the reset, so its entry may go
        rw [call_removeDataChannel]
        refine (h.incoming c message).removeDataChannel
          ((call_frame pc c _).1.symm ▸ hlookup) (o := { o with
            channel := (o.channel.incoming message).channel }) ?_ ?_
        · rw [getElem?_objects_call, ho]
          simp
        · rw [DataChannel.incoming_reset o.channel hreset]
          simp
      · next hlock =>
        -- the weak pointer has expired: the destructor has closed the channel
        have hdead : o.live = false := by
          by_contra hlive
          exact hlock (Option.isSome_iff_exists.2 ⟨o.channel,
            lock_eq_some.2 ⟨o, ho, by simpa using hlive, rfl⟩⟩)
        exact h.removeDataChannel hlookup ho ((h.sound c o ho).dead hdead)
  · refine h.changes (forwardMessage_changes pc (some message) ?_)
    rintro m ⟨⟩
    exact hreset

/-! ## Opening -/

/-- A registered channel that is not closed is opened for the first time. -/
theorem openOn (h : Announcing p pc) {c : ℕ} {o : Object} (ho : pc.objects[c]? = some o)
    (hclosed : o.channel.mIsClosed = false)
    (hfirst : o.channel.kind = .outgoing → o.channel.mSctpTransport = false)
    (hlookup : ∀ stream, o.channel.mStream = some stream →
      pc.mDataChannels.lookup stream = some c) :
    Announcing p (pc.call c DataChannel.openOn).1 := by
  have hsound := h.sound c o ho
  refine h.call DataChannel.keeps_openOn (fun o' ho' m hm _ => ?_) fun o' ho' => ?_
  · obtain rfl : o = o' := Option.some.inj (ho.symm.trans ho')
    rcases DataChannel.openOn_cases o.channel with
      ⟨hmessages, -⟩ | ⟨stream, data, hkind, hstream, -, hopen⟩
    · rw [hmessages] at hm
      cases hm
    · rw [hopen] at hm
      obtain rfl : m = { data, type := .control, stream } := by
        simpa [DataChannel.Outcome.messages, DataChannel.Effect.message] using hm
      obtain ⟨hbound, hparity⟩ := hsound.stream stream hstream
      exact ⟨hbound, hparity hkind⟩
  · obtain rfl : o = o' := Option.some.inj (ho.symm.trans ho')
    exact utters_openOn hclosed hfirst fun stream hstream =>
      ⟨(hsound.stream stream hstream).1, hlookup stream hstream⟩

/-- The body of the sweep, on a registered channel that is not closed and was not opened before
unless it is open on both sides. -/
theorem openUnlessOpen (h : Announcing p pc) {c : ℕ} {o : Object} (ho : pc.objects[c]? = some o)
    (hclosed : o.channel.mIsClosed = false)
    (hfirst : o.channel.kind = .outgoing → o.channel.mSctpTransport = true →
      o.channel.isOpen = true)
    (hlookup : ∀ stream, o.channel.mStream = some stream →
      pc.mDataChannels.lookup stream = some c) :
    Announcing p (pc.call c PeerConnection.openUnlessOpen).1 := by
  by_cases hopen : o.channel.isOpen = true
  · -- an open channel is left alone
    have hsame : pc.call c PeerConnection.openUnlessOpen =
        pc.call c fun ch => { channel := ch } := by
      simp [PeerConnection.call, ho, PeerConnection.openUnlessOpen, hopen]
    rw [hsame]
    refine h.call_quiet c DataChannel.Keeps.refl (fun _ m hm => by cases hm) fun ch _ stream => ?_
    exact .inl ⟨rfl, fun _ hclosed htransport => ⟨hclosed, htransport⟩⟩
  · have hsame : pc.call c PeerConnection.openUnlessOpen = pc.call c DataChannel.openOn := by
      simp [PeerConnection.call, ho, PeerConnection.openUnlessOpen, hopen]
    rw [hsame]
    refine h.openOn ho hclosed (fun hkind => ?_) hlookup
    by_contra htransport
    exact hopen (hfirst hkind (by simpa using htransport))

end Announcing

/-- No registered channel was opened and still waits for the ACK of the peer. -/
def Unopened (pc : PeerConnection) : Prop :=
  ∀ c ∈ pc.lockedChannels, ∀ channel ∈ pc.lock c,
    channel.kind = .outgoing → channel.mSctpTransport = true → channel.isOpen = true

instance (pc : PeerConnection) : Decidable (Unopened pc) :=
  inferInstanceAs (Decidable (∀ c ∈ pc.lockedChannels, ∀ channel ∈ pc.lock c,
    channel.kind = .outgoing → channel.mSctpTransport = true → channel.isOpen = true))

/-- A channel the sweep may open. -/
def Sweepable (pc : PeerConnection) (c : ℕ) : Prop :=
  ∃ o, pc.objects[c]? = some o ∧ o.channel.mIsClosed = false ∧
    (o.channel.kind = .outgoing → o.channel.mSctpTransport = true → o.channel.isOpen = true) ∧
    ∀ stream, o.channel.mStream = some stream → pc.mDataChannels.lookup stream = some c

namespace Announcing

/-- The sweep collects channels it may open. -/
theorem sweepable (h : Announcing p pc) (hunopened : Unopened pc) {c : ℕ}
    (hc : c ∈ pc.lockedChannels) : Sweepable pc c := by
  obtain ⟨hentry, hlock⟩ := List.mem_filter.1 hc
  obtain ⟨channel, hlock, hclosed⟩ := (Option.any_eq_true _ _).1 hlock
  obtain ⟨o, ho, -, rfl⟩ := lock_eq_some.1 hlock
  refine ⟨o, ho, by simpa [DataChannel.isClosed] using hclosed,
    hunopened c hc o.channel hlock, ?_⟩
  -- a collected channel is registered under its own stream
  obtain ⟨⟨key, c'⟩, hmem, rfl⟩ := List.mem_map.1 hentry
  have hlookup : pc.mDataChannels.lookup key = some c' := AList.mem_lookup_iff.2 hmem
  obtain ⟨o', ho', hkey⟩ := h.consistent key c' hlookup
  obtain rfl : o = o' := Option.some.inj (ho.symm.trans ho')
  intro stream hstream
  obtain rfl : key = stream := Option.some.inj (hkey.symm.trans hstream)
  exact hlookup

/-- The loop of the sweep. -/
theorem sweep {cs : List ℕ} (h : Announcing p pc) (hnodup : cs.Nodup)
    (hcs : ∀ c ∈ cs, Sweepable pc c) :
    Announcing p (cs.foldl (fun pc c => (pc.call c PeerConnection.openUnlessOpen).1) pc) := by
  induction cs generalizing pc with
  | nil => exact h
  | cons c rest ih =>
    obtain ⟨hc, hrest⟩ := List.nodup_cons.1 hnodup
    obtain ⟨o, ho, hclosed, hfirst, hlookup⟩ := hcs c (.head _)
    refine ih (h.openUnlessOpen ho hclosed hfirst hlookup) hrest fun c' hc' => ?_
    -- the other channels are as they were
    have hne : c ≠ c' := fun heq => hc (heq ▸ hc')
    obtain ⟨o', ho', hrest'⟩ := hcs c' (.tail _ hc')
    refine ⟨o', ?_, ?_⟩
    · rw [getElem?_objects_call, ho', Option.map_some, if_neg hne]
    · rw [(call_frame pc c _).1]
      exact hrest'

/-- `openDataChannels`. -/
theorem openDataChannels (h : Announcing p pc) (hunopened : Unopened pc) :
    Announcing p pc.openDataChannels := by
  unfold PeerConnection.openDataChannels
  split
  · exact h.sweep h.consistent.nodup_lockedChannels fun c hc => h.sweepable hunopened hc
  · exact h

end Announcing

/-! ## Creation -/

/-- `assignDataChannels` gives streams to channels and leaves the rest of them as it is. -/
theorem assignLoop_object {maxStream first : ℕ} {cs : List ℕ} {thrown : Option Exception}
    {c : ℕ} {o : Object} (ho : pc.objects[c]? = some o)
    (h : assignLoop maxStream first cs pc = some (pc', thrown)) :
    pc'.removed = pc.removed ∧
      ∃ stream, pc'.objects[c]? =
        some { o with channel := { o.channel with mStream := stream } } := by
  induction cs generalizing pc o with
  | nil =>
    cases h
    exact ⟨rfl, o.channel.mStream, ho⟩
  | cons c' rest ih =>
    unfold assignLoop at h
    split at h
    · exact ih ho h
    · next channel hlock =>
      split at h
      · cases h
      · cases h
        exact ⟨rfl, o.channel.mStream, ho⟩
      · next stream _ =>
        unfold DataChannel.assignStream at h
        obtain ⟨o', ho', -, rfl⟩ := lock_eq_some.1 hlock
        cases hstream : o'.channel.mStream with
        | some _ =>
          simp only [hstream] at h
          cases h
          exact ⟨rfl, o.channel.mStream, ho⟩
        | none =>
          simp only [hstream] at h
          -- the loop reaches the channel itself, or another one
          by_cases heq : c' = c
          · subst heq
            obtain rfl : o = o' := Option.some.inj (ho.symm.trans ho')
            have hrest :=
              ih (o := { o with channel := { o.channel with mStream := some stream } })
                (by simp [setChannel, ho]) h
            exact hrest
          · have hrest := ih (o := o) (by simp [setChannel, heq, ho]) h
            exact hrest

namespace Announcing

/-- A channel is created without an explicit id. -/
theorem registerDataChannel (h : Announcing p pc) (label : List UInt8) {init : DataChannelInit}
    (hid : init.id = none) : Announcing p (pc.registerDataChannel label init).1 := by
  have hconsistent := h.consistent.registerDataChannel label init
  have hregistered : Registered (pc.registerDataChannel label init).1 :=
    h.registered.registerDataChannel label (by simp [hid])
  rcases registerDataChannel_cases pc label init with
    ⟨e, hreg⟩ | ⟨-, hreg⟩ | ⟨stream, hsome, -⟩
  · rw [hreg]
    exact h
  · rw [hreg] at hconsistent hregistered ⊢
    refine h.of_append ⟨?_, by simp⟩ rfl rfl rfl rfl hconsistent hregistered fun _ _ => id
    intro stream hstream
    rw [show (created label init).mStream = none from hid] at hstream
    cases hstream
  · rw [hid] at hsome
    cases hsome

/-- A channel that was just created. -/
theorem created (h : Announcing p pc) {label : List UInt8} {init : DataChannelInit}
    (hid : init.id = none) {c : ℕ} (hreg : pc.registerDataChannel label init = (pc', .ok c)) :
    ∃ o, pc'.objects[c]? = some o ∧ o.live = true ∧ o.channel.mIsClosed = false ∧
      o.channel.mSctpTransport = false ∧ c ∉ pc'.removed := by
  rcases registerDataChannel_cases pc label init with
    ⟨e, hreg'⟩ | ⟨-, hreg'⟩ | ⟨stream, hsome, -⟩
  · rw [hreg] at hreg'
    cases hreg'
  · rw [hreg] at hreg'
    cases hreg'
    refine ⟨_, getElem?_objects_append.2 (.inr ⟨rfl, rfl⟩), rfl, rfl, rfl, fun hremoved => ?_⟩
    obtain ⟨o, ho, -⟩ := h.removed _ hremoved
    simp at ho
  · rw [hid] at hsome
    cases hsome

/-- A channel that is not opened yet is opened after the assignment of the streams. -/
theorem assignDataChannels_openOn (h : Announcing p pc) {c : ℕ} {o : Object}
    (ho : pc.objects[c]? = some o) (hlive : o.live = true) (hclosed : o.channel.mIsClosed = false)
    (htransport : o.channel.mSctpTransport = false) (hremoved : c ∉ pc.removed)
    {thrown : Option Exception} (hassign : pc.assignDataChannels = some (pc', thrown)) :
    Announcing p (pc'.call c DataChannel.openOn).1 := by
  have hassigned := h.changes (assignDataChannels_changes hassign)
  obtain ⟨hremoved', stream, ho'⟩ : pc'.removed = pc.removed ∧
      ∃ stream, pc'.objects[c]? =
        some { o with channel := { o.channel with mStream := stream } } := by
    unfold assignDataChannels at hassign
    split at hassign
    · cases hassign
      exact ⟨rfl, o.channel.mStream, ho⟩
    · exact assignLoop_object ho hassign
  refine hassigned.openOn ho' hclosed (fun _ => htransport) fun t ht => ?_
  exact hassigned.registered c _ t ho' hlive ht (hremoved' ▸ hremoved)

/-- `emplaceDataChannel` without an explicit id. -/
theorem emplaceDataChannel (h : Announcing p pc) {label : List UInt8} {init : DataChannelInit}
    (hid : init.id = none) {made : Except Exception ℕ}
    (hcall : pc.emplaceDataChannel label init = some (pc', made)) : Announcing p pc' := by
  have hcreated := h.registerDataChannel label hid
  rcases emplaceDataChannel_cases hcall with rfl | ⟨pc₁, c, pc₂, thrown, hreg, hassign, hemplace⟩
  · exact hcreated
  · rw [hreg] at hcreated
    have hassigned := hcreated.changes (assignDataChannels_changes hassign)
    -- the channel is new: it has no transport yet and was never removed
    obtain ⟨o, ho, hlive, hclosed, htransport, hremoved⟩ := h.created hid hreg
    have hopened := hcreated.assignDataChannels_openOn ho hlive hclosed htransport hremoved hassign
    rcases hemplace with rfl | rfl | rfl
    · exact hassigned.destroy c
    · exact hopened
    · exact hopened.destroy c

/-! ## The other handlers -/

/-- A new peer connection. -/
theorem start (role : Description.Role) (status : SctpStatus) :
    Announcing (parity role) { mIceTransport := some role, mSctpTransport := some status } where
  role := rfl
  consistent := by
    intro stream c hlookup
    simp at hlookup
  registered := by
    intro c o stream hc
    simp at hc
  sound := by simp
  removed := by simp
  opens := by simp [sent]
  word := fun stream => ⟨List.isChain_nil, by simp [sent, controls]⟩

/-- The SCTP transport changes. -/
theorem of_sctp (h : Announcing p pc) (status : SctpStatus) :
    Announcing p { pc with mSctpTransport := some status } :=
  ⟨h.role, h.consistent, h.registered, h.sound, h.removed, h.opens, h.word⟩

/-- A message is sent that neither opens nor resets a stream. -/
theorem of_handed (h : Announcing p pc) {c : Option ℕ} {m : Message}
    (hopen : isOpenMessage m = false) (hreset : m.type ≠ .reset) :
    Announcing p { pc with handed := pc.handed ++ [(c, m)] } := by
  have hsent : sent { pc with handed := pc.handed ++ [(c, m)] } = pc.sent ++ [m] := by simp [sent]
  refine ⟨h.role, h.consistent, h.registered, h.sound, h.removed, ?_, ?_⟩
  · intro m' hm' hopen'
    rw [hsent] at hm'
    rcases List.mem_append.1 hm' with hm' | hm'
    · exact h.opens m' hm' hopen'
    · rw [List.mem_singleton.1 hm', hopen] at hopen'
      cases hopen'
  · exact h.word.append hsent fun stream => .inl ⟨controls_eq_nil hopen hreset, id⟩

end Announcing

end Rtc.PeerConnection
