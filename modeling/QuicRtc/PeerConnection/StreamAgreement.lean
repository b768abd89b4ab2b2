import QuicRtc.Lib.Transition
import QuicRtc.PeerConnection.OpenReset

/-!
# Agreement on stream ids

Two peer connections with opposite DTLS roles, each with its own channels, exchange OPEN, ACK, user
and reset messages over two FIFO links. Every handler runs at once: creation, closing and
destruction of a channel, sending, the callback for `State::Connected`, the sweep
`openDataChannels`, and `forwardMessage`. Channels are not negotiated and have no explicit id.

* `Peers.step`: one handler of one peer.
* `Linked`: the messages a peer has handed over are those the other one has received, followed by
  those in flight, and the table of the receiver follows what it has received.
* `Agreed`: the invariant, from `Announcing` for each peer and `Linked` for each link.
* `streams_agree`: the property of whole runs.

The two ends remove their entries at different times, but each only looks at the order of the
messages from the other: a second OPEN message on a stream comes after a reset on it.
-/

namespace Rtc.PeerConnection

/-- A user message is sent on a channel: `DataChannel::outgoing`. An exception goes to the user. -/
def sendMessage (pc : PeerConnection) (c maxMessageSize : ℕ) (message : Message) : PeerConnection :=
  match pc.lock c with
  | none => pc
  | some channel =>
    match channel.outgoingLocked maxMessageSize message with
    | .error _ => pc
    | .ok m => { pc with handed := pc.handed ++ [(some c, m)] }

/-- A peer connection, and whether its task `openDataChannels` is enqueued. -/
structure Endpoint where
  pc : PeerConnection
  sweep : Bool := false

/-- The handlers that do not come from the link. -/
inductive Action where
  | create (label protocol : List UInt8) (reliability : Reliability)
  | close (c : ℕ)
  | destroy (c : ℕ)
  | send (c maxMessageSize : ℕ) (message : Message)
  | connected (streams : UInt16)
  | openDataChannels
  | rehash (table : AList (fun _ : ℕ => ℕ))
  deriving DecidableEq

namespace Endpoint

/-- An endpoint whose SCTP transport is connecting. -/
def start (role : Description.Role) : Endpoint where
  pc := { mIceTransport := some role, mSctpTransport := some { state := .connecting } }

/-- The callback for `State::Connected`: assign the channels, and enqueue the sweep unless that
threw. -/
def connect (e : Endpoint) (streams : UInt16) : Option Endpoint :=
  -- `changeState(State::Connected)`, then the callback of the peer connection
  let pc :=
    { e.pc with
      mSctpTransport := some { state := .connected, mNegotiatedStreamsCount := some streams } }
  pc.assignDataChannels.map fun (pc, thrown) => { pc, sweep := thrown.isNone }

/-- One handler, where it is enabled and returns. -/
def act (e : Endpoint) : Action → Option Endpoint
  | .create label protocol reliability =>
    -- `createDataChannel` without `negotiated` and without an id
    (e.pc.emplaceDataChannel label { reliability, protocol }).map fun (pc, _) => { e with pc }
  | .close c =>
    if (e.pc.lock c).isSome then some { e with pc := (e.pc.call c DataChannel.close).1 } else none
  | .destroy c =>
    if (e.pc.lock c).isSome then some { e with pc := e.pc.destroy c } else none
  | .send c maxMessageSize message =>
    if message.type = .binary ∨ message.type = .string then
      some { e with pc := e.pc.sendMessage c maxMessageSize message }
    else none
  | .connected streams =>
    -- the association comes up once
    if e.pc.mSctpTransport.map (·.state) = some .connecting then e.connect streams else none
  | .openDataChannels =>
    if e.sweep then some { pc := e.pc.openDataChannels, sweep := false } else none
  | .rehash table => (e.pc.rehash table).map fun pc => { e with pc }

/-- The handler of an incoming message. -/
def receive (e : Endpoint) (message : Message) : Endpoint :=
  { e with pc := (e.pc.forwardMessage (some message)).1 }

end Endpoint

/-- What the peer connection has handed to the transport since an earlier state. -/
def handedSince (before after : PeerConnection) : List Message :=
  (after.handed.drop before.handed.length).map (·.2)

/-- The DTLS client, the DTLS server, and the messages in flight between them. -/
structure Peers where
  client : Endpoint := .start .active
  server : Endpoint := .start .passive
  toClient : List Message := []
  toServer : List Message := []

namespace Peers

/-- What can happen. -/
inductive Event where
  | client (action : Action)
  | server (action : Action)
  | deliverToClient
  | deliverToServer
  deriving DecidableEq

/-- A handler of the client has run. -/
def clientRan (s : Peers) (client : Endpoint) : Peers :=
  { s with client, toServer := s.toServer ++ handedSince s.client.pc client.pc }

/-- A handler of the server has run. -/
def serverRan (s : Peers) (server : Endpoint) : Peers :=
  { s with server, toClient := s.toClient ++ handedSince s.server.pc server.pc }

/-- One handler of one peer, where it is enabled. -/
def step (s : Peers) : Event → Option Peers
  | .client action => (s.client.act action).map s.clientRan
  | .server action => (s.server.act action).map s.serverRan
  | .deliverToClient =>
    match s.toClient with
    | [] => none
    | m :: rest => some (clientRan { s with toClient := rest } (s.client.receive m))
  | .deliverToServer =>
    match s.toServer with
    | [] => none
    | m :: rest => some (serverRan { s with toServer := rest } (s.server.receive m))

end Peers

variable {pc pc' pc'' : PeerConnection} {p : ℕ}

/-! ## What a handler leaves as it is -/

/-- The log only grows, and the transports stay. -/
structure Extends (pc pc' : PeerConnection) : Prop where
  handed : pc.handed <+: pc'.handed
  ice : pc'.mIceTransport = pc.mIceTransport
  sctp : pc'.mSctpTransport = pc.mSctpTransport

namespace Extends

theorem refl (pc : PeerConnection) : Extends pc pc := ⟨List.prefix_rfl, rfl, rfl⟩

theorem trans (h : Extends pc pc') (h' : Extends pc' pc'') : Extends pc pc'' :=
  ⟨h.handed.trans h'.handed, h'.ice.trans h.ice, h'.sctp.trans h.sctp⟩

theorem call (pc : PeerConnection) (c : ℕ) (function : DataChannel → DataChannel.Outcome) :
    Extends pc (pc.call c function).1 := by
  obtain ⟨-, -, -, hice, hsctp, -⟩ := call_frame pc c function
  refine ⟨?_, hice, hsctp⟩
  rcases handed_call pc c function with hsame | ⟨o, -, hhanded⟩
  · exact hsame.symm ▸ List.prefix_rfl
  · rw [hhanded]
    exact List.prefix_append _ _

theorem destroy (pc : PeerConnection) (c : ℕ) : Extends pc (pc.destroy c) := by
  obtain ⟨-, -, -, hice, hsctp, -⟩ := destroy_frame pc c
  refine ⟨?_, hice, hsctp⟩
  rcases handed_destroy pc c with hsame | ⟨o, -, hhanded⟩
  · exact hsame.symm ▸ List.prefix_rfl
  · rw [hhanded]
    exact List.prefix_append _ _

theorem change (hchange : Change pc pc') : Extends pc pc' := by
  cases hchange with
  | close c => exact .call pc c _
  | incoming c message => exact .call pc c _
  | destroy c => exact .destroy pc c
  | assign => exact ⟨List.prefix_rfl, rfl, rfl⟩
  | settle => exact ⟨List.prefix_rfl, rfl, rfl⟩
  | accept => exact ⟨List.prefix_rfl, rfl, rfl⟩
  | rehash => exact ⟨List.prefix_rfl, rfl, rfl⟩
  | handReset stream => exact ⟨List.prefix_append _ _, rfl, rfl⟩

theorem changes (hchanges : Changes pc pc') : Extends pc pc' := by
  refine hchanges.invariant (P := Extends pc) ?_ (.refl pc)
  exact fun _ _ h hchange => h.trans (.change hchange)

theorem forwardMessage (pc : PeerConnection) (message : Message) :
    Extends pc (pc.forwardMessage (some message)).1 := by
  by_cases hreset : message.type = .reset
  · rcases forwardMessage_reset pc hreset with hsame | ⟨c, -, hforward⟩
    · rw [hsame]
      exact .refl pc
    · rw [hforward]
      -- the removal of the entry hands nothing over
      have hremove : Extends pc (pc.removeDataChannel (message.stream % 65536)) :=
        ⟨List.prefix_rfl, rfl, rfl⟩
      split
      · exact hremove.trans (.call _ c _)
      · exact hremove
  · refine .changes (forwardMessage_changes pc (some message) ?_)
    rintro m ⟨⟩
    exact hreset

end Extends

/-- The log only grows, the transports stay, and so do the entries on the streams of the peer. -/
structure Local (p : ℕ) (pc pc' : PeerConnection) : Prop extends Extends pc pc' where
  table : ∀ stream, stream % 2 ≠ p → (stream ∈ pc'.mDataChannels ↔ stream ∈ pc.mDataChannels)

namespace Local

theorem of_table (h : Extends pc pc') (htable : pc'.mDataChannels = pc.mDataChannels) :
    Local p pc pc' :=
  ⟨h, fun stream _ => by rw [htable]⟩

theorem refl (pc : PeerConnection) : Local p pc pc := .of_table (.refl pc) rfl

theorem trans (h : Local p pc pc') (h' : Local p pc' pc'') : Local p pc pc'' :=
  ⟨h.toExtends.trans h'.toExtends,
    fun stream hstream => (h'.table stream hstream).trans (h.table stream hstream)⟩

theorem call (pc : PeerConnection) (c : ℕ) (function : DataChannel → DataChannel.Outcome) :
    Local p pc (pc.call c function).1 :=
  .of_table (.call pc c function) (call_frame pc c function).1

theorem destroy (pc : PeerConnection) (c : ℕ) : Local p pc (pc.destroy c) :=
  .of_table (.destroy pc c) (destroy_frame pc c).1

/-- The streams that are assigned have the own parity. -/
theorem assignLoop {maxStream first : ℕ} (hfirst : first % 2 = p) {cs : List ℕ}
    {thrown : Option Exception}
    (h : PeerConnection.assignLoop maxStream first cs pc = some (pc', thrown)) :
    Local p pc pc' := by
  induction cs generalizing pc with
  | nil =>
    cases h
    exact .of_table ⟨List.prefix_rfl, rfl, rfl⟩ rfl
  | cons c rest ih =>
    unfold PeerConnection.assignLoop at h
    split at h
    · exact ih h
    · next channel hlock =>
      split at h
      · cases h
      · cases h
        exact .refl _
      · next stream hunused =>
        obtain ⟨hfree, -, hparity⟩ := unusedStream_eq_found hunused
        unfold DataChannel.assignStream at h
        cases hstream : channel.mStream with
        | some _ =>
          simp only [hstream] at h
          cases h
          exact .refl _
        | none =>
          simp only [hstream] at h
          -- the stream that was found has the parity of the first one
          have hassign : Local p pc
              { pc.setChannel c { channel with mStream := some stream } with
                mDataChannels := emplace pc.mDataChannels stream c
                assigned := pc.assigned ++ [c] } := by
            refine ⟨⟨List.prefix_rfl, rfl, rfl⟩, fun s hs => ?_⟩
            have hne : s ≠ stream := by
              rintro rfl
              exact hs (hparity.trans hfirst)
            simp [emplace_of_notMem hfree, hne]
          exact hassign.trans (ih h)

theorem assignDataChannels (h : Announcing p pc) {thrown : Option Exception}
    (hassign : pc.assignDataChannels = some (pc', thrown)) : Local p pc pc' := by
  unfold PeerConnection.assignDataChannels at hassign
  split at hassign
  · cases hassign
    exact .refl _
  · next role hrole =>
    have hparity : parity role = p := by simpa [hrole] using h.role
    refine .assignLoop ?_ hassign
    rw [← hparity]
    unfold parity
    split <;> rfl

theorem registerDataChannel (pc : PeerConnection) (label : List UInt8) {init : DataChannelInit}
    (hid : init.id = none) : Local p pc (pc.registerDataChannel label init).1 := by
  rcases registerDataChannel_cases pc label init with
    ⟨e, hreg⟩ | ⟨-, hreg⟩ | ⟨stream, hsome, -⟩
  · rw [hreg]
    exact .refl pc
  · rw [hreg]
    exact .of_table ⟨List.prefix_rfl, rfl, rfl⟩ rfl
  · rw [hid] at hsome
    cases hsome

theorem emplaceDataChannel (h : Announcing p pc) {label : List UInt8} {init : DataChannelInit}
    (hid : init.id = none) {made : Except Exception ℕ}
    (hcall : pc.emplaceDataChannel label init = some (pc', made)) : Local p pc pc' := by
  have hcreated : Local p pc (pc.registerDataChannel label init).1 :=
    .registerDataChannel pc label hid
  rcases emplaceDataChannel_cases hcall with rfl | ⟨pc₁, c, pc₂, thrown, hreg, hassign, hemplace⟩
  · exact hcreated
  · have hannouncing := h.registerDataChannel label hid
    rw [hreg] at hcreated hannouncing
    have hassigned := hcreated.trans (.assignDataChannels hannouncing hassign)
    have hopened := hassigned.trans (.call _ c DataChannel.openOn)
    rcases hemplace with rfl | rfl | rfl
    · exact hassigned.trans (.destroy _ c)
    · exact hopened
    · exact hopened.trans (.destroy _ c)

theorem openDataChannels (pc : PeerConnection) : Local p pc pc.openDataChannels := by
  unfold PeerConnection.openDataChannels iterateDataChannels
  split
  · next hsome =>
    clear hsome
    generalize pc.lockedChannels = cs
    induction cs generalizing pc with
    | nil => exact .refl pc
    | cons c rest ih => exact (call pc c openUnlessOpen).trans (ih _)
  · exact .refl pc

theorem rehash {table : AList (fun _ : ℕ => ℕ)} (h : pc.rehash table = some pc') :
    Local p pc pc' := by
  unfold PeerConnection.rehash at h
  split at h
  · next hperm =>
    cases h
    refine ⟨⟨List.prefix_rfl, rfl, rfl⟩, fun stream _ => ?_⟩
    rw [← AList.lookup_isSome, ← AList.lookup_isSome, AList.perm_lookup hperm]
  · cases h

theorem sendMessage (pc : PeerConnection) (c maxMessageSize : ℕ) (message : Message) :
    Local p pc (pc.sendMessage c maxMessageSize message) := by
  unfold PeerConnection.sendMessage
  split
  · exact .refl pc
  · split
    · exact .refl pc
    · exact .of_table ⟨List.prefix_append _ _, rfl, rfl⟩ rfl

end Local

/-! ## What an incoming message does to the table -/

theorem mDataChannels_closeStream (pc : PeerConnection) (stream : ℕ) :
    (pc.closeStream stream).1.mDataChannels = pc.mDataChannels := by
  unfold closeStream
  split <;> rfl

/-- The new channel is registered, even if it is destroyed as the message is invalid. -/
theorem mDataChannels_acceptDataChannel (pc : PeerConnection) (stream : ℕ) (message : Message) :
    (pc.acceptDataChannel stream message).1.mDataChannels =
      emplace pc.mDataChannels stream pc.objects.length := by
  unfold acceptDataChannel
  dsimp only [allocate]
  -- neither the call nor the destruction touches the table
  generalize hpc : PeerConnection.mk _ _ _ _ _ _ _ _ = pc₁
  have htable := (call_frame pc₁ pc.objects.length (·.incoming message)).1
  subst hpc
  split
  · next hcall =>
    rw [hcall] at htable
    rw [(destroy_frame _ _).1]
    exact htable
  · next hcall =>
    rw [hcall] at htable
    exact htable

/-- The odd/even check of `forwardMessage` accepts the streams of the other parity. -/
theorem remoteParity_iff {role : Description.Role} {stream : ℕ} :
    (stream % 2 = if role = .active then 1 else 0) ↔ stream % 2 ≠ parity role := by
  unfold parity
  split <;> omega

/-- An OPEN message on a stream of the peer adds its entry. -/
theorem mem_forwardOpenMessage {role : Description.Role} (message : Message) {stream : ℕ}
    (hstream : stream % 2 ≠ parity role) :
    stream ∈ (pc.forwardOpenMessage role message).1.mDataChannels ↔
      message.stream % 65536 = stream ∨ stream ∈ pc.mDataChannels := by
  unfold forwardOpenMessage
  dsimp only
  rcases hfind : pc.findDataChannel (message.stream % 65536) with ⟨channel, _ | _⟩
  · obtain ⟨-, hfree, rfl⟩ | ⟨c, hfound, -⟩ := findDataChannel_eq hfind
    · dsimp only
      by_cases hparity : message.stream % 65536 % 2 = if role = .active then 1 else 0
      · rw [if_neg (not_not.2 hparity), mDataChannels_acceptDataChannel, emplace_of_notMem hfree,
          AList.mem_insert, eq_comm]
      · -- a rejected stream is one of the own parity
        have hne : message.stream % 65536 ≠ stream := by
          rintro rfl
          exact hparity (remoteParity_iff.2 hstream)
        rw [if_pos hparity, mDataChannels_closeStream]
        simp [hne]
    · cases hfound
  · obtain ⟨hfound, -⟩ | ⟨c, -, hlookup, -⟩ := findDataChannel_eq hfind
    · cases hfound
    -- the stream is used: its entry stays, whatever happens to the channel
    have hmem : message.stream % 65536 ∈ pc.mDataChannels :=
      AList.lookup_isSome.1 (by rw [hlookup]; rfl)
    have hor : (message.stream % 65536 = stream ∨ stream ∈ pc.mDataChannels) ↔
        stream ∈ pc.mDataChannels :=
      or_iff_right_of_imp fun heq => heq ▸ hmem
    rw [hor]
    cases channel with
    | none => simp [mDataChannels_closeStream]
    | some c' =>
      dsimp only
      split
      · rw [(call_frame pc c' _).1]
      · rw [mDataChannels_closeStream]

/-- A reset removes the entry of its stream, the other messages leave the table. -/
theorem mem_forwardOtherMessage (message : Message) (stream : ℕ) :
    stream ∈ (pc.forwardOtherMessage message).1.mDataChannels ↔
      ¬(message.type = .reset ∧ message.stream % 65536 = stream) ∧
        stream ∈ pc.mDataChannels := by
  unfold forwardOtherMessage
  dsimp only
  rcases hfind : pc.findDataChannel (message.stream % 65536) with ⟨channel, _ | _⟩
  · obtain ⟨-, hfree, rfl⟩ | ⟨c, hfound, -⟩ := findDataChannel_eq hfind
    · -- without an entry a reset is ignored and any other message is answered with a reset
      have hsame : (if message.type = .reset then (pc, none)
          else pc.closeStream message.stream).1.mDataChannels = pc.mDataChannels := by
        split
        · rfl
        · exact mDataChannels_closeStream pc _
      dsimp only
      rw [hsame]
      refine ⟨fun hmem => ⟨?_, hmem⟩, And.right⟩
      rintro ⟨-, rfl⟩
      exact hfree hmem
    · cases hfound
  · dsimp only
    -- the entry is removed before the channel gets the message
    have hmem : stream ∈ (if message.type = Message.Kind.reset then
          pc.removeDataChannel (message.stream % 65536) else pc).mDataChannels ↔
        ¬(message.type = .reset ∧ message.stream % 65536 = stream) ∧
          stream ∈ pc.mDataChannels := by
      by_cases hreset : message.type = .reset
      · simp [hreset, removeDataChannel, AList.mem_erase, eq_comm]
      · simp [hreset]
    cases channel with
    | none => exact hmem
    | some c =>
      rw [(call_frame _ c _).1]
      exact hmem

/-- `forwardMessage` on the streams of the peer: an OPEN message adds the entry of its stream, a
reset removes it. -/
theorem mem_forwardMessage {role : Description.Role} (hrole : pc.mIceTransport = some role)
    (hsctp : pc.mSctpTransport.isSome = true) (message : Message) {stream : ℕ}
    (hstream : stream % 2 ≠ parity role) :
    stream ∈ (pc.forwardMessage (some message)).1.mDataChannels ↔
      match control stream message with
      | some .opening => True
      | some .reset => False
      | none => stream ∈ pc.mDataChannels := by
  obtain ⟨status, hstatus⟩ := Option.isSome_iff_exists.1 hsctp
  unfold forwardMessage control
  simp only [hrole, hstatus]
  by_cases hopen : isOpenMessage message = true
  · simp only [hopen, if_true, mem_forwardOpenMessage message hstream]
    by_cases heq : message.stream % 65536 = stream <;> simp [heq]
  · have hopen' : isOpenMessage message = false := by simpa using hopen
    simp only [hopen', Bool.false_eq_true, if_false, mem_forwardOtherMessage]
    by_cases heq : message.stream % 65536 = stream
    · by_cases hreset : message.type = .reset <;> simp [heq, hreset]
    · simp [heq]

/-! ## Links -/

/-- The entries of the receiver on the streams of the sender are those whose last control message
was an OPEN message. -/
def Tracks (p : ℕ) (receiver : PeerConnection) (received : List Message) : Prop :=
  ∀ stream, stream % 2 = p →
    (stream ∈ receiver.mDataChannels ↔ (controls stream received).getLast? = some .opening)

/-- What the sender has handed over is what the receiver has received, followed by what is in
flight. -/
def Linked (p : ℕ) (sender receiver : PeerConnection) (link : List Message) : Prop :=
  ∃ received, sender.sent = received ++ link ∧ Tracks p receiver received

/-- The messages handed over since an earlier state. -/
theorem sent_eq_append (h : pc.handed <+: pc'.handed) :
    pc'.sent = pc.sent ++ handedSince pc pc' := by
  obtain ⟨out, hout⟩ := h
  simp [sent, handedSince, ← hout]

namespace Linked

variable {sender receiver : PeerConnection} {link : List Message}

/-- A handler of the sender. -/
theorem send (h : Linked p sender receiver link) (hhanded : sender.handed <+: pc.handed) :
    Linked p pc receiver (link ++ handedSince sender pc) := by
  obtain ⟨received, hsent, htracks⟩ := h
  refine ⟨received, ?_, htracks⟩
  rw [sent_eq_append hhanded, hsent, List.append_assoc]

/-- A handler of the receiver that does not touch the streams of the sender. -/
theorem keep (h : Linked p sender receiver link)
    (htable : ∀ stream, stream % 2 = p → (stream ∈ pc.mDataChannels ↔
      stream ∈ receiver.mDataChannels)) : Linked p sender pc link := by
  obtain ⟨received, hsent, htracks⟩ := h
  exact ⟨received, hsent, fun stream hstream =>
    (htable stream hstream).trans (htracks stream hstream)⟩

/-- The receiver handles the next message. -/
theorem receive {m : Message} {role : Description.Role}
    (h : Linked p sender receiver (m :: link)) (hrole : receiver.mIceTransport = some role)
    (hp : parity role ≠ p) (hsctp : receiver.mSctpTransport.isSome = true) :
    Linked p sender (receiver.forwardMessage (some m)).1 link := by
  obtain ⟨received, hsent, htracks⟩ := h
  -- the message moves from the link to what was received
  refine ⟨received ++ [m], by simpa using hsent, fun stream hstream => ?_⟩
  have hremote : stream % 2 ≠ parity role := fun heq => hp (heq.symm.trans hstream)
  rw [mem_forwardMessage hrole hsctp m hremote, controls_append]
  have hcontrols : controls stream [m] = (control stream m).toList := by
    cases hcontrol : control stream m <;> simp [controls, hcontrol]
  rw [hcontrols]
  -- nothing for this stream, an OPEN message, a reset
  rcases control stream m with _ | _ | _
  · simpa using htracks stream hstream
  · simp
  · simp

/-- An OPEN message that is next finds no entry: the last control message the receiver has seen on
its stream was a reset, if there was one. -/
theorem notMem_of_open {m : Message} (h : Linked p sender receiver (m :: link))
    (hsender : Announcing p sender) (hopen : isOpenMessage m = true) :
    m.stream % 2 = p ∧ m.stream < 65536 ∧ m.stream ∉ receiver.mDataChannels := by
  obtain ⟨received, hsent, htracks⟩ := h
  obtain ⟨hbound, hparity⟩ := hsender.opens m (by simp [hsent]) hopen
  refine ⟨hparity, hbound, fun hmem => ?_⟩
  have hlast := (htracks m.stream hparity).1 hmem
  have hcontrol : control m.stream m = some .opening := by
    simp [control, Nat.mod_eq_of_lt hbound, hopen]
  -- an entry means that the last control message received is an OPEN message, and the sender
  -- has a reset between two of them
  obtain ⟨halternates, -⟩ := hsender.word m.stream
  rw [hsent, controls_append] at halternates
  have hnext := (List.isChain_append.1 halternates).2.2 .opening hlast .opening
    (by simp [controls, hcontrol])
  cases hnext rfl

end Linked

/-! ## Handlers of one peer -/

/-- A peer that keeps the invariant and has an SCTP transport. -/
structure Peer (p : ℕ) (pc : PeerConnection) : Prop where
  announcing : Announcing p pc
  sctp : pc.mSctpTransport.isSome = true

/-- What a handler does, except to the entries on the streams of the other peer. -/
structure Runs (p : ℕ) (pc pc' : PeerConnection) : Prop where
  peer : Peer p pc'
  handed : pc.handed <+: pc'.handed

theorem Extends.runs (h : Extends pc pc') (hpc : Peer p pc) (hannouncing : Announcing p pc') :
    Runs p pc pc' :=
  ⟨⟨hannouncing, h.sctp ▸ hpc.sctp⟩, h.handed⟩

/-- The user message of a channel neither opens nor resets a stream. -/
theorem Announcing.sendMessage (h : Announcing p pc) (c maxMessageSize : ℕ) {message : Message}
    (htype : message.type = .binary ∨ message.type = .string) :
    Announcing p (pc.sendMessage c maxMessageSize message) := by
  unfold PeerConnection.sendMessage
  split
  · exact h
  · split
    · exact h
    · next m hm =>
      -- the message is stamped with its stream and reliability, its type stays
      have hmtype : m.type = message.type := by
        unfold DataChannel.outgoingLocked at hm
        split at hm
        · cases hm
        split at hm
        · cases hm
        split at hm
        · cases hm
        split at hm
        · cases hm
        · cases hm
          rfl
      refine h.of_handed ?_ ?_
      · rcases htype with htype | htype <;> simp [isOpenMessage, hmtype, htype]
      · rcases htype with htype | htype <;> simp [hmtype, htype]

/-- Every handler that does not come from the link leaves the streams of the other peer. -/
theorem Peer.act {e e' : Endpoint} {action : Action} (h : Peer p e.pc)
    (hunopened : action = .openDataChannels → Unopened e.pc) (hact : e.act action = some e') :
    Runs p e.pc e'.pc ∧ ∀ stream, stream % 2 ≠ p →
      (stream ∈ e'.pc.mDataChannels ↔ stream ∈ e.pc.mDataChannels) := by
  have hlocal {pc' : PeerConnection} (hlocal : Local p e.pc pc')
      (hannouncing : Announcing p pc') : Runs p e.pc pc' ∧ ∀ stream, stream % 2 ≠ p →
        (stream ∈ pc'.mDataChannels ↔ stream ∈ e.pc.mDataChannels) :=
    ⟨hlocal.toExtends.runs h hannouncing, hlocal.table⟩
  cases action with
  | create label protocol reliability =>
    obtain ⟨⟨pc', made⟩, hcall, rfl⟩ := Option.map_eq_some_iff.1 hact
    exact hlocal (.emplaceDataChannel h.announcing rfl hcall)
      (h.announcing.emplaceDataChannel rfl hcall)
  | close c =>
    simp only [Endpoint.act, Option.ite_none_right_eq_some, Option.some.injEq] at hact
    obtain ⟨-, rfl⟩ := hact
    exact hlocal (.call e.pc c _) (h.announcing.close c)
  | destroy c =>
    simp only [Endpoint.act, Option.ite_none_right_eq_some, Option.some.injEq] at hact
    obtain ⟨-, rfl⟩ := hact
    exact hlocal (.destroy e.pc c) (h.announcing.destroy c)
  | send c maxMessageSize message =>
    simp only [Endpoint.act, Option.ite_none_right_eq_some, Option.some.injEq] at hact
    obtain ⟨htype, rfl⟩ := hact
    exact hlocal (.sendMessage e.pc c maxMessageSize message)
      (h.announcing.sendMessage c maxMessageSize htype)
  | connected streams =>
    simp only [Endpoint.act, Option.ite_none_right_eq_some] at hact
    obtain ⟨-, hconnect⟩ := hact
    obtain ⟨⟨pc', thrown⟩, hassign, rfl⟩ := Option.map_eq_some_iff.1 hconnect
    have hconnected := h.announcing.of_sctp
      { state := .connected, mNegotiatedStreamsCount := some streams }
    have hassigned := Local.assignDataChannels hconnected hassign
    refine ⟨⟨⟨hconnected.changes (assignDataChannels_changes hassign), ?_⟩, hassigned.handed⟩,
      hassigned.table⟩
    exact (congrArg Option.isSome hassigned.sctp).trans rfl
  | openDataChannels =>
    simp only [Endpoint.act, Option.ite_none_right_eq_some, Option.some.injEq] at hact
    obtain ⟨-, rfl⟩ := hact
    exact hlocal (.openDataChannels e.pc) (h.announcing.openDataChannels (hunopened rfl))
  | rehash table =>
    obtain ⟨pc', hrehash, rfl⟩ := Option.map_eq_some_iff.1 hact
    exact hlocal (.rehash hrehash) (h.announcing.changes (rehash_changes hrehash))

/-- The handler of an incoming message. -/
theorem Peer.receive {e : Endpoint} (h : Peer p e.pc) (m : Message) :
    Runs p e.pc (e.receive m).pc :=
  (Extends.forwardMessage e.pc m).runs h (h.announcing.forwardMessage m)

/-- A peer whose SCTP transport is connecting. -/
theorem Peer.start (role : Description.Role) : Peer (parity role) (Endpoint.start role).pc :=
  ⟨.start role _, rfl⟩

/-! ## Both peers -/

/-- The invariant of two peers. -/
structure Agreed (s : Peers) : Prop where
  client : Peer 0 s.client.pc
  server : Peer 1 s.server.pc
  toServer : Linked 0 s.client.pc s.server.pc s.toServer
  toClient : Linked 1 s.server.pc s.client.pc s.toClient

/-- The sweep of a peer finds no channel that was opened and waits for its ACK. -/
def SweepsUnopened (s : Peers) (e : Peers.Event) : Prop :=
  (e = .client .openDataChannels → Unopened s.client.pc) ∧
    (e = .server .openDataChannels → Unopened s.server.pc)

instance (s : Peers) : DecidablePred (SweepsUnopened s) := fun _ =>
  inferInstanceAs (Decidable ((_ → _) ∧ (_ → _)))

namespace Agreed

theorem start : Agreed {} where
  client := .start .active
  server := .start .passive
  toServer := ⟨[], rfl, fun stream _ => by simp [Endpoint.start, controls]⟩
  toClient := ⟨[], rfl, fun stream _ => by simp [Endpoint.start, controls]⟩

/-- Every handler of either peer preserves the invariant. -/
theorem step {s s' : Peers} {e : Peers.Event} (h : Agreed s) (hok : SweepsUnopened s e)
    (hstep : s.step e = some s') : Agreed s' := by
  cases e with
  | client action =>
    obtain ⟨client, hact, rfl⟩ := Option.map_eq_some_iff.1 hstep
    -- the client assigns even streams, those of the server are odd
    obtain ⟨hruns, htable⟩ := h.client.act (fun haction => hok.1 (by rw [haction])) hact
    exact
      { client := hruns.peer
        server := h.server
        toServer := h.toServer.send hruns.handed
        toClient := h.toClient.keep fun stream hstream => htable stream (by omega) }
  | server action =>
    obtain ⟨server, hact, rfl⟩ := Option.map_eq_some_iff.1 hstep
    obtain ⟨hruns, htable⟩ := h.server.act (fun haction => hok.2 (by rw [haction])) hact
    exact
      { client := h.client
        server := hruns.peer
        toServer := h.toServer.keep fun stream hstream => htable stream (by omega)
        toClient := h.toClient.send hruns.handed }
  | deliverToClient =>
    simp only [Peers.step] at hstep
    split at hstep
    · cases hstep
    · next m rest hlink =>
      cases hstep
      obtain ⟨role, hrole, hparity⟩ := Option.map_eq_some_iff.1 h.client.announcing.role
      have hruns := h.client.receive m
      have hlinked := h.toClient
      rw [hlink] at hlinked
      exact
        { client := hruns.peer
          server := h.server
          toServer := h.toServer.send hruns.handed
          toClient := hlinked.receive hrole (by omega) h.client.sctp }
  | deliverToServer =>
    simp only [Peers.step] at hstep
    split at hstep
    · cases hstep
    · next m rest hlink =>
      cases hstep
      obtain ⟨role, hrole, hparity⟩ := Option.map_eq_some_iff.1 h.server.announcing.role
      have hruns := h.server.receive m
      have hlinked := h.toServer
      rw [hlink] at hlinked
      exact
        { client := h.client
          server := hruns.peer
          toServer := hlinked.receive hrole (by omega) h.server.sctp
          toClient := h.toClient.send hruns.handed }

end Agreed

/-- A stream id this peer has assigned to a channel of its own. -/
def Picked (pc : PeerConnection) (stream : ℕ) : Prop :=
  ∃ (c : ℕ) (o : Object), pc.objects[c]? = some o ∧ o.channel.kind = .outgoing ∧
    o.channel.mStream = some stream

/-- An OPEN message that is next on the link finds no entry for its stream, and passes the checks of
`forwardMessage`. -/
def AcceptsOpen (receiver : PeerConnection) (link : List Message) : Prop :=
  ∀ m rest, link = m :: rest → isOpenMessage m = true →
    m.stream % 65536 ∉ receiver.mDataChannels ∧
      receiver.forwardMessage (some m) = receiver.acceptDataChannel (m.stream % 65536) m

theorem Announcing.parity_of_picked (h : Announcing p pc) {stream : ℕ}
    (hpicked : Picked pc stream) : stream % 2 = p := by
  obtain ⟨c, o, ho, hkind, hstream⟩ := hpicked
  exact ((h.sound c o ho).stream stream hstream).2 hkind

/-- An OPEN message on a free stream of the other parity is accepted. -/
theorem forwardMessage_accept {role : Description.Role} (hrole : pc.mIceTransport = some role)
    (hsctp : pc.mSctpTransport.isSome = true) {m : Message} (hopen : isOpenMessage m = true)
    (hfree : m.stream % 65536 ∉ pc.mDataChannels)
    (hparity : m.stream % 65536 % 2 ≠ parity role) :
    pc.forwardMessage (some m) = pc.acceptDataChannel (m.stream % 65536) m := by
  obtain ⟨status, hstatus⟩ := Option.isSome_iff_exists.1 hsctp
  have hlookup := AList.lookup_eq_none.2 hfree
  simp only [forwardMessage, hrole, hstatus, hopen, if_true, forwardOpenMessage, findDataChannel,
    hlookup]
  rw [if_neg (not_not.2 (remoteParity_iff.2 hparity))]

theorem Linked.acceptsOpen {sender receiver : PeerConnection} {link : List Message} {q : ℕ}
    (h : Linked p sender receiver link) (hsender : Peer p sender) (hreceiver : Peer q receiver)
    (hne : p ≠ q) : AcceptsOpen receiver link := by
  rintro m rest rfl hopen
  obtain ⟨hparity, hbound, hfree⟩ := h.notMem_of_open hsender.announcing hopen
  obtain ⟨role, hrole, hrole'⟩ := Option.map_eq_some_iff.1 hreceiver.announcing.role
  -- stream ids have 16 bits, so that the conversion in `forwardMessage` does nothing
  rw [← Nat.mod_eq_of_lt hbound] at hfree hparity
  refine ⟨hfree, forwardMessage_accept hrole hreceiver.sctp hopen hfree ?_⟩
  rw [hrole', hparity]
  exact hne

/-- In every interleaving of two peers with opposite roles in which no sweep finds a channel that
waits for its ACK: the ids a peer assigns have the parity of its role, so that they are never those
of the other peer, and every OPEN message finds no entry for its stream and is accepted. -/
theorem streams_agree {events : List Peers.Event} {s : Peers}
    (hrun : Transition.run Peers.step {} events = some s)
    (hok : Transition.Meets Peers.step SweepsUnopened {} events) :
    (∀ stream, Picked s.client.pc stream → stream % 2 = parity .active) ∧
      (∀ stream, Picked s.server.pc stream → stream % 2 = parity .passive) ∧
      (∀ stream, ¬(Picked s.client.pc stream ∧ Picked s.server.pc stream)) ∧
      AcceptsOpen s.server.pc s.toServer ∧ AcceptsOpen s.client.pc s.toClient := by
  have h : Agreed s := Transition.run_invariant
    (fun _ _ _ hs hstepOk hstep => hs.step hstepOk hstep) Agreed.start hok hrun
  have hclient : ∀ stream, Picked s.client.pc stream → stream % 2 = 0 :=
    fun _ hpicked => h.client.announcing.parity_of_picked hpicked
  have hserver : ∀ stream, Picked s.server.pc stream → stream % 2 = 1 :=
    fun _ hpicked => h.server.announcing.parity_of_picked hpicked
  refine ⟨hclient, hserver, ?_, h.toServer.acceptsOpen h.client h.server (by decide),
    h.toClient.acceptsOpen h.server h.client (by decide)⟩
  rintro stream ⟨hc, hs⟩
  have heven := hclient stream hc
  have hodd := hserver stream hs
  omega

/-- A channel of the client is opened and closed, and its id is used again once the server has reset
the stream. -/
def reuseEvents : List Peers.Event :=
  [.client (.connected 1024), .client .openDataChannels, .client (.create [] [] {}),
    .deliverToServer, .client (.close 0), .deliverToServer, .deliverToClient, .deliverToClient,
    .client (.create [] [] {})]

theorem streams_agree_reuseEvents :
    ∃ s, Transition.run Peers.step {} reuseEvents = some s ∧
      Transition.Meets Peers.step SweepsUnopened {} reuseEvents ∧
      s.toServer = [DataChannel.plainOpenMessage 0] ∧ 0 ∉ s.server.pc.mDataChannels := by
  have hok : Transition.Meets Peers.step SweepsUnopened {} reuseEvents := by decide
  exact ⟨_, rfl, hok, by decide, ((streams_agree rfl hok).2.2.2.1 _ _ rfl rfl).1⟩

/-- A channel created between the callback for the connection and the sweep is opened twice, and the
second OPEN message finds the entry made by the first. -/
theorem open_finds_entry :
    ∃ s, Transition.run Peers.step {}
        [.client (.connected 1024), .client (.create [] [] {}), .client .openDataChannels,
          .deliverToServer] = some s ∧
      s.toServer = [DataChannel.plainOpenMessage 0] ∧ 0 ∈ s.server.pc.mDataChannels ∧
      ¬AcceptsOpen s.server.pc s.toServer := by
  refine ⟨_, rfl, by decide, by decide, ?_⟩
  intro haccepts
  exact (haccepts _ _ rfl rfl).1 (by decide)

end Rtc.PeerConnection
