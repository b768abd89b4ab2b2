import QuicRtc.Lib.Transition
import QuicRtc.WsTransport.Reassembly

/-!
# WebSocket messages, end to end

`WsTransport::send` of one endpoint and `WsTransport::incoming` of the other, with the byte stream
of a TCP connection between them.

Between its messages the sending endpoint answers every PING, sends PINGs of its own when TCP is
idle, and takes whatever else it receives. `Speaks` says what its stream then looks like, and
`received_wire` what the other endpoint makes of such a stream. The main result is
`deliver_received`, for every run of the sender and every way to cut its stream into chunks.
-/

namespace Rtc.WsTransport

variable (config : Config)

/-! ## The sending endpoint -/

/-- The frame that `send` makes of a message. -/
def messageFrame (m : Message) : Frame where
  opcode := if m.type = .string then .textFrame else .binaryFrame
  payload := m.data
  mask := config.mIsClient

/-- `WsTransport::send`. The lower transport takes every frame. -/
def send (s : WsTransport) (message : Option Message) : Except Exception WsTransport :=
  if s.state ≠ .connected then .error (.runtimeError "WebSocket is not open")
  else
    match message with
    | none => .ok s
    | some m => .ok (s.outgoingFrame config (messageFrame config m))

/-- The sending endpoint and the messages that `send` has taken. -/
structure Sender where
  transport : WsTransport
  taken : List Message := []

/-- What an endpoint does once it is connected. -/
inductive SenderEvent where
  | send (message : Option Message)
  /-- A frame comes from the other endpoint. -/
  | frame (frame : Frame)
  /-- TCP is idle. -/
  | idle
  deriving DecidableEq, Repr

/-- One step. -/
def Sender.step (w : Sender) : SenderEvent → Option Sender
  | .send message =>
    match w.transport.send config message with
    -- the exception goes to the caller
    | .error _ => some w
    | .ok transport => some { transport, taken := w.taken ++ message.toList }
  | .frame frame =>
    if w.transport.state = .connected then
      some { w with transport := w.transport.recvFrame config frame }
    else none
  | .idle =>
    if w.transport.state = .connected then
      some { w with transport := w.transport.receive config [] }
    else none

/-- The payloads have a length that a signed 64-bit number can hold, and no frame that comes in
closes the connection: there is no CLOSE frame and no frame with an unknown opcode. -/
def KeepsOpen : SenderEvent → Prop
  | .send message => ∀ m ∈ message, m.size < 9223372036854775808
  | .frame frame =>
    (frame.IsData ∨ frame.opcode = .continuation ∨ frame.IsPingPong) ∧
      frame.payload.length < 9223372036854775808
  | .idle => True

/-! ## Its stream -/

/-- What a frame of the stream says: a whole message, or nothing. -/
inductive Says : Frame → List Message → Prop
  | message (m : Message) (mask : Bool) :
    Says
      { opcode := if m.type = .string then .textFrame else .binaryFrame, payload := m.data, mask }
      [m]
  | control {frame : Frame} (h : frame.IsPingPong) : Says frame []

/-- The frames of a stream say the messages, in order. -/
inductive SaysAll : List WireFrame → List Message → Prop
  | nil : SaysAll [] []
  | concat {wire : List WireFrame} {messages said : List Message} {frame : WireFrame}
    (h : SaysAll wire messages) (htells : Says frame.frame said)
    (hlength : frame.header.length < 9223372036854775808) :
    SaysAll (wire ++ [frame]) (messages ++ said)

/-- What the endpoint has passed to the lower transport since it was `s` are the frames that say its
messages. -/
def Speaks (s : WsTransport) (w : Sender) : Prop :=
  ∃ wire, w.transport.sent = s.sent ++ wire.map WireFrame.bytes ∧ SaysAll wire w.taken

variable {config} {s : WsTransport} {w w' : Sender}

/-- What `sendFrame` writes is that frame. -/
theorem frame_ofFrame (frame : Frame) (maskingKey : Vector UInt8 4)
    (h : frame.payload.length < 18446744073709551616) :
    (WireFrame.ofFrame frame maskingKey h).frame = frame ∧
      (WireFrame.ofFrame frame maskingKey h).bytes = (sendFrame frame maskingKey).message := by
  constructor
  · show (frame.toHeader maskingKey).frame (maskedPayload frame maskingKey) = frame
    rw [Header.frame, unmask_maskedPayload]
    rfl
  · rw [message_sendFrame]
    rfl

namespace Speaks

theorem of_sent_eq (h : Speaks s w) {transport : WsTransport}
    (hsent : transport.sent = w.transport.sent) : Speaks s { w with transport } := by
  obtain ⟨wire, hwire, htells⟩ := h
  exact ⟨wire, hsent.trans hwire, htells⟩

/-- One more frame. -/
theorem outgoingFrame (h : Speaks s w) {frame : Frame} {said : List Message}
    (htells : Says frame said) (hlength : frame.payload.length < 9223372036854775808) :
    Speaks s
      { transport := w.transport.outgoingFrame config frame, taken := w.taken ++ said } := by
  obtain ⟨wire, hwire, hall⟩ := h
  have hfits : frame.payload.length < 18446744073709551616 := hlength.trans (by decide)
  let maskingKey := config.maskingKey w.transport.keys
  obtain ⟨hframe, hbytes⟩ := frame_ofFrame frame maskingKey hfits
  refine ⟨wire ++ [.ofFrame frame maskingKey hfits], ?_, hall.concat (hframe.symm ▸ htells) hlength⟩
  show w.transport.sent ++ [(sendFrame frame maskingKey).message] = _
  rw [hwire, List.map_append, List.map_singleton, hbytes, List.append_assoc]

theorem send (h : Speaks s w) {message : Option Message} (hok : KeepsOpen (.send message))
    {transport : WsTransport} (hsend : w.transport.send config message = .ok transport) :
    Speaks s { transport, taken := w.taken ++ message.toList } := by
  unfold WsTransport.send at hsend
  split at hsend
  · cases hsend
  · cases message with
    | none =>
      cases hsend
      rw [Option.toList_none, List.append_nil]
      exact h
    | some m =>
      cases hsend
      exact h.outgoingFrame (.message m config.mIsClient) (hok m rfl)

/-- A frame that comes in. Only a PING is answered. -/
theorem recvFrame (h : Speaks s w) {frame : Frame} (hok : KeepsOpen (.frame frame)) :
    Speaks s { w with transport := w.transport.recvFrame config frame } := by
  obtain ⟨hopcode | hopcode | hopcode | hopcode, hlength⟩ := hok
  · have hdata : frame.opcode = .textFrame ∨ frame.opcode = .binaryFrame := hopcode
    have hflush : w.transport.flushPartial.sent = w.transport.sent := by
      unfold flushPartial
      split <;> rfl
    apply h.of_sent_eq
    simp only [WsTransport.recvFrame, if_pos hdata]
    split <;> exact hflush
  · apply h.of_sent_eq
    unfold WsTransport.recvFrame
    rw [hopcode]
    cases frame.fin <;> rfl
  · have hpong : Says { opcode := .pong, payload := frame.payload, mask := config.mIsClient } [] :=
      .control (Or.inr rfl)
    have hnext := @outgoingFrame config s w h _ [] hpong hlength
    rw [List.append_nil] at hnext
    have hrecv : w.transport.recvFrame config frame = w.transport.outgoingFrame config
        { opcode := .pong, payload := frame.payload, mask := config.mIsClient } := by
      unfold WsTransport.recvFrame
      rw [hopcode]
      rfl
    rw [hrecv]
    exact hnext
  · apply h.of_sent_eq
    unfold WsTransport.recvFrame
    rw [hopcode]
    rfl

theorem idle (h : Speaks s w) :
    Speaks s { w with transport := w.transport.receive config [] } := by
  have hping : Says { opcode := .ping, payload := [0, 0, 0, 0], mask := config.mIsClient } [] :=
    .control (Or.inl rfl)
  have hnext := @outgoingFrame config s w h _ [] hping (by simp)
  rw [List.append_nil] at hnext
  have hsent (t : WsTransport) : (addOutstandingPing config t).sent = t.sent := by
    unfold addOutstandingPing
    dsimp only
    split <;> rfl
  obtain ⟨wire, hwire, hall⟩ := hnext
  exact ⟨wire, (hsent _).trans hwire, hall⟩

/-- Every step that keeps the connection open. -/
theorem step (h : Speaks s w) {e : SenderEvent} (hok : KeepsOpen e)
    (hstep : w.step config e = some w') : Speaks s w' := by
  cases e with
  | send message =>
    simp only [Sender.step] at hstep
    split at hstep
    · cases hstep
      exact h
    · next transport hsend =>
      cases hstep
      exact h.send hok hsend
  | frame frame =>
    simp only [Sender.step, Option.ite_none_right_eq_some, Option.some.injEq] at hstep
    obtain ⟨-, rfl⟩ := hstep
    exact h.recvFrame hok
  | idle =>
    simp only [Sender.step, Option.ite_none_right_eq_some, Option.some.injEq] at hstep
    obtain ⟨-, rfl⟩ := hstep
    exact h.idle

end Speaks

/-! ## The receiving endpoint -/

/-- What the receiving endpoint delivers of a message. -/
def asDelivered (limit : ℕ) (m : Message) : Option Message :=
  some { data := m.data.take limit, type := if m.type = .string then .string else .binary }

/-- A stream that says messages delivers them, each cut to the limit, and nothing else. -/
theorem received_wire (config : Config) {wire : List WireFrame} {messages : List Message}
    (h : SaysAll wire messages) (r : WsTransport) (hr : r.mPartial = []) :
    (r.recvFrames config (wire.map WireFrame.frame)).received =
        r.received ++ messages.map (asDelivered config.mMaxMessageSize.toNat) ∧
      (r.recvFrames config (wire.map WireFrame.frame)).mPartial = [] := by
  induction h with
  | nil => exact ⟨(List.append_nil _).symm, hr⟩
  | @concat wire messages said frame h htells hlength ih =>
    obtain ⟨hreceived, hpart⟩ := ih
    rw [List.map_append, List.map_singleton, recvFrames_append, recvFrames_singleton]
    generalize r.recvFrames config (wire.map WireFrame.frame) = t at hreceived hpart ⊢
    generalize frame.frame = f at htells ⊢
    cases htells with
    | message m mask =>
      let f : Frame :=
        { opcode := if m.type = .string then .textFrame else .binaryFrame, payload := m.data, mask }
      have hdata : (f.truncate config.mMaxMessageSize).IsData := by
        show (if m.type = .string then Opcode.textFrame else .binaryFrame) = .textFrame ∨
          (if m.type = .string then Opcode.textFrame else .binaryFrame) = .binaryFrame
        split
        · exact Or.inl rfl
        · exact Or.inr rfl
      obtain ⟨hsingle, hempty⟩ := recvFrame_single config t (f.truncate config.mMaxMessageSize)
        hdata rfl
      have hpending : t.pending = [] := if_pos hpart
      have hcut : cutMessage config.mMaxMessageSize.toNat f.opcode
          (f.truncate config.mMaxMessageSize).payload =
          { data := m.data.take config.mMaxMessageSize.toNat
            type := if m.type = .string then .string else .binary } := by
        rw [cutMessage, take_payload_truncate]
        by_cases hstring : m.type = .string
        · simp [f, hstring, messageType]
        · simp [f, hstring, messageType, Opcode.textFrame, Opcode.binaryFrame]
      refine ⟨?_, hempty⟩
      rw [hpending, hreceived, List.append_nil, List.append_assoc] at hsingle
      rw [List.map_append, List.map_singleton]
      refine hsingle.trans ?_
      exact congrArg (fun message => r.received ++ (_ ++ [some message])) hcut
    | control hcontrol =>
      obtain ⟨hsame, hkept, -⟩ := recvFrame_control config t (f.truncate config.mMaxMessageSize)
        hcontrol
      rw [List.append_nil]
      exact ⟨hsame.trans hreceived, hkept.trans hpart⟩

/-- None of its frames is a CLOSE frame. -/
theorem allowed_of_saysAll {wire : List WireFrame} {messages : List Message}
    (h : SaysAll wire messages) : ∀ frame ∈ wire, frame.Allowed := by
  have hopcode {f : Frame} {said : List Message} (htells : Says f said) : f.opcode ≠ .close := by
    cases htells with
    | message m mask =>
      show (if m.type = .string then Opcode.textFrame else .binaryFrame) ≠ .close
      split <;> decide
    | control hcontrol => rcases hcontrol with h | h <;> rw [h] <;> decide
  induction h with
  | nil => simp
  | concat h htells hlength ih =>
    intro frame hmem
    rcases List.mem_append.1 hmem with hmem | hmem
    · exact ih frame hmem
    · rw [List.mem_singleton.1 hmem]
      exact ⟨hopcode htells, hlength⟩

/-! ## End to end -/

/-- In every run of a connected endpoint, with any frames coming in that keep the connection open,
what it passes to the lower transport are frames that say the messages that `send` has taken. -/
theorem speaks_run {events : List SenderEvent}
    (hrun : Transition.run (Sender.step config) { transport := s } events = some w)
    (hopen : ∀ e ∈ events, KeepsOpen e) : Speaks s w := by
  have hstart : Speaks s { transport := s } := ⟨[], (List.append_nil _).symm, .nil⟩
  have hmeets : Transition.Meets (Sender.step config) (fun _ e => KeepsOpen e)
      { transport := s } events := Transition.meets_of_forall hopen
  exact Transition.run_invariant (fun _ _ _ h hok hstep => h.step hok hstep) hstart hmeets hrun

/-- A connected endpoint that sends any messages, answers PINGs and sends its own, and the other
endpoint, which gets a handshake that it accepts and then this stream, however it is cut into
chunks. The other endpoint is then connected and has delivered exactly the messages that `send` has
taken, in order, each with its type and cut to the limit there. -/
theorem deliver_received {config config' : Config} {s : WsTransport} {w : Sender}
    {events : List SenderEvent}
    (hrun : Transition.run (Sender.step config) { transport := s } events = some w)
    (hopen : ∀ e ∈ events, KeepsOpen e)
    {r : WsTransport} {handshake : List UInt8} (hstate : r.state = .connecting)
    (hbuffer : r.mBuffer = []) (hignore : r.mIgnoreLength = 0) (hpart : r.mPartial = [])
    (haccepts : r.Accepts config' handshake) {stream : List (List UInt8)}
    (hsent : w.transport.sent = s.sent ++ stream) {chunks : List (List UInt8)}
    (hchunks : ∀ chunk ∈ chunks, chunk ≠ []) (hcut : chunks.flatten = handshake ++ stream.flatten) :
    (r.deliver config' chunks).state = .connected ∧
      (r.deliver config' chunks).received =
        r.received ++ w.taken.map (asDelivered config'.mMaxMessageSize.toNat) := by
  obtain ⟨wire, hwire, htells⟩ := speaks_run hrun hopen
  have hallowed := allowed_of_saysAll htells
  have hbytes : stream.flatten = wire.flatMap WireFrame.bytes := by
    rw [List.append_cancel_left (hsent.symm.trans hwire), List.flatMap_def]
  have hclose : NoClose stream.flatten := by
    rw [hbytes, ← List.append_nil (wire.flatMap WireFrame.bytes)]
    exact noClose_frames hallowed .nil
  -- cutting the stream makes no difference, so it may come in one piece
  have hprefix : chunks.flatten <+: handshake ++ stream.flatten :=
    ⟨[], by rw [hcut, List.append_nil]⟩
  have hdeliver := deliver_eq hstate hbuffer hignore haccepts hclose hchunks hprefix
  rw [hcut, streamed_append] at hdeliver
  refine ⟨?_, ?_⟩
  · rw [hdeliver]
    exact (feed_opened hclose).1
  · have hpush : (frames config').push stream.flatten ((r.setTail [] 0).opened config' handshake) =
        (r.opened config' handshake).setTail (wire.flatMap WireFrame.bytes) 0 := by
      rw [← hbytes]
      exact push_opened config' r handshake stream.flatten
    have hopened : (r.opened config' handshake).mPartial = [] ∧
        (r.opened config' handshake).received = r.received := by
      unfold opened
      split
      · exact ⟨hpart, rfl⟩
      · exact ⟨hpart, rfl⟩
    have hlengths : ∀ frame ∈ wire, frame.header.length < 9223372036854775808 :=
      fun frame hmem => (hallowed frame hmem).2
    rw [hdeliver, Consumer.feed, hpush, run_wire config' _ hlengths]
    have hreceived := (received_wire config' htells _ hopened.1).1
    rw [hopened.2] at hreceived
    exact hreceived

/-- A client sends a text, answers a PING, sends one itself and then an empty binary message. -/
def clientRun : List SenderEvent :=
  [.send (some { data := [104, 105], type := .string }), .frame { opcode := .ping, payload := [7] },
    .idle, .send (some { data := [], type := .binary })]

/-- The server gets the request and the stream cut in the request and in the first frame. -/
theorem deliver_received_three :
    let client : Config :=
      { mIsClient := true, mMaxMessageSize := 262144, mMaxOutstandingPings := 0
        sha1 := fun _ => [42], handshakeKey := Vector.replicate 16 7
        maskingKey := fun _ => #v[1, 2, 3, 4] }
    let server : Config := { client with mIsClient := false, mMaxMessageSize := 1 }
    let s : WsTransport :=
      { state := .connected, mHandshake := {}, mPartialOpcode := .continuation }
    let r : WsTransport :=
      { state := .connecting, mHandshake := {}, mPartialOpcode := .continuation }
    let request : List UInt8 := bytes "GET / HTTP/1.1\r\nHost: localhost\r\n" ++
      bytes "Connection: Upgrade\r\nUpgrade: websocket\r\n" ++
      bytes "Sec-WebSocket-Version: 13\r\nSec-WebSocket-Key: key\r\n\r\n"
    let stream : List (List UInt8) :=
      [[0x81, 0x82, 1, 2, 3, 4, 105, 107], [0x8A, 0x81, 1, 2, 3, 4, 6],
        [0x89, 0x84, 1, 2, 3, 4, 1, 2, 3, 4], [0x82, 0x80, 1, 2, 3, 4]]
    ∃ w, Transition.run (Sender.step client) { transport := s } clientRun = some w ∧
      w.transport.sent = [] ++ stream ∧
      (r.deliver server
          [request.take 10, request.drop 10 ++ [0x81], stream.flatten.drop 1]).received =
        [some { data := [104], type := .string }, some { data := [], type := .binary }] := by
  intro client server s r request stream
  have hopen : ∀ e ∈ clientRun, KeepsOpen e := by
    simp only [clientRun, List.forall_mem_cons, KeepsOpen, Option.mem_some_iff]
    refine ⟨?_, ⟨Or.inr (Or.inr (Or.inl rfl)), by decide⟩, trivial, ?_, by simp⟩
    · rintro m rfl
      decide
    · rintro m rfl
      decide
  let handshake : WsHandshake :=
    { mHost := bytes "localhost", mPath := bytes "/", mKey := bytes "key" }
  have hrequest : request = Http.block (WsHandshake.requestLines handshake) := by decide
  have haccepts : r.Accepts server request := by
    have hparse := WsHandshake.parseHttpRequest_requestLines (s := handshake)
      ⟨by decide, ⟨by decide, by decide⟩, by decide, by decide⟩
      ⟨by decide, forall_mem_of_all (by decide)⟩ ⟨by decide, by decide⟩ (by simp [handshake]) []
    rw [List.append_nil, ← hrequest] at hparse
    exact ⟨by decide, congrArg Prod.fst hparse⟩
  have hclient : ∃ w, Transition.run (Sender.step client) { transport := s } clientRun = some w ∧
      w.transport.sent = [] ++ stream ∧ w.taken =
        [{ data := [104, 105], type := .string }, { data := [], type := .binary }] :=
    ⟨_, rfl, by decide, rfl⟩
  obtain ⟨w, hrun, hsent, htaken⟩ := hclient
  have hchunks : ∀ chunk ∈ [request.take 10, request.drop 10 ++ [0x81], stream.flatten.drop 1],
      chunk ≠ [] := by decide
  have hdeliver := (deliver_received hrun hopen rfl rfl rfl rfl haccepts hsent hchunks
    (by decide)).2
  rw [htaken] at hdeliver
  exact ⟨w, hrun, hsent, hdeliver⟩

end Rtc.WsTransport
