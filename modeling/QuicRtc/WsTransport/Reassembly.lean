import QuicRtc.WsTransport.Chunking

/-!
# Reassembly of WebSocket messages

A message is sent as one TEXT or BINARY frame, or as such a frame and CONTINUATION frames, the last
of them with the `fin` flag. PING and PONG frames may come in between.

* `Unfinished`, `Finished`: the frames of a message, with its type and its content.
* `parseFrame_wire`: what `parseFrame` makes of a frame on the wire.
* `received_reassembled`: what `recvFrame` delivers for unfinished messages and a finished one.

`parseFrame` cuts every payload to `maxFrameLength`, and `recvFrame` cuts the unfinished message to
`mMaxMessageSize` behind every frame.
-/

namespace Rtc.WsTransport

/-! ## Frames of a message -/

/-- A frame that starts a message. -/
def Frame.IsData (frame : Frame) : Prop :=
  frame.opcode = .textFrame ∨ frame.opcode = .binaryFrame

/-- A frame that may come between the frames of a message. -/
def Frame.IsPingPong (frame : Frame) : Prop := frame.opcode = .ping ∨ frame.opcode = .pong

/-- The frames of a message without its last one, in order, with the opcode of the first and the
payloads so far. -/
inductive Unfinished : Opcode → List UInt8 → List Frame → Prop
  | start {frame : Frame} (hdata : frame.IsData) (hfin : frame.fin = false) :
    Unfinished frame.opcode frame.payload [frame]
  | control {opcode : Opcode} {content : List UInt8} {frames : List Frame} {frame : Frame}
      (h : Unfinished opcode content frames) (hcontrol : frame.IsPingPong) :
    Unfinished opcode content (frames ++ [frame])
  | continuation {opcode : Opcode} {content : List UInt8} {frames : List Frame} {frame : Frame}
      (h : Unfinished opcode content frames) (hopcode : frame.opcode = .continuation)
      (hfin : frame.fin = false) :
    Unfinished opcode (content ++ frame.payload) (frames ++ [frame])

/-- All frames of a message. -/
inductive Finished : Opcode → List UInt8 → List Frame → Prop
  | single {frame : Frame} (hdata : frame.IsData) (hfin : frame.fin = true) :
    Finished frame.opcode frame.payload [frame]
  | last {opcode : Opcode} {content : List UInt8} {frames : List Frame} {frame : Frame}
      (h : Unfinished opcode content frames) (hopcode : frame.opcode = .continuation)
      (hfin : frame.fin = true) :
    Finished opcode (content ++ frame.payload) (frames ++ [frame])

/-- A message that its sender gives up before its last frame. -/
structure UnfinishedMessage where
  opcode : Opcode
  content : List UInt8
  frames : List Frame
  unfinished : Unfinished opcode content frames

/-- A message with this content, cut to the limit. -/
def cutMessage (limit : ℕ) (opcode : Opcode) (content : List UInt8) : Message :=
  { data := content.take limit, type := messageType opcode }

/-- What is delivered of a message that is given up. -/
def UnfinishedMessage.delivered (limit : ℕ) (message : UnfinishedMessage) :
    List (Option Message) :=
  if message.content.take limit = [] then []
  else [some (cutMessage limit message.opcode message.content)]

/-! ## Frames as they are parsed -/

/-- The frame with its payload cut as in `parseFrame`. -/
def Frame.truncate (mMaxMessageSize : UInt64) (frame : Frame) : Frame :=
  { frame with payload := frame.payload.take (maxFrameLength mMaxMessageSize) }

/-- The frame that stands on the wire, with its payload unmasked. -/
def WireFrame.frame (frame : WireFrame) : Frame := frame.header.frame frame.payload

theorem Header.unmask_take (header : Header) (masked : List UInt8) (n : ℕ) :
    header.unmask (masked.take n) = (header.unmask masked).take n := by
  unfold Header.unmask
  split
  · apply List.ext_getElem?
    intro i
    simp only [applyMask, List.getElem?_mapIdx, List.getElem?_take]
    split
    · rfl
    · rfl
  · rfl

theorem WireFrame.readFrame_bytes (mMaxMessageSize : UInt64) (frame : WireFrame)
    (rest : List UInt8) :
    readFrame mMaxMessageSize (frame.bytes ++ rest) =
      some ((frame.header, frame.payload.take (maxFrameLength mMaxMessageSize)),
        frame.payload.drop (maxFrameLength mMaxMessageSize) ++ rest) := by
  have hheader : readHeader (frame.bytes ++ rest) = some (frame.header, frame.payload ++ rest) := by
    rw [WireFrame.bytes, List.append_assoc]
    exact frame.reads.complete _
  -- the payload is on the wire as a whole, and the part up to the limit is taken
  have hlength : (frame.payload.take (maxFrameLength mMaxMessageSize)).length =
      min frame.header.length (maxFrameLength mMaxMessageSize) := by
    rw [List.length_take, frame.length_payload, Nat.min_comm]
  have hsplit : frame.payload ++ rest = frame.payload.take (maxFrameLength mMaxMessageSize) ++
      (frame.payload.drop (maxFrameLength mMaxMessageSize) ++ rest) := by
    rw [← List.append_assoc, List.take_append_drop]
  have htake := Reader.take_eq_some_iff.2 ⟨hlength, hsplit⟩
  simp only [readFrame, Reader.bind, Reader.map, hheader, Option.bind_some, htake, Option.map_some]

/-- `parseFrame` reads a frame on the wire whatever stands behind it, with its payload cut. -/
theorem parseFrame_wire (mMaxMessageSize : UInt64) (frame : WireFrame) (rest : List UInt8) :
    (parseFrame mMaxMessageSize (frame.bytes ++ rest)).frame =
      some (frame.frame.truncate mMaxMessageSize) := by
  simp only [parseFrame, frame.readFrame_bytes, Header.unmask_take]
  rfl

/-! ## What `recvFrame` does -/

variable (config : Config)

/-- The frames are given to `recvFrame` one after the other, as `parseFrame` reads them. -/
def recvFrames (s : WsTransport) (frames : List Frame) : WsTransport :=
  frames.foldl (fun s frame => s.recvFrame config (frame.truncate config.mMaxMessageSize)) s

/-- What is delivered of the unfinished message when a new one begins. -/
def pending (s : WsTransport) : List (Option Message) :=
  if s.mPartial = [] then []
  else [some { data := s.mPartial, type := messageType s.mPartialOpcode }]

theorem recvFrames_append (s : WsTransport) (frames frames' : List Frame) :
    s.recvFrames config (frames ++ frames') =
      (s.recvFrames config frames).recvFrames config frames' :=
  List.foldl_append

@[simp]
theorem recvFrames_singleton (s : WsTransport) (frame : Frame) :
    s.recvFrames config [frame] = s.recvFrame config (frame.truncate config.mMaxMessageSize) := rfl

/-- The frame loop gives the frames on the wire to `recvFrame`, by induction on them. -/
theorem run_wire (s : WsTransport) {wire : List WireFrame}
    (hwire : ∀ frame ∈ wire, frame.header.length < 9223372036854775808) :
    (frames config).run (s.setTail (wire.flatMap WireFrame.bytes) 0) =
      (s.recvFrames config (wire.map WireFrame.frame)).setTail [] 0 := by
  induction wire generalizing s with
  | nil =>
    have hempty : readFrame config.mMaxMessageSize (s.setTail [] 0).mBuffer = none := rfl
    have hnone : (s.setTail [] 0).frameRound config = none :=
      frameRound_of_incomplete config hempty
    exact Consumer.run_of_none (m := frames config) hnone
  | cons frame wire ih =>
    let rest := wire.flatMap WireFrame.bytes
    let masked := frame.payload.take (maxFrameLength config.mMaxMessageSize)
    let excess := frame.payload.drop (maxFrameLength config.mMaxMessageSize)
    have hbuffer : frame.bytes ++ rest = frame.head ++ (masked ++ (excess ++ rest)) := by
      rw [WireFrame.bytes, List.append_assoc, ← List.append_assoc masked, List.take_append_drop]
    have hread := frame.readFrame_bytes config.mMaxMessageSize rest
    have hfits : frame.head.length + frame.header.length < 18446744073709551616 := by
      obtain ⟨head, hhead, hsplit, -, -⟩ := readFrame_eq_some hread
      have hlength := hwire frame (by simp)
      obtain rfl : frame.head = head := List.append_cancel_right (hbuffer.symm.trans hsplit)
      omega
    -- the frame is on the wire as a whole, so that nothing of it is still to come
    have hexcess : frame.header.length - masked.length = excess.length := by
      rw [← frame.length_payload, List.length_take, List.length_drop]
      omega
    have hframe : frame.header.frame masked = frame.frame.truncate config.mMaxMessageSize := by
      simp only [masked, Header.frame, WireFrame.frame, Frame.truncate, Header.unmask_take]
    have hround : (frames config).round (s.setTail (frame.bytes ++ rest) 0) =
        some ((s.recvFrame config
          (frame.frame.truncate config.mMaxMessageSize)).setTail rest 0) := by
      show (s.setTail (frame.bytes ++ rest) 0).frameRound config = _
      rw [frameRound_of_readFrame config rfl hbuffer hread hfits, hexcess, List.drop_left,
        List.length_append, Nat.sub_eq_zero_of_le (Nat.le_add_right _ _), hframe,
        recvFrame_setTail]
      rfl
    rw [List.flatMap_cons, Consumer.run_of_some hround]
    exact ih _ fun frame hmem => hwire frame (by simp [hmem])

theorem received_flushPartial (s : WsTransport) :
    s.flushPartial.received = s.received ++ s.pending ∧ s.flushPartial.mPartial = [] := by
  unfold flushPartial pending
  by_cases h : s.mPartial = []
  · simp [h]
  · simp [h, recv]

/-- The first cut leaves what the second one keeps. -/
theorem take_truncate (mMaxMessageSize : UInt64) (content payload : List UInt8) :
    (content.take mMaxMessageSize.toNat ++ payload.take (maxFrameLength mMaxMessageSize)).take
        mMaxMessageSize.toNat = (content ++ payload).take mMaxMessageSize.toNat := by
  have hlimit : mMaxMessageSize.toNat ≤ maxFrameLength mMaxMessageSize := Nat.le_max_right _ _
  rw [List.take_append, List.take_append, List.take_take, List.take_take, List.length_take,
    Nat.min_self]
  congr 1
  rcases Nat.le_total mMaxMessageSize.toNat content.length with hlong | hshort
  · -- nothing of the payload is kept
    have hzero : mMaxMessageSize.toNat - content.length = 0 := by omega
    rw [Nat.min_eq_left hlong, Nat.sub_self, hzero, Nat.zero_min]
  · rw [Nat.min_eq_right hshort, Nat.min_eq_left (by omega)]

theorem take_payload_truncate (mMaxMessageSize : UInt64) (frame : Frame) :
    (frame.truncate mMaxMessageSize).payload.take mMaxMessageSize.toNat =
      frame.payload.take mMaxMessageSize.toNat := by
  have h := take_truncate mMaxMessageSize [] frame.payload
  rwa [List.take_nil, List.nil_append, List.nil_append] at h

variable (s : WsTransport) (frame : Frame)

/-- A PING or a PONG delivers nothing and leaves the unfinished message alone. -/
theorem recvFrame_control (h : frame.IsPingPong) :
    (s.recvFrame config frame).received = s.received ∧
      (s.recvFrame config frame).mPartial = s.mPartial ∧
      (s.recvFrame config frame).mPartialOpcode = s.mPartialOpcode := by
  unfold recvFrame
  rcases h with h | h
  · rw [h]
    exact ⟨rfl, rfl, rfl⟩
  · rw [h]
    exact ⟨rfl, rfl, rfl⟩

/-- The first frame of a message that goes on. -/
theorem recvFrame_start (hdata : frame.IsData) (hfin : frame.fin = false) :
    (s.recvFrame config frame).received = s.received ++ s.pending ∧
      (s.recvFrame config frame).mPartial = frame.payload.take config.mMaxMessageSize.toNat ∧
      (s.recvFrame config frame).mPartialOpcode = frame.opcode := by
  have hflush := s.received_flushPartial
  have hdata : frame.opcode = .textFrame ∨ frame.opcode = .binaryFrame := hdata
  simp only [recvFrame, if_pos hdata, hfin, Bool.false_eq_true, if_false, hflush.2, List.nil_append]
  exact ⟨hflush.1, trivial, trivial⟩

/-- A message in one frame. -/
theorem recvFrame_single (hdata : frame.IsData) (hfin : frame.fin = true) :
    (s.recvFrame config frame).received = s.received ++ s.pending ++
        [some (cutMessage config.mMaxMessageSize.toNat frame.opcode frame.payload)] ∧
      (s.recvFrame config frame).mPartial = [] := by
  have hflush := s.received_flushPartial
  have hdata : frame.opcode = .textFrame ∨ frame.opcode = .binaryFrame := hdata
  simp only [recvFrame, if_pos hdata, hfin, if_true, recv, hflush.1, hflush.2, cutMessage,
    and_self]

/-- A frame in the middle of a message. -/
theorem recvFrame_continuation (hopcode : frame.opcode = .continuation)
    (hfin : frame.fin = false) :
    (s.recvFrame config frame).received = s.received ∧
      (s.recvFrame config frame).mPartial =
        (s.mPartial ++ frame.payload).take config.mMaxMessageSize.toNat ∧
      (s.recvFrame config frame).mPartialOpcode = s.mPartialOpcode := by
  unfold recvFrame
  rw [hopcode, hfin]
  exact ⟨rfl, rfl, rfl⟩

/-- The last frame of a message. -/
theorem recvFrame_last (hopcode : frame.opcode = .continuation) (hfin : frame.fin = true) :
    (s.recvFrame config frame).received = s.received ++
        [some { data := (s.mPartial ++ frame.payload).take config.mMaxMessageSize.toNat,
                type := messageType s.mPartialOpcode }] ∧
      (s.recvFrame config frame).mPartial = [] := by
  unfold recvFrame
  rw [hopcode, hfin]
  exact ⟨rfl, rfl⟩

/-! ## Whole messages -/

/-- The transport `t` has taken, from `s` on, the frames of an unfinished message. -/
structure Holds (s t : WsTransport) (opcode : Opcode) (content : List UInt8) : Prop where
  received : t.received = s.received ++ s.pending
  mPartial : t.mPartial = content.take config.mMaxMessageSize.toNat
  mPartialOpcode : t.mPartialOpcode = opcode

/-- What is pending is then what is delivered of that message. -/
theorem Holds.pending {s t : WsTransport} {message : UnfinishedMessage}
    (h : Holds config s t message.opcode message.content) :
    t.pending = message.delivered config.mMaxMessageSize.toNat := by
  unfold WsTransport.pending UnfinishedMessage.delivered cutMessage
  rw [h.mPartial, h.mPartialOpcode]

/-- The frames of an unfinished message, by induction on how they follow each other. -/
theorem holds_unfinished {opcode : Opcode} {content : List UInt8}
    {frames : List Frame} (h : Unfinished opcode content frames) :
    Holds config s (s.recvFrames config frames) opcode content := by
  induction h with
  | @start frame hdata hfin =>
    obtain ⟨hreceived, hpartial, hopcode⟩ := recvFrame_start config s
      (frame.truncate config.mMaxMessageSize) hdata hfin
    exact ⟨hreceived, hpartial.trans (take_payload_truncate config.mMaxMessageSize frame), hopcode⟩
  | @control opcode content frames frame h hcontrol ih =>
    -- a PING or PONG in between changes none of the three
    rw [recvFrames_append, recvFrames_singleton]
    obtain ⟨hreceived, hpartial, hopcode⟩ := recvFrame_control config
      (s.recvFrames config frames) (frame.truncate config.mMaxMessageSize) hcontrol
    exact ⟨hreceived.trans ih.received, hpartial.trans ih.mPartial,
      hopcode.trans ih.mPartialOpcode⟩
  | @continuation opcode content frames frame h hopcode hfin ih =>
    rw [recvFrames_append, recvFrames_singleton]
    obtain ⟨hreceived, hpartial, hkept⟩ := recvFrame_continuation config
      (s.recvFrames config frames) (frame.truncate config.mMaxMessageSize) hopcode hfin
    refine ⟨hreceived.trans ih.received, hpartial.trans ?_, hkept.trans ih.mPartialOpcode⟩
    rw [ih.mPartial]
    exact take_truncate config.mMaxMessageSize content frame.payload

/-- The frames of a finished message: what was pending is delivered, then this message alone. -/
theorem received_finished {opcode : Opcode} {content : List UInt8}
    {frames : List Frame} (h : Finished opcode content frames) :
    (s.recvFrames config frames).received = s.received ++ s.pending ++
        [some (cutMessage config.mMaxMessageSize.toNat opcode content)] ∧
      (s.recvFrames config frames).mPartial = [] := by
  cases h with
  | @single frame hdata hfin =>
    obtain ⟨hreceived, hpartial⟩ := recvFrame_single config s
      (frame.truncate config.mMaxMessageSize) hdata hfin
    refine ⟨hreceived.trans ?_, hpartial⟩
    simp only [cutMessage, take_payload_truncate]
    rfl
  | @last opcode content frames frame h hopcode hfin =>
    have hholds := holds_unfinished config s h
    rw [recvFrames_append, recvFrames_singleton]
    obtain ⟨hreceived, hpartial⟩ := recvFrame_last config
      (s.recvFrames config frames) (frame.truncate config.mMaxMessageSize) hopcode hfin
    refine ⟨hreceived.trans ?_, hpartial⟩
    -- cut before and behind the last frame is cut once
    have hcut : ((s.recvFrames config frames).mPartial ++
        (frame.truncate config.mMaxMessageSize).payload).take config.mMaxMessageSize.toNat =
        (content ++ frame.payload).take config.mMaxMessageSize.toNat := by
      rw [hholds.mPartial]
      exact take_truncate config.mMaxMessageSize content frame.payload
    rw [hcut, hholds.received, hholds.mPartialOpcode, cutMessage]

/-- For every transport, every sequence of messages that their sender gave up before the last frame
and every finished message behind them, each with any number of PING and PONG frames in between:
what was pending is delivered, then the parts of the messages given up that are not empty, then the
finished message alone, all of them cut to the limit and with the type of their first frame. Nothing
is pending afterwards. -/
theorem received_reassembled (s : WsTransport) (givenUp : List UnfinishedMessage) {opcode : Opcode}
    {content : List UInt8} {frames : List Frame} (h : Finished opcode content frames) :
    (s.recvFrames config (givenUp.flatMap UnfinishedMessage.frames ++ frames)).received =
        s.received ++ s.pending ++
          givenUp.flatMap (UnfinishedMessage.delivered config.mMaxMessageSize.toNat) ++
          [some (cutMessage config.mMaxMessageSize.toNat opcode content)] ∧
      (s.recvFrames config (givenUp.flatMap UnfinishedMessage.frames ++ frames)).mPartial = [] := by
  induction givenUp generalizing s with
  | nil => simpa using received_finished config s h
  | cons message givenUp ih =>
    have hholds := holds_unfinished config s message.unfinished
    -- what is pending of this message is delivered with the next one
    obtain ⟨hreceived, hpartial⟩ := ih (s.recvFrames config message.frames)
    rw [List.flatMap_cons, List.append_assoc, recvFrames_append]
    refine ⟨hreceived.trans ?_, hpartial⟩
    rw [hholds.received, hholds.pending, List.flatMap_cons]
    simp only [List.append_assoc]

/-- A text message given up behind a PING, and a binary one in three frames with a PONG in between,
the limit being three bytes. -/
theorem received_reassembled_three :
    let config : Config :=
      { mIsClient := true, mMaxMessageSize := 3, mMaxOutstandingPings := 0
        sha1 := id, handshakeKey := Vector.replicate 16 7
        maskingKey := fun _ => Vector.replicate 4 9 }
    let s : WsTransport :=
      { state := .connected, mHandshake := {}, mPartialOpcode := .continuation }
    (s.recvFrames config
      ([{ opcode := .textFrame, payload := [1], fin := false }, { opcode := .ping }] ++
      [{ opcode := .binaryFrame, payload := [2, 3], fin := false }, { opcode := .pong },
        { opcode := .continuation, payload := [], fin := false },
        { opcode := .continuation, payload := [4, 5], fin := true }])).received =
      [some { data := [1], type := .string }, some { data := [2, 3, 4], type := .binary }] := by
  intro config s
  have htext : Unfinished .textFrame [1]
      ([{ opcode := .textFrame, payload := [1], fin := false }] ++ [{ opcode := .ping }]) :=
    (@Unfinished.start { opcode := .textFrame, payload := [1], fin := false } (Or.inl rfl)
      rfl).control (Or.inl rfl)
  have hfirst : Unfinished .binaryFrame [2, 3]
      ([{ opcode := .binaryFrame, payload := [2, 3], fin := false }] ++ [{ opcode := .pong }]) :=
    (@Unfinished.start { opcode := .binaryFrame, payload := [2, 3], fin := false } (Or.inr rfl)
      rfl).control (Or.inr rfl)
  have hempty := @Unfinished.continuation _ _ _
    { opcode := .continuation, payload := [], fin := false } hfirst rfl rfl
  have hbinary := @Finished.last _ _ _
    { opcode := .continuation, payload := [4, 5], fin := true } hempty rfl rfl
  exact (received_reassembled config s [⟨_, _, _, htext⟩] hbinary).1

end Rtc.WsTransport
