import QuicRtc.Message
import QuicRtc.Transport
import QuicRtc.WsHandshake.Defs
import QuicRtc.WsTransport.Defs

/-!
# Incoming data of a WebSocket transport

`WsTransport::incoming` of `impl/wstransport.cpp` and what it calls: the handshake, the loop over
the frames in the buffer, `recvFrame`, and the replies.

Calls run one after the other. The lower transport takes every message, so that `outgoing` does not
throw. The messages given to it and to the receive callback are kept in the state, in order.
-/

namespace Rtc

/-- The receiving side of `WsTransport`. -/
structure WsTransport where
  state : Transport.State := .disconnected
  mHandshake : WsHandshake
  mBuffer : List UInt8 := []
  mPartial : List UInt8 := []
  /-- The constructor leaves it without a value. -/
  mPartialOpcode : WsTransport.Opcode
  mIgnoreLength : ℕ := 0
  mOutstandingPings : ℤ := 0
  mCloseSent : Bool := false
  /-- `close` has scheduled the change to `Disconnected`. -/
  closeTimeout : Bool := false
  /-- The messages passed to `outgoing`. -/
  sent : List (List UInt8) := []
  /-- How many masking keys have been generated. -/
  keys : ℕ := 0
  /-- The calls of the receive callback. `none` is the null pointer. -/
  received : List (Option Message) := []
  deriving DecidableEq

namespace WsTransport

/-- The constants of a transport, and what it takes from outside: the digest and the random
values. -/
structure Config where
  mIsClient : Bool
  mMaxMessageSize : UInt64
  mMaxOutstandingPings : ℤ
  sha1 : List UInt8 → List UInt8
  handshakeKey : Vector UInt8 16
  maskingKey : ℕ → Vector UInt8 4

variable (config : Config)

/-! ## Sending -/

/-- `outgoing`. -/
def outgoing (s : WsTransport) (message : List UInt8) : WsTransport :=
  { s with sent := s.sent ++ [message] }

/-- `sendFrame`, with the frame it writes passed to the lower transport. -/
def outgoingFrame (s : WsTransport) (frame : Frame) : WsTransport :=
  let message := (sendFrame frame (config.maskingKey s.keys)).message
  { s.outgoing message with keys := if frame.mask then s.keys + 1 else s.keys }

/-- `WsTransport::sendHttpRequest`. -/
def sendHttpRequest (s : WsTransport) : WsTransport :=
  let (request, handshake) := s.mHandshake.generateHttpRequest config.handshakeKey
  { s with mHandshake := handshake }.outgoing request

/-- `WsTransport::sendHttpResponse`. -/
def sendHttpResponse (s : WsTransport) : WsTransport :=
  s.outgoing (s.mHandshake.generateHttpResponse config.sha1)

/-- `WsTransport::sendHttpError`. -/
def sendHttpError (s : WsTransport) (code : ℕ) : WsTransport :=
  s.outgoing (WsHandshake.generateHttpError code)

/-- `WsTransport::start`. -/
def start (s : WsTransport) : WsTransport :=
  let s := { s with state := .connecting }
  if config.mIsClient then s.sendHttpRequest config else s

/-- `WsTransport::close`. -/
def close (s : WsTransport) : WsTransport :=
  if s.state ≠ .connected then s
  else if s.mCloseSent then s
  else
    { { s with mCloseSent := true }.outgoingFrame config
        { opcode := .close, mask := config.mIsClient } with
      closeTimeout := true }

/-- `WsTransport::addOutstandingPing`. -/
def addOutstandingPing (s : WsTransport) : WsTransport :=
  let s := { s with mOutstandingPings := s.mOutstandingPings + 1 }
  if config.mMaxOutstandingPings > 0 ∧ s.mOutstandingPings > config.mMaxOutstandingPings then
    { s with state := .failed }
  else s

/-! ## Receiving -/

/-- `recv`. -/
def recv (s : WsTransport) (message : Option Message) : WsTransport :=
  { s with received := s.received ++ [message] }

/-- The type of a message, from the opcode of its first frame. -/
def messageType (opcode : Opcode) : Message.Kind :=
  if opcode = .textFrame then .string else .binary

/-- Deliver an unfinished message, if there is one. -/
def flushPartial (s : WsTransport) : WsTransport :=
  if s.mPartial ≠ [] then
    { s.recv (some { data := s.mPartial, type := messageType s.mPartialOpcode }) with
      mPartial := [] }
  else s

/-- `WsTransport::recvFrame`. -/
def recvFrame (s : WsTransport) (frame : Frame) : WsTransport :=
  let limit := config.mMaxMessageSize.toNat
  if frame.opcode = .textFrame ∨ frame.opcode = .binaryFrame then
    let payload := frame.payload.take limit
    let s := { s.flushPartial with mPartialOpcode := frame.opcode }
    if frame.fin then s.recv (some { data := payload, type := messageType frame.opcode })
    else { s with mPartial := s.mPartial ++ payload }
  else if frame.opcode = .continuation then
    let s := { s with mPartial := (s.mPartial ++ frame.payload).take limit }
    if frame.fin then
      { s.recv (some { data := s.mPartial, type := messageType s.mPartialOpcode }) with
        mPartial := [] }
    else s
  else if frame.opcode = .ping then
    s.outgoingFrame config { opcode := .pong, payload := frame.payload, mask := config.mIsClient }
  else if frame.opcode = .pong then { s with mOutstandingPings := 0 }
  else if frame.opcode = .close then { s.close config with state := .disconnected }
  else s.close config

/-- One round of the loop of `incoming` over the frames in the buffer. After a frame that is not in
the buffer as a whole the loop ends, with the empty buffer, as it does when `parseFrame` returns
`0`. -/
def frameRound (s : WsTransport) : Option WsTransport :=
  if s.mIgnoreLength ≠ 0 then none
  else
    let parsed := parseFrame config.mMaxMessageSize s.mBuffer
    match parsed.frame with
    | none => none
    | some frame =>
      -- the size of a frame can be `0` as well, modulo the range of `size_t`
      if parsed.size = 0 then none else
      let s := { s with mBuffer := parsed.buffer }.recvFrame config frame
      if parsed.size > s.mBuffer.length then
        some { s with mIgnoreLength := parsed.size - s.mBuffer.length, mBuffer := [] }
      else some { s with mBuffer := s.mBuffer.drop parsed.size }

/-- The bytes of the rest of an oversized frame are taken from the buffer. -/
def skipIgnored (s : WsTransport) : WsTransport :=
  let len := min s.mIgnoreLength s.mBuffer.length
  { s with mBuffer := s.mBuffer.drop len, mIgnoreLength := s.mIgnoreLength - len }

/-! ## The loop over the frames -/

/-- The received bytes that are not delivered yet. -/
def setTail (s : WsTransport) (buffer : List UInt8) (ignoreLength : ℕ) : WsTransport :=
  { s with mBuffer := buffer, mIgnoreLength := ignoreLength }

theorem flushPartial_setTail (s : WsTransport) (buffer : List UInt8) (ignoreLength : ℕ) :
    (s.setTail buffer ignoreLength).flushPartial = s.flushPartial.setTail buffer ignoreLength := by
  show (if s.mPartial ≠ [] then _ else _) = (if s.mPartial ≠ [] then _ else s).setTail _ _
  split_ifs <;> rfl

theorem close_setTail (s : WsTransport) (buffer : List UInt8) (ignoreLength : ℕ) :
    (s.setTail buffer ignoreLength).close config =
      (s.close config).setTail buffer ignoreLength := by
  show (if s.state ≠ .connected then _ else if s.mCloseSent then _ else _) =
    (if s.state ≠ .connected then s else if s.mCloseSent then s else _).setTail _ _
  split_ifs <;> rfl

/-- `recvFrame` neither reads nor changes the buffer. -/
theorem recvFrame_setTail (s : WsTransport) (frame : Frame) (buffer : List UInt8)
    (ignoreLength : ℕ) : (s.setTail buffer ignoreLength).recvFrame config frame =
      (s.recvFrame config frame).setTail buffer ignoreLength := by
  simp only [recvFrame, flushPartial_setTail, close_setTail]
  split_ifs <;> rfl

@[simp]
theorem mBuffer_recvFrame (s : WsTransport) (frame : Frame) :
    (s.recvFrame config frame).mBuffer = s.mBuffer := by
  have h := congrArg WsTransport.mBuffer
    (recvFrame_setTail config s frame s.mBuffer s.mIgnoreLength)
  exact h

@[simp]
theorem mIgnoreLength_recvFrame (s : WsTransport) (frame : Frame) :
    (s.recvFrame config frame).mIgnoreLength = s.mIgnoreLength := by
  have h := congrArg WsTransport.mIgnoreLength
    (recvFrame_setTail config s frame s.mBuffer s.mIgnoreLength)
  exact h

theorem consumes_readHeader : Reader.Consumes 2 readHeader := by
  unfold readHeader
  refine (Reader.Consumes.take 2).bind fun start => ?_
  refine Reader.Consumes.bind ?_ fun length => ?_
  · unfold readLength
    split_ifs
    · exact ((Reader.Consumes.take 2).map _).mono (by omega)
    · exact ((Reader.Consumes.take 8).map _).mono (by omega)
    · exact Reader.Consumes.pure _
  · unfold readMaskingKey
    refine Reader.Consumes.map ?_ _
    split_ifs
    · exact ((Reader.Consumes.take 4).map _).mono (by omega)
    · exact Reader.Consumes.pure _

/-- Two bytes, the longest extended length and a masking key. -/
theorem within_readHeader : Reader.Within 14 readHeader := by
  unfold readHeader
  refine ((Reader.Within.take 2).bind (m := 12) fun start => ?_).mono (by decide)
  refine (Reader.Within.bind (n := 8) (m := 4) ?_ fun length => ?_).mono (by decide)
  · unfold readLength
    split_ifs
    · exact ((Reader.Within.take 2).map _).mono (by decide)
    · exact (Reader.Within.take 8).map _
    · exact (Reader.Within.pure _).mono (by decide)
  · unfold readMaskingKey
    refine Reader.Within.map ?_ _
    split_ifs
    · exact (Reader.Within.take 4).map _
    · exact (Reader.Within.pure _).mono (by decide)

theorem stable_readHeader : Reader.Stable readHeader := by
  unfold readHeader
  refine (Reader.Stable.take 2).bind fun start => ?_
  refine Reader.Stable.bind ?_ fun length => ?_
  · unfold readLength
    split_ifs
    · exact (Reader.Stable.take 2).map _
    · exact (Reader.Stable.take 8).map _
    · exact Reader.Stable.pure _
  · unfold readMaskingKey
    refine Reader.Stable.map ?_ _
    split_ifs
    · exact (Reader.Stable.take 4).map _
    · exact Reader.Stable.pure _

theorem stable_readFrame (mMaxMessageSize : UInt64) : Reader.Stable (readFrame mMaxMessageSize) :=
  stable_readHeader.bind fun _ => (Reader.Stable.take _).map _

/-- The frame at the start of the buffer, and what is left of the buffer. -/
theorem readFrame_eq_some {mMaxMessageSize : UInt64} {buffer masked rest : List UInt8}
    {header : Header} (h : readFrame mMaxMessageSize buffer = some ((header, masked), rest)) :
    ∃ head, (2 ≤ head.length ∧ head.length ≤ 14) ∧ buffer = head ++ (masked ++ rest) ∧
      readHeader buffer = some (header, masked ++ rest) ∧
      masked.length = min header.length (maxFrameLength mMaxMessageSize) := by
  obtain ⟨⟨header', afterHeader⟩, hheader, hpayload⟩ := Option.bind_eq_some_iff.1 h
  obtain ⟨⟨payload, rest'⟩, htake, heq⟩ := Option.map_eq_some_iff.1 hpayload
  obtain ⟨hfst, rfl⟩ := Prod.mk.inj heq
  obtain ⟨rfl, rfl⟩ := Prod.mk.inj hfst
  obtain ⟨hlength, rfl⟩ := Reader.take_eq_some_iff.1 htake
  obtain ⟨head, hhead, hsplit⟩ := consumes_readHeader _ _ _ hheader
  obtain ⟨head', hhead', hsplit'⟩ := within_readHeader _ _ _ hheader
  obtain rfl : head = head' := List.append_cancel_right (hsplit.symm.trans hsplit')
  exact ⟨head, ⟨hhead, hhead'⟩, hsplit, hheader, hlength⟩

/-- The declared length is a number of at most eight bytes. -/
theorem length_lt_of_readHeader {buffer rest : List UInt8} {header : Header}
    (h : readHeader buffer = some (header, rest)) : header.length < 18446744073709551616 := by
  obtain ⟨⟨start, afterStart⟩, -, h⟩ := Option.bind_eq_some_iff.1 h
  obtain ⟨⟨length, afterLength⟩, hlength, h⟩ := Option.bind_eq_some_iff.1 h
  obtain ⟨⟨maskingKey, rest'⟩, -, heq⟩ := Option.map_eq_some_iff.1 h
  obtain ⟨rfl, -⟩ := Prod.mk.inj heq
  show length < 18446744073709551616
  have hfield {w : ℕ} (hw : w ≤ 8)
      (hread : Reader.map BigEndian.decode (Reader.take w) afterStart =
        some (length, afterLength)) : length < 18446744073709551616 := by
    obtain ⟨⟨bytes, after⟩, htake, heq⟩ := Option.map_eq_some_iff.1 hread
    obtain ⟨rfl, -⟩ := Prod.mk.inj heq
    obtain ⟨hbytes, -⟩ := Reader.take_eq_some_iff.1 htake
    calc BigEndian.decode bytes < 256 ^ bytes.length := BigEndian.decode_lt bytes
      _ ≤ 256 ^ 8 := Nat.pow_le_pow_right (by decide) (by omega)
  unfold readLength at hlength
  split_ifs at hlength
  · exact hfield (by decide) hlength
  · exact hfield (by decide) hlength
  · obtain ⟨rfl, -⟩ := Prod.mk.inj (Option.some.inj hlength)
    have hbyte := UInt8.toNat_lt (start.getD 1 0 &&& 0x7F)
    omega

/-- The frame that `recvFrame` is given for a header and a payload as it is in the buffer. -/
def Header.frame (header : Header) (masked : List UInt8) : Frame :=
  { opcode := header.opcode, payload := header.unmask masked, fin := header.fin,
    mask := header.mask }

@[simp]
theorem Header.length_unmask (header : Header) (masked : List UInt8) :
    (header.unmask masked).length = masked.length := by
  unfold Header.unmask
  split
  · simp [applyMask]
  · rfl

/-- What `parseFrame` returns for a frame that it reads. -/
theorem parseFrame_of_readFrame {mMaxMessageSize : UInt64} {head masked rest : List UInt8}
    {header : Header} (hread : readFrame mMaxMessageSize (head ++ (masked ++ rest)) =
      some ((header, masked), rest)) :
    parseFrame mMaxMessageSize (head ++ (masked ++ rest)) =
      { size := (head.length + header.length) % 18446744073709551616
        buffer := head ++ header.unmask masked ++ rest
        frame := some (header.frame masked) } := by
  have hheadLength :
      (head ++ (masked ++ rest)).length - masked.length - rest.length = head.length := by
    simp only [List.length_append]
    omega
  have hhead : (head ++ (masked ++ rest)).take head.length = head := List.take_left
  simp only [parseFrame, hread, hheadLength, hhead, Header.frame]

/-- A round delivers the frame at the start of the buffer and removes as many bytes as `parseFrame`
says, unless that is `0`. -/
theorem frameRound_eq {s : WsTransport} {head masked rest : List UInt8} {header : Header}
    (hignore : s.mIgnoreLength = 0) (hbuffer : s.mBuffer = head ++ (masked ++ rest))
    (hread : readFrame config.mMaxMessageSize s.mBuffer = some ((header, masked), rest)) :
    s.frameRound config =
      if (head.length + header.length) % 18446744073709551616 = 0 then none
      else some ((s.recvFrame config (header.frame masked)).setTail
        ((head ++ header.unmask masked ++ rest).drop
          ((head.length + header.length) % 18446744073709551616))
        ((head.length + header.length) % 18446744073709551616 - s.mBuffer.length)) := by
  have hparsed := parseFrame_of_readFrame (hbuffer ▸ hread)
  rw [← hbuffer] at hparsed
  -- the buffer in which the payload is unmasked
  have hset : { s with mBuffer := head ++ header.unmask masked ++ rest } =
      s.setTail (head ++ header.unmask masked ++ rest) 0 := by
    rw [setTail, ← hignore]
  have hlength : (head ++ header.unmask masked ++ rest).length = s.mBuffer.length := by
    simp only [hbuffer, List.length_append, Header.length_unmask, Nat.add_assoc]
  rw [frameRound, if_neg (by simpa using hignore)]
  simp only [hparsed, hset, recvFrame_setTail]
  congr 1
  simp only [setTail, hlength]
  split
  · next hmore => rw [List.drop_eq_nil_of_le (by omega)]
  · next hall => rw [Nat.sub_eq_zero_of_le (by omega)]

/-- A frame whose size is in range is removed. The part of it that is longer than the limit is
removed as well, and what is missing of that part is still to come. -/
theorem frameRound_of_readFrame {s : WsTransport} {head masked rest : List UInt8} {header : Header}
    (hignore : s.mIgnoreLength = 0) (hbuffer : s.mBuffer = head ++ (masked ++ rest))
    (hread : readFrame config.mMaxMessageSize s.mBuffer = some ((header, masked), rest))
    (hfits : head.length + header.length < 18446744073709551616) :
    s.frameRound config = some ((s.recvFrame config (header.frame masked)).setTail
      (rest.drop (header.length - masked.length))
      (header.length - masked.length - rest.length)) := by
  obtain ⟨head', hhead, hbuffer', -, hmasked⟩ := readFrame_eq_some hread
  obtain rfl : head = head' := List.append_cancel_right (hbuffer.symm.trans hbuffer')
  have hlong : masked.length ≤ header.length := by omega
  have hdrop : (head ++ header.unmask masked ++ rest).drop (head.length + header.length) =
      rest.drop (header.length - masked.length) := by
    rw [List.append_assoc, ← List.drop_drop, List.drop_left, List.drop_append,
      List.drop_eq_nil_of_le (by simpa using hlong), Header.length_unmask, List.nil_append]
  have hmissing : head.length + header.length - s.mBuffer.length =
      header.length - masked.length - rest.length := by
    simp only [hbuffer, List.length_append]
    omega
  rw [frameRound_eq config hignore hbuffer hread, Nat.mod_eq_of_lt hfits, if_neg (by omega), hdrop,
    hmissing]

theorem frameRound_of_ignore {s : WsTransport} (h : s.mIgnoreLength ≠ 0) :
    s.frameRound config = none := by
  rw [frameRound, if_pos h]

theorem frameRound_of_incomplete {s : WsTransport}
    (hread : readFrame config.mMaxMessageSize s.mBuffer = none) :
    s.frameRound config = none := by
  simp [frameRound, parseFrame, hread]

/-- What a round does, when it does something: it removes the frame, or, when the size of the frame
is out of range, fewer bytes than the header has. -/
theorem frameRound_cases {s s' : WsTransport} (h : s.frameRound config = some s') :
    ∃ header head masked rest, s.mIgnoreLength = 0 ∧ (2 ≤ head.length ∧ head.length ≤ 14) ∧
      s.mBuffer = head ++ (masked ++ rest) ∧
      readFrame config.mMaxMessageSize s.mBuffer = some ((header, masked), rest) ∧
      (head.length + header.length < 18446744073709551616 ∧
        s' = (s.recvFrame config (header.frame masked)).setTail
          (rest.drop (header.length - masked.length))
          (header.length - masked.length - rest.length) ∨
      18446744073709551616 ≤ head.length + header.length ∧
        ∃ size, size = (head.length + header.length) % 18446744073709551616 ∧ 0 < size ∧
          size < head.length ∧ s' = (s.recvFrame config (header.frame masked)).setTail
            ((head ++ header.unmask masked ++ rest).drop size) 0) := by
  by_cases hignore : s.mIgnoreLength = 0
  · cases hread : readFrame config.mMaxMessageSize s.mBuffer with
    | none =>
      rw [frameRound_of_incomplete config hread] at h
      cases h
    | some read =>
      obtain ⟨⟨header, masked⟩, rest⟩ := read
      obtain ⟨head, hhead, hbuffer, hheader, -⟩ := readFrame_eq_some hread
      refine ⟨header, head, masked, rest, hignore, hhead, hbuffer, rfl, ?_⟩
      rcases Nat.lt_or_ge (head.length + header.length) 18446744073709551616 with hfits | hwraps
      · rw [frameRound_of_readFrame config hignore hbuffer hread hfits] at h
        exact Or.inl ⟨hfits, (Option.some.inj h).symm⟩
      · have hdeclared := length_lt_of_readHeader hheader
        rw [frameRound_eq config hignore hbuffer hread] at h
        split at h
        · cases h
        · next hsize =>
          -- the size is smaller than that of the header, so that nothing is missing
          have hsmall : (head.length + header.length) % 18446744073709551616 < head.length := by
            have hmod := Nat.mod_le (head.length + header.length - 18446744073709551616)
              18446744073709551616
            rw [Nat.mod_eq_sub_mod hwraps]
            omega
          have hzero : (head.length + header.length) % 18446744073709551616 - s.mBuffer.length =
              0 := by
            simp only [hbuffer, List.length_append]
            omega
          rw [hzero] at h
          exact Or.inr ⟨hwraps, _, rfl, Nat.pos_of_ne_zero hsize, hsmall, (Option.some.inj h).symm⟩
  · rw [frameRound_of_ignore config hignore] at h
    cases h

/-- A round takes bytes from the buffer. -/
theorem length_frameRound {s s' : WsTransport} (h : s.frameRound config = some s') :
    s'.mBuffer.length < s.mBuffer.length := by
  obtain ⟨header, head, masked, rest, -, hhead, hbuffer, -, hcases⟩ := frameRound_cases config h
  rcases hcases with ⟨-, rfl⟩ | ⟨-, size, -, hsize, -, rfl⟩
  · simp only [setTail, hbuffer, List.length_drop, List.length_append]
    omega
  · simp only [setTail, hbuffer, List.length_drop, List.length_append, Header.length_unmask]
    omega

/-- The buffer when the loop has ended: `parseFrame` has returned `0`, unless the loop was left
behind a frame that goes on after the buffer. -/
def lastParse (s : WsTransport) : WsTransport :=
  if s.mIgnoreLength ≠ 0 then s
  else { s with mBuffer := (parseFrame config.mMaxMessageSize s.mBuffer).buffer }

/-- The loop of `incoming` over the frames in the buffer. -/
def frameLoop (s : WsTransport) : WsTransport :=
  match _h : s.frameRound config with
  | none => s.lastParse config
  | some s' => frameLoop s'
termination_by s.mBuffer.length
decreasing_by exact length_frameRound config _h

/-! ## Incoming messages -/

/-- What `incoming` does when it stops with an error or is given the null pointer. -/
def disconnect (s : WsTransport) : WsTransport :=
  if s.state = .connected then { s with state := .disconnected }.recv none
  else { s with state := .failed }

/-- The handshake in `incoming`, or the exception that it throws. -/
def acceptHandshake (s : WsTransport) : Except WsHandshake.Error Unit × WsTransport :=
  if s.state ≠ .connecting then (.ok (), s)
  else if config.mIsClient then
    match s.mHandshake.parseHttpResponse config.sha1 s.mBuffer with
    | .error e => (.error e, s)
    | .ok len =>
      if len = 0 then (.ok (), s)
      else (.ok (), { s with state := .connected, mBuffer := s.mBuffer.drop len })
  else
    match s.mHandshake.parseHttpRequest s.mBuffer with
    | (.error e, handshake) => (.error e, { s with mHandshake := handshake })
    | (.ok len, handshake) =>
      let s := { s with mHandshake := handshake }
      if len = 0 then (.ok (), s)
      else
        let s := s.sendHttpResponse config
        (.ok (), { s with state := .connected, mBuffer := s.mBuffer.drop len })

/-- The part of `incoming` for a connected transport. An empty message says that TCP is idle. -/
def receive (s : WsTransport) (message : List UInt8) : WsTransport :=
  if message.length = 0 then
    addOutstandingPing config <| s.outgoingFrame config
      { opcode := .ping, payload := [0, 0, 0, 0], mask := config.mIsClient }
  else
    let s := s.skipIgnored
    if s.mIgnoreLength = 0 then s.frameLoop config else s

/-- `WsTransport::incoming`. -/
def incoming (s : WsTransport) : Option (List UInt8) → WsTransport
  | none => if s.state ≠ .connecting ∧ s.state ≠ .connected then s else s.disconnect
  | some message =>
    if s.state ≠ .connecting ∧ s.state ≠ .connected then s
    else
      match { s with mBuffer := s.mBuffer ++ message }.acceptHandshake config with
      | (.ok (), s) => if s.state = .connected then s.receive config message else s
      | (.error (.requestError _ responseCode), s) =>
        (s.sendHttpError responseCode).disconnect
      | (.error _, s) => s.disconnect

end WsTransport

end Rtc
