import Mathlib.Data.List.Induction
import QuicRtc.Lib.Consumer
import QuicRtc.WsHandshake.Agreement
import QuicRtc.WsTransport.Codec
import QuicRtc.WsTransport.Incoming

/-!
# Chunks of a WebSocket stream

The effect of a byte stream on `WsTransport::incoming` does not depend on how the stream is cut
into chunks.

* `frames`: the frame loop as an incremental consumer.
* `NoClose`, `state_run`: without a CLOSE frame the transport stays connected.
* `streamed`, `incoming_streamed`: the transport after any part of a stream.
* `incoming_chunks`: two ways to cut the same stream.
-/

namespace Rtc.WsTransport

variable (config : Config)

/-! ## The frame loop as a consumer -/

/-- Bytes are taken from the rest of an oversized frame first. -/
def push (input : List UInt8) (s : WsTransport) : WsTransport :=
  s.setTail ((s.mBuffer ++ input).drop s.mIgnoreLength)
    (s.mIgnoreLength - (s.mBuffer ++ input).length)

theorem push_push (first second : List UInt8) (s : WsTransport) :
    push second (push first s) = push (first ++ second) s := by
  simp only [push, setTail]
  congr 1
  · rw [← List.append_assoc s.mBuffer, @List.drop_append _ (s.mBuffer ++ first)]
    rcases Nat.le_total s.mIgnoreLength (s.mBuffer ++ first).length with hle | hle
    · rw [Nat.sub_eq_zero_of_le hle, List.drop_zero, List.drop_zero]
    · rw [List.drop_eq_nil_of_le hle, List.nil_append, List.nil_append]
  · simp only [List.length_append, List.length_drop]
    omega

/-- A frame that can be delivered is delivered in the same way when more bytes are there. -/
theorem frameRound_push (input : List UInt8) (s s' : WsTransport)
    (h : s.frameRound config = some s') :
    (push input s).frameRound config = some (push input s') := by
  obtain ⟨header, head, masked, rest, hignore, hhead, hbuffer, hread, hcases⟩ :=
    frameRound_cases config h
  have hpush : push input s = s.setTail (s.mBuffer ++ input) 0 := by
    simp [push, hignore]
  have hread' : readFrame config.mMaxMessageSize (s.setTail (s.mBuffer ++ input) 0).mBuffer =
      some ((header, masked), rest ++ input) := stable_readFrame _ _ _ _ hread input
  have hbuffer' : (s.setTail (s.mBuffer ++ input) 0).mBuffer =
      head ++ (masked ++ (rest ++ input)) := by
    simp only [setTail, hbuffer, List.append_assoc]
  rcases hcases with ⟨hfits, rfl⟩ | ⟨-, size, hsize, hpos, hsmall, rfl⟩
  · rw [hpush, frameRound_of_readFrame config rfl hbuffer' hread' hfits, recvFrame_setTail]
    simp only [push, setTail]
    congr 2
    · -- what is missing of the frame is taken from the input
      rw [List.drop_append, List.drop_append]
      rcases Nat.le_total (header.length - masked.length) rest.length with hle | hle
      · rw [Nat.sub_eq_zero_of_le hle, Nat.zero_sub, List.drop_zero, List.drop_zero]
      · rw [List.drop_eq_nil_of_le hle, List.drop_nil, List.nil_append, List.nil_append,
          List.length_nil, Nat.sub_zero]
    · simp only [List.length_append, List.length_drop]
      omega
  · -- the size is out of range, and the buffer holds that many bytes already
    have hlength : size ≤ (head ++ header.unmask masked ++ rest).length := by
      simp only [List.length_append]
      omega
    have hzero : size - (s.setTail (s.mBuffer ++ input) 0).mBuffer.length = 0 := by
      simp only [hbuffer', List.length_append]
      omega
    rw [hpush, frameRound_eq config rfl hbuffer' hread', ← hsize, if_neg (by omega), hzero,
      recvFrame_setTail]
    simp only [push, setTail, List.drop_zero, Nat.zero_sub]
    congr 2
    rw [← List.append_assoc, List.drop_append_of_le_length hlength]

/-- The frame loop. -/
def frames : Consumer WsTransport UInt8 where
  push := push
  round := frameRound config
  pending s := s.mBuffer.length
  pending_round _ _ h := length_frameRound config h
  push_push := push_push
  round_push := frameRound_push config

theorem frameLoop_eq_run (s : WsTransport) :
    s.frameLoop config = ((frames config).run s).lastParse config := by
  induction s using frameLoop.induct config with
  | case1 s h =>
    rw [Consumer.run_of_none (m := frames config) h, frameLoop]
    split
    · rfl
    · next heq => simp [h] at heq
  | case2 s s' h ih =>
    rw [Consumer.run_of_some (m := frames config) h, ← ih, frameLoop]
    split
    · next heq => simp [h] at heq
    · next heq => rw [Option.some.inj (h.symm.trans heq)]

/-- Once it is connected, the transport feeds its frame loop with every chunk. -/
theorem incoming_connected {s : WsTransport} (hstate : s.state = .connected) {chunk : List UInt8}
    (hne : chunk ≠ []) :
    s.incoming config (some chunk) = ((frames config).feed s chunk).lastParse config := by
  have hlength : chunk.length ≠ 0 := by simpa using hne
  have hskip : { s with mBuffer := s.mBuffer ++ chunk }.skipIgnored = push chunk s := by
    simp only [skipIgnored, push, setTail]
    congr 1
    · rcases Nat.le_total s.mIgnoreLength (s.mBuffer ++ chunk).length with hle | hle
      · rw [Nat.min_eq_left hle]
      · rw [Nat.min_eq_right hle, List.drop_length, List.drop_eq_nil_of_le hle]
    · omega
  have hrun : (if (push chunk s).mIgnoreLength = 0 then (push chunk s).frameLoop config
      else push chunk s) = ((frames config).feed s chunk).lastParse config := by
    rw [Consumer.feed, frameLoop_eq_run]
    split
    · rfl
    · next hignore =>
      -- nothing is parsed
      have hnone : (frames config).round ((frames config).push chunk s) = none :=
        frameRound_of_ignore config hignore
      rw [Consumer.run_of_none hnone, lastParse]
      exact (if_pos hignore).symm
  rw [← hrun, ← hskip]
  simp [incoming, acceptHandshake, hstate, receive, hlength]

/-! ## Streams without CLOSE -/

/-- No frame that starts in the bytes is a CLOSE frame or has a length that a signed 64-bit number
cannot hold. The last one may be incomplete. -/
inductive NoClose : List UInt8 → Prop
  | incomplete {bytes : List UInt8} (h : readHeader bytes = none) : NoClose bytes
  | frame {bytes rest : List UInt8} {header : Header}
      (h : readHeader bytes = some (header, rest)) (hopcode : header.opcode ≠ .close)
      (hlength : header.length < 9223372036854775808)
      (hrest : NoClose (rest.drop header.length)) : NoClose bytes

theorem NoClose.nil : NoClose [] := .incomplete (by decide)

/-- The first frame and what follows it. -/
theorem NoClose.of_readHeader {bytes rest : List UInt8} {header : Header} (h : NoClose bytes)
    (hread : readHeader bytes = some (header, rest)) :
    header.opcode ≠ .close ∧ header.length < 9223372036854775808 ∧
      NoClose (rest.drop header.length) := by
  cases h with
  | incomplete hnone =>
    rw [hnone] at hread
    cases hread
  | frame hsome hopcode hlength hrest =>
    obtain ⟨rfl, rfl⟩ := Prod.mk.inj (Option.some.inj (hsome.symm.trans hread))
    exact ⟨hopcode, hlength, hrest⟩

theorem NoClose.of_append {bytes more : List UInt8} (h : NoClose (bytes ++ more)) :
    NoClose bytes := by
  generalize hstream : bytes ++ more = stream at h
  -- along the frames of the longer stream
  induction h generalizing bytes with
  | incomplete hnone =>
    subst hstream
    refine .incomplete ?_
    by_contra hsome
    obtain ⟨⟨header, rest⟩, hread⟩ := Option.ne_none_iff_exists'.1 hsome
    rw [stable_readHeader _ _ _ hread more] at hnone
    cases hnone
  | frame hread hopcode hlength hrest ih =>
    subst hstream
    cases hsome : readHeader bytes with
    | none => exact .incomplete hsome
    | some read =>
      obtain ⟨header, rest⟩ := read
      have hmore := stable_readHeader _ _ _ hsome more
      obtain ⟨rfl, rfl⟩ := Prod.mk.inj (Option.some.inj (hmore.symm.trans hread))
      refine .frame hsome hopcode hlength ?_
      rcases Nat.le_total header.length rest.length with hle | hle
      · exact ih (by rw [List.drop_append_of_le_length hle])
      · rw [List.drop_eq_nil_of_le hle]
        exact .nil

theorem NoClose.of_prefix {bytes stream : List UInt8} (h : NoClose stream)
    (hp : bytes <+: stream) : NoClose bytes := by
  obtain ⟨more, rfl⟩ := hp
  exact h.of_append

/-- Only a CLOSE frame ends the connection. -/
theorem state_recvFrame {s : WsTransport} {frame : Frame} (h : frame.opcode ≠ .close) :
    (s.recvFrame config frame).state = s.state := by
  simp only [recvFrame, flushPartial, close, if_neg h]
  split_ifs <;> rfl

/-- The loop over frames without CLOSE leaves the transport connected, and the rest of the bytes is
again without CLOSE. -/
theorem state_run {s : WsTransport} (hstate : s.state = .connected)
    (hclose : s.mIgnoreLength = 0 → NoClose s.mBuffer) :
    ((frames config).run s).state = .connected ∧
      (((frames config).run s).mIgnoreLength = 0 → NoClose ((frames config).run s).mBuffer) := by
  refine Consumer.run_invariant (frames config)
    (P := fun s => s.state = .connected ∧ (s.mIgnoreLength = 0 → NoClose s.mBuffer)) ?_
    ⟨hstate, hclose⟩
  rintro s s' ⟨hstate, hclose⟩ hround
  obtain ⟨header, head, masked, rest, hignore, hhead, hbuffer, hread, hcases⟩ :=
    frameRound_cases config hround
  obtain ⟨-, -, -, hheader, hmasked⟩ := readFrame_eq_some hread
  obtain ⟨hopcode, hlength, hrest⟩ := (hclose hignore).of_readHeader hheader
  rcases hcases with ⟨-, rfl⟩ | ⟨hwraps, -⟩
  · refine ⟨(state_recvFrame config hopcode).trans hstate, fun _ => ?_⟩
    rw [List.drop_append, List.drop_eq_nil_of_le (by omega), List.nil_append] at hrest
    exact hrest
  · omega

/-- Where the loop has ended in front of such bytes, `parseFrame` has left the buffer alone. -/
theorem lastParse_of_noClose {s : WsTransport} (hround : s.frameRound config = none)
    (hclose : s.mIgnoreLength = 0 → NoClose s.mBuffer) : s.lastParse config = s := by
  unfold lastParse
  split
  · rfl
  · next hignore =>
    rw [not_not] at hignore
    cases hread : readFrame config.mMaxMessageSize s.mBuffer with
    | none => simp [parseFrame, hread]
    | some read =>
      -- a frame of this length would have been delivered
      obtain ⟨⟨header, masked⟩, rest⟩ := read
      obtain ⟨head, hhead, hbuffer, hheader, -⟩ := readFrame_eq_some hread
      obtain ⟨-, hlength, -⟩ := (hclose hignore).of_readHeader hheader
      rw [frameRound_of_readFrame config hignore hbuffer hread (by omega)] at hround
      cases hround

/-- A frame on the wire: any bytes that are read as a header, and the payload that it announces. -/
structure WireFrame where
  head : List UInt8
  header : Header
  payload : List UInt8
  reads : Reader.Reads readHeader head header
  length_payload : payload.length = header.length

/-- The bytes of a frame. -/
def WireFrame.bytes (frame : WireFrame) : List UInt8 := frame.head ++ frame.payload

/-- A frame as `sendFrame` writes it. -/
def WireFrame.ofFrame (frame : Frame) (maskingKey : Vector UInt8 4)
    (h : frame.payload.length < 18446744073709551616) : WireFrame where
  head := WsTransport.header frame ++ keyBytes frame maskingKey
  header := frame.toHeader maskingKey
  payload := maskedPayload frame maskingKey
  reads := reads_header frame maskingKey h
  length_payload := length_maskedPayload frame maskingKey

/-- A frame that is not a CLOSE frame, with a length that a signed 64-bit number can hold. -/
def WireFrame.Allowed (frame : WireFrame) : Prop :=
  frame.header.opcode ≠ .close ∧ frame.header.length < 9223372036854775808

theorem noClose_frames {frames : List WireFrame} {tail : List UInt8}
    (h : ∀ frame ∈ frames, frame.Allowed) (htail : NoClose tail) :
    NoClose (frames.flatMap WireFrame.bytes ++ tail) := by
  induction frames with
  | nil => exact htail
  | cons frame frames ih =>
    have hsplit : (frame :: frames).flatMap WireFrame.bytes ++ tail =
        frame.head ++ (frame.payload ++ (frames.flatMap WireFrame.bytes ++ tail)) := by
      simp [WireFrame.bytes]
    rw [hsplit]
    have hallowed : frame.Allowed := h frame (by simp)
    refine .frame (frame.reads.complete _) hallowed.1 hallowed.2 ?_
    rw [List.drop_append, List.drop_eq_nil_of_le (by rw [frame.length_payload]),
      frame.length_payload, Nat.sub_self, List.nil_append, List.drop_zero]
    exact ih fun frame hmem => h frame (by simp [hmem])

/-- The start of a frame. -/
theorem noClose_start {frame : WireFrame} (h : frame.Allowed) {tail : List UInt8}
    (htail : tail <+: frame.bytes) : NoClose tail := by
  obtain ⟨more, hmore⟩ := htail
  have hframe : NoClose ([frame].flatMap WireFrame.bytes ++ []) := noClose_frames (by simpa) .nil
  rw [List.append_nil, List.flatMap_singleton, ← hmore] at hframe
  exact hframe.of_append

/-! ## The handshake in the stream -/

/-- The bytes are a handshake that the transport accepts, with nothing behind it. -/
def Accepts (s : WsTransport) (handshake : List UInt8) : Prop :=
  handshake ≠ [] ∧
    if config.mIsClient then
      s.mHandshake.parseHttpResponse config.sha1 handshake = .ok handshake.length
    else (s.mHandshake.parseHttpRequest handshake).1 = .ok handshake.length

/-- The transport that has accepted the handshake. -/
def opened (s : WsTransport) (handshake : List UInt8) : WsTransport :=
  if config.mIsClient then { s with state := .connected }
  else
    { { s with mHandshake := (s.mHandshake.parseHttpRequest handshake).2 }.sendHttpResponse config
      with state := .connected }

theorem state_opened (s : WsTransport) (handshake : List UInt8) :
    (s.opened config handshake).state = .connected := by
  unfold opened
  split_ifs <;> rfl

theorem push_opened (s : WsTransport) (handshake input : List UInt8) :
    push input ((s.setTail [] 0).opened config handshake) =
      (s.opened config handshake).setTail input 0 := by
  simp only [push, opened]
  split_ifs
  · simp [setTail]
  · simp [setTail, sendHttpResponse, outgoing]

variable {config}

/-- The transport waits for the end of the handshake. -/
theorem acceptHandshake_waits {s : WsTransport} {handshake p : List UInt8}
    (haccepts : s.Accepts config handshake) (hp : p <+: handshake) (hne : p ≠ handshake)
    (ignoreLength : ℕ) :
    (s.setTail p ignoreLength).acceptHandshake config = (.ok (), s.setTail p ignoreLength) := by
  obtain ⟨hnil, haccepts⟩ := haccepts
  unfold acceptHandshake
  split_ifs with hconnecting hclient
  · rfl
  · rw [if_pos hclient] at haccepts
    have hblock := WsHandshake.isBlock_of_parseHttpResponse hnil haccepts
    have hparse := WsHandshake.parseHttpResponse_waits hblock hp hne config.sha1 s.mHandshake
    simp only [setTail, hparse, if_true]
  · rw [if_neg hclient] at haccepts
    obtain ⟨hmethod, hblock⟩ :=
      WsHandshake.isBlock_of_parseHttpRequest hnil (Prod.ext haccepts rfl)
    have hparse := WsHandshake.parseHttpRequest_waits hblock hmethod hp hne s.mHandshake
    simp only [setTail, hparse, if_true]

/-- The bytes behind the handshake stay in the buffer. -/
theorem acceptHandshake_append {s : WsTransport} {handshake : List UInt8}
    (haccepts : s.Accepts config handshake) (hstate : s.state = .connecting)
    (rest : List UInt8) (ignoreLength : ℕ) :
    (s.setTail (handshake ++ rest) ignoreLength).acceptHandshake config =
      (.ok (), (s.opened config handshake).setTail rest ignoreLength) := by
  obtain ⟨hnil, haccepts⟩ := haccepts
  have hlength : handshake.length ≠ 0 := by simpa using hnil
  have hdrop : (handshake ++ rest).drop handshake.length = rest := List.drop_left
  rw [acceptHandshake, if_neg (by simpa [setTail] using hstate), opened]
  split_ifs with hclient
  · rw [if_pos hclient] at haccepts
    have hblock := WsHandshake.isBlock_of_parseHttpResponse hnil haccepts
    have hparse := WsHandshake.parseHttpResponse_append hblock config.sha1 s.mHandshake rest
    simp only [setTail, hparse, haccepts, if_neg hlength, hdrop]
  · rw [if_neg hclient] at haccepts
    obtain ⟨hmethod, hblock⟩ :=
      WsHandshake.isBlock_of_parseHttpRequest hnil (Prod.ext haccepts rfl)
    have hparse := WsHandshake.parseHttpRequest_append hmethod hblock s.mHandshake rest
    obtain ⟨handshake', hresult⟩ : ∃ handshake', s.mHandshake.parseHttpRequest handshake =
        (.ok handshake.length, handshake') := ⟨_, Prod.ext haccepts rfl⟩
    simp only [setTail, hparse, hresult, if_neg hlength, hdrop, sendHttpResponse, outgoing]

/-! ## Chunks -/

variable (config)

/-- The transport after the first bytes of a stream that starts with a handshake. -/
def streamed (s : WsTransport) (handshake bytes : List UInt8) : WsTransport :=
  if bytes.length < handshake.length then s.setTail bytes 0
  else (frames config).feed ((s.setTail [] 0).opened config handshake)
    (bytes.drop handshake.length)

variable {config}

theorem streamed_inside {s : WsTransport} {handshake p : List UInt8} (hp : p <+: handshake)
    (hne : p ≠ handshake) : s.streamed config handshake p = s.setTail p 0 := by
  have hlength : p.length < handshake.length :=
    Nat.lt_of_le_of_ne hp.length_le fun h => hne (hp.eq_of_length h)
  rw [streamed, if_pos hlength]

theorem streamed_append {s : WsTransport} {handshake q : List UInt8} :
    s.streamed config handshake (handshake ++ q) =
      (frames config).feed ((s.setTail [] 0).opened config handshake) q := by
  rw [streamed, if_neg (by simp), List.drop_left]

/-- A chunk that brings no error. -/
theorem incoming_of_accept {s s' : WsTransport} {chunk : List UInt8}
    (hstate : s.state = .connecting)
    (h : { s with mBuffer := s.mBuffer ++ chunk }.acceptHandshake config = (.ok (), s')) :
    s.incoming config (some chunk) =
      if s'.state = .connected then s'.receive config chunk else s' := by
  have hlive : ¬(s.state ≠ .connecting ∧ s.state ≠ .connected) := fun hdead => hdead.1 hstate
  rw [incoming, if_neg hlive, h]

/-- The bytes that are in the buffer after the handshake. -/
theorem receive_setTail {s : WsTransport} {chunk : List UInt8} (hne : chunk ≠ [])
    (buffer : List UInt8) :
    (s.setTail buffer 0).receive config chunk =
      ((frames config).run (s.setTail buffer 0)).lastParse config := by
  have hlength : chunk.length ≠ 0 := by simpa using hne
  have hskip : (s.setTail buffer 0).skipIgnored = s.setTail buffer 0 := by
    simp [skipIgnored, setTail]
  rw [receive, if_neg hlength, hskip, ← frameLoop_eq_run]
  exact if_pos rfl

/-- The frames behind the handshake leave the transport connected, and the last call of `parseFrame`
leaves the buffer alone. -/
theorem feed_opened {s : WsTransport} {handshake q : List UInt8} (hclose : NoClose q) :
    ((frames config).feed ((s.setTail [] 0).opened config handshake) q).state = .connected ∧
      ((frames config).feed ((s.setTail [] 0).opened config handshake) q).lastParse config =
        (frames config).feed ((s.setTail [] 0).opened config handshake) q := by
  have hpush : (frames config).push q ((s.setTail [] 0).opened config handshake) =
      (s.opened config handshake).setTail q 0 := push_opened config s handshake q
  have hrun := state_run config (s := (s.opened config handshake).setTail q 0)
    (state_opened config s handshake) fun _ => hclose
  rw [Consumer.feed, hpush]
  exact ⟨hrun.1, lastParse_of_noClose config (Consumer.round_run (frames config) _) hrun.2⟩

/-- One more chunk of the stream. -/
theorem incoming_streamed {s : WsTransport} {handshake body p chunk : List UInt8}
    (hstate : s.state = .connecting) (haccepts : s.Accepts config handshake) (hbody : NoClose body)
    (hchunk : chunk ≠ []) (hp : p ++ chunk <+: handshake ++ body) :
    (s.streamed config handshake p).incoming config (some chunk) =
      s.streamed config handshake (p ++ chunk) := by
  have hstart : p <+: handshake ++ body := (List.prefix_append p chunk).trans hp
  rcases Reader.inside_or_covers hstart with ⟨hinside, hne⟩ | ⟨q, hq, rfl⟩
  · rw [streamed_inside hinside hne]
    have hconnecting : (s.setTail p 0).state = .connecting := hstate
    rcases Reader.inside_or_covers hp with ⟨hinside', hne'⟩ | ⟨q, hq, heq⟩
    · -- the handshake is still not complete
      have haccept := acceptHandshake_waits haccepts hinside' hne' 0
      have hwaits : ¬((s.setTail (p ++ chunk) 0).state = .connected) := by
        rw [show (s.setTail (p ++ chunk) 0).state = s.state from rfl, hstate]
        decide
      rw [incoming_of_accept hconnecting haccept, if_neg hwaits, streamed_inside hinside' hne']
    · -- the chunk brings the end of the handshake and the first bytes behind it
      have haccept := acceptHandshake_append haccepts hstate q 0
      rw [← heq] at haccept
      have hconnected : ((s.opened config handshake).setTail q 0).state = .connected :=
        state_opened config s handshake
      have hpush : (s.opened config handshake).setTail q 0 =
          (frames config).push q ((s.setTail [] 0).opened config handshake) :=
        (push_opened config s handshake q).symm
      rw [incoming_of_accept hconnecting haccept, if_pos hconnected, receive_setTail hchunk, heq,
        streamed_append, hpush]
      exact (feed_opened (hbody.of_prefix hq)).2
  · -- the transport is connected
    have hmore : q ++ chunk <+: body := by
      rw [List.append_assoc] at hp
      exact (List.prefix_append_right_inj handshake).1 hp
    have hconnected : (s.streamed config handshake (handshake ++ q)).state = .connected := by
      rw [streamed_append]
      exact (feed_opened (hbody.of_prefix hq)).1
    rw [incoming_connected config hconnected hchunk, streamed_append, List.append_assoc,
      streamed_append, Consumer.feed_feed]
    exact (feed_opened (hbody.of_prefix hmore)).2

variable (config)

/-- The chunks are given to `incoming` one after the other. -/
def deliver (s : WsTransport) (chunks : List (List UInt8)) : WsTransport :=
  chunks.foldl (fun s chunk => s.incoming config (some chunk)) s

variable {config}

/-- The transport after some chunks depends on their bytes only. -/
theorem deliver_eq {s : WsTransport} {handshake body : List UInt8} (hstate : s.state = .connecting)
    (hbuffer : s.mBuffer = []) (hignore : s.mIgnoreLength = 0)
    (haccepts : s.Accepts config handshake) (hbody : NoClose body) {chunks : List (List UInt8)}
    (hchunks : ∀ chunk ∈ chunks, chunk ≠ []) (hp : chunks.flatten <+: handshake ++ body) :
    s.deliver config chunks = s.streamed config handshake chunks.flatten := by
  induction chunks using List.reverseRecOn with
  | nil =>
    have hinside : [] <+: handshake := List.nil_prefix
    rw [List.flatten_nil, streamed_inside hinside haccepts.1.symm, setTail, ← hbuffer, ← hignore]
    rfl
  | append_singleton chunks chunk ih =>
    rw [List.flatten_append, List.flatten_singleton] at hp ⊢
    have hstart : chunks.flatten <+: handshake ++ body := (List.prefix_append _ chunk).trans hp
    have hprevious := ih (fun chunk hmem => hchunks chunk (by simp [hmem])) hstart
    have hlast : s.deliver config (chunks ++ [chunk]) =
        (s.deliver config chunks).incoming config (some chunk) := by
      simp [deliver]
    rw [hlast, hprevious]
    exact incoming_streamed hstate haccepts hbody (hchunks chunk (by simp)) hp

/-- For every stream that consists of a handshake which the transport accepts, frames other than
CLOSE and possibly the start of one more frame, and for every two ways to cut it into chunks that
are not empty, the transport ends in the same state. The state includes the messages delivered, the
replies sent and the unfinished message. -/
theorem incoming_chunks {s : WsTransport} {handshake tail : List UInt8} {wire : List WireFrame}
    (hstate : s.state = .connecting) (hbuffer : s.mBuffer = []) (hignore : s.mIgnoreLength = 0)
    (haccepts : s.Accepts config handshake) (hwire : ∀ frame ∈ wire, frame.Allowed)
    (htail : ∃ frame : WireFrame, frame.Allowed ∧ tail <+: frame.bytes)
    {chunks chunks' : List (List UInt8)} (hchunks : ∀ chunk ∈ chunks, chunk ≠ [])
    (hchunks' : ∀ chunk ∈ chunks', chunk ≠ [])
    (hstream : chunks.flatten = handshake ++ (wire.flatMap WireFrame.bytes ++ tail))
    (hstream' : chunks'.flatten = handshake ++ (wire.flatMap WireFrame.bytes ++ tail)) :
    s.deliver config chunks = s.deliver config chunks' := by
  obtain ⟨last, hlast, htail⟩ := htail
  have hbody : NoClose (wire.flatMap WireFrame.bytes ++ tail) :=
    noClose_frames hwire (noClose_start hlast htail)
  have hprefix : chunks.flatten <+: handshake ++ (wire.flatMap WireFrame.bytes ++ tail) :=
    ⟨[], by rw [List.append_nil, hstream]⟩
  have hprefix' : chunks'.flatten <+: handshake ++ (wire.flatMap WireFrame.bytes ++ tail) :=
    ⟨[], by rw [List.append_nil, hstream']⟩
  rw [deliver_eq hstate hbuffer hignore haccepts hbody hchunks hprefix,
    deliver_eq hstate hbuffer hignore haccepts hbody hchunks' hprefix', hstream, hstream']

/-- A server that gets the request and a text frame in one chunk, or cut in the header of the
frame. -/
theorem incoming_chunks_text :
    let config : Config :=
      { mIsClient := false, mMaxMessageSize := 262144, mMaxOutstandingPings := 0
        sha1 := fun _ => [42], handshakeKey := Vector.replicate 16 7
        maskingKey := fun _ => Vector.replicate 4 9 }
    let s : WsTransport :=
      { state := .connecting, mHandshake := {}, mPartialOpcode := .continuation }
    let request : List UInt8 := bytes "GET / HTTP/1.1\r\nHost: localhost\r\n" ++
      bytes "Connection: Upgrade\r\nUpgrade: websocket\r\n" ++
      bytes "Sec-WebSocket-Version: 13\r\nSec-WebSocket-Key: key\r\n\r\n"
    s.deliver config [request ++ [0x81, 0x82, 1, 2, 3, 4, 105, 107]] =
      s.deliver config [request ++ [0x81], [0x82, 1, 2], [3, 4, 105, 107]] := by
  intro config s request
  let client : WsHandshake :=
    { mHost := bytes "localhost", mPath := bytes "/", mKey := bytes "key" }
  have hrequest : request = Http.block (WsHandshake.requestLines client) := by decide
  have haccepts : s.Accepts config request := by
    have hparse := WsHandshake.parseHttpRequest_requestLines (s := client)
      ⟨by decide, ⟨by decide, by decide⟩, by decide, by decide⟩
      ⟨by decide, forall_mem_of_all (by decide)⟩ ⟨by decide, by decide⟩ (by simp [client]) []
    rw [List.append_nil, ← hrequest] at hparse
    exact ⟨by decide, congrArg Prod.fst hparse⟩
  let frame := WireFrame.ofFrame { opcode := .textFrame, payload := [104, 105] } #v[1, 2, 3, 4]
    (by decide)
  have hframe : frame.Allowed := ⟨by decide, by decide⟩
  have hwire : ∀ f ∈ [frame], f.Allowed := by simpa using hframe
  have hstream : [request ++ [0x81, 0x82, 1, 2, 3, 4, 105, 107]].flatten =
      request ++ ([frame].flatMap WireFrame.bytes ++ []) := by decide
  have hstream' : [request ++ [0x81], [0x82, 1, 2], [3, 4, 105, 107]].flatten =
      request ++ ([frame].flatMap WireFrame.bytes ++ []) := by decide
  exact incoming_chunks rfl rfl rfl haccepts hwire ⟨frame, hframe, List.nil_prefix⟩ (by decide)
    (by decide) hstream hstream'

end Rtc.WsTransport
