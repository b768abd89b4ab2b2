import Mathlib.Data.List.Chain
import QuicRtc.Lib.Consumer
import QuicRtc.Rtp.H264
import QuicRtc.Rtp.H265

/-!
# Frames from RTP packets

`H264RtpDepacketizer::incoming` and `H265RtpDepacketizer::incoming`, which are the same function but
for the `buildFrames` they call: packets are kept in `mRtpBuffer` until one with another timestamp
follows, and the packets before it are made a frame. The callers of `incoming` catch what it throws
and call it again with the next packets.

The loop over the buffer takes the timestamp 0 for none yet, so that the packets of a frame with
this timestamp are taken for the start of the next frame. An exception of `buildFrames` leaves the
packets in the buffer, for the next call to fail in the same way.

* `grouped_iff`: these two apart, `buildFrames` is called once for each frame but the last, whose
  packets are left in the buffer, however the packets are split over calls.
-/

namespace Rtc

/-- A call of `buildFrames`. -/
structure BuildFramesCall where
  packets : List (List UInt8)
  payloadType : UInt8
  timestamp : UInt32
  deriving DecidableEq, Repr

/-- The depacketizer: `H264RtpDepacketizer` or `H265RtpDepacketizer`. -/
inductive Depacketizer.Codec where
  | h264
  | h265
  deriving DecidableEq, Repr

/-- A depacketizer, with the calls of `buildFrames` that it has made. -/
structure Depacketizer where
  codec : Depacketizer.Codec
  mSeparator : Separator
  mRtpBuffer : List (List UInt8) := []
  calls : List BuildFramesCall := []
  deriving DecidableEq, Repr

namespace Depacketizer

/-- `H264RtpDepacketizer::buildFrames` and `H265RtpDepacketizer::buildFrames`. -/
def buildFrames (codec : Codec) (separator : Separator) (call : BuildFramesCall) :
    Except DepacketizerException (List Frame) :=
  match codec with
  | .h264 => H264.buildFrames separator call.packets call.payloadType call.timestamp
  | .h265 => H265.buildFrames separator call.packets call.payloadType call.timestamp

/-- The variables of the loop over the buffer. -/
structure Scan where
  payloadType : UInt8 := 0
  currentTimestamp : UInt32 := 0
  packetsInTimestamp : ℕ := 0
  deriving DecidableEq, Repr

/-- The loop over the buffer. -/
def scan (s : Scan) : List (List UInt8) → Scan
  | [] => s
  | pkt :: pkts =>
    let p := RtpHeader.read pkt
    -- 0 stands for no timestamp yet
    if s.currentTimestamp = 0 then
      scan ⟨p.payloadType, p.timestamp, s.packetsInTimestamp + 1⟩ pkts
    else if s.currentTimestamp ≠ p.timestamp then s
    else scan { s with packetsInTimestamp := s.packetsInTimestamp + 1 } pkts

/-- The next call of `buildFrames`, which is made when the loop over the buffer stops before its
end. -/
def nextCall (mRtpBuffer : List (List UInt8)) : Option BuildFramesCall :=
  let s := scan {} mRtpBuffer
  if s.packetsInTimestamp = mRtpBuffer.length then none
  else some ⟨mRtpBuffer.take s.packetsInTimestamp, s.payloadType, s.currentTimestamp⟩

/-- `buildFrames` is called. -/
def called (d : Depacketizer) (call : BuildFramesCall) : Depacketizer :=
  { d with calls := d.calls ++ [call] }

/-- The packets of a call are erased. -/
def erase (d : Depacketizer) (call : BuildFramesCall) : Depacketizer :=
  { d with mRtpBuffer := d.mRtpBuffer.drop call.packets.length }

/-- The loop over the variables only counts up. -/
theorem le_packetsInTimestamp_scan (s : Scan) (pkts : List (List UInt8)) :
    s.packetsInTimestamp ≤ (scan s pkts).packetsInTimestamp ∧
      (scan s pkts).packetsInTimestamp ≤ s.packetsInTimestamp + pkts.length := by
  induction pkts generalizing s with
  | nil => simp [scan]
  | cons pkt pkts ih =>
    rw [scan]
    split_ifs
    · obtain ⟨hle, hge⟩ := ih ⟨(RtpHeader.read pkt).payloadType, (RtpHeader.read pkt).timestamp,
        s.packetsInTimestamp + 1⟩
      simp only [List.length_cons] at hle hge ⊢
      omega
    · simp
    · obtain ⟨hle, hge⟩ := ih { s with packetsInTimestamp := s.packetsInTimestamp + 1 }
      simp only [List.length_cons] at hle hge ⊢
      omega

/-- A call takes some of the packets, and never all. -/
theorem nextCall_eq_some {pkts : List (List UInt8)} {call : BuildFramesCall}
    (h : nextCall pkts = some call) :
    ∃ n, 0 < n ∧ n < pkts.length ∧ (scan {} pkts).packetsInTimestamp = n ∧
      call = ⟨pkts.take n, (scan {} pkts).payloadType, (scan {} pkts).currentTimestamp⟩ := by
  rw [nextCall] at h
  split_ifs at h with hall
  refine ⟨_, ?_, ?_, rfl, (Option.some.inj h).symm⟩
  · cases pkts with
    | nil => exact absurd rfl hall
    | cons pkt pkts =>
      have hle := (le_packetsInTimestamp_scan ⟨(RtpHeader.read pkt).payloadType,
        (RtpHeader.read pkt).timestamp, 1⟩ pkts).1
      exact hle
  · have hle := (le_packetsInTimestamp_scan {} pkts).2
    simp only [Nat.zero_add] at hle
    exact Nat.lt_of_le_of_ne hle hall

/-- The packets of a call are the first of the buffer. -/
theorem length_erase_lt {d : Depacketizer} {call : BuildFramesCall}
    (h : nextCall d.mRtpBuffer = some call) : (d.erase call).mRtpBuffer.length <
      d.mRtpBuffer.length := by
  obtain ⟨n, hpos, hlt, -, rfl⟩ := nextCall_eq_some h
  simp only [erase, List.length_drop, List.length_take]
  omega

/-- The `while` loop of `incoming`, with the frames that it adds to the messages. -/
def loop (d : Depacketizer) (frames : List Frame) :
    Depacketizer × Except DepacketizerException (List Frame) :=
  match _hcall : nextCall d.mRtpBuffer with
  | none => (d, .ok frames)
  | some call =>
    match buildFrames d.codec d.mSeparator call with
    -- the exception leaves the packets in the buffer
    | .error e => (d.called call, .error e)
    | .ok built => loop ((d.called call).erase call) (frames ++ built)
termination_by d.mRtpBuffer.length
decreasing_by exact length_erase_lt (d := d.called call) _hcall

/-- A message is taken for an RTP packet. -/
def isPacket (message : Message) : Bool :=
  message.type ≠ .control && RtpHeader.sizeOf ≤ message.size

/-- The packets among the messages. -/
def packetsOf (messages : List Message) : List (List UInt8) :=
  (messages.filter isPacket).map Message.data

/-- `incoming`: the control messages, and the frames behind them. -/
def incoming (d : Depacketizer) (messages : List Message) :
    Depacketizer × Except DepacketizerException (List Message × List Frame) :=
  let (d', result) := loop { d with mRtpBuffer := d.mRtpBuffer ++ packetsOf messages } []
  (d', result.map fun frames => (messages.filter (·.type = .control), frames))

/-- The depacketizer after calls of `incoming`. -/
def deliver (d : Depacketizer) (calls : List (List Message)) : Depacketizer :=
  calls.foldl (fun d messages => (d.incoming messages).1) d

/-- The timestamp of a frame: that of its first packet. -/
def frameTimestamp (frame : List (List UInt8)) : UInt32 :=
  (RtpHeader.read (frame.headD [])).timestamp

/-- The call of `buildFrames` for a frame. -/
def callOf (frame : List (List UInt8)) : BuildFramesCall :=
  ⟨frame, (RtpHeader.read (frame.headD [])).payloadType, frameTimestamp frame⟩

/-- The packets of a frame share a timestamp, and adjacent frames have different ones. -/
structure Framed (frames : List (List (List UInt8))) : Prop where
  ne_nil : ∀ frame ∈ frames, frame ≠ []
  same : ∀ frame ∈ frames, ∀ pkt ∈ frame, (RtpHeader.read pkt).timestamp = frameTimestamp frame
  adjacent : frames.IsChain (frameTimestamp · ≠ frameTimestamp ·)

/-- `buildFrames` has been called for each frame but the last, with the packets of the frame and its
timestamp, and the packets of the last frame are left. -/
structure Grouped (frames : List (List (List UInt8))) (d : Depacketizer) : Prop where
  calls : d.calls = frames.dropLast.map callOf
  mRtpBuffer : d.mRtpBuffer = frames.getLast?.getD []

/-! ### The loop over the buffer -/

/-- What stops the loop is not undone by packets that come later. -/
theorem scan_append {s : Scan} {pkts : List (List UInt8)}
    (h : (scan s pkts).packetsInTimestamp ≠ s.packetsInTimestamp + pkts.length)
    (input : List (List UInt8)) : scan s (pkts ++ input) = scan s pkts := by
  induction pkts generalizing s with
  | nil => exact absurd rfl h
  | cons pkt pkts ih =>
    rw [List.cons_append]
    rw [scan] at h ⊢
    rw [scan]
    split_ifs at h ⊢
    · exact ih (by simpa [Nat.add_assoc, Nat.add_comm 1] using h)
    · rfl
    · exact ih (by simpa [Nat.add_assoc, Nat.add_comm 1] using h)

/-- The loop does not stop while it takes the timestamp for none. -/
theorem currentTimestamp_scan {s : Scan} {pkts : List (List UInt8)}
    (h : (scan s pkts).packetsInTimestamp ≠ s.packetsInTimestamp + pkts.length) :
    (scan s pkts).currentTimestamp ≠ 0 := by
  induction pkts generalizing s with
  | nil => exact absurd rfl h
  | cons pkt pkts ih =>
    rw [scan] at h ⊢
    split_ifs at h ⊢ with hzero
    · exact ih (by simpa [Nat.add_assoc, Nat.add_comm 1] using h)
    · exact hzero
    · exact ih (by simpa [Nat.add_assoc, Nat.add_comm 1] using h)

/-- Packets with the timestamp of the loop are counted. -/
theorem scan_same {s : Scan} (hzero : s.currentTimestamp ≠ 0) {pkts : List (List UInt8)}
    (hsame : ∀ pkt ∈ pkts, (RtpHeader.read pkt).timestamp = s.currentTimestamp)
    (rest : List (List UInt8)) :
    scan s (pkts ++ rest) =
      scan { s with packetsInTimestamp := s.packetsInTimestamp + pkts.length } rest := by
  induction pkts generalizing s with
  | nil => rfl
  | cons pkt pkts ih =>
    have hpkt := hsame pkt (List.mem_cons_self ..)
    rw [List.cons_append, scan, if_neg hzero, if_neg (not_not.2 hpkt.symm)]
    have hrest := ih (s := { s with packetsInTimestamp := s.packetsInTimestamp + 1 }) hzero
      fun pkt hmem => hsame pkt (List.mem_cons_of_mem _ hmem)
    rw [hrest, List.length_cons, Nat.add_assoc, Nat.add_comm 1]

/-- A packet with another timestamp stops the loop. -/
theorem scan_stop {s : Scan} (hzero : s.currentTimestamp ≠ 0) {pkt : List UInt8}
    (hne : s.currentTimestamp ≠ (RtpHeader.read pkt).timestamp) (pkts : List (List UInt8)) :
    scan s (pkt :: pkts) = s := by
  rw [scan, if_neg hzero, if_pos hne]

/-- Packets that share a timestamp are all counted. -/
theorem packetsInTimestamp_scan {s : Scan} {t : UInt32} {pkts : List (List UInt8)}
    (hs : s.currentTimestamp = 0 ∨ s.currentTimestamp = t)
    (hsame : ∀ pkt ∈ pkts, (RtpHeader.read pkt).timestamp = t) :
    (scan s pkts).packetsInTimestamp = s.packetsInTimestamp + pkts.length := by
  induction pkts generalizing s with
  | nil => rfl
  | cons pkt pkts ih =>
    have hpkt := hsame pkt (List.mem_cons_self ..)
    have hrest := fun pkt hmem => hsame pkt (List.mem_cons_of_mem _ hmem)
    rw [scan, List.length_cons]
    split_ifs with hzero hne
    · rw [ih (Or.inr hpkt) hrest, Nat.add_assoc, Nat.add_comm 1]
    · exact absurd ((hs.resolve_left hzero).trans hpkt.symm) hne
    · have hcount := ih (s := { s with packetsInTimestamp := s.packetsInTimestamp + 1 }) hs hrest
      rw [hcount, Nat.add_assoc, Nat.add_comm 1]

/-- The packets of one frame are kept. -/
theorem nextCall_same {t : UInt32} {pkts : List (List UInt8)}
    (hsame : ∀ pkt ∈ pkts, (RtpHeader.read pkt).timestamp = t) : nextCall pkts = none := by
  rw [nextCall, packetsInTimestamp_scan (Or.inl rfl) hsame]
  simp

/-- A frame with a timestamp other than 0 is found when a packet of the next frame follows. -/
theorem nextCall_frame {frame : List (List UInt8)} (hne : frame ≠ [])
    (hsame : ∀ pkt ∈ frame, (RtpHeader.read pkt).timestamp = frameTimestamp frame)
    (hzero : frameTimestamp frame ≠ 0) {next : List UInt8}
    (hnext : frameTimestamp frame ≠ (RtpHeader.read next).timestamp) (rest : List (List UInt8)) :
    nextCall (frame ++ next :: rest) = some (callOf frame) := by
  obtain ⟨first, others, rfl⟩ := List.exists_cons_of_ne_nil hne
  have hscan : scan {} (first :: others ++ next :: rest) =
      ⟨(RtpHeader.read first).payloadType, frameTimestamp (first :: others),
        (first :: others).length⟩ := by
    rw [List.cons_append, scan, if_pos rfl,
      scan_same hzero fun pkt hmem => hsame pkt (List.mem_cons_of_mem _ hmem),
      scan_stop hzero hnext, List.length_cons, Nat.add_comm others.length]
    rfl
  rw [nextCall, hscan, if_neg (by simp), List.take_left]
  rfl

theorem nextCall_append {pkts : List (List UInt8)} {call : BuildFramesCall}
    (h : nextCall pkts = some call) (input : List (List UInt8)) :
    nextCall (pkts ++ input) = some call := by
  obtain ⟨n, hpos, hlt, hn, rfl⟩ := nextCall_eq_some h
  have hscan : scan {} (pkts ++ input) = scan {} pkts := by
    apply scan_append
    rw [hn]
    show n ≠ 0 + pkts.length
    omega
  rw [nextCall, hscan, hn, if_neg (by rw [List.length_append]; omega),
    List.take_append_of_le_length hlt.le]

/-! ### Packets in pieces -/

/-- One round of the `while` loop, without an exception. -/
def round (d : Depacketizer) : Option Depacketizer :=
  match nextCall d.mRtpBuffer with
  | none => none
  | some call =>
    match buildFrames d.codec d.mSeparator call with
    | .error _ => none
    | .ok _ => some ((d.called call).erase call)

/-- Packets are added to the buffer. -/
def push (pkts : List (List UInt8)) (d : Depacketizer) : Depacketizer :=
  { d with mRtpBuffer := d.mRtpBuffer ++ pkts }

theorem round_eq_some {d d' : Depacketizer} (h : d.round = some d') :
    ∃ call built, nextCall d.mRtpBuffer = some call ∧
      buildFrames d.codec d.mSeparator call = .ok built ∧ d' = (d.called call).erase call := by
  unfold round at h
  split at h
  · cases h
  · next call hcall =>
    split at h
    · cases h
    · next built hbuilt => exact ⟨call, built, hcall, hbuilt, (Option.some.inj h).symm⟩

theorem round_of_ok {d : Depacketizer} {call : BuildFramesCall} {built : List Frame}
    (hcall : nextCall d.mRtpBuffer = some call)
    (hbuilt : buildFrames d.codec d.mSeparator call = .ok built) :
    d.round = some ((d.called call).erase call) := by
  simp only [round, hcall, hbuilt]

/-- The depacketizer as a consumer of packets. -/
def consumer : Consumer Depacketizer (List UInt8) where
  push := push
  round := round
  pending := fun d => d.mRtpBuffer.length
  pending_round := by
    intro d d' h
    obtain ⟨call, built, hcall, -, rfl⟩ := round_eq_some h
    exact length_erase_lt (d := d.called call) hcall
  push_push := by
    intro first second d
    simp only [push, List.append_assoc]
  round_push := by
    intro input d d' h
    obtain ⟨call, built, hcall, hbuilt, rfl⟩ := round_eq_some h
    rw [round_of_ok (d := push input d) (nextCall_append hcall input) hbuilt]
    obtain ⟨n, -, hlt, -, rfl⟩ := nextCall_eq_some hcall
    simp only [push, called, erase, List.length_take, Nat.min_eq_left hlt.le,
      List.drop_append_of_le_length hlt.le]

/-- `buildFrames` throws on the packets at the start of the buffer. -/
def Throws (d : Depacketizer) : Prop :=
  ∃ call e, nextCall d.mRtpBuffer = some call ∧ buildFrames d.codec d.mSeparator call = .error e

theorem not_throws_of_none {d : Depacketizer} (h : nextCall d.mRtpBuffer = none) : ¬d.Throws := by
  rintro ⟨call, e, hcall, -⟩
  rw [h] at hcall
  cases hcall

theorem run_of_nextCall_eq_none {d : Depacketizer} (h : nextCall d.mRtpBuffer = none) :
    consumer.run d = d := by
  apply Consumer.run_of_none
  show d.round = none
  simp only [round, h]

/-- The packets on which `buildFrames` throws stay at the start of the buffer. -/
theorem Throws.push {d : Depacketizer} (h : d.Throws) (pkts : List (List UInt8)) :
    (push pkts d).Throws := by
  obtain ⟨call, e, hcall, herror⟩ := h
  exact ⟨call, e, nextCall_append hcall pkts, herror⟩

theorem Throws.run_eq {d : Depacketizer} (h : d.Throws) : consumer.run d = d := by
  obtain ⟨call, e, hcall, herror⟩ := h
  apply Consumer.run_of_none
  show d.round = none
  simp only [round, hcall, herror]

theorem loop_of_none {d : Depacketizer} (h : nextCall d.mRtpBuffer = none) (frames : List Frame) :
    d.loop frames = (d, .ok frames) := by
  rw [loop]
  split
  · rfl
  · next hcall => cases h.symm.trans hcall

theorem loop_of_error {d : Depacketizer} {call : BuildFramesCall} {e : DepacketizerException}
    (h : nextCall d.mRtpBuffer = some call)
    (herror : buildFrames d.codec d.mSeparator call = .error e) (frames : List Frame) :
    d.loop frames = (d.called call, .error e) := by
  rw [loop]
  split
  · next hnone => cases h.symm.trans hnone
  · next hcall =>
    obtain rfl := Option.some.inj (h.symm.trans hcall)
    simp only [herror]

theorem loop_of_ok {d : Depacketizer} {call : BuildFramesCall} {built : List Frame}
    (h : nextCall d.mRtpBuffer = some call)
    (hbuilt : buildFrames d.codec d.mSeparator call = .ok built) (frames : List Frame) :
    d.loop frames = ((d.called call).erase call).loop (frames ++ built) := by
  rw [loop]
  split
  · next hnone => cases h.symm.trans hnone
  · next hcall =>
    obtain rfl := Option.some.inj (h.symm.trans hcall)
    simp only [hbuilt]

/-- The `while` loop makes the rounds that are possible, and a call that throws behind them. -/
theorem loop_cases (d : Depacketizer) (frames : List Frame) :
    ¬(consumer.run d).Throws ∧ (d.loop frames).1 = consumer.run d ∨
      (consumer.run d).Throws ∧ ∃ call, (d.loop frames).1 = (consumer.run d).called call := by
  induction d, frames using loop.induct with
  | case1 d frames hcall =>
    rw [run_of_nextCall_eq_none hcall, loop_of_none hcall]
    exact Or.inl ⟨not_throws_of_none hcall, rfl⟩
  | case2 d frames call hcall e herror =>
    have hthrows : d.Throws := ⟨call, e, hcall, herror⟩
    rw [hthrows.run_eq, loop_of_error hcall herror]
    exact Or.inr ⟨hthrows, call, rfl⟩
  | case3 d frames call hcall built hbuilt ih =>
    have hround : consumer.round d = some ((d.called call).erase call) := round_of_ok hcall hbuilt
    rw [Consumer.run_of_some hround, loop_of_ok hcall hbuilt]
    exact ih

theorem incoming_fst (d : Depacketizer) (messages : List Message) :
    (d.incoming messages).1 = (loop (push (packetsOf messages) d) []).1 := rfl

theorem packetsOf_append (first second : List Message) :
    packetsOf (first ++ second) = packetsOf first ++ packetsOf second := by
  simp only [packetsOf, List.filter_append, List.map_append]

/-- However the packets are split, the depacketizer does what it does when they come at once, unless
it stops where `buildFrames` throws. -/
theorem deliver_cases {d : Depacketizer} (hempty : d.mRtpBuffer = [])
    (calls : List (List Message)) :
    ¬(d.deliver calls).Throws ∧ d.deliver calls = consumer.feed d (packetsOf calls.flatten) ∨
      (d.deliver calls).Throws ∧ (consumer.feed d (packetsOf calls.flatten)).Throws := by
  induction calls using List.reverseRecOn with
  | nil =>
    have hnone : nextCall d.mRtpBuffer = none := by
      rw [hempty]
      rfl
    have hfeed : consumer.feed d (packetsOf [].flatten) = d := by
      show consumer.run (push [] d) = d
      have hpush : push [] d = d := by simp only [push, List.append_nil]
      rw [hpush, run_of_nextCall_eq_none hnone]
    rw [hfeed]
    exact Or.inl ⟨not_throws_of_none hnone, rfl⟩
  | append_singleton calls messages ih =>
    have hdeliver : d.deliver (calls ++ [messages]) =
        (loop (push (packetsOf messages) (d.deliver calls)) []).1 := by
      simp only [deliver, List.foldl_append, List.foldl_cons, List.foldl_nil, incoming_fst]
    have hfeed : consumer.feed d (packetsOf (calls ++ [messages]).flatten) =
        consumer.run (push (packetsOf messages) (consumer.feed d (packetsOf calls.flatten))) := by
      rw [List.flatten_append, List.flatten_singleton, packetsOf_append, ← Consumer.feed_feed]
      rfl
    rw [hdeliver, hfeed]
    rcases ih with ⟨-, heq⟩ | ⟨hthrows, hfed⟩
    · -- the present call may be the first to throw
      rw [heq]
      rcases loop_cases (push (packetsOf messages) (consumer.feed d (packetsOf calls.flatten))) []
        with ⟨hfine, hloop⟩ | ⟨hthrows, call, hloop⟩
      · rw [hloop]
        exact Or.inl ⟨hfine, rfl⟩
      · rw [hloop]
        exact Or.inr ⟨hthrows, hthrows⟩
    · -- nothing is done any more
      have hpush := hthrows.push (packetsOf messages)
      have hpush' := hfed.push (packetsOf messages)
      rw [hpush'.run_eq]
      rcases loop_cases (push (packetsOf messages) (d.deliver calls)) [] with
        ⟨hfine, -⟩ | ⟨-, call, hloop⟩
      · rw [hpush.run_eq] at hfine
        exact absurd hpush hfine
      · rw [hloop, hpush.run_eq]
        exact Or.inr ⟨hpush, hpush'⟩

/-! ### Frames -/

/-- A frame has another timestamp than 0, and `buildFrames` does not throw on it. -/
def Fine (codec : Codec) (separator : Separator) (call : BuildFramesCall) : Prop :=
  call.timestamp ≠ 0 ∧ ∃ built, buildFrames codec separator call = .ok built

theorem Framed.tail {frame : List (List UInt8)} {frames : List (List (List UInt8))}
    (h : Framed (frame :: frames)) : Framed frames where
  ne_nil f hf := h.ne_nil f (List.mem_cons_of_mem _ hf)
  same f hf := h.same f (List.mem_cons_of_mem _ hf)
  adjacent := h.adjacent.tail

/-- The first of two frames or more is found. -/
theorem Framed.nextCall_flatten {frame next : List (List UInt8)} {rest : List (List (List UInt8))}
    (h : Framed (frame :: next :: rest)) (hzero : frameTimestamp frame ≠ 0) :
    nextCall (frame :: next :: rest).flatten = some (callOf frame) := by
  have hadjacent := (List.isChain_cons_cons.1 h.adjacent).1
  obtain ⟨pkt, pkts, rfl⟩ := List.exists_cons_of_ne_nil
    (h.ne_nil next (List.mem_cons_of_mem _ (List.mem_cons_self ..)))
  exact nextCall_frame (h.ne_nil frame (List.mem_cons_self ..))
    (h.same frame (List.mem_cons_self ..)) hzero hadjacent _

/-- The packets of frames that come at once, by induction on the frames. -/
theorem run_framed {frames : List (List (List UInt8))} (hframed : Framed frames) :
    ∀ {d : Depacketizer}, (∀ frame ∈ frames.dropLast, Fine d.codec d.mSeparator (callOf frame)) →
      d.mRtpBuffer = frames.flatten →
      consumer.run d =
        { d with
          calls := d.calls ++ frames.dropLast.map callOf
          mRtpBuffer := frames.getLast?.getD [] } := by
  induction frames with
  | nil =>
    intro d _ hbuffer
    have hnone : nextCall d.mRtpBuffer = none := by
      rw [hbuffer]
      rfl
    rw [run_of_nextCall_eq_none hnone]
    obtain ⟨codec, separator, buffer, calls⟩ := d
    obtain rfl : buffer = [] := hbuffer
    simp
  | cons frame frames ih =>
    intro d hfine hbuffer
    cases frames with
    | nil =>
      rw [List.flatten_singleton] at hbuffer
      have hnone : nextCall d.mRtpBuffer = none := by
        rw [hbuffer]
        exact nextCall_same (hframed.same frame (List.mem_cons_self ..))
      rw [run_of_nextCall_eq_none hnone]
      obtain ⟨codec, separator, buffer, calls⟩ := d
      obtain rfl : buffer = frame := hbuffer
      simp
    | cons next rest =>
      rw [List.dropLast_cons_of_ne_nil (List.cons_ne_nil _ _)] at hfine
      obtain ⟨hzero, built, hbuilt⟩ := hfine frame (List.mem_cons_self ..)
      have hcall : nextCall d.mRtpBuffer = some (callOf frame) := by
        rw [hbuffer]
        exact hframed.nextCall_flatten hzero
      have hround : consumer.round d = some ((d.called (callOf frame)).erase (callOf frame)) :=
        round_of_ok hcall hbuilt
      -- the round leaves the packets of the other frames
      have hrest : ((d.called (callOf frame)).erase (callOf frame)).mRtpBuffer =
          (next :: rest).flatten := by
        show d.mRtpBuffer.drop frame.length = _
        rw [hbuffer, List.flatten_cons, List.drop_left]
      rw [Consumer.run_of_some hround,
        ih (d := (d.called (callOf frame)).erase (callOf frame)) hframed.tail
          (fun f hf => hfine f (List.mem_cons_of_mem _ hf)) hrest]
      simp [called, erase]

/-- The packets of the last frame are kept. -/
theorem nextCall_last {frames : List (List (List UInt8))} (hframed : Framed frames) :
    nextCall (frames.getLast?.getD []) = none := by
  cases hlast : frames.getLast? with
  | none => rfl
  | some frame => exact nextCall_same (hframed.same frame (List.mem_of_getLast? hlast))

/-- The calls that do not throw are those of packets with another timestamp than 0. -/
theorem fine_run {codec : Codec} {separator : Separator} {d : Depacketizer}
    (hcodec : d.codec = codec) (hseparator : d.mSeparator = separator) (hcalls : d.calls = []) :
    ∀ call ∈ (consumer.run d).calls, Fine codec separator call := by
  have hrun := consumer.run_invariant (P := fun d => d.codec = codec ∧ d.mSeparator = separator ∧
    ∀ call ∈ d.calls, Fine codec separator call) ?_ ⟨hcodec, hseparator, by simp [hcalls]⟩
  · exact hrun.2.2
  · rintro d d' ⟨rfl, rfl, hfine⟩ hround
    obtain ⟨call, built, hcall, hbuilt, rfl⟩ := round_eq_some hround
    refine ⟨rfl, rfl, fun c hc => ?_⟩
    rcases List.mem_append.1 hc with hold | hnew
    · exact hfine c hold
    · obtain rfl := List.mem_singleton.1 hnew
      refine ⟨?_, built, hbuilt⟩
      obtain ⟨n, -, hlt, hn, heq⟩ := nextCall_eq_some hcall
      rw [heq]
      apply currentTimestamp_scan
      rw [hn]
      show n ≠ 0 + d.mRtpBuffer.length
      omega

/-- However the packets of fine frames are split, they are grouped. -/
theorem deliver_framed {codec : Codec} {separator : Separator}
    {frames : List (List (List UInt8))} (hframed : Framed frames)
    (hfine : ∀ frame ∈ frames.dropLast, Fine codec separator (callOf frame))
    {calls : List (List Message)} (hcalls : packetsOf calls.flatten = frames.flatten) :
    deliver { codec, mSeparator := separator } calls =
      { codec
        mSeparator := separator
        calls := frames.dropLast.map callOf
        mRtpBuffer := frames.getLast?.getD [] } := by
  have hrun := run_framed hframed
    (d := push (packetsOf calls.flatten) { codec, mSeparator := separator }) hfine hcalls
  rcases deliver_cases (d := { codec, mSeparator := separator }) rfl calls with
    ⟨-, heq⟩ | ⟨-, hthrows⟩
  · rw [heq]
    exact hrun
  · -- the packets of the last frame are not enough for an exception
    have hnone : nextCall (consumer.feed { codec, mSeparator := separator }
        (packetsOf calls.flatten)).mRtpBuffer = none :=
      (congrArg (fun d => nextCall d.mRtpBuffer) hrun).trans (nextCall_last hframed)
    exact absurd hthrows (not_throws_of_none hnone)

/-- Frames that are grouped are fine, but for the last. -/
theorem fine_of_grouped {codec : Codec} {separator : Separator}
    {frames : List (List (List UInt8))} (hframed : Framed frames) {calls : List (List Message)}
    (hgrouped : Grouped frames (deliver { codec, mSeparator := separator } calls)) :
    ∀ frame ∈ frames.dropLast, Fine codec separator (callOf frame) := by
  have hnone : nextCall (deliver { codec, mSeparator := separator } calls).mRtpBuffer = none := by
    rw [hgrouped.mRtpBuffer]
    exact nextCall_last hframed
  rcases deliver_cases (d := { codec, mSeparator := separator }) rfl calls with
    ⟨-, heq⟩ | ⟨hthrows, -⟩
  · intro frame hframe
    -- its call is one of those that a run without an exception makes
    apply fine_run (d := push (packetsOf calls.flatten) { codec, mSeparator := separator }) rfl rfl
      rfl
    show callOf frame ∈ (consumer.feed _ _).calls
    rw [← heq, hgrouped.calls]
    exact List.mem_map_of_mem hframe
  · exact absurd hthrows (not_throws_of_none hnone)

/-- For every sequence of frames and every split of their packets over calls of `incoming`, in which
there may be other messages: `buildFrames` is called once for each frame but the last, and the
packets of the last frame are left, as with any other split, exactly when no frame but the last has
the timestamp 0 and `buildFrames` throws on none of them. -/
theorem grouped_iff {codec : Codec} {separator : Separator} {frames : List (List (List UInt8))}
    (hframed : Framed frames) {calls : List (List Message)}
    (hcalls : packetsOf calls.flatten = frames.flatten) :
    (Grouped frames (deliver { codec, mSeparator := separator } calls) ∧
      ∀ calls', packetsOf calls'.flatten = frames.flatten →
        deliver { codec, mSeparator := separator } calls' =
          deliver { codec, mSeparator := separator } calls) ↔
    ∀ frame ∈ frames.dropLast, frameTimestamp frame ≠ 0 ∧
      ∃ built, buildFrames codec separator (callOf frame) = .ok built := by
  constructor
  · rintro ⟨hgrouped, -⟩
    exact fine_of_grouped hframed hgrouped
  · intro hfine
    refine ⟨⟨?_, ?_⟩, fun calls' hcalls' => ?_⟩
    · rw [deliver_framed hframed hfine hcalls]
    · rw [deliver_framed hframed hfine hcalls]
    · rw [deliver_framed hframed hfine hcalls, deliver_framed hframed hfine hcalls']

/-- A packet with a single NAL unit of type 5. -/
def idrPacket (timestamp : UInt8) : List UInt8 :=
  [0x80, 96, 0, 1, 0, 0, 0, timestamp, 0, 0, 0, 1, 0x65]

/-- Two frames, the first in two packets that come in two calls. The last one has the timestamp
0. -/
theorem grouped_iff_twoCalls :
    Grouped [[idrPacket 7, idrPacket 7], [idrPacket 0]]
      (deliver { codec := .h264, mSeparator := .startSequence }
        [[⟨idrPacket 7, .binary, 0, none⟩],
          [⟨idrPacket 7, .binary, 0, none⟩, ⟨idrPacket 0, .binary, 0, none⟩]]) := by
  have hframed : Framed [[idrPacket 7, idrPacket 7], [idrPacket 0]] :=
    ⟨by decide +kernel, by decide +kernel, by decide +kernel⟩
  refine ((grouped_iff hframed (by decide +kernel)).2 fun frame hframe => ?_).1
  obtain rfl : frame = [idrPacket 7, idrPacket 7] := by simpa using hframe
  exact ⟨by decide +kernel, _, rfl⟩

/-- A frame with the timestamp 0 is taken for the start of the next one. -/
theorem not_grouped_zero :
    Framed [[idrPacket 0], [idrPacket 7], [idrPacket 9]] ∧
      (deliver { codec := .h264, mSeparator := .startSequence }
        [[⟨idrPacket 0, .binary, 0, none⟩, ⟨idrPacket 7, .binary, 0, none⟩,
          ⟨idrPacket 9, .binary, 0, none⟩]]).calls = [⟨[idrPacket 0, idrPacket 7], 96, 7⟩] ∧
      ¬Grouped [[idrPacket 0], [idrPacket 7], [idrPacket 9]]
        (deliver { codec := .h264, mSeparator := .startSequence }
          [[⟨idrPacket 0, .binary, 0, none⟩, ⟨idrPacket 7, .binary, 0, none⟩,
            ⟨idrPacket 9, .binary, 0, none⟩]]) := by
  have hcalls : (deliver { codec := .h264, mSeparator := .startSequence }
      [[⟨idrPacket 0, .binary, 0, none⟩, ⟨idrPacket 7, .binary, 0, none⟩,
        ⟨idrPacket 9, .binary, 0, none⟩]]).calls = [⟨[idrPacket 0, idrPacket 7], 96, 7⟩] := by
    show (loop (push [idrPacket 0, idrPacket 7, idrPacket 9]
      { codec := .h264, mSeparator := .startSequence }) []).1.calls = _
    have hcall : nextCall (push [idrPacket 0, idrPacket 7, idrPacket 9]
        { codec := .h264, mSeparator := .startSequence }).mRtpBuffer =
          some ⟨[idrPacket 0, idrPacket 7], 96, 7⟩ := by decide +kernel
    rw [loop_of_ok hcall rfl, loop_of_none (by decide +kernel)]
    rfl
  refine ⟨⟨by decide +kernel, by decide +kernel, by decide +kernel⟩, hcalls, fun h => ?_⟩
  have hgrouped := h.calls
  rw [hcalls] at hgrouped
  revert hgrouped
  decide +kernel

end Depacketizer

end Rtc
