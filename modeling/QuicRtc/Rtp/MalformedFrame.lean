import QuicRtc.LocalDescription.Defs
import QuicRtc.Rtp.Grouping

/-!
# Malformed frames

`Track::incoming` catches what a depacketizer throws on a frame and goes on with the next message.
The depacketizer throws between building the frame and erasing its packets, which are built again,
with the same exception, by every later call.

* `Rejects`: a packet on which the loop of `buildFrames` throws, whatever was built before it.
* `Stuck.incoming`: such a packet stays in the buffer, and no frame comes out any more.
* `delivered_iff`: the frames behind a malformed one are delivered only if there is nothing to
  deliver.
-/

namespace Rtc

/-! ## Packets on which the loop throws -/

namespace AddPayload

/-- The loop of `buildFrames` throws on the packet. -/
def Rejects (addPayload : AddPayload) (pkt : List UInt8) : Prop :=
  ∀ accessUnit, ∃ e, addPayload.addPacket accessUnit pkt = .error e

/-- Whether a payload is refused depends on the payload alone. -/
def Uniform (addPayload : AddPayload) : Prop :=
  ∀ accessUnit accessUnit' payload e, addPayload accessUnit payload = .error e →
    addPayload accessUnit' payload = .error e

variable {addPayload : AddPayload}

/-- A packet is refused always or never. -/
theorem Uniform.rejects (h : addPayload.Uniform) {accessUnit pkt : List UInt8}
    {e : DepacketizerException} (herror : addPayload.addPacket accessUnit pkt = .error e) :
    addPayload.Rejects pkt := by
  intro accessUnit'
  refine ⟨e, ?_⟩
  rw [addPacket_eq] at herror ⊢
  -- the size of the padding is the same in both
  cases hsize : rtpPaddingSize pkt with
  | error e' =>
    rw [hsize] at herror
    exact herror
  | ok size =>
    rw [hsize] at herror
    simp only [Except.bind] at herror ⊢
    split_ifs at herror ⊢ with hempty
    exact h _ _ _ _ herror

/-- An exception of the loop is that of one of the packets. -/
theorem Uniform.exists_rejects (h : addPayload.Uniform) {packets : List (List UInt8)}
    {accessUnit : List UInt8} {e : DepacketizerException}
    (herror : addPayload.buildAccessUnit accessUnit packets = .error e) :
    ∃ pkt ∈ packets, addPayload.Rejects pkt := by
  induction packets generalizing accessUnit with
  | nil => cases herror
  | cons pkt packets ih =>
    rw [buildAccessUnit, List.foldlM_cons] at herror
    cases hpkt : addPayload.addPacket accessUnit pkt with
    | error e' => exact ⟨pkt, List.mem_cons_self .., h.rejects hpkt⟩
    | ok next =>
      rw [hpkt] at herror
      change addPayload.buildAccessUnit next packets = .error e at herror
      obtain ⟨pkt', hmem, hrejects⟩ := ih herror
      exact ⟨pkt', List.mem_cons_of_mem _ hmem, hrejects⟩

/-- One such packet is enough. -/
theorem Rejects.buildAccessUnit {pkt : List UInt8} (h : addPayload.Rejects pkt)
    {packets : List (List UInt8)} (hmem : pkt ∈ packets) (accessUnit : List UInt8) :
    ∃ e, addPayload.buildAccessUnit accessUnit packets = .error e := by
  induction packets generalizing accessUnit with
  | nil => cases hmem
  | cons first packets ih =>
    rw [AddPayload.buildAccessUnit, List.foldlM_cons]
    rcases List.mem_cons.1 hmem with rfl | hmem
    · obtain ⟨e, he⟩ := h accessUnit
      rw [he]
      exact ⟨e, rfl⟩
    · cases hfirst : addPayload.addPacket accessUnit first with
      | error e => exact ⟨e, rfl⟩
      | ok next => exact ih hmem next

end AddPayload

/-- Whether the length of a unit is too large does not depend on the units before it. -/
theorem addAggregated_error {separator : Separator} {tooLarge e : DepacketizerException}
    {accessUnit payload : List UInt8}
    (h : addAggregated separator tooLarge accessUnit payload = .error e)
    (accessUnit' : List UInt8) :
    addAggregated separator tooLarge accessUnit' payload = .error e := by
  induction accessUnit, payload using addAggregated.induct separator generalizing accessUnit' with
  | case1 accessUnit high low first rest naluSize hlt =>
    rw [addAggregated, if_pos hlt] at h ⊢
    exact h
  | case2 accessUnit high low first rest naluSize hle ih =>
    rw [addAggregated, if_neg hle] at h ⊢
    exact ih h _
  | case3 accessUnit payload hshort =>
    rw [addAggregated] at h
    · cases h
    · exact hshort

theorem H264.uniform_addPayload (separator : Separator) :
    (H264.addPayload separator).Uniform := by
  intro accessUnit accessUnit' payload e h
  unfold H264.addPayload at h ⊢
  cases payload with
  | nil => exact h
  | cons nalUnitHeader rest =>
    simp only at h ⊢
    split_ifs at h ⊢
    · cases rest with
      | nil => exact h
      | cons nalUnitFragmentHeader data =>
        simp only at h
        split_ifs at h
    · exact addAggregated_error h _
    · exact h

theorem H265.uniform_addPayload (separator : Separator) :
    (H265.addPayload separator).Uniform := by
  intro accessUnit accessUnit' payload e h
  unfold H265.addPayload at h ⊢
  match payload with
  | [] => exact h
  | [_] => exact h
  | first :: second :: rest =>
    simp only at h ⊢
    split_ifs at h ⊢
    · cases rest with
      | nil => exact h
      | cons nalUnitFragmentHeader data =>
        simp only at h
        split_ifs at h
    · exact addAggregated_error h _

namespace Depacketizer

/-- How `buildFrames` takes a payload. -/
def addPayload (codec : Codec) (separator : Separator) : AddPayload :=
  match codec with
  | .h264 => H264.addPayload separator
  | .h265 => H265.addPayload separator

theorem buildFrames_eq (codec : Codec) (separator : Separator) (call : BuildFramesCall) :
    buildFrames codec separator call =
      (addPayload codec separator).buildFrames call.packets call.payloadType call.timestamp := by
  cases codec <;> rfl

theorem uniform_addPayload (codec : Codec) (separator : Separator) :
    (addPayload codec separator).Uniform := by
  cases codec with
  | h264 => exact H264.uniform_addPayload separator
  | h265 => exact H265.uniform_addPayload separator

/-- An exception of `buildFrames` is that of one of the packets. -/
theorem exists_rejects {codec : Codec} {separator : Separator} {call : BuildFramesCall}
    {e : DepacketizerException} (h : buildFrames codec separator call = .error e) :
    ∃ pkt ∈ call.packets, (addPayload codec separator).Rejects pkt := by
  rw [buildFrames_eq, AddPayload.buildFrames] at h
  cases hunit : (addPayload codec separator).buildAccessUnit [] call.packets with
  | error e' => exact (uniform_addPayload codec separator).exists_rejects hunit
  | ok accessUnit =>
    rw [hunit] at h
    cases h

/-- `buildFrames` throws where one of the packets is refused. -/
theorem buildFrames_of_rejects {codec : Codec} {separator : Separator} {pkt : List UInt8}
    (h : (addPayload codec separator).Rejects pkt) {call : BuildFramesCall}
    (hmem : pkt ∈ call.packets) : ∃ e, buildFrames codec separator call = .error e := by
  obtain ⟨e, he⟩ := h.buildAccessUnit hmem []
  refine ⟨e, ?_⟩
  rw [buildFrames_eq, AddPayload.buildFrames, he]
  rfl

/-! ## The buffer -/

/-- The loop over the buffer goes on behind packets that it has all counted. -/
theorem scan_append_of_all {s : Scan} {pkts : List (List UInt8)}
    (h : (scan s pkts).packetsInTimestamp = s.packetsInTimestamp + pkts.length)
    (input : List (List UInt8)) : scan s (pkts ++ input) = scan (scan s pkts) input := by
  induction pkts generalizing s with
  | nil => rfl
  | cons pkt pkts ih =>
    rw [List.cons_append]
    rw [scan] at h ⊢
    rw [scan]
    split_ifs at h ⊢
    · exact ih (by simpa [Nat.add_assoc, Nat.add_comm 1] using h)
    · simp at h
    · exact ih (by simpa [Nat.add_assoc, Nat.add_comm 1] using h)

/-- Packets that did not make a call are all in the call that is made when others follow. -/
theorem mem_of_nextCall_append {pkts input : List (List UInt8)} (hnone : nextCall pkts = none)
    {call : BuildFramesCall} (hcall : nextCall (pkts ++ input) = some call) {pkt : List UInt8}
    (hmem : pkt ∈ pkts) : pkt ∈ call.packets := by
  have hall : (scan {} pkts).packetsInTimestamp = pkts.length := by
    rw [nextCall] at hnone
    by_contra hne
    rw [if_neg hne] at hnone
    cases hnone
  obtain ⟨n, -, -, hn, rfl⟩ := nextCall_eq_some hcall
  have hle : pkts.length ≤ n := by
    rw [← hn, scan_append_of_all (hall.trans (Nat.zero_add _).symm), ← hall]
    exact (le_packetsInTimestamp_scan _ _).1
  show pkt ∈ (pkts ++ input).take n
  rw [List.take_append, List.take_of_length_le hle]
  exact List.mem_append_left _ hmem

/-- What a depacketizer is between the calls of `incoming`: it has no frame to build, or cannot
build it. -/
def Settled (d : Depacketizer) : Prop := nextCall d.mRtpBuffer = none ∨ d.Throws

/-- The `while` loop ends when there is no frame to build, or with an exception. -/
theorem settled_loop (d : Depacketizer) (frames : List Frame) : (d.loop frames).1.Settled := by
  induction d, frames using loop.induct with
  | case1 d frames hcall =>
    rw [loop_of_none hcall]
    exact Or.inl hcall
  | case2 d frames call hcall e herror =>
    rw [loop_of_error hcall herror]
    exact Or.inr ⟨call, e, hcall, herror⟩
  | case3 d frames call hcall built hbuilt ih =>
    rw [loop_of_ok hcall hbuilt]
    exact ih

/-- A packet on which `buildFrames` throws is in the buffer. -/
structure Holds (d : Depacketizer) (pkt : List UInt8) : Prop where
  mem : pkt ∈ d.mRtpBuffer
  rejects : (addPayload d.codec d.mSeparator).Rejects pkt

/-- Only the packets of a frame that was built are erased. -/
theorem Holds.loop {d : Depacketizer} {pkt : List UInt8} (h : d.Holds pkt) (frames : List Frame) :
    (d.loop frames).1.Holds pkt := by
  induction d, frames using loop.induct with
  | case1 d frames hcall =>
    rw [loop_of_none hcall]
    exact h
  | case2 d frames call hcall e herror =>
    rw [loop_of_error hcall herror]
    exact ⟨h.mem, h.rejects⟩
  | case3 d frames call hcall built hbuilt ih =>
    rw [loop_of_ok hcall hbuilt]
    refine ih ⟨?_, h.rejects⟩
    obtain ⟨n, -, hlt, -, rfl⟩ := nextCall_eq_some hcall
    show pkt ∈ d.mRtpBuffer.drop (d.mRtpBuffer.take n).length
    rw [List.length_take, Nat.min_eq_left hlt.le]
    -- the packet is not one of those of the frame
    have hmem := h.mem
    rw [← List.take_append_drop n d.mRtpBuffer, List.mem_append] at hmem
    refine hmem.resolve_left fun htake => ?_
    obtain ⟨e, herror⟩ : ∃ e, buildFrames d.codec d.mSeparator ⟨d.mRtpBuffer.take n, _, _⟩ =
        .error e := buildFrames_of_rejects h.rejects htake
    rw [herror] at hbuilt
    cases hbuilt

/-- A depacketizer that will never build a frame again. -/
structure Stuck (d : Depacketizer) : Prop where
  settled : d.Settled
  holds : ∃ pkt, d.Holds pkt

/-- No frame is built from what is behind such a packet. -/
theorem Stuck.snd_incoming {d : Depacketizer} (h : d.Stuck) {messages : List Message}
    {out : List Message × List Frame} (hout : (d.incoming messages).2 = .ok out) : out.2 = [] := by
  obtain ⟨pkt, hmem, hrejects⟩ := h.holds
  change (loop (push (packetsOf messages) d) []).2.map _ = .ok out at hout
  cases hcall : nextCall (push (packetsOf messages) d).mRtpBuffer with
  | none =>
    rw [loop_of_none hcall] at hout
    cases hout
    rfl
  | some call =>
    obtain ⟨e, herror⟩ : ∃ e, buildFrames d.codec d.mSeparator call = .error e := by
      rcases h.settled with hnone | hthrows
      · exact buildFrames_of_rejects hrejects (mem_of_nextCall_append hnone hcall hmem)
      · obtain ⟨call', e, hcall', herror⟩ := hthrows.push (packetsOf messages)
        rw [← Option.some.inj (hcall'.symm.trans hcall)]
        exact ⟨e, herror⟩
    rw [loop_of_error (d := push (packetsOf messages) d) hcall herror] at hout
    cases hout

/-- A packet on which `buildFrames` throws makes the depacketizer stuck. -/
theorem stuck_incoming {d : Depacketizer} {messages : List Message} {pkt : List UInt8}
    (h : (push (packetsOf messages) d).Holds pkt) : (d.incoming messages).1.Stuck where
  settled := settled_loop _ _
  holds := ⟨pkt, h.loop []⟩

/-- It stays stuck. -/
theorem Stuck.incoming {d : Depacketizer} (h : d.Stuck) (messages : List Message) :
    (d.incoming messages).1.Stuck := by
  obtain ⟨pkt, hmem, hrejects⟩ := h.holds
  exact stuck_incoming ⟨List.mem_append_left _ hmem, hrejects⟩

theorem incoming_codec (d : Depacketizer) (messages : List Message) :
    (d.incoming messages).1.codec = d.codec ∧
      (d.incoming messages).1.mSeparator = d.mSeparator := by
  have hloop : ∀ (d : Depacketizer) (frames : List Frame),
      (d.loop frames).1.codec = d.codec ∧ (d.loop frames).1.mSeparator = d.mSeparator := by
    intro d frames
    induction d, frames using loop.induct with
    | case1 d frames hcall => simp [loop_of_none hcall]
    | case2 d frames call hcall e herror => simp [loop_of_error hcall herror, called]
    | case3 d frames call hcall built hbuilt ih =>
      rw [loop_of_ok hcall hbuilt]
      exact ih
  exact hloop _ _

end Depacketizer

/-! ## The track -/

/-- `Track`, with a depacketizer as its media handler. -/
structure Track where
  direction : LocalDescription.Direction
  handler : Depacketizer
  deriving DecidableEq, Repr

namespace Track

open Depacketizer

/-- `Track::incoming`: what the handler leaves in `messages`, which is pushed into the receive
queue. -/
def incoming (t : Track) (message : Message) : Track × List Message × List Frame :=
  if (t.direction = .sendOnly ∨ t.direction = .inactive) ∧ message.type ≠ .control then (t, [], [])
  else
    match t.handler.incoming [message] with
    | (handler, .ok messages) => ({ t with handler }, messages)
    -- the exception is caught, and its message is logged
    | (handler, .error _) => ({ t with handler }, [], [])

/-- The track after messages, with the frames that came out. -/
def deliver (t : Track) : List Message → Track × List Frame
  | [] => (t, [])
  | message :: messages =>
    let (t', _, frames) := t.incoming message
    let (t'', more) := t'.deliver messages
    (t'', frames ++ more)

/-- A frame on which `buildFrames` throws, and frames behind it, with other timestamps, that make an
access unit each. -/
structure Malformed (codec : Codec) (separator : Separator) (bad : List (List UInt8))
    (later : List (List (List UInt8))) : Prop where
  framed : Framed (bad :: later)
  throws : ∃ e, buildFrames codec separator (callOf bad) = .error e
  other : ∀ frame ∈ later, frameTimestamp frame ≠ frameTimestamp bad
  builds : ∀ frame ∈ later, ∃ built, buildFrames codec separator (callOf frame) = .ok [built]

/-- Each of the frames comes out once, but for the last, which no other follows. -/
def Delivered (codec : Codec) (separator : Separator) (frames : List (List (List UInt8)))
    (built : List Frame) : Prop :=
  List.Forall₂ (fun frame out => buildFrames codec separator (callOf frame) = .ok [out])
    frames.dropLast built

variable {t : Track}

/-- The direction lets packets in. -/
def Receives (t : Track) : Prop := t.direction ≠ .sendOnly ∧ t.direction ≠ .inactive

theorem Receives.incoming_handler (h : t.Receives) (message : Message) :
    (t.incoming message).1 = { t with handler := (t.handler.incoming [message]).1 } := by
  rw [incoming, if_neg (fun hout => hout.1.elim h.1 h.2)]
  split <;> simp_all

theorem Receives.incoming (h : t.Receives) (message : Message) :
    (t.incoming message).1.Receives := by
  rw [h.incoming_handler]
  exact h

/-- Behind a packet on which `buildFrames` throws no frame comes out. -/
theorem deliver_of_stuck (hreceives : t.Receives) (hstuck : t.handler.Stuck)
    (messages : List Message) : (t.deliver messages).2 = [] := by
  induction messages generalizing t with
  | nil => rfl
  | cons message messages ih =>
    have hframes : (t.incoming message).2.2 = [] := by
      rw [Track.incoming, if_neg (fun hout => hout.1.elim hreceives.1 hreceives.2)]
      rcases hincoming : t.handler.incoming [message] with ⟨handler, out | out⟩
      · rfl
      · exact hstuck.snd_incoming (congrArg Prod.snd hincoming)
    have hnext := ih (t := (t.incoming message).1) (hreceives.incoming message) (by
      rw [hreceives.incoming_handler]
      exact hstuck.incoming [message])
    show (t.incoming message).2.2 ++ ((t.incoming message).1.deliver messages).2 = []
    rw [hframes, hnext]
    rfl

/-- A packet on which `buildFrames` throws stays in the buffer of the track. -/
theorem stuck_deliver (hreceives : t.Receives) {pkt : List UInt8} {messages : List Message}
    (hmem : pkt ∈ packetsOf messages)
    (hrejects : (addPayload t.handler.codec t.handler.mSeparator).Rejects pkt) :
    (t.deliver messages).1.handler.Stuck ∧ (t.deliver messages).1.Receives := by
  have hkeep : ∀ (messages : List Message) {t : Track}, t.Receives → t.handler.Stuck →
      (t.deliver messages).1.handler.Stuck ∧ (t.deliver messages).1.Receives := by
    intro messages
    induction messages with
    | nil => exact fun hreceives hstuck => ⟨hstuck, hreceives⟩
    | cons message messages ih =>
      intro t hreceives hstuck
      refine ih (t := (t.incoming message).1) (hreceives.incoming message) ?_
      rw [hreceives.incoming_handler]
      exact hstuck.incoming [message]
  induction messages generalizing t with
  | nil => cases hmem
  | cons message messages ih =>
    have hcodec := incoming_codec t.handler [message]
    rw [← List.singleton_append, packetsOf_append, List.mem_append] at hmem
    rcases hmem with hfirst | hlater
    · refine hkeep messages (t := (t.incoming message).1) (hreceives.incoming message) ?_
      rw [hreceives.incoming_handler]
      exact stuck_incoming ⟨List.mem_append_right _ hfirst, hrejects⟩
    · refine ih (t := (t.incoming message).1) (hreceives.incoming message) hlater ?_
      rw [hreceives.incoming_handler]
      show (addPayload (t.handler.incoming [message]).1.codec _).Rejects pkt
      rw [hcodec.1, hcodec.2]
      exact hrejects

/-- Whatever the track has received before: the frames behind a malformed one come out exactly when
there is none that another follows. -/
theorem delivered_iff (hreceives : t.Receives) {bad : List (List UInt8)}
    {later : List (List (List UInt8))}
    (h : Malformed t.handler.codec t.handler.mSeparator bad later)
    {badMessages laterMessages : List Message} (hbad : packetsOf badMessages = bad)
    (_hlater : packetsOf laterMessages = later.flatten) :
    Delivered t.handler.codec t.handler.mSeparator later
      ((t.deliver badMessages).1.deliver laterMessages).2 ↔ later.length ≤ 1 := by
  obtain ⟨e, herror⟩ := h.throws
  obtain ⟨pkt, hmem, hrejects⟩ := exists_rejects herror
  obtain ⟨hstuck, hreceives'⟩ := stuck_deliver hreceives (hbad ▸ hmem) hrejects
  have hlength : later.length ≤ 1 ↔ later.dropLast = [] := by
    rw [← List.length_eq_zero_iff, List.length_dropLast]
    omega
  -- nothing comes out, so there must be nothing to come
  rw [deliver_of_stuck hreceives' hstuck, Delivered, List.forall₂_nil_right_iff, hlength]

/-- A packet whose payload has the unused type 0. -/
def unknownPacket (timestamp : UInt8) : List UInt8 :=
  [0x80, 96, 0, 1, 0, 0, 0, timestamp, 0, 0, 0, 1, 0x00]

/-- A track that receives H.264. -/
def receiver : Track := ⟨.recvOnly, { codec := .h264, mSeparator := .startSequence }⟩

theorem malformed_unknown (later : List (List (List UInt8)))
    (h : later = [[idrPacket 7]] ∨ later = [[idrPacket 7], [idrPacket 9], [idrPacket 11]]) :
    Malformed .h264 .startSequence [unknownPacket 5] later := by
  rcases h with rfl | rfl
  · exact ⟨⟨by decide +kernel, by decide +kernel, by decide +kernel⟩, ⟨_, rfl⟩,
      by decide +kernel, by simpa using ⟨_, rfl⟩⟩
  · refine ⟨⟨by decide +kernel, by decide +kernel, by decide +kernel⟩, ⟨_, rfl⟩,
      by decide +kernel, ?_⟩
    simp only [List.mem_cons, List.not_mem_nil, or_false, forall_eq_or_imp, forall_eq]
    exact ⟨⟨_, rfl⟩, ⟨_, rfl⟩, ⟨_, rfl⟩⟩

/-- The message of a packet. -/
def messageOf (pkt : List UInt8) : Message := ⟨pkt, .binary, 0, none⟩

/-- One frame behind the malformed one has to wait for the next. -/
theorem delivered_one :
    Delivered .h264 .startSequence [[idrPacket 7]]
      ((receiver.deliver [messageOf (unknownPacket 5)]).1.deliver [messageOf (idrPacket 7)]).2 :=
  (delivered_iff (t := receiver) ⟨by decide, by decide⟩
    (malformed_unknown [[idrPacket 7]] (Or.inl rfl)) (by decide +kernel) (by decide +kernel)).2
    le_rfl

/-- A packet of an unknown type, and three frames of which none comes out. -/
theorem not_delivered_unknown :
    Malformed .h264 .startSequence [unknownPacket 5]
        [[idrPacket 7], [idrPacket 9], [idrPacket 11]] ∧
      ((receiver.deliver [messageOf (unknownPacket 5)]).1.deliver
        [messageOf (idrPacket 7), messageOf (idrPacket 9), messageOf (idrPacket 11)]).2 = [] ∧
      ¬Delivered .h264 .startSequence [[idrPacket 7], [idrPacket 9], [idrPacket 11]]
        ((receiver.deliver [messageOf (unknownPacket 5)]).1.deliver
          [messageOf (idrPacket 7), messageOf (idrPacket 9), messageOf (idrPacket 11)]).2 := by
  have hmalformed := malformed_unknown _ (Or.inr rfl)
  obtain ⟨e, herror⟩ := hmalformed.throws
  obtain ⟨pkt, hmem, hrejects⟩ := exists_rejects herror
  have hreceives : receiver.Receives := ⟨by decide, by decide⟩
  have hpackets : packetsOf [messageOf (unknownPacket 5)] = [unknownPacket 5] := rfl
  obtain ⟨hstuck, hreceives⟩ := stuck_deliver hreceives (hpackets ▸ hmem) hrejects
  have hnone := deliver_of_stuck hreceives hstuck
    [messageOf (idrPacket 7), messageOf (idrPacket 9), messageOf (idrPacket 11)]
  refine ⟨hmalformed, hnone, ?_⟩
  rw [hnone, Delivered, List.forall₂_nil_right_iff]
  exact List.cons_ne_nil _ _

end Track

end Rtc
