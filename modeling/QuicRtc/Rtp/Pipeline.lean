import Mathlib.Control.Monad.Basic
import QuicRtc.MediaHandler
import QuicRtc.Rtcp.ReceivingSession
import QuicRtc.Rtp.H264
import QuicRtc.Rtp.H265
import QuicRtc.Rtp.MalformedFrame
import QuicRtc.Rtp.SplitMessage

/-!
# From track to track

A track that sends video has a packetizer, an `RtcpSrReporter` and an `RtcpNackResponder` on its
chain, and one that receives it a depacketizer and an `RtcpReceivingSession`. `Track::outgoing` and
`Track::incoming` run these chains through `outgoingChain` and `incomingChain`.

The model is of the handlers and of the two functions; between the tracks the messages keep their
order and are told apart as `DtlsSrtpTransport::recvMedia` does it. The limit of the receive queue
is left out, as is what `log` reads.

The main result `track_to_track` is about every run of frames: each of them but the last arrives as
one access unit, in order and with its timestamp, and each report that was asked for is answered.
-/

namespace Rtc

/-- `IsRtcp`. -/
def isRtcp (data : List UInt8) : Bool :=
  if data.length < 8 then false
  else
    let payloadType := data.getD 1 0 &&& 0x7F
    64 ≤ payloadType && payloadType ≤ 95

/-- A packet as `DtlsSrtpTransport::recvMedia` hands it on. -/
def recvMedia (data : List UInt8) : Message where
  data := data
  type := if isRtcp data then .control else .binary
  stream :=
    if isRtcp data then BigEndian.decode ((data.drop 4).take 4)
    else (RtpHeader.read data).ssrc.toNat

/-! ## The sending track -/

/-- The fragments of a codec. -/
def Depacketizer.Codec.format : Depacketizer.Codec → FragmentFormat
  | .h264 => H264.format
  | .h265 => H265.format

/-- What the handlers of the sending track share: the configuration, the reporter and the responder,
and what has been given to the transport. -/
structure SenderState where
  config : RtpPacketizationConfig
  reporter : RtcpSrReporter
  responder : RtcpNackResponder.Storage
  /-- The value of `ntp_time()`. -/
  ntpTime : UInt64 := 0
  wire : List Message := []

/-- What keeps a sending handler from returning. -/
inductive SendFailure where
  | report (f : ReportFailure)
  /-- The fragmentation does not end. -/
  | endless
  deriving DecidableEq, Repr

/-- The effects of the sending handlers. -/
abbrev Sending := ExceptT SendFailure (StateM SenderState)

/-- `transportSend`. -/
def transportSend (messages : List Message) : Sending Unit :=
  modify fun s => { s with wire := s.wire ++ messages }

/-- `H264RtpPacketizer` and `H265RtpPacketizer`. -/
def packetizer (codec : Depacketizer.Codec) (separator : NalUnit.Separator)
    (maxFragmentSize : UInt16) : MediaHandler Sending Unit Message where
  media _ := pure ()
  incoming messages := pure messages
  outgoing messages := do
    let results ← messages.mapM fun message => do
      let nalus := RtpPacketizer.splitMessage message.data separator
      match codec.format.generateFragments maxFragmentSize nalus with
      | none => throw .endless
      | some fragments => do
        let s ← get
        -- each packet takes a sequence number
        set { s with config := s.config.advance fragments.length }
        return (s.config.packets fragments).map Track.messageOf
    return results.flatten

/-- `RtcpSrReporter`. -/
def srReporter : MediaHandler Sending Unit Message where
  media _ := pure ()
  incoming messages := pure messages
  outgoing messages := do
    let s ← get
    match s.reporter.outgoing s.config s.ntpTime messages with
    | (reporter, .ok reports) => do
      set { s with reporter }
      transportSend reports
      return messages
    | (reporter, .error f) => do
      set { s with reporter }
      throw (.report f)

/-- `RtcpNackResponder`. -/
def nackResponder : MediaHandler Sending Unit Message where
  media _ := pure ()
  incoming messages := do
    let s ← get
    match RtcpNackResponder.incoming s.responder messages with
    | .ok packets => do
      transportSend (packets.map Track.messageOf)
      return messages
    | .error f => throw (.report (.fault f))
  outgoing messages := do
    modify fun s => { s with responder := RtcpNackResponder.outgoing s.responder messages }
    return messages

/-- The handlers of the sending track. -/
def senders (codec : Depacketizer.Codec) (separator : NalUnit.Separator)
    (maxFragmentSize : UInt16) : ℕ → MediaHandler Sending Unit Message
  | 0 => packetizer codec separator maxFragmentSize
  | 1 => srReporter
  | _ => nackResponder

/-- A chain of `n + 1` handlers, in their order. -/
def chainOf (n : ℕ) (handler : ℕ) : Option ℕ := if handler < n then some (handler + 1) else none

/-- The track that sends: its direction, and what its handlers are made with. -/
structure SendingTrack where
  direction : LocalDescription.Direction
  codec : Depacketizer.Codec
  separator : NalUnit.Separator
  maxFragmentSize : UInt16

namespace SendingTrack

variable (t : SendingTrack)

/-- `Track::outgoing`, for a track that is open. -/
def outgoing (message : Message) : Sending Bool :=
  if (t.direction = .recvOnly ∨ t.direction = .inactive) ∧ message.type ≠ .control then pure false
  else do
    let chain := MediaHandler.outgoingChain (senders t.codec t.separator t.maxFragmentSize)
      (chainOf 2) 3 0 [message]
    match ← chain.run with
    | none => throw .endless
    | some messages => do
      transportSend messages
      return !messages.isEmpty

/-- What is done for a frame: the timestamp is set, a report is asked for or not, and the message is
sent. -/
def sendFrame (timestamp : UInt32) (report : Bool) (ntpTime : UInt64) (message : List UInt8) :
    Sending Bool := do
  modify fun s =>
    { s with
      config := { s.config with timestamp }
      reporter := if report then s.reporter.setNeedsToReport else s.reporter
      ntpTime }
  t.outgoing ⟨message, .binary, 0, none⟩

end SendingTrack

/-! ## The receiving track -/

/-- What the handlers of the receiving track keep, and what they have sent. -/
structure ReceiverState where
  depacketizer : Depacketizer
  session : RtcpReceivingSession
  sent : List Message := []

/-- What keeps a receiving handler from returning. -/
inductive ReceiveFailure where
  | fault (f : Fault)
  | thrown (e : DepacketizerException)
  deriving DecidableEq, Repr

/-- The effects of the receiving handlers. -/
abbrev Receiving := ExceptT ReceiveFailure (StateM ReceiverState)

/-- A message, with a `FrameInfo` or without. -/
abbrev Item := Message ⊕ Frame

/-- `H264RtpDepacketizer` and `H265RtpDepacketizer`. -/
def depacketizer : MediaHandler Receiving Unit Item where
  media _ := pure ()
  incoming items := do
    let s ← get
    match s.depacketizer.incoming (items.filterMap Sum.getLeft?) with
    | (d, .ok (messages, frames)) => do
      set { s with depacketizer := d }
      return messages.map Sum.inl ++ frames.map Sum.inr
    | (d, .error e) => do
      set { s with depacketizer := d }
      throw (.thrown e)
  outgoing items := pure items

/-- `RtcpReceivingSession`. -/
def receivingSession : MediaHandler Receiving Unit Item where
  media _ := pure ()
  incoming items := do
    let s ← get
    match s.session.incoming (items.filterMap Sum.getLeft?) with
    | .ok out => do
      set { s with session := out.session, sent := s.sent ++ out.sent }
      return out.passed.map Sum.inl
    | .error f => throw (.fault f)
  outgoing items := pure items
  requestKeyframe := some do
    modify fun s => { s with sent := s.sent ++ [s.session.pushPLI] }
    return true
  requestBitrate := some fun bitrate => do
    modify fun s =>
      let session := { s.session with mRequestedBitrate := UInt32.ofNat bitrate }
      { s with session, sent := s.sent ++ [session.pushREMB (UInt32.ofNat bitrate)] }
    return true

/-- The handlers of the receiving track. -/
def receivers : ℕ → MediaHandler Receiving Unit Item
  | 0 => depacketizer
  | _ => receivingSession

namespace ReceivingTrack

/-- `Track::incoming`: what is left of the message for the receive queue. -/
def incoming (direction : LocalDescription.Direction) (s : ReceiverState) (message : Message) :
    Except Fault (ReceiverState × List Item) :=
  if (direction = .sendOnly ∨ direction = .inactive) ∧ message.type ≠ .control then .ok (s, [])
  else
    let chain := MediaHandler.incomingChain receivers (chainOf 1) 2 0 [Sum.inl message]
    match chain.run.run s with
    | (.ok (some items), s') => .ok (s', items)
    | (.ok none, _) => .error .outOfFuel
    | (.error (.fault f), _) => .error f
    -- the exception is caught, and its message is logged
    | (.error (.thrown _), s') => .ok (s', [])

/-- The messages one after the other. -/
def deliver (direction : LocalDescription.Direction) (s : ReceiverState) :
    List Message → Except Fault (ReceiverState × List Item)
  | [] => .ok (s, [])
  | message :: messages => do
    let (s', items) ← incoming direction s message
    let (s'', more) ← deliver direction s' messages
    return (s'', items ++ more)

end ReceivingTrack

/-! ## Sending -/

section Run

variable {σ ε α β : Type} {x : ExceptT ε (StateM σ) α} {next : α → ExceptT ε (StateM σ) β}
  {s s' : σ}

/-- Going on after a handler that returns. -/
theorem run_bind_of_ok {a : α} (h : x.run s = (.ok a, s')) :
    (x >>= next).run s = (next a).run s' := by
  show (match x.run s with | (result, s') => ExceptT.bindCont next result s') = _
  rw [h]
  rfl

/-- Nothing more is done after an exception. -/
theorem run_bind_of_error {e : ε} (h : x.run s = (.error e, s')) :
    (x >>= next).run s = (.error e, s') := by
  show (match x.run s with | (result, s') => ExceptT.bindCont next result s') = _
  rw [h]
  rfl

end Run

section Sending

variable {codec : Depacketizer.Codec} {separator : NalUnit.Separator} {maxFragmentSize : UInt16}

theorem chain_senders : LinkedChain.Chain (chainOf 2) 0 [0, 1, 2] :=
  .cons rfl (.cons rfl (.last rfl))

theorem chain_receivers : LinkedChain.Chain (chainOf 1) 0 [0, 1] := .cons rfl (.last rfl)

/-- The packetizer at a message. -/
theorem run_packetizer (s : SenderState) {message : Message} {fragments : List (List UInt8)}
    (h : codec.format.generateFragments maxFragmentSize
      (RtpPacketizer.splitMessage message.data separator) = some fragments) :
    ((packetizer codec separator maxFragmentSize).outgoing [message]).run s =
      (.ok ((s.config.packets fragments).map Track.messageOf),
        { s with config := s.config.advance fragments.length }) := by
  simp only [packetizer, List.mapM_cons, List.mapM_nil, h]
  show (Except.ok ([(s.config.packets fragments).map Track.messageOf].flatten), _) = _
  rw [List.flatten_singleton]

/-- The report that is asked for. -/
def reportsOf (reporter : RtcpSrReporter) (config : RtpPacketizationConfig) (ntpTime : UInt64)
    (messages : List Message) : List Message :=
  let counted := messages.foldl RtcpSrReporter.count reporter
  if reporter.needsToReport then
    [⟨({ counted with needsToReport := false }.senderReport config ntpTime
      config.timestamp).toBytes, .control, 0, none⟩]
  else []

/-- The reporter at a batch. -/
theorem outgoing_reporter (reporter : RtcpSrReporter) (config : RtpPacketizationConfig)
    (hname : config.cname.length ≤ 255) (ntpTime : UInt64) (messages : List Message) :
    ∃ reporter', reporter'.needsToReport = false ∧
      reporter.outgoing config ntpTime messages =
        (reporter', .ok (reportsOf reporter config ntpTime messages)) := by
  have hflag := reporter.needsToReport_foldl messages
  unfold RtcpSrReporter.outgoing reportsOf
  dsimp only
  rw [hflag]
  cases hneeds : reporter.needsToReport with
  | true =>
    rw [if_pos rfl, RtcpSrReporter.getSenderReport_eq _ _ _ _ hname]
    exact ⟨_, rfl, rfl⟩
  | false => exact ⟨_, hflag.trans hneeds, rfl⟩

/-- It passes the messages on, behind the report. -/
theorem run_srReporter (s : SenderState) (messages : List Message)
    (hname : s.config.cname.length ≤ 255) :
    ∃ reporter, reporter.needsToReport = false ∧
      (srReporter.outgoing messages).run s =
        (.ok messages, { s with
          reporter
          wire := s.wire ++ reportsOf s.reporter s.config s.ntpTime messages }) := by
  obtain ⟨reporter, hflag, hout⟩ := outgoing_reporter s.reporter s.config hname s.ntpTime messages
  refine ⟨reporter, hflag, ?_⟩
  simp only [srReporter]
  show (match s.reporter.outgoing s.config s.ntpTime messages with
    | (reporter, .ok reports) => _
    | (reporter, .error f) => _ : Sending (List Message)) s = _
  rw [hout]
  rfl

/-- The track sends the report and then the packets. -/
theorem run_outgoing (t : SendingTrack) (s : SenderState) (message : Message)
    {fragments : List (List UInt8)} (hsends : ¬(t.direction = .recvOnly ∨ t.direction = .inactive))
    (hname : s.config.cname.length ≤ 255)
    (h : t.codec.format.generateFragments t.maxFragmentSize
      (RtpPacketizer.splitMessage message.data t.separator) = some fragments) :
    ∃ sent s', (t.outgoing message).run s = (.ok sent, s') ∧
      s'.config = s.config.advance fragments.length ∧ s'.reporter.needsToReport = false ∧
      s'.wire = s.wire ++ (reportsOf s.reporter (s.config.advance fragments.length) s.ntpTime
        ((s.config.packets fragments).map Track.messageOf) ++
          (s.config.packets fragments).map Track.messageOf) := by
  have hchain := (MediaHandler.visits chain_senders (le_refl 3)).outgoingChain Sending Unit Message
    (senders t.codec t.separator t.maxFragmentSize) [message]
  have hpacketizer := run_packetizer s h
  generalize (s.config.packets fragments).map Track.messageOf = packets at hpacketizer ⊢
  obtain ⟨reporter, hneeds, hreporter⟩ := run_srReporter
    { s with config := s.config.advance fragments.length } packets hname
  -- the three handlers one after the other
  obtain ⟨s', hrun, hconfig, hflag, hwire⟩ : ∃ s', ([0, 1, 2].foldlM (fun messages h =>
        (senders t.codec t.separator t.maxFragmentSize h).outgoing messages) [message]).run s =
          (.ok packets, s') ∧
      s'.config = s.config.advance fragments.length ∧ s'.reporter.needsToReport = false ∧
      s'.wire = s.wire ++ reportsOf s.reporter (s.config.advance fragments.length) s.ntpTime
        packets := by
    simp only [List.foldlM_cons, List.foldlM_nil]
    exact ⟨_, (run_bind_of_ok hpacketizer).trans ((run_bind_of_ok hreporter).trans rfl), rfl,
      hneeds, rfl⟩
  have hlift : (OptionT.lift ([0, 1, 2].foldlM (fun messages h =>
      (senders t.codec t.separator t.maxFragmentSize h).outgoing messages) [message])).run.run s =
        (.ok (some packets), s') := by
    rw [OptionT.run_lift, run_bind_of_ok hrun]
    rfl
  refine ⟨!packets.isEmpty, { s' with wire := s'.wire ++ packets }, ?_, hconfig, hflag, ?_⟩
  · unfold SendingTrack.outgoing
    rw [if_neg (fun hout => hsends hout.1), hchain, run_bind_of_ok hlift]
    rfl
  · show s'.wire ++ packets = _
    rw [hwire, List.append_assoc]

end Sending

/-! ### Frames -/

/-- The units that a codec sends. -/
def Depacketizer.Codec.ValidNalu : Depacketizer.Codec → List UInt8 → Prop
  | .h264 => H264.ValidNalu
  | .h265 => H265.ValidNalu

/-- A frame to be sent: units that the packetizer can tell apart, and the message that they make
up. -/
structure VideoFrame (codec : Depacketizer.Codec) (separator : NalUnit.Separator) where
  units : List (List UInt8)
  message : List UInt8
  timestamp : UInt32
  /-- Whether a report is asked for, and the time at which it is made. -/
  report : Bool
  ntpTime : UInt64
  units_ne_nil : units ≠ []
  valid : ∀ unit ∈ units, codec.ValidNalu unit
  separates : ∀ unit ∈ units, separator.Separates unit
  joined : Joined separator units message
  timestamp_ne_zero : timestamp ≠ 0

/-- All frames of a run. -/
def SendingTrack.sendAll (t : SendingTrack) : List (VideoFrame t.codec t.separator) → Sending Unit
  | [] => pure ()
  | frame :: frames => do
    let _ ← t.sendFrame frame.timestamp frame.report frame.ntpTime frame.message
    t.sendAll frames

theorem Depacketizer.Codec.ValidNalu.ne_nil {codec : Depacketizer.Codec} {nalu : List UInt8}
    (h : codec.ValidNalu nalu) : nalu ≠ [] := by
  cases codec with
  | h264 => exact H264.ValidNalu.ne_nil h
  | h265 => exact H265.ValidNalu.ne_nil h

/-- The configuration at the time of a frame. -/
def configAt (config : RtpPacketizationConfig) (sequenceNumber : UInt16) (timestamp : UInt32) :
    RtpPacketizationConfig :=
  { config with sequenceNumber, timestamp }

/-- What is sent for a frame: the report that was asked for, and the packets. -/
def Carried (t : SendingTrack) (config : RtpPacketizationConfig)
    (frame : VideoFrame t.codec t.separator) (sent : List Message × List (List UInt8)) : Prop :=
  ∃ reporter n m groups, List.Forall₂ (t.codec.format.Sent t.maxFragmentSize) frame.units groups ∧
    sent.2 = (configAt config n frame.timestamp).packets groups.flatten ∧
    sent.1 = if frame.report then [⟨(RtcpSrReporter.senderReport reporter
      (configAt config m frame.timestamp) frame.ntpTime frame.timestamp).toBytes, .control, 0,
        none⟩] else []

section Sending

variable {t : SendingTrack} {config : RtpPacketizationConfig} {s : SenderState}

/-- A frame is sent. -/
theorem run_sendFrame (hsends : ¬(t.direction = .recvOnly ∨ t.direction = .inactive))
    (hmax : 2 * t.codec.format.overhead.toNat ≤ t.maxFragmentSize.toNat)
    (hname : config.cname.length ≤ 255) {n : UInt16} {timestamp : UInt32}
    (hconfig : s.config = configAt config n timestamp) (hneeds : s.reporter.needsToReport = false)
    (frame : VideoFrame t.codec t.separator) :
    ∃ returned s' sent n', (t.sendFrame frame.timestamp frame.report frame.ntpTime
        frame.message).run s = (.ok returned, s') ∧
      s'.config = configAt config n' frame.timestamp ∧ s'.reporter.needsToReport = false ∧
      Carried t config frame sent ∧ s'.wire = s.wire ++ (sent.1 ++ sent.2.map Track.messageOf) := by
  have hsplit := RtpPacketizer.splitMessage_joined frame.units_ne_nil
    (fun unit hunit => (frame.valid unit hunit).ne_nil) frame.separates frame.joined
  obtain ⟨groups, hgroups, hsent⟩ := t.codec.format.generateFragments_eq hmax frame.units
  rw [← hsplit] at hgroups
  -- the state in which the chain is entered
  let asked : RtcpSrReporter := if frame.report then s.reporter.setNeedsToReport else s.reporter
  let entered : SenderState :=
    { s with
      config := { s.config with timestamp := frame.timestamp }
      reporter := asked
      ntpTime := frame.ntpTime }
  have hentered : entered.config = configAt config n frame.timestamp := by
    show { s.config with timestamp := frame.timestamp } = _
    rw [hconfig]
    rfl
  have hname' : entered.config.cname.length ≤ 255 := by
    rw [hentered]
    exact hname
  obtain ⟨returned, s', hrun, hconfig', hneeds', hwire⟩ := run_outgoing t entered
    ⟨frame.message, .binary, 0, none⟩ hsends hname' hgroups
  have hasked : asked.needsToReport = frame.report := by
    show (if frame.report then s.reporter.setNeedsToReport else s.reporter).needsToReport = _
    cases frame.report with
    | true => rfl
    | false => exact hneeds
  rw [hentered] at hconfig' hwire
  generalize hpackets : (configAt config n frame.timestamp).packets groups.flatten = packets
    at hwire
  let config' := configAt config (n + UInt16.ofNat groups.flatten.length) frame.timestamp
  obtain ⟨reporter, hreports⟩ : ∃ reporter,
      reportsOf asked config' frame.ntpTime (packets.map Track.messageOf) =
        if frame.report then [⟨(RtcpSrReporter.senderReport reporter config' frame.ntpTime
          frame.timestamp).toBytes, .control, 0, none⟩] else [] := by
    rw [reportsOf, hasked]
    exact ⟨_, rfl⟩
  exact ⟨returned, s', (_, packets), _, hrun, hconfig', hneeds',
    ⟨reporter, n, _, groups, hsent, hpackets.symm, hreports⟩, hwire⟩

/-- A run of frames, by induction on them. -/
theorem run_sendAll (hsends : ¬(t.direction = .recvOnly ∨ t.direction = .inactive))
    (hmax : 2 * t.codec.format.overhead.toNat ≤ t.maxFragmentSize.toNat)
    (hname : config.cname.length ≤ 255) {n : UInt16} {timestamp : UInt32}
    (hconfig : s.config = configAt config n timestamp) (hneeds : s.reporter.needsToReport = false)
    (frames : List (VideoFrame t.codec t.separator)) :
    ∃ s' sents, (t.sendAll frames).run s = (.ok (), s') ∧
      List.Forall₂ (Carried t config) frames sents ∧
      s'.wire = s.wire ++ sents.flatMap fun sent => sent.1 ++ sent.2.map Track.messageOf := by
  induction frames generalizing s n timestamp with
  | nil => exact ⟨s, [], rfl, .nil, (List.append_nil _).symm⟩
  | cons frame frames ih =>
    obtain ⟨returned, s₁, sent, n', hrun, hconfig₁, hneeds₁, hcarried, hwire⟩ :=
      run_sendFrame hsends hmax hname hconfig hneeds frame
    obtain ⟨s', sents, hrest, hcarried', hwire'⟩ := ih hconfig₁ hneeds₁
    refine ⟨s', sent :: sents, ?_, .cons hcarried hcarried', ?_⟩
    · rw [SendingTrack.sendAll, run_bind_of_ok hrun, hrest]
    · rw [hwire', hwire, List.flatMap_cons, List.append_assoc]

end Sending

/-! ## What a depacketizer gives out -/

namespace Depacketizer

/-- The frames that come out of calls of `incoming`, which are none if an exception is thrown. -/
def outputs (d : Depacketizer) : List (List Message) → List Frame
  | [] => []
  | messages :: calls =>
    (match (d.incoming messages).2 with
      | .ok (_, frames) => frames
      | .error _ => []) ++ (d.incoming messages).1.outputs calls

/-- The frames that are built by calls. -/
def Builds (codec : Codec) (separator : Separator) (calls : List BuildFramesCall)
    (built : List (List Frame)) : Prop :=
  List.Forall₂ (fun call frames => buildFrames codec separator call = .ok frames) calls built

/-- The loop adds what is built, by induction on its rounds. -/
theorem loop_built (d : Depacketizer) (frames : List Frame) :
    ((d.loop frames).1.Throws ∧ ∃ e, (d.loop frames).2 = .error e) ∨
      ∃ calls built, (d.loop frames).2 = .ok (frames ++ built.flatten) ∧
        (d.loop frames).1.calls = d.calls ++ calls ∧ Builds d.codec d.mSeparator calls built := by
  induction d, frames using loop.induct with
  | case1 d frames hcall =>
    rw [loop_of_none hcall]
    exact Or.inr ⟨[], [], by simp, (List.append_nil _).symm, .nil⟩
  | case2 d frames call hcall e herror =>
    rw [loop_of_error hcall herror]
    exact Or.inl ⟨⟨call, e, hcall, herror⟩, e, rfl⟩
  | case3 d frames call hcall built hbuilt ih =>
    rw [loop_of_ok hcall hbuilt]
    refine ih.imp_right ?_
    rintro ⟨calls, more, hresult, hcalls, hbuilds⟩
    refine ⟨call :: calls, built :: more, ?_, ?_, .cons hbuilt hbuilds⟩
    · rw [hresult, List.flatten_cons, List.append_assoc]
    · rw [hcalls]
      exact List.append_assoc d.calls [call] calls

/-- A depacketizer on which `buildFrames` throws goes on throwing. -/
theorem Throws.deliver {d : Depacketizer} (h : d.Throws) (calls : List (List Message)) :
    (d.deliver calls).Throws := by
  induction calls generalizing d with
  | nil => exact h
  | cons messages calls ih =>
    refine ih (d := (d.incoming messages).1) ?_
    have hpush := h.push (packetsOf messages)
    rw [incoming_fst]
    rcases loop_cases (Depacketizer.push (packetsOf messages) d) [] with
      ⟨hfine, -⟩ | ⟨-, call, hloop⟩
    · rw [hpush.run_eq] at hfine
      exact absurd hpush hfine
    · rw [hloop, hpush.run_eq]
      exact hpush

/-- What comes out has been built by the calls. -/
theorem outputs_eq {d : Depacketizer} {calls : List (List Message)}
    (hfine : ¬(d.deliver calls).Throws) :
    ∃ made built, d.outputs calls = built.flatten ∧ (d.deliver calls).calls = d.calls ++ made ∧
      Builds d.codec d.mSeparator made built := by
  induction calls generalizing d with
  | nil => exact ⟨[], [], rfl, (List.append_nil _).symm, .nil⟩
  | cons messages calls ih =>
    obtain ⟨made, built, houtputs, hcalls, hbuilds⟩ := ih (d := (d.incoming messages).1) hfine
    obtain ⟨hcodec, hseparator⟩ := incoming_codec d messages
    rw [hcodec, hseparator] at hbuilds
    have hincoming : (d.incoming messages).2 = (loop (push (packetsOf messages) d) []).2.map
        fun frames => (messages.filter (·.type = .control), frames) := rfl
    rcases loop_built (push (packetsOf messages) d) [] with
      ⟨hthrows, -⟩ | ⟨made', built', hresult, hcalls', hbuilds'⟩
    · exact absurd (Throws.deliver hthrows calls) hfine
    · refine ⟨made' ++ made, built' ++ built, ?_, ?_, List.rel_append hbuilds' hbuilds⟩
      · rw [outputs, hincoming, hresult, houtputs, List.flatten_append]
        rfl
      · rw [← List.append_assoc]
        exact hcalls.trans (congrArg (· ++ made) hcalls')

end Depacketizer

/-! ## Receiving -/

namespace ReceivingTrack

open RtcpReceivingSession Depacketizer

variable {direction : LocalDescription.Direction} {s : ReceiverState}

/-- The session passes media on to the depacketizer, and its frames are left for the queue. -/
theorem incoming_eq (hreceives : ¬(direction = .sendOnly ∨ direction = .inactive))
    {message : Message} {out : Output} (hsession : s.session.incoming [message] = .ok out)
    (hpassed : ∀ m ∈ out.passed, m.type ≠ .control) :
    incoming direction s message =
      .ok (⟨(s.depacketizer.incoming out.passed).1, out.session, s.sent ++ out.sent⟩,
        (match (s.depacketizer.incoming out.passed).2 with
          | .ok (_, frames) => frames
          | .error _ => []).map Sum.inr) := by
  have hchain := (MediaHandler.visits chain_receivers (le_refl 2)).incomingChain Receiving Unit Item
    receivers [Sum.inl message]
  have hsessionRun : (receivingSession.incoming [Sum.inl message]).run s =
      (.ok (out.passed.map Sum.inl),
        { s with session := out.session, sent := s.sent ++ out.sent }) := by
    show (match s.session.incoming [message] with
      | .ok out => _
      | .error f => _ : Receiving (List Item)) s = _
    rw [hsession]
    rfl
  have hitems : (out.passed.map (Sum.inl : Message → Item)).filterMap Sum.getLeft? =
      out.passed := by
    rw [List.filterMap_map]
    exact List.filterMap_some
  have hcontrol : out.passed.filter (·.type = .control) = [] :=
    List.filter_eq_nil_iff.2 fun m hm => by simpa using hpassed m hm
  let result := loop (Depacketizer.push (packetsOf out.passed) s.depacketizer) []
  have hincoming : s.depacketizer.incoming out.passed =
      (result.1, result.2.map fun frames => ([], frames)) := by
    rw [← hcontrol]
    rfl
  let s' : ReceiverState := { s with session := out.session, sent := s.sent ++ out.sent }
  have hdepacketizerRun : (depacketizer.incoming (out.passed.map Sum.inl)).run s' =
      ((result.2.mapError ReceiveFailure.thrown).map fun frames => frames.map Sum.inr,
        { s' with depacketizer := result.1 }) := by
    show (match s.depacketizer.incoming ((out.passed.map Sum.inl).filterMap Sum.getLeft?) with
      | (d, .ok (messages, frames)) => _
      | (d, .error e) => _ : Receiving (List Item)) s' = _
    rw [hitems, hincoming]
    cases result.2 with
    | ok frames => rfl
    | error e => rfl
  have hchainRun : (MediaHandler.incomingChain receivers (chainOf 1) 2 0
      [Sum.inl message]).run.run s =
        ((result.2.mapError ReceiveFailure.thrown).map fun frames => some (frames.map Sum.inr),
          { s' with depacketizer := result.1 }) := by
    rw [hchain, OptionT.run_lift]
    simp only [List.reverse_cons, List.reverse_nil, List.nil_append, List.cons_append,
      List.foldlM_cons, List.foldlM_nil, bind_assoc]
    refine (run_bind_of_ok hsessionRun).trans ?_
    -- the depacketizer may throw
    cases hresult : result.2 with
    | ok frames =>
      rw [hresult] at hdepacketizerRun
      exact run_bind_of_ok hdepacketizerRun
    | error e =>
      rw [hresult] at hdepacketizerRun
      exact run_bind_of_error hdepacketizerRun
  rw [incoming, if_neg (fun hout => hreceives hout.1)]
  simp only [hchainRun, hincoming]
  cases result.2 with
  | ok frames => rfl
  | error e => rfl

/-- What the depacketizer is given of each message. -/
def passedOn (messages : List Message) : List (List Message) :=
  messages.map fun message => [message].filter isMedia

/-- A run of messages that are long enough, by induction on them. -/
theorem deliver_eq (hreceives : ¬(direction = .sendOnly ∨ direction = .inactive))
    {messages : List Message} (hreadable : ∀ message ∈ messages, Readable message) :
    ∃ s' sent, deliver direction s messages =
        .ok (s', (s.depacketizer.outputs (passedOn messages)).map Sum.inr) ∧
      s'.depacketizer = s.depacketizer.deliver (passedOn messages) ∧ s'.sent = s.sent ++ sent ∧
      List.Forall₂ Carries ((messages.filter isSenderReport).flatMap
        (answers s.session.mRequestedBitrate)) sent := by
  induction messages generalizing s with
  | nil => exact ⟨s, [], rfl, rfl, (List.append_nil _).symm, .nil⟩
  | cons message messages ih =>
    obtain ⟨hmessage, hmessages⟩ := List.forall_mem_cons.1 hreadable
    obtain ⟨out, hsession, hreaches⟩ := incoming_of_readable (s := s.session)
      (List.forall_mem_singleton.2 hmessage)
    have hpassed : ∀ m ∈ out.passed, m.type ≠ .control := by
      intro m hm htype
      rw [hreaches.passed] at hm
      have hmedia := (List.mem_filter.1 hm).2
      rw [isMedia, htype] at hmedia
      exact Bool.noConfusion hmedia
    have hincoming := incoming_eq (s := s) hreceives hsession hpassed
    rw [hreaches.passed] at hincoming
    obtain ⟨s', sent, hrest, hdepacketizer, hsent, hcarries⟩ := ih (s := ⟨(s.depacketizer.incoming
      ([message].filter isMedia)).1, out.session, s.sent ++ out.sent⟩) hmessages
    rw [hreaches.bitrate] at hcarries
    refine ⟨s', out.sent ++ sent, ?_, hdepacketizer, ?_, ?_⟩
    · rw [deliver, hincoming, ok_bind]
      simp only [hrest, ok_bind]
      show Except.ok (s', _ ++ _) = _
      rw [← List.map_append]
      rfl
    · rw [hsent, List.append_assoc]
    · rw [← List.singleton_append, List.filter_append, List.flatMap_append]
      exact List.rel_append hreaches.sent hcarries

end ReceivingTrack

/-! ## What arrives -/

section Arrives

open RtcpReceivingSession

/-- A packet of the packetizer has the headers of the configuration. -/
theorem mem_packets {config : RtpPacketizationConfig} {fragments : List (List UInt8)}
    {pkt : List UInt8} (h : pkt ∈ config.packets fragments) :
    ∃ n mark fragment, pkt = ((config.advance n).packetize mark fragment).1 := by
  rw [config.packets_eq_mapIdx, List.mem_mapIdx] at h
  obtain ⟨i, hi, rfl⟩ := h
  exact ⟨i, _, _, rfl⟩

private theorem typeBits (payloadType : UInt8) :
    ((0 &&& 0x80) ||| (0x7F &&& payloadType)) &&& 0x7F = payloadType &&& 0x7F ∧
      ((((0 &&& 0x80) ||| (0x7F &&& payloadType)) &&& 0x7F) ||| 0x80) &&& 0x7F =
        payloadType &&& 0x7F := by
  revert payloadType
  exact BigEndian.forall_byte (by decide +kernel)

section Header

variable (config : RtpPacketizationConfig) (mark : Bool)

/-- The payload type has seven bits. -/
theorem payloadType_header : (config.header mark).payloadType = config.payloadType &&& 0x7F := by
  obtain ⟨hclear, hset⟩ := typeBits config.payloadType
  unfold RtpPacketizationConfig.header
  dsimp only
  cases mark with
  | false => split <;> exact hclear
  | true => split <;> exact hset

theorem timestamp_header : (config.header mark).timestamp = config.timestamp := by
  unfold RtpPacketizationConfig.header
  dsimp only
  split <;> split <;> rfl

theorem version_header : (config.header mark).version = 2 := by
  rw [RtpHeader.version, config.first_header]
  split <;> decide

end Header

/-- The payload type of a configuration is one of RTP. -/
def IsRtpType (payloadType : UInt8) : Prop :=
  payloadType &&& 0x7F < 64 ∨ 95 < payloadType &&& 0x7F

/-- A packet arrives as media. -/
theorem recvMedia_packet (config : RtpPacketizationConfig) (htype : IsRtpType config.payloadType)
    (mark : Bool) (payload : List UInt8) :
    isMedia (recvMedia (config.packetize mark payload).1) = true ∧
      isSenderReport (recvMedia (config.packetize mark payload).1) = false := by
  have hread := config.read_packetize mark payload
  have hlength := config.length_packetize mark payload
  generalize (config.packetize mark payload).1 = pkt at hread hlength
  have hbyte : pkt.getD 1 0 &&& 0x7F = config.payloadType &&& 0x7F := by
    rw [← payloadType_header config mark, ← hread]
    rfl
  have hrtp : isRtcp pkt = false := by
    rw [isRtcp, hbyte]
    dsimp only
    split
    · rfl
    · rw [Bool.and_eq_false_iff, decide_eq_false_iff_not, decide_eq_false_iff_not]
      exact htype.imp UInt8.not_le.2 UInt8.not_le.2
  have hversion : (RtpHeader.read pkt).version = 2 := by
    rw [hread, version_header]
  have hlong : RtpHeader.sizeOf ≤ pkt.length := by
    rw [hlength, RtpHeader.sizeOf]
    omega
  constructor
  · show (decide ((if isRtcp pkt then Message.Kind.control else .binary) = .binary) &&
      decide (RtpHeader.sizeOf ≤ pkt.length) && decide ((RtpHeader.read pkt).version = 2)) = true
    rw [hrtp, decide_eq_true hlong, decide_eq_true hversion]
    rfl
  · show (decide ((if isRtcp pkt then Message.Kind.control else .binary) = .control) && _) = false
    rw [hrtp]
    rfl

/-- A report arrives as one. -/
theorem recvMedia_report (r : SenderReport) (hheader : r.header = ⟨0x80, 200, 6⟩) :
    isMedia (recvMedia r.toBytes) = false ∧ isSenderReport (recvMedia r.toBytes) = true ∧
      Readable (recvMedia r.toBytes) := by
  obtain ⟨rest, hbytes⟩ : ∃ rest, r.toBytes = 0x80 :: 200 :: rest := by
    rw [SenderReport.toBytes, SenderReport.fields, hheader]
    exact ⟨_, rfl⟩
  have hlength := r.length_toBytes
  have hrtcp : isRtcp r.toBytes = true := by
    have hpayloadType : r.toBytes.getD 1 0 = 200 := by
      rw [hbytes]
      rfl
    rw [isRtcp, if_neg (by omega), hpayloadType]
    decide
  have htype : (recvMedia r.toBytes).type = .control := by
    show (if isRtcp r.toBytes then Message.Kind.control else .binary) = _
    rw [hrtcp]
    rfl
  have hbyte : (recvMedia r.toBytes).data[1]? = some 200 := by
    show r.toBytes[1]? = _
    rw [hbytes]
    rfl
  have hsize : (recvMedia r.toBytes).size = 38 + r.text.length + r.nulls := hlength
  refine ⟨?_, ?_, fun _ => ⟨by omega, fun _ => by omega, fun _ => by omega⟩⟩
  · rw [isMedia, htype]
    rfl
  · rw [isSenderReport, htype, hbyte]
    rfl

end Arrives

/-! ## The main result -/

section Delivered

open RtcpReceivingSession Depacketizer

theorem Depacketizer.Codec.reassembles (codec : Depacketizer.Codec) (separator : Separator) :
    (addPayload codec separator).Reassembles codec.format separator codec.ValidNalu := by
  cases codec with
  | h264 => exact H264.reassembles separator
  | h265 => exact H265.reassembles separator

/-- What comes out for a frame: its units, each behind a start code. -/
def VideoFrame.accessUnit {codec : Depacketizer.Codec} {separator : NalUnit.Separator}
    (frame : VideoFrame codec separator) (mSeparator : Separator) (payloadType : UInt8) :
    Frame where
  data := (frame.units.map (mSeparator.startCode ++ ·)).flatten
  payloadType := payloadType &&& 0x7F
  timestamp := frame.timestamp

variable {t : SendingTrack} {config : RtpPacketizationConfig}

/-- The messages of a frame on the wire. -/
def onWire (sent : List Message × List (List UInt8)) : List Message :=
  sent.1 ++ sent.2.map Track.messageOf

/-- The messages of a frame as they arrive. -/
def arriving (sent : List Message × List (List UInt8)) : List Message :=
  (onWire sent).map fun message => recvMedia message.data

section Carried

variable {frame : VideoFrame t.codec t.separator} {sent : List Message × List (List UInt8)}

/-- The headers of the packets. -/
theorem Carried.packets (h : Carried t config frame sent) :
    sent.2 ≠ [] ∧ ∀ pkt ∈ sent.2,
      (RtpHeader.read pkt).timestamp = frame.timestamp ∧
      (RtpHeader.read pkt).payloadType = config.payloadType &&& 0x7F := by
  obtain ⟨reporter, n, m, groups, hsent, hpackets, -⟩ := h
  rw [hpackets]
  constructor
  · rw [← List.length_pos_iff, RtpPacketizationConfig.length_packets, List.length_pos_iff]
    exact t.codec.format.flatten_ne_nil hsent frame.units_ne_nil
  · intro pkt hpkt
    obtain ⟨i, mark, fragment, rfl⟩ := mem_packets hpkt
    rw [RtpPacketizationConfig.read_packetize, timestamp_header, payloadType_header]
    exact ⟨rfl, rfl⟩

theorem Carried.frameTimestamp (h : Carried t config frame sent) :
    frameTimestamp sent.2 = frame.timestamp := by
  obtain ⟨hne, hheaders⟩ := h.packets
  obtain ⟨pkt, pkts, hcons⟩ := List.exists_cons_of_ne_nil hne
  rw [Depacketizer.frameTimestamp, hcons, List.headD_cons]
  exact (hheaders pkt (hcons ▸ List.mem_cons_self ..)).1

/-- The depacketizer builds the access unit of them. -/
theorem Carried.buildFrames (h : Carried t config frame sent)
    (hlimit : config.elementsSize true ≤ 262140) (mSeparator : Separator) :
    Depacketizer.buildFrames t.codec mSeparator (callOf sent.2) =
      .ok [frame.accessUnit mSeparator config.payloadType] := by
  obtain ⟨hne, hheaders⟩ := h.packets
  obtain ⟨pkt, pkts, hcons⟩ := List.exists_cons_of_ne_nil hne
  have hpayloadType := (hheaders pkt (hcons ▸ List.mem_cons_self ..)).2
  have hcall : callOf sent.2 = ⟨sent.2, config.payloadType &&& 0x7F, frame.timestamp⟩ := by
    rw [callOf, h.frameTimestamp, hcons, List.headD_cons, hpayloadType]
  obtain ⟨reporter, n, m, groups, hsent, hpackets, -⟩ := h
  rw [hcall, buildFrames_eq, hpackets]
  apply (t.codec.reassembles mSeparator).buildFrames_packets (fun _ h => h.ne_nil)
    frame.units_ne_nil frame.valid hsent
  exact hlimit

/-- What is sent as a report is one. -/
theorem Carried.reports (h : Carried t config frame sent) :
    List.Forall₂ (fun frame report => ∃ r : SenderReport, r.header = ⟨0x80, 200, 6⟩ ∧
      r.senderSsrc = config.ssrc ∧ r.ntpTimestamp = VideoFrame.ntpTime frame ∧
        report.data = r.toBytes) ([frame].filter VideoFrame.report) sent.1 := by
  obtain ⟨reporter, n, m, groups, -, -, hreports⟩ := h
  rw [hreports, List.filter_singleton]
  cases frame.report with
  | true => exact .cons ⟨_, rfl, rfl, rfl, rfl⟩ .nil
  | false => exact .nil

/-- The packets arrive as media, and the report as a report. -/
theorem Carried.arriving (h : Carried t config frame sent) (htype : IsRtpType config.payloadType) :
    ((arriving sent).filter isMedia).map Message.data = sent.2 ∧
      (Rtc.arriving sent).filter isSenderReport = sent.1.map (fun report => recvMedia report.data) ∧
      ∀ message ∈ Rtc.arriving sent, Readable message := by
  have hreports : ∀ report ∈ sent.1, isMedia (recvMedia report.data) = false ∧
      isSenderReport (recvMedia report.data) = true ∧ Readable (recvMedia report.data) := by
    obtain ⟨reporter, n, m, groups, -, -, hsent⟩ := h
    intro report hreport
    rw [hsent] at hreport
    split at hreport
    · rw [List.mem_singleton.1 hreport]
      exact recvMedia_report _ rfl
    · cases hreport
  have hpackets : ∀ pkt ∈ sent.2, isMedia (recvMedia pkt) = true ∧
      isSenderReport (recvMedia pkt) = false := by
    obtain ⟨reporter, n, m, groups, -, hsent, -⟩ := h
    intro pkt hpkt
    rw [hsent] at hpkt
    obtain ⟨i, mark, fragment, rfl⟩ := mem_packets hpkt
    exact recvMedia_packet ((configAt config n frame.timestamp).advance i) htype mark fragment
  have harriving : Rtc.arriving sent =
      sent.1.map (fun report => recvMedia report.data) ++ sent.2.map recvMedia := by
    rw [Rtc.arriving, onWire, List.map_append, List.map_map]
    rfl
  refine ⟨?_, ?_, ?_⟩
  · have hnone : (sent.1.map fun report => recvMedia report.data).filter isMedia = [] := by
      simpa [List.filter_eq_nil_iff] using fun report hreport => (hreports report hreport).1
    have hall : (sent.2.map recvMedia).filter isMedia = sent.2.map recvMedia := by
      simpa [List.filter_eq_self] using fun pkt hpkt => (hpackets pkt hpkt).1
    rw [harriving, List.filter_append, hnone, hall, List.nil_append, List.map_map]
    exact List.map_id sent.2
  · have hall : (sent.1.map fun report => recvMedia report.data).filter isSenderReport =
        sent.1.map fun report => recvMedia report.data := by
      simpa [List.filter_eq_self] using fun report hreport => (hreports report hreport).2.1
    have hnone : (sent.2.map recvMedia).filter isSenderReport = [] := by
      simpa [List.filter_eq_nil_iff] using fun pkt hpkt => (hpackets pkt hpkt).2
    rw [harriving, List.filter_append, hall, hnone, List.append_nil]
  · rw [harriving, List.forall_mem_append, List.forall_mem_map, List.forall_mem_map]
    refine ⟨fun report hreport => (hreports report hreport).2.2, fun pkt hpkt hcontrol => ?_⟩
    -- media is not read by the session beyond its header
    have hmedia := (hpackets pkt hpkt).1
    rw [isMedia, hcontrol] at hmedia
    exact Bool.noConfusion hmedia

end Carried

/-! ### Runs -/

section Run

variable {frames : List (VideoFrame t.codec t.separator)}
  {sents : List (List Message × List (List UInt8))}

/-- What arrives of a run, by induction on its frames. -/
theorem arriving_run (h : List.Forall₂ (Carried t config) frames sents)
    (htype : IsRtpType config.payloadType) :
    ((sents.flatMap arriving).filter isMedia).map Message.data = (sents.map Prod.snd).flatten ∧
      (∀ message ∈ sents.flatMap arriving, Readable message) ∧
      List.Forall₂ (fun frame report =>
          RtcpSr.senderSsrc report.data = .ok config.ssrc ∧
            RtcpSr.ntpTimestamp report.data = .ok (VideoFrame.ntpTime frame))
        (frames.filter VideoFrame.report) ((sents.flatMap arriving).filter isSenderReport) := by
  induction h with
  | nil => exact ⟨rfl, List.forall_mem_nil _, .nil⟩
  | @cons frame sent frames sents hcarried _ ih =>
    obtain ⟨hpackets, hreadable, hreports⟩ := ih
    obtain ⟨hpackets', hreports', hreadable'⟩ := hcarried.arriving htype
    refine ⟨?_, ?_, ?_⟩
    · rw [List.flatMap_cons, List.filter_append, List.map_append, hpackets, hpackets']
      rfl
    · rw [List.flatMap_cons]
      exact List.forall_mem_append.2 ⟨hreadable', hreadable⟩
    · rw [List.flatMap_cons, List.filter_append, hreports', ← List.singleton_append,
        List.filter_append]
      refine List.rel_append ?_ hreports
      rw [List.forall₂_map_right_iff]
      refine hcarried.reports.imp ?_
      rintro frame report ⟨r, -, hssrc, hntp, hdata⟩
      show RtcpSr.senderSsrc report.data = _ ∧ RtcpSr.ntpTimestamp report.data = _
      rw [hdata, r.senderSsrc_eq, r.ntpTimestamp_eq, hssrc, hntp]
      exact ⟨rfl, rfl⟩

/-- The packets of a run are framed by their timestamps. -/
theorem framed_run (h : List.Forall₂ (Carried t config) frames sents)
    (hadjacent : frames.IsChain (·.timestamp ≠ ·.timestamp)) : Framed (sents.map Prod.snd) := by
  have hframes : ∀ packets ∈ sents.map Prod.snd, packets ≠ [] ∧
      ∀ pkt ∈ packets, (RtpHeader.read pkt).timestamp = frameTimestamp packets := by
    clear hadjacent
    induction h with
    | nil => exact List.forall_mem_nil _
    | cons hcarried _ ih =>
      refine List.forall_mem_cons.2 ⟨⟨hcarried.packets.1, fun pkt hpkt => ?_⟩, ih⟩
      rw [hcarried.frameTimestamp]
      exact (hcarried.packets.2 pkt hpkt).1
  have htimestamps : (sents.map Prod.snd).map frameTimestamp = frames.map VideoFrame.timestamp := by
    clear hadjacent hframes
    induction h with
    | nil => rfl
    | cons hcarried _ ih =>
      rw [List.map_cons, List.map_cons, List.map_cons, ih, hcarried.frameTimestamp]
  refine ⟨fun packets hmem => (hframes packets hmem).1,
    fun packets hmem => (hframes packets hmem).2, ?_⟩
  rw [← List.isChain_map (f := frameTimestamp) (R := (· ≠ ·)), htimestamps, List.isChain_map]
  exact hadjacent

/-- The calls for all frames but the last build their access units. -/
theorem builds_run (h : List.Forall₂ (Carried t config) frames sents)
    (hlimit : config.elementsSize true ≤ 262140) (mSeparator : Separator) :
    Builds t.codec mSeparator ((sents.map Prod.snd).map callOf)
      (frames.map fun frame => [frame.accessUnit mSeparator config.payloadType]) := by
  induction h with
  | nil => exact .nil
  | cons hcarried _ ih => exact .cons (hcarried.buildFrames hlimit mSeparator) ih

/-- None of their calls makes `buildFrames` throw. -/
theorem fine_run (h : List.Forall₂ (Carried t config) frames sents)
    (hlimit : config.elementsSize true ≤ 262140) (mSeparator : Separator) :
    ∀ packets ∈ sents.map Prod.snd, Fine t.codec mSeparator (callOf packets) := by
  induction h with
  | nil => exact List.forall_mem_nil _
  | @cons frame _ _ _ hcarried _ ih =>
    refine List.forall_mem_cons.2 ⟨⟨?_, _, hcarried.buildFrames hlimit mSeparator⟩, ih⟩
    show frameTimestamp _ ≠ 0
    rw [hcarried.frameTimestamp]
    exact frame.timestamp_ne_zero

end Run

/-- The packets that are passed on are the media. -/
theorem packetsOf_passedOn (messages : List Message) :
    packetsOf (ReceivingTrack.passedOn messages).flatten =
      (messages.filter isMedia).map Message.data := by
  have hflatten : (ReceivingTrack.passedOn messages).flatten = messages.filter isMedia := by
    induction messages with
    | nil => rfl
    | cons message messages ih =>
      show [message].filter isMedia ++ (ReceivingTrack.passedOn messages).flatten = _
      rw [ih, ← List.filter_append]
      rfl
  have hpacket : ∀ message ∈ messages.filter isMedia, isPacket message = true := by
    intro message hmessage
    have hmedia := (List.mem_filter.1 hmessage).2
    simp only [isMedia, Bool.and_eq_true, decide_eq_true_eq] at hmedia
    rw [isPacket, hmedia.1.1, decide_eq_true hmedia.1.2]
    rfl
  rw [packetsOf, hflatten, List.filter_eq_self.2 hpacket]

theorem dropLast_of_forall₂ {α β : Type} {R : α → β → Prop} {l : List α} {l' : List β}
    (h : List.Forall₂ R l l') : List.Forall₂ R l.dropLast l'.dropLast := by
  rw [List.dropLast_eq_take, List.dropLast_eq_take, h.length_eq]
  exact List.forall₂_take _ h

/-- Two runs of the same calls build the same. -/
theorem Depacketizer.Builds.unique {codec : Codec} {separator : Separator}
    {calls : List BuildFramesCall} {built built' : List (List Frame)}
    (h : Builds codec separator calls built) (h' : Builds codec separator calls built') :
    built = built' := by
  induction h generalizing built' with
  | nil =>
    cases h'
    rfl
  | cons hfirst _ ih =>
    cases h' with
    | cons hfirst' hrest' =>
      rw [ih hrest', Except.ok.inj (hfirst.symm.trans hfirst')]

/-- **From track to track.** Frames are sent with their reports over a wire that keeps the order.
Each of them but the last arrives as one access unit, in order, with its timestamp and payload type,
and nothing else does. Each report is answered to its sender, with its time. -/
theorem track_to_track (t : SendingTrack) (config : RtpPacketizationConfig) (maxSize : ℕ)
    (frames : List (VideoFrame t.codec t.separator)) (direction : LocalDescription.Direction)
    (mSeparator : Separator) (session : RtcpReceivingSession)
    (hsends : t.direction ≠ .recvOnly ∧ t.direction ≠ .inactive)
    (hreceives : direction ≠ .sendOnly ∧ direction ≠ .inactive)
    (hmax : 2 * t.codec.format.overhead.toNat ≤ t.maxFragmentSize.toNat)
    (hname : config.cname.length ≤ 255) (hlimit : config.elementsSize true ≤ 262140)
    (htype : IsRtpType config.payloadType)
    (hadjacent : frames.IsChain (·.timestamp ≠ ·.timestamp)) :
    ∃ s, (t.sendAll frames).run ⟨config, .init config, { maxSize }, 0, []⟩ = (.ok (), s) ∧
      ∃ r, ReceivingTrack.deliver direction
          ⟨{ codec := t.codec, mSeparator }, session, []⟩
          (s.wire.map fun message => recvMedia message.data) =
            .ok (r, (frames.dropLast.map
              (·.accessUnit mSeparator config.payloadType)).map Sum.inr) ∧
        ∃ reports : List Message, List.Forall₂ (fun frame report =>
            RtcpSr.senderSsrc report.data = .ok config.ssrc ∧
              RtcpSr.ntpTimestamp report.data = .ok (VideoFrame.ntpTime frame))
            (frames.filter VideoFrame.report) reports ∧
          List.Forall₂ Carries (reports.flatMap (answers session.mRequestedBitrate)) r.sent := by
  have hconfig : config = configAt config config.sequenceNumber config.timestamp := rfl
  obtain ⟨s, sents, hrun, hcarried, hwire⟩ :=
    run_sendAll (s := ⟨config, .init config, { maxSize }, 0, []⟩)
      (fun hout => hout.elim hsends.1 hsends.2) hmax hname hconfig rfl frames
  have harrivals : s.wire.map (fun message => recvMedia message.data) = sents.flatMap arriving := by
    rw [hwire]
    exact List.map_flatMap
  obtain ⟨hpackets, hreadable, hreports⟩ := arriving_run hcarried htype
  obtain ⟨r, sent, hdeliver, hdepacketizer, hsent, hcarries⟩ := ReceivingTrack.deliver_eq
    (s := ⟨{ codec := t.codec, mSeparator }, session, []⟩)
    (fun hout => hout.elim hreceives.1 hreceives.2) hreadable
  have hframed := framed_run hcarried hadjacent
  -- the depacketizer is left with the packets of the last frame
  have hgrouped := deliver_framed hframed
    (fun packets hmem =>
      fine_run hcarried hlimit mSeparator packets (List.mem_of_mem_dropLast hmem))
    ((packetsOf_passedOn (sents.flatMap arriving)).trans hpackets)
  have hthrows : ¬(deliver { codec := t.codec, mSeparator }
      (ReceivingTrack.passedOn (sents.flatMap arriving))).Throws := by
    rw [hgrouped]
    exact not_throws_of_none (nextCall_last hframed)
  obtain ⟨made, built, houtputs, hcalls, hbuilds⟩ := outputs_eq hthrows
  have hmade : made = (sents.map Prod.snd).dropLast.map callOf := by
    rw [hgrouped] at hcalls
    exact hcalls.symm
  have hbuilt : built =
      frames.dropLast.map fun frame => [frame.accessUnit mSeparator config.payloadType] := by
    rw [hmade, ← List.map_dropLast] at hbuilds
    exact hbuilds.unique (builds_run (dropLast_of_forall₂ hcarried) hlimit mSeparator)
  refine ⟨s, hrun, r, ?_, _, hreports, ?_⟩
  · have houts := List.map_eq_flatMap (f := fun frame : VideoFrame t.codec t.separator =>
      frame.accessUnit mSeparator config.payloadType) (l := frames.dropLast)
    rw [harrivals, hdeliver, houtputs, hbuilt, houts, List.flatMap_def]
  · rw [hsent]
    exact hcarries

/-- A frame of one unit, which takes three packets of at most four bytes. -/
def idrFrame (timestamp : UInt32) (report : Bool) (hne : timestamp ≠ 0) :
    VideoFrame .h264 .length where
  units := [[0x65, 1, 2, 3, 4]]
  message := [0, 0, 0, 5, 0x65, 1, 2, 3, 4]
  timestamp := timestamp
  report := report
  ntpTime := 0
  units_ne_nil := List.cons_ne_nil _ _
  valid := by
    intro unit hunit
    rw [List.mem_singleton.1 hunit]
    exact ⟨by decide, by decide, by decide, by decide⟩
  separates := fun _ _ => trivial
  joined := by
    have hlength : (NalUnit.Separator.length).Introduces [0, 0, 0, 5] [0x65, 1, 2, 3, 4] :=
      ⟨by decide, by decide +kernel⟩
    exact .cons hlength .nil
  timestamp_ne_zero := hne

/-- Two frames, the first with a report, of which the second waits for the next. -/
theorem track_to_track_two :
    ∃ s r, (SendingTrack.sendAll ⟨.sendOnly, .h264, .length, 4⟩
        [idrFrame 5 true (by decide), idrFrame 7 false (by decide)]).run
          ⟨plainConfig, .init plainConfig, { maxSize := 8 }, 0, []⟩ = (.ok (), s) ∧
      ReceivingTrack.deliver .recvOnly
        ⟨{ codec := .h264, mSeparator := .startSequence }, { mSyncRTPTS := 0, mSyncNTPTS := 0 }, []⟩
        (s.wire.map fun message => recvMedia message.data) =
          .ok (r, [Sum.inr ⟨[0, 0, 0, 1, 0x65, 1, 2, 3, 4], 96, 5⟩]) := by
  obtain ⟨s, hrun, r, hdeliver, -⟩ := track_to_track ⟨.sendOnly, .h264, .length, 4⟩ plainConfig 8
    [idrFrame 5 true (by decide), idrFrame 7 false (by decide)] .recvOnly .startSequence
    { mSyncRTPTS := 0, mSyncNTPTS := 0 } ⟨by decide, by decide⟩ ⟨by decide, by decide⟩ (by decide)
    (by decide) (by decide) (Or.inr (by decide)) (by simp [idrFrame])
  exact ⟨s, r, hrun, hdeliver⟩

end Delivered

end Rtc
