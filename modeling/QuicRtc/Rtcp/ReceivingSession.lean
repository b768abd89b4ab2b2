import QuicRtc.Rtcp.LossRecovery
import QuicRtc.Rtcp.ReportBlock
import QuicRtc.Rtcp.SenderCounters

/-!
# The receiving session

`RtcpReceivingSession` (`rtcpreceivingsession.cpp`) passes on the RTP packets of version 2, answers
every sender report by a receiver report, and sends requests for key frames and bitrates, which
`PliHandler` and `RembHandler` take up at the sender.

A control message is not compared with the size of what is read from it, so that every read is
checked here. What `log` reads is left out: when messages of the verbose level are logged, it also
reads the report blocks that the header counts.

`Feedback` is what a run should send, and `Carries` says what the two handlers of the sender make of
a message. The main result `feedback_reaches` is about every run: it reads inside the messages
exactly if each control message is long enough for its packet type, and then the media packets are
passed on and the messages that are sent carry the requests and the answers to the reports, each
once and in their order.
-/

namespace Rtc

/-! ## The messages that are sent -/

/-- `RtpHeader::version`. -/
def RtpHeader.version (h : RtpHeader) : UInt8 := h.first >>> 6

/-- `RtcpPli::preparePacket`. -/
def RtcpPli.preparePacket (messageSsrc : UInt32) : RtcpFbHeader where
  header := RtcpHeader.prepareHeader 206 1 2
  packetSender := messageSsrc
  mediaSource := messageSsrc

namespace RtcpReportBlock

/-- `RtcpReportBlock::preparePacket`. The numbers of packets are not used. -/
def preparePacket (b : RtcpReportBlock) (ssrc : UInt32) (highestSeqNo seqNoCycles : UInt16)
    (jitter : UInt32) (lastSrNtp lastSrDelay : UInt64) : RtcpReportBlock :=
  ((((b.setSeqNo highestSeqNo seqNoCycles).setJitter jitter).setSsrc ssrc).setNtpOfSr
    lastSrNtp).setDelaySinceSr lastSrDelay.toUInt32

/-- The bytes of a word in memory, on a little-endian host. -/
def wordBytes (w n : ℕ) : List UInt8 := (BigEndian.encode w n).reverse

/-- The block as laid out in the packet. -/
def toBytes (b : RtcpReportBlock) : List UInt8 :=
  wordBytes 4 b.ssrcWord.toNat ++ wordBytes 4 b.fractionLostAndPacketsLost.toNat ++
    wordBytes 2 b.seqNoCyclesWord.toNat ++ wordBytes 2 b.highestSeqNoWord.toNat ++
    wordBytes 4 b.jitterWord.toNat ++ wordBytes 4 b.lastReport.toNat ++
    wordBytes 4 b.delaySinceLastReport.toNat

end RtcpReportBlock

/-- `RtcpRr` with one report block. -/
structure RtcpRr where
  header : RtcpHeader
  senderSsrc : UInt32
  reportBlock : RtcpReportBlock
  deriving DecidableEq, Repr

namespace RtcpRr

/-- `RtcpRr::SizeWithReportBlocks`. -/
def sizeWithReportBlocks (reportCount : UInt8) : ℕ :=
  RtcpHeader.sizeOf + 4 + reportCount.toNat * RtcpSr.reportBlockSize

/-- `RtcpRr::preparePacket`. -/
def preparePacket (p : RtcpRr) (senderSsrc : UInt32) (reportCount : UInt8) : RtcpRr :=
  let length := sizeWithReportBlocks reportCount / 4 - 1
  { p with header := RtcpHeader.prepareHeader 201 reportCount (UInt16.ofNat length), senderSsrc }

/-- The packet as laid out in the buffer. -/
def toBytes (p : RtcpRr) : List UInt8 :=
  p.header.toBytes ++ BigEndian.encode 4 p.senderSsrc.toNat ++ p.reportBlock.toBytes

/-- The packet in a new message, which is zero. -/
def blank : RtcpRr := ⟨⟨0, 0, 0⟩, 0, ⟨0, 0, 0, 0, 0, 0, 0⟩⟩

end RtcpRr

namespace RtcpRemb

/-- The packet with room for one SSRC in a new message, which is zero. -/
def empty : RtcpRemb := ⟨⟨⟨0, 0, 0⟩, 0, 0⟩, [0, 0, 0, 0], 0, [0]⟩

/-- `RtcpRemb::setSsrc`. -/
def setSsrc (p : RtcpRemb) (iterator : ℕ) (newSsrc : UInt32) : RtcpRemb :=
  { p with ssrc := p.ssrc.set iterator newSsrc }

end RtcpRemb

/-! ## The session -/

/-- `RtcpReceivingSession`. The two times are not initialized. -/
structure RtcpReceivingSession where
  mSsrc : UInt32 := 0
  mGreatestSeqNo : UInt32 := 0
  mSyncRTPTS : UInt64
  mSyncNTPTS : UInt64
  mRequestedBitrate : UInt32 := 0
  deriving DecidableEq, Repr

namespace RtcpReceivingSession

/-- `RtcpReceivingSession::pushREMB`: the message that is sent. -/
def pushREMB (s : RtcpReceivingSession) (bitrate : UInt32) : Message where
  data := ((RtcpRemb.empty.preparePacket s.mSsrc 1 bitrate).setSsrc 0 s.mSsrc).toBytes
  type := .control

/-- `RtcpReceivingSession::pushRR`. -/
def pushRR (s : RtcpReceivingSession) (lastSrDelay : UInt32) : Message where
  data :=
    let rr := RtcpRr.blank.preparePacket s.mSsrc 1
    { rr with
      reportBlock := rr.reportBlock.preparePacket s.mSsrc s.mGreatestSeqNo.toUInt16 0 0
        s.mSyncNTPTS lastSrDelay.toUInt64 }.toBytes
  type := .control

/-- `RtcpReceivingSession::pushPLI`. -/
def pushPLI (s : RtcpReceivingSession) : Message where
  data := (RtcpPli.preparePacket s.mSsrc).toBytes
  type := .control

/-- What a call has led to. -/
structure Output where
  session : RtcpReceivingSession
  passed : List Message := []
  sent : List Message := []

/-- The loop of `RtcpReceivingSession::incoming` at one message. -/
def visit (s : RtcpReceivingSession) (message : Message) : Except Fault Output :=
  match message.type with
  | .binary =>
    if message.size < RtpHeader.sizeOf then .ok { session := s }
    else
      let rtp := RtpHeader.read message.data
      if rtp.version ≠ 2 then .ok { session := s }
      else if rtp.payloadType = 201 ∨ rtp.payloadType = 200 then .ok { session := s }
      else .ok { session := { s with mSsrc := rtp.ssrc }, passed := [message] }
  | .control => do
    let payloadType ← readByte message.data 1
    if payloadType = 201 then
      let mSsrc ← readSsrc message.data 4
      return { session := { s with mSsrc } }
    else if payloadType = 200 then
      let mSsrc ← readSsrc message.data 4
      let rtpTimestamp ← RtcpSr.rtpTimestamp message.data
      let mSyncNTPTS ← RtcpSr.ntpTimestamp message.data
      let s' := { s with mSsrc, mSyncRTPTS := rtpTimestamp.toUInt64, mSyncNTPTS }
      let remb := if 0 < s'.mRequestedBitrate then [s'.pushREMB s'.mRequestedBitrate] else []
      return { session := s', sent := s'.pushRR 0 :: remb }
    else return { session := s }
  | _ => .ok { session := s }

/-- `RtcpReceivingSession::incoming`. -/
def incoming (s : RtcpReceivingSession) : List Message → Except Fault Output
  | [] => .ok { session := s }
  | message :: messages => do
    let first ← s.visit message
    let rest ← incoming first.session messages
    return { rest with passed := first.passed ++ rest.passed, sent := first.sent ++ rest.sent }

/-- What is done with a session. -/
inductive Event where
  | incoming (messages : List Message)
  | requestKeyframe
  | requestBitrate (bitrate : UInt32)

/-- One call: `incoming`, `requestKeyframe` or `requestBitrate`. -/
def step (s : RtcpReceivingSession) : Event → Except Fault Output
  | .incoming messages => s.incoming messages
  | .requestKeyframe => .ok { session := s, sent := [s.pushPLI] }
  | .requestBitrate bitrate =>
    let s' := { s with mRequestedBitrate := bitrate }
    .ok { session := s', sent := [s'.pushREMB bitrate] }

/-- The calls one after the other. -/
def run (s : RtcpReceivingSession) : List Event → Except Fault Output
  | [] => .ok { session := s }
  | event :: events => do
    let first ← s.step event
    let rest ← run first.session events
    return { rest with passed := first.passed ++ rest.passed, sent := first.sent ++ rest.sent }

/-! ## What a run should do -/

/-- A packet that is passed on. -/
def isMedia (message : Message) : Bool :=
  message.type = .binary && RtpHeader.sizeOf ≤ message.size &&
    (RtpHeader.read message.data).version = 2

/-- A sender report. -/
def isSenderReport (message : Message) : Bool :=
  message.type = .control && message.data[1]? = some 200

/-- What is read of a message is inside. -/
def Readable (message : Message) : Prop :=
  message.type = .control → 2 ≤ message.size ∧ (message.data[1]? = some 201 → 8 ≤ message.size) ∧
    (message.data[1]? = some 200 → 20 ≤ message.size)

/-- What the sender is told. -/
inductive Feedback where
  | pli
  | remb (bitrate : UInt32)
  /-- An answer to a sender report. -/
  | rr (sr : Message)

/-- The answers to a sender report while a bitrate has been requested. -/
def answers (bitrate : UInt32) (sr : Message) : List Feedback :=
  .rr sr :: if 0 < bitrate then [.remb bitrate] else []

/-- What a run should send, from the bitrate that has been requested before. -/
def wanted (bitrate : UInt32) : List Event → List Feedback
  | [] => []
  | .incoming messages :: events =>
    (messages.filter isSenderReport).flatMap (answers bitrate) ++ wanted bitrate events
  | .requestKeyframe :: events => .pli :: wanted bitrate events
  | .requestBitrate requested :: events => .remb requested :: wanted requested events

/-- The messages that come in during a run. -/
def received : List Event → List Message
  | [] => []
  | .incoming messages :: events => messages ++ received events
  | _ :: events => received events

/-- A receiver report names the sender of a sender report, and the time of that one by its middle
bits. -/
def AnswersReport (sr rr : List UInt8) : Prop :=
  RtcpSr.senderSsrc rr = RtcpSr.senderSsrc sr ∧ readSsrc rr 8 = RtcpSr.senderSsrc sr ∧
    ∃ ntp, RtcpSr.ntpTimestamp sr = .ok ntp ∧ readSsrc rr 24 = .ok (ntp >>> 16).toUInt32

/-- What the handlers of the sender make of a message. The bitrate arrives as far as `getBitrate`
can read it. -/
def Carries : Feedback → Message → Prop
  | .pli, message =>
    PliHandler.called message = .ok [()] ∧ RembHandler.called message = .ok []
  | .remb bitrate, message =>
    PliHandler.called message = .ok [] ∧ ∃ reported, RembHandler.called message = .ok [reported] ∧
      ∃ k, IsExponent bitrate.toNat k ∧ reported.toNat = bitrate.toNat / 2 ^ k * k ^ 2
  | .rr sr, message =>
    PliHandler.called message = .ok [] ∧ RembHandler.called message = .ok [] ∧
      AnswersReport sr.data message.data

end RtcpReceivingSession

/-! ## The handlers at a message that is one packet -/

namespace FeedbackHandler

variable {β : Type} (handler : FeedbackHandler β) {message : Message} {header : RtcpHeader}

/-- The only header is the first one. -/
theorem headers_of_single (hread : RtcpHeader.read message.data = .ok header)
    (hlength : message.data.length = header.lengthInBytes) :
    headers message.data 0 = [(0, header)] := by
  have hdata : message.data.drop 0 = message.data ++ [] := by
    rw [List.drop_zero, List.append_nil]
  rw [headers_of_read hdata hread hlength, Nat.zero_add, headers_end]

theorem called_of_not_hit (hread : RtcpHeader.read message.data = .ok header)
    (hlength : message.data.length = header.lengthInBytes)
    (hhit : handler.hit message.data (0, header) = false) : handler.called message = .ok [] := by
  have hfuel : message.data.length - 0 < message.data.length + 1 := by omega
  rw [called, handler.incomingLoop_eq hfuel, headers_of_single hread hlength, List.find?_cons,
    hhit]
  rfl

theorem called_of_hit {b : β} (hread : RtcpHeader.read message.data = .ok header)
    (hlength : message.data.length = header.lengthInBytes)
    (hhit : handler.hit message.data (0, header) = true)
    (hvisit : handler.visit message.data header = .ok (some b)) :
    handler.called message = .ok [b] := by
  have hfuel : message.data.length - 0 < message.data.length + 1 := by omega
  rw [called, handler.incomingLoop_eq hfuel, headers_of_single hread hlength, List.find?_cons,
    hhit]
  show ((handler.visit (message.data.drop 0) header).bind _) = _
  rw [List.drop_zero, hvisit]
  rfl

end FeedbackHandler

/-! ## Reading what is sent -/

namespace RtcpReportBlock

/-- A word that has been converted is big-endian in memory. -/
theorem wordBytes_htonl (x : UInt32) :
    wordBytes 4 (htonl x).toNat = BigEndian.encode 4 x.toNat := by
  have hswap := BigEndian.encode_decode (BigEndian.encode 4 x.toNat).reverse
  rw [List.length_reverse, BigEndian.length_encode] at hswap
  rw [wordBytes, toNat_htonl, BigEndian.swap, hswap, List.reverse_reverse]

end RtcpReportBlock

namespace RtcpReceivingSession

variable {s : RtcpReceivingSession}

/-- A key frame is requested. -/
theorem carries_pushPLI : Carries .pli s.pushPLI := by
  have hread : RtcpHeader.read s.pushPLI.data = .ok ⟨0x81, 206, 2⟩ := by
    show RtcpHeader.read (RtcpFbHeader.toBytes _) = _
    rw [RtcpFbHeader.toBytes, List.append_assoc, RtcpHeader.read_toBytes_append]
    rfl
  exact ⟨PliHandler.called_of_hit hread rfl rfl rfl, RembHandler.called_of_not_hit hread rfl rfl⟩

/-- A bitrate is requested. -/
theorem carries_pushREMB (bitrate : UInt32) : Carries (.remb bitrate) (s.pushREMB bitrate) := by
  have hone : (1 : UInt32).toNat ≤ 255 := by decide
  obtain ⟨k, hk, hle, hlt, hword⟩ := RtcpRemb.empty.preparePacket_spec s.mSsrc bitrate hone
  have hprepared :
      ((RtcpRemb.empty.preparePacket s.mSsrc 1 bitrate).setSsrc 0 s.mSsrc).Prepared 1 :=
    ⟨RtcpRemb.empty.header_preparePacket s.mSsrc bitrate hone, rfl, rfl⟩
  have hread := RtcpRemb.read_toBytes
    ((RtcpRemb.empty.preparePacket s.mSsrc 1 bitrate).setSsrc 0 s.mSsrc)
  obtain ⟨length, hlength, hheader⟩ := hprepared.header
  rw [hheader] at hread
  have hfills : (s.pushREMB bitrate).data.length =
      (RtcpHeader.mk 0x8F 206 length).lengthInBytes := by
    rw [RtcpHeader.lengthInBytes, hlength]
    exact hprepared.length_toBytes
  have hdata : (s.pushREMB bitrate).data.drop 0 = (s.pushREMB bitrate).data ++ [] := by
    rw [List.drop_zero, List.append_nil]
  obtain ⟨hhit, hvisit⟩ := hprepared.visit hdata
  rw [hheader] at hhit hvisit
  have hother : PliHandler.isPli ⟨0x8F, 206, length⟩ = false := by
    have hcount : RtcpHeader.reportCount ⟨0x8F, 206, length⟩ = 15 := by
      show ((0x8F : UInt8) &&& 0x1F).toNat = 15
      decide
    rw [PliHandler.isPli, hcount]
    rfl
  constructor
  · exact PliHandler.called_of_not_hit hread hfills hother
  · refine ⟨_, RembHandler.called_of_hit hread hfills hhit (hvisit rfl), k, hk, ?_⟩
    exact RtcpRemb.getBitrate_eq hword hle hlt

/-- The fields of a receiver report. -/
theorem pushRR_data (lastSrDelay : UInt32) :
    (s.pushRR lastSrDelay).data =
      [(RtcpHeader.mk 0x81 201 7).toBytes, BigEndian.encode 4 s.mSsrc.toNat,
        BigEndian.encode 4 s.mSsrc.toNat, RtcpReportBlock.wordBytes 4 0,
        RtcpReportBlock.wordBytes 2 (htons 0).toNat,
        RtcpReportBlock.wordBytes 2 (htons s.mGreatestSeqNo.toUInt16).toNat,
        RtcpReportBlock.wordBytes 4 (htonl 0).toNat,
        BigEndian.encode 4 (s.mSyncNTPTS >>> 16).toUInt32.toNat,
        RtcpReportBlock.wordBytes 4 (htonl lastSrDelay.toUInt64.toUInt32).toNat].flatten := by
  have hheader : RtcpHeader.prepareHeader 201 1
      (UInt16.ofNat (RtcpRr.sizeWithReportBlocks 1 / 4 - 1)) = ⟨0x81, 201, 7⟩ := by decide
  have hssrc := RtcpReportBlock.wordBytes_htonl s.mSsrc
  have htime := RtcpReportBlock.wordBytes_htonl (s.mSyncNTPTS >>> 16).toUInt32
  show (RtcpHeader.prepareHeader 201 1 _).toBytes ++ _ ++ RtcpReportBlock.toBytes _ = _
  rw [hheader, RtcpReportBlock.toBytes]
  simp only [RtcpReportBlock.preparePacket, RtcpReportBlock.setDelaySinceSr,
    RtcpReportBlock.setNtpOfSr, RtcpReportBlock.setSsrc, RtcpReportBlock.setJitter,
    RtcpReportBlock.setSeqNo, hssrc, htime, List.flatten_cons, List.flatten_nil, List.append_nil,
    List.append_assoc]
  rfl

/-- A sender report is answered. -/
theorem carries_pushRR {sr : Message} (hssrc : RtcpSr.senderSsrc sr.data = .ok s.mSsrc)
    (hntp : RtcpSr.ntpTimestamp sr.data = .ok s.mSyncNTPTS) (lastSrDelay : UInt32) :
    Carries (.rr sr) (s.pushRR lastSrDelay) := by
  have hdata := s.pushRR_data lastSrDelay
  have hread : RtcpHeader.read (s.pushRR lastSrDelay).data = .ok ⟨0x81, 201, 7⟩ := by
    rw [hdata, List.flatten_cons, RtcpHeader.read_toBytes_append]
  refine ⟨PliHandler.called_of_not_hit hread rfl rfl, RembHandler.called_of_not_hit hread rfl rfl,
    ?_, ?_, s.mSyncNTPTS, hntp, ?_⟩
  · rw [hssrc, hdata]
    exact readSsrc_flatten (k := 1) (by simp) rfl rfl
  · rw [hssrc, hdata]
    exact readSsrc_flatten (k := 2) (by simp) rfl rfl
  · rw [hdata]
    exact readSsrc_flatten (k := 7) (by simp) rfl rfl

/-! ## One message -/

/-- Seven bits are no packet type of RTCP. -/
theorem payloadType_ne (rtp : RtpHeader) : ¬(rtp.payloadType = 201 ∨ rtp.payloadType = 200) := by
  have hle : rtp.payloadType.toNat ≤ 127 := by
    rw [RtpHeader.payloadType, UInt8.toNat_and]
    exact Nat.and_le_right
  rintro (h | h) <;>
  · rw [h] at hle
    exact absurd hle (by decide)

/-- What a call should lead to. -/
structure Reaches (s : RtcpReceivingSession) (messages : List Message) (feedback : List Feedback)
    (bitrate : UInt32) (out : Output) : Prop where
  bitrate : out.session.mRequestedBitrate = bitrate
  passed : out.passed = messages.filter isMedia
  sent : List.Forall₂ Carries feedback out.sent

/-- A field of 32 bits that is inside is read. -/
theorem exists_readSsrc {data : List UInt8} {i : ℕ} (h : i + 4 ≤ data.length) :
    ∃ ssrc, readSsrc data i = .ok ssrc := ⟨_, if_pos h⟩

theorem readSsrc_of_lt {data : List UInt8} {i : ℕ} (h : data.length < i + 4) :
    readSsrc data i = .error .outside := if_neg (not_le.2 h)

/-- The type of a packet. -/
theorem readByte_of_some {data : List UInt8} {i : ℕ} {byte : UInt8} (h : data[i]? = some byte) :
    readByte data i = .ok byte := by
  rw [readByte, h]

/-- A sender report. -/
theorem visit_senderReport {message : Message} (htype : message.type = .control)
    (hbyte : message.data[1]? = some 200) (hlong : 20 ≤ message.size) :
    ∃ out, s.visit message = .ok out ∧
      Reaches s [message] (answers s.mRequestedBitrate message) s.mRequestedBitrate out := by
  have hlong' : 20 ≤ message.data.length := hlong
  obtain ⟨ssrc, hssrc⟩ := exists_readSsrc (show 4 + 4 ≤ message.data.length by omega)
  obtain ⟨rtpTimestamp, hrtp⟩ := exists_readSsrc (show 16 + 4 ≤ message.data.length by omega)
  obtain ⟨ntp, hntp⟩ : ∃ ntp, RtcpSr.ntpTimestamp message.data = .ok ntp := by
    rw [RtcpSr.ntpTimestamp, readBytes, if_pos (by omega)]
    exact ⟨_, rfl⟩
  have hmedia : isMedia message = false := by
    rw [isMedia, htype]
    rfl
  -- the session from which the answers are sent
  let s' : RtcpReceivingSession :=
    { s with mSsrc := ssrc, mSyncRTPTS := rtpTimestamp.toUInt64, mSyncNTPTS := ntp }
  have hrr : Carries (.rr message) (s'.pushRR 0) :=
    @carries_pushRR s' message hssrc hntp 0
  refine ⟨{ session := s', sent := s'.pushRR 0 ::
    if 0 < s'.mRequestedBitrate then [s'.pushREMB s'.mRequestedBitrate] else [] }, ?_, rfl, ?_, ?_⟩
  · simp only [visit, htype, readByte_of_some hbyte, hssrc, RtcpSr.rtpTimestamp, hrtp, hntp,
      bind, Except.bind]
    rfl
  · rw [List.filter_singleton, hmedia]
    rfl
  · rw [answers]
    refine .cons hrr ?_
    show List.Forall₂ Carries _ (if 0 < s.mRequestedBitrate then _ else _)
    split
    · exact .cons (carries_pushREMB _) .nil
    · exact .nil

/-- A message that is no control message. -/
theorem visit_of_ne_control {message : Message} (htype : message.type ≠ .control) :
    ∃ out, s.visit message = .ok out ∧ Reaches s [message] [] s.mRequestedBitrate out := by
  by_cases hmedia : isMedia message = true
  · have hparts := hmedia
    simp only [isMedia, Bool.and_eq_true, decide_eq_true_eq] at hparts
    obtain ⟨⟨hbinary, hlong⟩, hversion⟩ := hparts
    refine ⟨{ session := { s with mSsrc := (RtpHeader.read message.data).ssrc },
              passed := [message] }, ?_, rfl, ?_, .nil⟩
    · simp only [visit, hbinary]
      rw [if_neg (not_lt.2 hlong), if_neg (not_not.2 hversion), if_neg (payloadType_ne _)]
    · rw [List.filter_singleton, hmedia]
      rfl
  · -- it is dropped, as too short or of another version
    refine ⟨{ session := s }, ?_, rfl, ?_, .nil⟩
    · cases htype' : message.type with
      | binary =>
        simp only [visit, htype']
        split
        · rfl
        · next hlong =>
          have hversion : (RtpHeader.read message.data).version ≠ 2 := by
            intro hversion
            apply hmedia
            rw [isMedia, htype', decide_eq_true (not_lt.1 hlong), decide_eq_true hversion]
            rfl
          rw [if_pos hversion]
      | control => exact absurd htype' htype
      | string => simp only [visit, htype']
      | reset => simp only [visit, htype']
    · rw [List.filter_singleton, eq_false_of_ne_true hmedia]
      rfl

/-- A control message that is no sender report. -/
theorem visit_of_ne_senderReport {message : Message} (htype : message.type = .control)
    {byte : UInt8} (hbyte : message.data[1]? = some byte) (hne : byte ≠ 200)
    (hlong : byte = 201 → 8 ≤ message.size) :
    ∃ out, s.visit message = .ok out ∧ Reaches s [message] [] s.mRequestedBitrate out := by
  have hmedia : [message].filter isMedia = [] := by
    rw [List.filter_singleton, isMedia, htype]
    rfl
  by_cases hrr : byte = 201
  · obtain ⟨ssrc, hssrc⟩ := exists_readSsrc (show 4 + 4 ≤ message.data.length from hlong hrr)
    refine ⟨{ session := { s with mSsrc := ssrc } }, ?_, rfl, hmedia.symm, .nil⟩
    simp only [visit, htype, readByte_of_some hbyte, bind, Except.bind, if_pos hrr, hssrc]
    rfl
  · refine ⟨{ session := s }, ?_, rfl, hmedia.symm, .nil⟩
    simp only [visit, htype, readByte_of_some hbyte, bind, Except.bind, if_neg hrr, if_neg hne]
    rfl

/-- A control message that is too short for its type. -/
theorem visit_of_not_readable {message : Message} (h : ¬Readable message) :
    s.visit message = .error .outside := by
  rw [Readable, Classical.not_imp] at h
  obtain ⟨htype, hshort⟩ := h
  cases hbyte : message.data[1]? with
  | none =>
    have hread : readByte message.data 1 = .error .outside := by
      rw [readByte, hbyte]
    simp only [visit, htype, hread, bind, Except.bind]
  | some byte =>
    have htwo : 2 ≤ message.size := (List.getElem?_eq_some_iff.1 hbyte).1
    rw [hbyte, Option.some.injEq, Option.some.injEq] at hshort
    simp only [visit, htype, readByte_of_some hbyte, bind, Except.bind]
    by_cases hrr : byte = 201
    · -- the SSRC is outside
      have hlt : message.data.length < 4 + 4 := by
        by_contra hle
        refine hshort ⟨htwo, fun _ => not_lt.1 hle, ?_⟩
        rintro rfl
        exact absurd hrr (by decide)
      rw [if_pos hrr, readSsrc_of_lt hlt]
    · have hsr : byte = 200 := by
        by_contra hne
        exact hshort ⟨htwo, fun h => absurd h hrr, fun h => absurd h hne⟩
      have hlt : message.data.length < 16 + 4 := by
        by_contra hle
        exact hshort ⟨htwo, fun h => absurd h hrr, fun _ => not_lt.1 hle⟩
      rw [if_neg hrr, if_pos hsr]
      -- of the three fields, the RTP timestamp ends last and is read second
      by_cases hssrc : 4 + 4 ≤ message.data.length
      · obtain ⟨ssrc, hssrc⟩ := exists_readSsrc hssrc
        simp only [hssrc, RtcpSr.rtpTimestamp, readSsrc_of_lt hlt]
      · rw [readSsrc_of_lt (not_le.1 hssrc)]

/-- The loop does what it should with a message that is long enough. -/
theorem visit_of_readable {message : Message} (h : Readable message) :
    ∃ out, s.visit message = .ok out ∧
      Reaches s [message] (([message].filter isSenderReport).flatMap
        (answers s.mRequestedBitrate)) s.mRequestedBitrate out := by
  by_cases htype : message.type = .control
  · obtain ⟨htwo, hrr, hsr⟩ := h htype
    have hbyte : message.data[1]? = some message.data[1] := List.getElem?_eq_getElem htwo
    have hreport : isSenderReport message = decide (message.data[1] = 200) := by
      rw [isSenderReport, htype, hbyte]
      simp
    rw [List.filter_singleton, hreport]
    by_cases hsender : message.data[1] = 200
    · rw [decide_eq_true hsender]
      rw [hsender] at hbyte
      simpa using visit_senderReport htype hbyte (hsr hbyte)
    · rw [decide_eq_false hsender]
      refine visit_of_ne_senderReport htype hbyte hsender fun heq => ?_
      exact hrr (heq ▸ hbyte)
  · have hreport : isSenderReport message = false := by
      rw [isSenderReport, decide_eq_false htype, Bool.false_and]
    rw [List.filter_singleton, hreport]
    exact visit_of_ne_control htype

/-! ## Runs -/

/-- One call and then another. -/
theorem Reaches.append {messages messages' : List Message} {feedback feedback' : List Feedback}
    {bitrate bitrate' : UInt32} {first rest : Output}
    (h : Reaches s messages feedback bitrate first)
    (h' : Reaches first.session messages' feedback' bitrate' rest) :
    Reaches s (messages ++ messages') (feedback ++ feedback') bitrate'
      { rest with passed := first.passed ++ rest.passed, sent := first.sent ++ rest.sent } := by
  refine ⟨h'.bitrate, ?_, ?_⟩
  · show first.passed ++ rest.passed = _
    rw [h.passed, h'.passed, List.filter_append]
  · exact List.rel_append h.sent h'.sent

/-- The messages of a call, by induction on them. -/
theorem incoming_of_readable {messages : List Message}
    (h : ∀ message ∈ messages, Readable message) :
    ∃ out, s.incoming messages = .ok out ∧
      Reaches s messages ((messages.filter isSenderReport).flatMap
        (answers s.mRequestedBitrate)) s.mRequestedBitrate out := by
  induction messages generalizing s with
  | nil => exact ⟨_, rfl, rfl, rfl, .nil⟩
  | cons message messages ih =>
    obtain ⟨hmessage, hmessages⟩ := List.forall_mem_cons.1 h
    obtain ⟨first, hfirst, hreaches⟩ := visit_of_readable (s := s) hmessage
    obtain ⟨rest, hrest, hreaches'⟩ := ih (s := first.session) hmessages
    -- the session keeps the bitrate that has been requested
    rw [hreaches.bitrate] at hreaches'
    have happend := hreaches.append hreaches'
    rw [← List.flatMap_append, ← List.filter_append] at happend
    refine ⟨_, ?_, happend⟩
    rw [incoming, hfirst, ok_bind, hrest]
    rfl

theorem readable_of_incoming {messages : List Message} {out : Output}
    (h : s.incoming messages = .ok out) : ∀ message ∈ messages, Readable message := by
  induction messages generalizing s out with
  | nil => exact List.forall_mem_nil _
  | cons message messages ih =>
    obtain ⟨first, hfirst, hrest⟩ := of_bind_eq_ok h
    obtain ⟨rest, hincoming, -⟩ := of_bind_eq_ok hrest
    refine List.forall_mem_cons.2 ⟨?_, ih hincoming⟩
    by_contra hnot
    rw [visit_of_not_readable hnot] at hfirst
    cases hfirst

/-- The bitrate that is requested last. -/
def lastBitrate (bitrate : UInt32) : List Event → UInt32
  | [] => bitrate
  | .requestBitrate requested :: events => lastBitrate requested events
  | _ :: events => lastBitrate bitrate events

/-- The calls of a run, by induction on them. -/
theorem run_of_readable {events : List Event}
    (h : ∀ message ∈ received events, Readable message) :
    ∃ out, s.run events = .ok out ∧
      Reaches s (received events) (wanted s.mRequestedBitrate events)
        (lastBitrate s.mRequestedBitrate events) out := by
  induction events generalizing s with
  | nil => exact ⟨_, rfl, rfl, rfl, .nil⟩
  | cons event events ih =>
    cases event with
    | incoming messages =>
      rw [received, List.forall_mem_append] at h
      obtain ⟨first, hfirst, hreaches⟩ := incoming_of_readable (s := s) h.1
      obtain ⟨rest, hrest, hreaches'⟩ := ih (s := first.session) h.2
      rw [hreaches.bitrate] at hreaches'
      refine ⟨_, ?_, hreaches.append hreaches'⟩
      rw [run, step, hfirst, ok_bind, hrest]
      rfl
    | requestKeyframe =>
      have hfirst : Reaches s [] [.pli] s.mRequestedBitrate
          { session := s, sent := [s.pushPLI] } := ⟨rfl, rfl, .cons carries_pushPLI .nil⟩
      obtain ⟨rest, hrest, hreaches⟩ := ih (s := s) h
      refine ⟨_, ?_, hfirst.append hreaches⟩
      rw [run, step, ok_bind, hrest]
      rfl
    | requestBitrate bitrate =>
      let s' : RtcpReceivingSession := { s with mRequestedBitrate := bitrate }
      have hfirst : Reaches s [] [.remb bitrate] bitrate
          { session := s', sent := [s'.pushREMB bitrate] } :=
        ⟨rfl, rfl, .cons (carries_pushREMB bitrate) .nil⟩
      obtain ⟨rest, hrest, hreaches⟩ := ih (s := s') h
      refine ⟨_, ?_, hfirst.append hreaches⟩
      rw [run, step, ok_bind, hrest]
      rfl

theorem readable_of_run {events : List Event} {out : Output} (h : s.run events = .ok out) :
    ∀ message ∈ received events, Readable message := by
  induction events generalizing s out with
  | nil => exact List.forall_mem_nil _
  | cons event events ih =>
    obtain ⟨first, hfirst, hrest⟩ := of_bind_eq_ok h
    obtain ⟨rest, hrun, -⟩ := of_bind_eq_ok hrest
    cases event with
    | incoming messages => exact List.forall_mem_append.2 ⟨readable_of_incoming hfirst, ih hrun⟩
    | requestKeyframe => exact ih hrun
    | requestBitrate bitrate => exact ih hrun

/-! ## The sender -/

/-- The calls of the handler for key frames. -/
def Feedback.pliCalls : Feedback → List Unit
  | .pli => [()]
  | _ => []

/-- The calls of the handler for bitrates: with the mantissa times the square of the exponent. -/
def Feedback.RembCalls : Feedback → List UInt32 → Prop
  | .remb bitrate, calls => ∃ reported k, calls = [reported] ∧ IsExponent bitrate.toNat k ∧
      reported.toNat = bitrate.toNat / 2 ^ k * k ^ 2
  | _, calls => calls = []

variable {feedback : List Feedback} {sent : List Message}

theorem incoming_pli (h : List.Forall₂ Carries feedback sent) :
    PliHandler.incoming sent = .ok (feedback.map Feedback.pliCalls) := by
  induction h with
  | nil => rfl
  | @cons f message feedback sent hcarries _ ih =>
    have hcalled : PliHandler.called message = .ok f.pliCalls := by
      cases f <;> exact hcarries.1
    rw [FeedbackHandler.incoming_cons, hcalled, ih]
    rfl

theorem incoming_remb (h : List.Forall₂ Carries feedback sent) :
    ∃ calls, RembHandler.incoming sent = .ok calls ∧
      List.Forall₂ Feedback.RembCalls feedback calls := by
  induction h with
  | nil => exact ⟨[], rfl, .nil⟩
  | @cons f message feedback sent hcarries _ ih =>
    obtain ⟨rest, hrest, hrelated⟩ := ih
    obtain ⟨first, hfirst, hone⟩ : ∃ first, RembHandler.called message = .ok first ∧
        f.RembCalls first := by
      cases f with
      | pli => exact ⟨[], hcarries.2, rfl⟩
      | remb bitrate =>
        obtain ⟨-, reported, hreported, k, hk, hvalue⟩ := hcarries
        exact ⟨[reported], hreported, reported, k, rfl, hk, hvalue⟩
      | rr sr => exact ⟨[], hcarries.2.1, rfl⟩
    refine ⟨first :: rest, ?_, .cons hone hrelated⟩
    rw [FeedbackHandler.incoming_cons, hfirst, hrest]
    rfl

/-- **Feedback.** A run reads inside the messages exactly if all control messages are long enough.
Then the media packets are passed on in their order, and what is sent are the requests and the
answers to the sender reports, for each of which the handlers of the sender are called once. -/
theorem feedback_reaches (s : RtcpReceivingSession) (events : List Event) :
    (∃ out, s.run events = .ok out ∧ out.passed = (received events).filter isMedia ∧
        List.Forall₂ Carries (wanted s.mRequestedBitrate events) out.sent ∧
        PliHandler.incoming out.sent =
          .ok ((wanted s.mRequestedBitrate events).map Feedback.pliCalls) ∧
        ∃ calls, RembHandler.incoming out.sent = .ok calls ∧
          List.Forall₂ Feedback.RembCalls (wanted s.mRequestedBitrate events) calls) ↔
      ∀ message ∈ received events, Readable message := by
  constructor
  · rintro ⟨out, hrun, -⟩
    exact readable_of_run hrun
  · intro hreadable
    obtain ⟨out, hrun, hreaches⟩ := run_of_readable (s := s) hreadable
    exact ⟨out, hrun, hreaches.passed, hreaches.sent, incoming_pli hreaches.sent,
      incoming_remb hreaches.sent⟩

end RtcpReceivingSession

end Rtc
