import QuicRtc.Rtcp.SenderReport
import QuicRtc.Rtp.Spec

/-!
# The counters of a sender report

`RtcpSrReporter::outgoing` counts the packets that pass and adds up the sizes of their payloads for
the next report. The size of a payload is computed as that of the packet less `RtpHeader::getSize`,
which does not include a header extension.

* `Counted.after_events`: what has been counted after a run.
* `report_counts_iff`: the two counts of a report are right exactly when the extensions of the
  packets so far add up to a multiple of 2³².
-/

namespace Rtc

/-! ## The reporter -/

namespace RtcpSrReporter

/-- `RtcpSrReporter::addToReport`. -/
def addToReport (reporter : RtcpSrReporter) (rtp : List UInt8) (rtpSize : UInt32) :
    RtcpSrReporter :=
  { reporter with
    packetCount := reporter.packetCount + 1
    payloadOctets :=
      reporter.payloadOctets + (rtpSize - UInt32.ofNat (RtpHeader.read rtp).getSize) }

/-- What the loop of `outgoing` does with a message. -/
def count (reporter : RtcpSrReporter) (message : Message) : RtcpSrReporter :=
  if message.type = .control then reporter
  else if message.size < RtpHeader.sizeOf then reporter
  else reporter.addToReport message.data (UInt32.ofNat message.size)

/-- `RtcpSrReporter::outgoing`, with the reports it sends. An exception leaves the counters and the
flag as they are then. -/
def outgoing (reporter : RtcpSrReporter) (config : RtpPacketizationConfig) (ntpTime : UInt64)
    (messages : List Message) : RtcpSrReporter × Except ReportFailure (List Message) :=
  let counted := messages.foldl count reporter
  if counted.needsToReport then
    let exchanged := { counted with needsToReport := false }
    match exchanged.getSenderReport config ntpTime config.timestamp with
    | .ok (sr, reported) => (reported, .ok [sr])
    | .error e => (exchanged, .error e)
  else (counted, .ok [])

/-- `RtcpSrReporter::setNeedsToReport`. -/
def setNeedsToReport (reporter : RtcpSrReporter) : RtcpSrReporter :=
  { reporter with needsToReport := true }

end RtcpSrReporter

/-! ## Runs -/

/-- A payload given to `packetize`. -/
structure Packetized where
  config : RtpPacketizationConfig
  mark : Bool
  payload : List UInt8

/-- What passes through the reporter: the packet of a payload, or a control message. -/
inductive Passing where
  | packet (p : Packetized)
  | control (data : List UInt8)

namespace Passing

/-- The message. -/
def toMessage : Passing → Message
  | .packet p => ⟨(p.config.packetize p.mark p.payload).1, .binary, 0, none⟩
  | .control data => ⟨data, .control, 0, none⟩

/-- The packets of a batch. -/
def packets : List Passing → List Packetized
  | [] => []
  | .packet p :: rest => p :: packets rest
  | .control _ :: rest => packets rest

end Passing

/-- What happens to a reporter. The configuration and the time are those at the call. -/
inductive ReporterEvent where
  | setNeedsToReport
  | outgoing (config : RtpPacketizationConfig) (ntpTime : UInt64) (batch : List Passing)

namespace ReporterEvent

/-- The packets of an event. -/
def packets : ReporterEvent → List Packetized
  | .setNeedsToReport => []
  | .outgoing _ _ batch => Passing.packets batch

/-- The reporter behind an event. -/
def apply (reporter : RtcpSrReporter) : ReporterEvent → RtcpSrReporter
  | .setNeedsToReport => reporter.setNeedsToReport
  | .outgoing config ntpTime batch =>
    (reporter.outgoing config ntpTime (batch.map Passing.toMessage)).1

/-- The reporter behind a run. -/
def applyAll (reporter : RtcpSrReporter) (events : List ReporterEvent) : RtcpSrReporter :=
  events.foldl apply reporter

end ReporterEvent

/-! ## What is counted -/

/-- The sizes of the payloads. -/
def payloadSizes (packets : List Packetized) : ℕ := (packets.map fun p => p.payload.length).sum

/-- The sizes of the header extensions. -/
def extensionSizes (packets : List Packetized) : ℕ :=
  (packets.map fun p => p.config.rtpExtHeaderSize p.mark).sum

/-- The reporter has counted these packets. -/
structure Counted (reporter : RtcpSrReporter) (packets : List Packetized) : Prop where
  packetCount : reporter.packetCount = UInt32.ofNat packets.length
  payloadOctets : reporter.payloadOctets =
    UInt32.ofNat (payloadSizes packets + extensionSizes packets)

namespace Counted

variable {reporter : RtcpSrReporter} {packets : List Packetized}

/-- A packet has no CSRCs, so what is taken off is the fixed header. -/
theorem addToReport (h : Counted reporter packets) (p : Packetized) :
    Counted (reporter.addToReport (p.config.packetize p.mark p.payload).1
      (UInt32.ofNat (p.config.packetize p.mark p.payload).1.length)) (packets ++ [p]) := by
  have hsize : (RtpHeader.read (p.config.packetize p.mark p.payload).1).getSize = 12 := by
    rw [p.config.read_packetize, RtpHeader.getSize, (p.config.flags_header p.mark).2.1]
    rfl
  constructor
  · show reporter.packetCount + 1 = _
    rw [h.packetCount, List.length_append, UInt32.ofNat_add]
    rfl
  · show reporter.payloadOctets + (UInt32.ofNat _ - UInt32.ofNat _) = _
    have hsum : payloadSizes (packets ++ [p]) + extensionSizes (packets ++ [p]) =
        payloadSizes packets + extensionSizes packets +
          (p.config.rtpExtHeaderSize p.mark + p.payload.length) := by
      simp only [payloadSizes, extensionSizes, List.map_append, List.sum_append, List.map_cons,
        List.map_nil, List.sum_cons, List.sum_nil]
      omega
    rw [h.payloadOctets, hsize, p.config.length_packetize, Nat.add_assoc, Nat.add_comm 12,
      UInt32.ofNat_add (_ + _) 12, UInt32.add_sub_cancel, hsum, UInt32.ofNat_add (_ + _) (_ + _)]

/-- A message of a batch. -/
theorem count (h : Counted reporter packets) (passing : Passing) :
    Counted (reporter.count passing.toMessage) (packets ++ Passing.packets [passing]) := by
  cases passing with
  | control data =>
    show Counted reporter (packets ++ [])
    rwa [List.append_nil]
  | packet p =>
    have hlong : ¬(p.config.packetize p.mark p.payload).1.length < 12 := by
      rw [p.config.length_packetize]
      omega
    show Counted (if _ then _ else if (p.config.packetize p.mark p.payload).1.length < 12 then _
      else _) _
    rw [if_neg (by simp [Passing.toMessage]), if_neg hlong]
    exact h.addToReport p

/-- The messages of a batch. -/
theorem foldl (h : Counted reporter packets) (batch : List Passing) :
    Counted ((batch.map Passing.toMessage).foldl RtcpSrReporter.count reporter)
      (packets ++ Passing.packets batch) := by
  induction batch generalizing reporter packets with
  | nil =>
    show Counted reporter (packets ++ [])
    rwa [List.append_nil]
  | cons passing batch ih =>
    have hrest := ih (h.count passing)
    have hpackets : packets ++ Passing.packets [passing] ++ Passing.packets batch =
        packets ++ Passing.packets (passing :: batch) := by
      cases passing <;> simp [Passing.packets]
    rwa [hpackets] at hrest

/-- Sending a report changes no counter. -/
theorem outgoing (h : Counted reporter packets) (config : RtpPacketizationConfig)
    (ntpTime : UInt64) (batch : List Passing) :
    Counted (reporter.outgoing config ntpTime (batch.map Passing.toMessage)).1
      (packets ++ Passing.packets batch) := by
  have hcounted := h.foldl batch
  rw [RtcpSrReporter.outgoing]
  generalize (batch.map Passing.toMessage).foldl RtcpSrReporter.count reporter = counted at *
  dsimp only
  split
  · by_cases hname : config.cname.length ≤ 255
    · rw [RtcpSrReporter.getSenderReport_eq _ _ _ _ hname]
      exact ⟨hcounted.packetCount, hcounted.payloadOctets⟩
    · rw [RtcpSrReporter.getSenderReport_of_long _ _ _ _ (not_le.1 hname)]
      exact ⟨hcounted.packetCount, hcounted.payloadOctets⟩
  · exact hcounted

/-- What has been counted after a run. -/
theorem applyAll (h : Counted reporter packets) (events : List ReporterEvent) :
    Counted (ReporterEvent.applyAll reporter events)
      (packets ++ events.flatMap ReporterEvent.packets) := by
  induction events generalizing reporter packets with
  | nil =>
    show Counted reporter (packets ++ [])
    rwa [List.append_nil]
  | cons event events ih =>
    rw [List.flatMap_cons, ← List.append_assoc]
    refine ih ?_
    cases event with
    | setNeedsToReport =>
      show Counted reporter.setNeedsToReport (packets ++ [])
      rw [List.append_nil]
      exact ⟨h.packetCount, h.payloadOctets⟩
    | outgoing config ntpTime batch => exact h.outgoing config ntpTime batch

/-- At the start nothing has. -/
theorem init (config : RtpPacketizationConfig) : Counted (RtcpSrReporter.init config) [] :=
  ⟨rfl, rfl⟩

end Counted

/-! ## The report -/

/-- The packets of a run and of a last batch. -/
def packetsSoFar (events : List ReporterEvent) (batch : List Passing) : List Packetized :=
  events.flatMap ReporterEvent.packets ++ Passing.packets batch

section Report

variable (config₀ : RtpPacketizationConfig) (events : List ReporterEvent)
  (config : RtpPacketizationConfig) (ntpTime : UInt64) (batch : List Passing)

/-- What the next report carries. -/
theorem report_counts {report : Message}
    (h : ((ReporterEvent.applyAll (.init config₀) events).outgoing config ntpTime
      (batch.map Passing.toMessage)).2 = .ok [report]) :
    RtcpSr.packetCount report.data = .ok (UInt32.ofNat (packetsSoFar events batch).length) ∧
      RtcpSr.octetCount report.data = .ok (UInt32.ofNat (payloadSizes (packetsSoFar events batch) +
        extensionSizes (packetsSoFar events batch))) := by
  have hcounted := ((Counted.init config₀).applyAll events).foldl batch
  rw [List.nil_append] at hcounted
  rw [RtcpSrReporter.outgoing] at h
  generalize (batch.map Passing.toMessage).foldl RtcpSrReporter.count
    (ReporterEvent.applyAll (.init config₀) events) = counted at *
  dsimp only at h
  split at h
  · by_cases hname : config.cname.length ≤ 255
    · rw [RtcpSrReporter.getSenderReport_eq _ _ _ _ hname] at h
      obtain rfl := List.singleton_inj.1 (Except.ok.inj h)
      have hread := RtcpSrReporter.readsBack_senderReport { counted with needsToReport := false }
        config ntpTime config.timestamp hname
      exact ⟨hread.packetCount.trans (congrArg Except.ok hcounted.packetCount),
        hread.octetCount.trans (congrArg Except.ok hcounted.payloadOctets)⟩
    · rw [RtcpSrReporter.getSenderReport_of_long _ _ _ _ (not_le.1 hname)] at h
      cases h
  · cases h

theorem ofNat_add_eq_left_iff {a b : ℕ} :
    UInt32.ofNat (a + b) = UInt32.ofNat a ↔ 2 ^ 32 ∣ b := by
  rw [← UInt32.toNat_inj, UInt32.toNat_ofNat', UInt32.toNat_ofNat', Nat.dvd_iff_mod_eq_zero]
  omega

/-- The loop leaves the flag. -/
theorem RtcpSrReporter.needsToReport_foldl (reporter : RtcpSrReporter) (messages : List Message) :
    (messages.foldl count reporter).needsToReport = reporter.needsToReport := by
  induction messages generalizing reporter with
  | nil => rfl
  | cons message messages ih =>
    rw [List.foldl_cons, ih, count]
    split
    · rfl
    · split <;> rfl

/-- A report that is needed is sent, if there is room for the name. -/
theorem RtcpSrReporter.outgoing_of_needsToReport {reporter : RtcpSrReporter}
    (h : reporter.needsToReport = true) (config : RtpPacketizationConfig)
    (hname : config.cname.length ≤ 255) (ntpTime : UInt64) (messages : List Message) :
    ∃ report, (reporter.outgoing config ntpTime messages).2 = .ok [report] := by
  have hflag : (messages.foldl count reporter).needsToReport = true := by
    rw [needsToReport_foldl, h]
  rw [outgoing]
  dsimp only
  rw [if_pos hflag, getSenderReport_eq _ _ _ _ hname]
  exact ⟨_, rfl⟩

/-- A configuration without header extensions. -/
def plainConfig : RtpPacketizationConfig :=
  { ssrc := 1, payloadType := 96, sequenceNumber := 0, timestamp := 0, cname := [0x61] }

/-- **Sender report counters.** The number of packets is right, and that of octets exactly if the
header extensions of the packets so far add up to a multiple of 2³². -/
theorem report_counts_iff {report : Message}
    (h : ((ReporterEvent.applyAll (.init config₀) events).outgoing config ntpTime
      (batch.map Passing.toMessage)).2 = .ok [report]) :
    RtcpSr.packetCount report.data = .ok (UInt32.ofNat (packetsSoFar events batch).length) ∧
        RtcpSr.octetCount report.data =
          .ok (UInt32.ofNat (payloadSizes (packetsSoFar events batch))) ↔
      2 ^ 32 ∣ extensionSizes (packetsSoFar events batch) := by
  obtain ⟨hpackets, hoctets⟩ := report_counts config₀ events config ntpTime batch h
  rw [hpackets, hoctets, Except.ok.injEq, Except.ok.injEq, ofNat_add_eq_left_iff]
  exact ⟨fun hright => hright.2, fun hmultiple => ⟨rfl, hmultiple⟩⟩

end Report

/-- Four bytes of payload without an extension. -/
theorem report_counts_of_plain :
    ∃ report, ((ReporterEvent.applyAll (.init plainConfig) [.setNeedsToReport]).outgoing plainConfig
        0 ([.packet ⟨plainConfig, true, [1, 2, 3, 4]⟩].map Passing.toMessage)).2 = .ok [report] ∧
      (RtcpSr.packetCount report.data = .ok (UInt32.ofNat 1) ∧
          RtcpSr.octetCount report.data = .ok (UInt32.ofNat 4) ↔
        2 ^ 32 ∣ extensionSizes [⟨plainConfig, true, [1, 2, 3, 4]⟩]) := by
  obtain ⟨report, hreport⟩ := @RtcpSrReporter.outgoing_of_needsToReport
    (RtcpSrReporter.init plainConfig).setNeedsToReport rfl plainConfig (by decide) 0
    ([.packet ⟨plainConfig, true, [1, 2, 3, 4]⟩].map Passing.toMessage)
  exact ⟨report, hreport, report_counts_iff plainConfig [.setNeedsToReport] plainConfig 0
    [.packet ⟨plainConfig, true, [1, 2, 3, 4]⟩] hreport⟩

/-- With a mid of one byte the extension of eight bytes is counted. -/
theorem report_counts_extension :
    ¬∀ (config₀ : RtpPacketizationConfig) (events : List ReporterEvent)
      (config : RtpPacketizationConfig) (ntpTime : UInt64) (batch : List Passing)
      (report : Message),
      ((ReporterEvent.applyAll (.init config₀) events).outgoing config ntpTime
        (batch.map Passing.toMessage)).2 = .ok [report] →
      RtcpSr.packetCount report.data = .ok (UInt32.ofNat (packetsSoFar events batch).length) ∧
        RtcpSr.octetCount report.data =
          .ok (UInt32.ofNat (payloadSizes (packetsSoFar events batch))) := by
  intro hall
  obtain ⟨report, hreport⟩ := @RtcpSrReporter.outgoing_of_needsToReport
    (RtcpSrReporter.init plainConfig).setNeedsToReport rfl plainConfig (by decide) 0
    ([.packet ⟨{ plainConfig with midId := 1, mid := some [0x30] }, true, [1, 2, 3, 4]⟩].map
      Passing.toMessage)
  obtain ⟨-, hright⟩ := hall plainConfig [.setNeedsToReport] plainConfig 0 _ report hreport
  obtain ⟨-, hcounted⟩ := report_counts plainConfig [.setNeedsToReport] plainConfig 0 _ hreport
  rw [hcounted] at hright
  exact absurd hright (by decide)

end Rtc
