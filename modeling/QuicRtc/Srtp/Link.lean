import QuicRtc.Srtp.Sessions

/-!
# Two ends and a network

Two `DtlsSrtpTransport`s at the ends of one association, with a network between them that may drop,
delay, reorder, repeat and make up packets (`Link`). The one thing it cannot do is to make up a
packet whose tag verifies (`Link.Genuine`).

`Sent.Sealed` is what `sendMedia` guarantees of a packet it sends: it has been protected under an
index that goes with its sequence number (`sealed_protect`, `sealed_protectRtcp`).
-/

namespace Rtc.Srtp

/-! ## The two ends -/

/-- The ends of an association. -/
inductive Party where
  | client
  | server
  deriving DecidableEq, Repr

/-- The other end. -/
def Party.other : Party → Party
  | .client => .server
  | .server => .client

/-- The keys for what a party sends, which both ends get out of the handshake. -/
def Handshake.keys (net : Handshake) (p : Party) : Option SessionKeys :=
  match net.profileName with
  | none => none
  | some name =>
    match DtlsSrtpTransport.getProfileParamsFromName name with
    | .error _ => none
    | .ok (profile, keySize, saltSize) =>
      match net.exportKeyingMaterial ((keySize + saltSize) * 2) with
      | none => none
      | some material =>
        let keys := DtlsSrtpTransport.sessionKeys material keySize saltSize
        some (net.deriveKeys profile (if p = .client then keys.1 else keys.2))

/-- A packet that has been sent, with its index and what went over the network. -/
structure Sent where
  plain : List UInt8
  index : ℕ
  packet : List UInt8
  deriving DecidableEq, Repr

/-- Two transports, what they have given to the network, and what `mSrtpRecvCallback` has been
called with. -/
structure Link where
  transport : Party → DtlsSrtpTransport
  sent : Party → List Sent
  received : Party → List Message

/-- What happens at one of the ends. -/
inductive Event where
  /-- The handshake is over. -/
  | finish (p : Party)
  | send (p : Party) (message : Datagram)
  /-- The network hands over a packet, be it one that was sent or not. -/
  | arrive (p : Party) (packet : List UInt8)

/-- The index that a session protects a packet with. -/
def Session.packetIndex (s : Session) (pkt : List UInt8) : ℕ :=
  if isRtcp pkt then (s.rdb (rtcpSsrc pkt)).windowStart + 1
  else
    match s.streamTemplate with
    | none => 0
    | some t => ((s.rdbx t.windowSize (ssrc pkt)).estimateIndex (seq pkt)).1

namespace Link

/-- Before the handshake. -/
def start : Link where
  transport p := { mIsClient := p = .client }
  sent _ := []
  received _ := []

/-- What a call of `sendMedia` adds to the packets that have been sent. -/
def sentBy (result : Except Exception (Option Datagram)) (plain : List UInt8) (index : ℕ) :
    List Sent :=
  match result with
  | .ok (some datagram) => [⟨plain, index, datagram.data⟩]
  | _ => []

/-- One event. -/
def step (net : Handshake) (l : Link) : Event → Link
  | .finish p =>
    match (l.transport p).postHandshake net with
    | .error _ => l
    | .ok t => { l with transport := Function.update l.transport p t }
  | .send p message =>
    let result := (l.transport p).sendMedia (some message)
    let index := (l.transport p).mSrtpOut.packetIndex message.data
    { l with
      transport := Function.update l.transport p result.2
      sent := Function.update l.sent p (l.sent p ++ sentBy result.1 message.data index) }
  | .arrive p packet =>
    let result := ((l.transport p).demuxMessage packet).2
    { l with
      transport := Function.update l.transport p result.2
      received := Function.update l.received p (l.received p ++ result.1.toList) }

/-- All events, from the start. -/
def run (net : Handshake) (events : List Event) : Link := events.foldl (step net) start

/-- A packet whose tag verifies is one that the other end has sent, under the same rollover
counter. -/
def Genuine (net : Handshake) (l : Link) (p : Party) (packet : List UInt8) : Prop :=
  ∀ keys, net.keys p.other = some keys →
    (isRtcp packet = false → ∀ est < 2 ^ 48, Verifies keys est packet →
      ∃ w ∈ l.sent p.other, w.packet = packet ∧ w.index / 2 ^ 16 = est / 2 ^ 16) ∧
    (isRtcp packet = true → VerifiesRtcp keys packet → ∃ w ∈ l.sent p.other, w.packet = packet)

/-- All packets that arrive are genuine. -/
def Unforged (net : Handshake) (l : Link) : List Event → Prop
  | [] => True
  | .arrive p packet :: events =>
    l.Genuine net p packet ∧ (l.step net (.arrive p packet)).Unforged net events
  | event :: events => (l.step net event).Unforged net events

end Link

/-! ## Sending -/

/-- The packet has been protected under its index. -/
structure Sent.Sealed (keys : SessionKeys) (w : Sent) : Prop where
  rtp : isRtcp w.plain = false → encStart w.plain ≤ w.plain.length ∧
    w.packet = sealRtp keys w.index w.plain ∧ w.index % 2 ^ 16 = seq w.plain
  rtcp : isRtcp w.plain = true →
    w.packet = sealRtcp keys w.index w.plain ∧ w.index < 2 ^ 31

theorem Sent.Sealed.isRtcp_packet {keys : SessionKeys} {w : Sent} (h : w.Sealed keys)
    (hlawful : keys.Lawful) : isRtcp w.packet = isRtcp w.plain := by
  cases hkind : isRtcp w.plain with
  | false =>
    obtain ⟨hpkt, hpacket, -⟩ := h.rtp hkind
    rw [hpacket, isRtcp_sealRtp hlawful.rtp _ hpkt, hkind]
  | true =>
    obtain ⟨hpacket, -⟩ := h.rtcp hkind
    rw [hpacket, isRtcp_sealRtcp hlawful.rtcp _ (isRtcp_length hkind), hkind]

namespace Session

variable {s s' : Session} {pkt packet : List UInt8}

/-- The keys of a session stay. -/
def keys (s : Session) : Option SessionKeys := s.streamTemplate.map Template.keys

@[simp]
theorem keys_setNumLeft (s : Session) (n : ℕ) : (s.setNumLeft n).keys = s.keys := by
  rw [keys, setNumLeft, Option.map_map]
  rfl

@[simp]
theorem keys_insertStream (s : Session) (t : Template) (k : ℕ) :
    (s.insertStream t k).keys = s.keys := by
  rw [insertStream]
  split
  · rfl
  · rfl

@[simp]
theorem keys_updateStream (s : Session) (stream : Stream) : (s.updateStream stream).keys = s.keys :=
  rfl

theorem keys_protect (s : Session) (pkt : List UInt8) : (s.protect pkt).2.keys = s.keys := by
  rw [protect]
  generalize validateRtpHeader pkt = valid
  cases valid with
  | error e => rfl
  | ok _ =>
    cases s.streamTemplate with
    | none => rfl
    | some t =>
      generalize keyLimitUpdate t.numLeft = update
      dsimp only
      split_ifs
      · simp
      · simp
      · split
        · simp
        · split_ifs <;> simp

theorem keys_protectRtcp (s : Session) (pkt : List UInt8) :
    (s.protectRtcp pkt).2.keys = s.keys := by
  rw [protectRtcp]
  split
  · rfl
  · cases s.streamTemplate with
    | none => rfl
    | some t =>
      dsimp only
      split <;> simp

/-- What is sent has been protected under `packetIndex`. -/
theorem sealed_protect (h : s.protect pkt = (.ok packet, s')) (hkind : isRtcp pkt = false) :
    ∃ keys, s.keys = some keys ∧ Sent.Sealed keys ⟨pkt, s.packetIndex pkt, packet⟩ := by
  rw [protect] at h
  cases hvalid : validateRtpHeader pkt with
  | error e => simp [hvalid] at h
  | ok _ =>
    cases ht : s.streamTemplate with
    | none => simp [hvalid, ht] at h
    | some t =>
      refine ⟨t.keys, by rw [keys, ht]; rfl, fun _ => ?_,
        fun hrtcp => absurd (hrtcp.symm.trans hkind) (by decide)⟩
      have hindex : s.packetIndex pkt =
          ((s.rdbx t.windowSize (ssrc pkt)).estimateIndex (seq pkt)).1 := by
        rw [packetIndex, hkind, ht]
        rfl
      have hpacket : packet = sealRtp t.keys (s.packetIndex pkt) pkt := by
        rw [hindex]
        rw [hvalid, ht] at h
        simp only [rtpRdbx_streamFor] at h
        generalize keyLimitUpdate t.numLeft = update at h
        split_ifs at h
        · simp at h
        · simp at h
        · split at h
          · simp only [Prod.mk.injEq, Except.ok.injEq] at h
            exact h.1.symm
          · split_ifs at h
            · simp at h
            · simp only [Prod.mk.injEq, Except.ok.injEq] at h
              exact h.1.symm
      refine ⟨validateRtpHeader_eq_ok_iff.1 hvalid, hpacket, ?_⟩
      simp only [hindex]
      exact (Rdbx.estimateIndex_mod _ (seq_lt pkt)).1

/-- What is sent has been protected under `packetIndex`. -/
theorem sealed_protectRtcp (h : s.protectRtcp pkt = (.ok packet, s')) (hkind : isRtcp pkt = true) :
    ∃ keys, s.keys = some keys ∧ Sent.Sealed keys ⟨pkt, s.packetIndex pkt, packet⟩ := by
  have hlength := isRtcp_length hkind
  have hindex : s.packetIndex pkt = (s.rdb (rtcpSsrc pkt)).windowStart + 1 := by
    rw [packetIndex, if_pos hkind]
  rw [protectRtcp, if_neg (by omega)] at h
  cases ht : s.streamTemplate with
  | none => simp [ht] at h
  | some t =>
    refine ⟨t.keys, by rw [keys, ht]; rfl,
      fun hrtp => absurd (hrtp.symm.trans hkind) (by decide), fun _ => ?_⟩
    simp only [ht, rtcpRdb_streamFor, Rdb.increment] at h
    split at h
    · simp at h
    case h_2 rdb hincrement =>
      split at hincrement
      · simp at hincrement
      case isFalse hlimit =>
        simp only [Except.ok.injEq] at hincrement
        simp only [Prod.mk.injEq, Except.ok.injEq] at h
        rw [hindex, ← h.1, ← hincrement]
        exact ⟨rfl, by simp only; omega⟩

end Session

end Rtc.Srtp
