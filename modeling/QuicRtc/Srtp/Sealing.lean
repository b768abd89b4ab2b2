import QuicRtc.Srtp.Defs

/-!
# Sealed packets

What `srtp_protect` makes of a packet keeps the header, so the receiver reads from it the same
sequence number, the same SSRC and the same start of the encrypted part (`encStart_sealRtp`). Under
the same index, `srtp_unprotect` therefore gets the packet back (`openRtp_sealRtp`,
`openRtcp_sealRtcp`). Whatever it lets through carries a tag that verifies (`verifies_of_openRtp`,
`verifiesRtcp_of_openRtcp`).
-/

namespace Rtc.Srtp

/-! ## Fields of packets with the same front -/

section Front

variable {p q : List UInt8} {n : ℕ}

theorem getD_eq_of_take (h : p.take n = q.take n) {i : ℕ} (hi : i < n) (d : UInt8) :
    p.getD i d = q.getD i d := by
  rw [List.getD_eq_getElem?_getD, List.getD_eq_getElem?_getD, ← List.getElem?_take_of_lt hi, h,
    List.getElem?_take_of_lt hi]

theorem take_drop_eq_of_take (h : p.take n = q.take n) {k m : ℕ} (hk : k + m ≤ n) :
    (p.drop k).take m = (q.drop k).take m := by
  have hfront : ∀ l : List UInt8, (l.drop k).take m = ((l.take n).drop k).take m := by
    intro l
    rw [List.drop_take, List.take_take, Nat.min_eq_left (by omega)]
  rw [hfront p, hfront q, h]

theorem take_of_eq_append {front rest : List UInt8} (h : p = front ++ rest)
    (hn : front.length = n) : p.take n = front := by
  rw [h]
  exact List.take_left' hn

theorem drop_of_eq_append {front rest : List UInt8} (h : p = front ++ rest)
    (hn : front.length = n) : p.drop n = rest := by
  rw [h]
  exact List.drop_left' hn

theorem cc_eq_of_take (h : p.take n = q.take n) (hn : 12 ≤ n) : cc p = cc q := by
  rw [cc, cc, getD_eq_of_take h (by omega)]

theorem x_eq_of_take (h : p.take n = q.take n) (hn : 12 ≤ n) : x p = x q := by
  rw [x, x, getD_eq_of_take h (by omega)]

theorem seq_eq_of_take (h : p.take n = q.take n) (hn : 12 ≤ n) : seq p = seq q := by
  rw [seq, seq, take_drop_eq_of_take h (by omega)]

theorem ssrc_eq_of_take (h : p.take n = q.take n) (hn : 12 ≤ n) : ssrc p = ssrc q := by
  rw [ssrc, ssrc, take_drop_eq_of_take h (by omega)]

theorem rtcpSsrc_eq_of_take (h : p.take n = q.take n) (hn : 8 ≤ n) : rtcpSsrc p = rtcpSsrc q := by
  rw [rtcpSsrc, rtcpSsrc, take_drop_eq_of_take h (by omega)]

theorem twelve_le_encStart (pkt : List UInt8) : 12 ≤ encStart pkt := by
  rw [encStart]
  omega

/-- The start of the encrypted part can be read from what is in front of it. -/
theorem encStart_eq_of_take (h : p.take (encStart q) = q.take (encStart q)) :
    encStart p = encStart q := by
  have hn := twelve_le_encStart q
  rw [encStart, cc_eq_of_take h hn, x_eq_of_take h hn]
  conv_rhs => rw [encStart]
  split
  case isTrue hx =>
    have hin : 12 + 4 * cc q + 2 + 2 ≤ encStart q := by
      rw [encStart, if_pos hx]
      omega
    rw [xtnLength, xtnLength, cc_eq_of_take h hn, take_drop_eq_of_take h hin]
  case isFalse hx => rfl

/-- `IsRtcp` looks at the length and at the second byte. -/
theorem isRtcp_eq_of_take (h : p.take n = q.take n) (hn : 8 ≤ n) (hp : 8 ≤ p.length)
    (hq : 8 ≤ q.length) : isRtcp p = isRtcp q := by
  rw [isRtcp, isRtcp, if_neg (by omega), if_neg (by omega), getD_eq_of_take h (by omega)]

end Front

theorem seq_lt (pkt : List UInt8) : seq pkt < 2 ^ 16 := by
  have hlt := BigEndian.decode_lt ((pkt.drop 2).take 2)
  have hlength : ((pkt.drop 2).take 2).length ≤ 2 := List.length_take_le _ _
  have hmono := Nat.pow_le_pow_right (n := 256) (by decide) hlength
  rw [seq]
  omega

/-- A header is valid exactly when it fits into the packet. -/
theorem validateRtpHeader_eq_ok_iff {pkt : List UInt8} :
    validateRtpHeader pkt = .ok () ↔ encStart pkt ≤ pkt.length := by
  rw [validateRtpHeader, encStart]
  by_cases hx : x pkt = true
  · simp only [hx, if_true, true_and]
    split_ifs <;> simp <;> omega
  · simp only [hx, if_false, false_and, Bool.false_eq_true]
    split_ifs <;> simp <;> omega

theorem isRtcp_length {pkt : List UInt8} (h : isRtcp pkt = true) : 8 ≤ pkt.length := by
  by_contra hshort
  rw [isRtcp, if_pos (by omega)] at h
  exact Bool.false_ne_true h

/-! ## RTP -/

/-- The part of an SRTP packet in front of the tag. -/
def body (keys : SessionKeys) (pkt : List UInt8) : List UInt8 :=
  pkt.take (pkt.length - keys.rtp.tagLength)

/-- The tag of an SRTP packet. -/
def tag (keys : SessionKeys) (pkt : List UInt8) : List UInt8 :=
  pkt.drop (pkt.length - keys.rtp.tagLength)

/-- The tag of the packet is right for this index. -/
def Verifies (keys : SessionKeys) (est : ℕ) (pkt : List UInt8) : Prop :=
  if keys.isAead then
    (keys.rtp.aeadDecrypt (calcAeadIv keys.rtp.salt pkt est) ((body keys pkt).take (encStart pkt))
      ((body keys pkt).drop (encStart pkt)) (tag keys pkt)).isSome = true
  else keys.rtp.auth (body keys pkt ++ rocBytes est) = tag keys pkt

/-- What is let through has been authenticated. -/
theorem verifies_of_openRtp {t : Template} {est n : ℕ} {pkt plain : List UInt8}
    (h : openRtp t est pkt = (.ok plain, n)) : Verifies t.keys est pkt := by
  rw [openRtp] at h
  rw [Verifies]
  split
  case isTrue haead =>
    rw [if_pos haead, openRtpAead] at h
    generalize keyLimitUpdate t.numLeft = update at h
    simp only at h
    split_ifs at h
    · simp at h
    · simp at h
    · simp at h
    · split at h
      · simp at h
      case h_2 payload hdecrypt =>
        rw [body, tag, hdecrypt]
        rfl
  case isFalse hicm =>
    rw [if_neg hicm, openRtpIcm] at h
    generalize keyLimitUpdate t.numLeft = update at h
    simp only at h
    split_ifs at h with hlength hauth
    · simp at h
    · simp at h
    · simp at h
    · exact not_not.1 hauth

section Rtp

variable {keys : SessionKeys} {pkt : List UInt8}

/-- An SRTP packet is a header, as many bytes as were encrypted, and a tag. -/
theorem sealRtp_eq (hlawful : keys.rtp.Lawful) (est : ℕ) (pkt : List UInt8) :
    ∃ payload authTag, sealRtp keys est pkt = pkt.take (encStart pkt) ++ payload ++ authTag ∧
      payload.length = pkt.length - encStart pkt ∧ authTag.length = keys.rtp.tagLength := by
  rw [sealRtp]
  split
  · refine ⟨_, _, rfl, ?_, hlawful.length_tag _ _ _⟩
    rw [hlawful.length_aeadEncrypt, List.length_drop]
  · refine ⟨_, _, rfl, ?_, hlawful.length_auth _⟩
    rw [hlawful.length_crypt, List.length_drop]

theorem length_sealRtp (hlawful : keys.rtp.Lawful) (est : ℕ) (hpkt : encStart pkt ≤ pkt.length) :
    (sealRtp keys est pkt).length = pkt.length + keys.rtp.tagLength := by
  obtain ⟨payload, authTag, heq, hpayload, htag⟩ := sealRtp_eq hlawful est pkt
  rw [heq, List.length_append, List.length_append, List.length_take, hpayload, htag]
  omega

/-- The header goes over the network as it is. -/
theorem take_sealRtp (hlawful : keys.rtp.Lawful) (est : ℕ) (hpkt : encStart pkt ≤ pkt.length) :
    (sealRtp keys est pkt).take (encStart pkt) = pkt.take (encStart pkt) := by
  obtain ⟨payload, authTag, heq, -, -⟩ := sealRtp_eq hlawful est pkt
  have hlength : (pkt.take (encStart pkt)).length = encStart pkt := by
    rw [List.length_take]
    omega
  rw [heq, List.append_assoc]
  exact List.take_left' hlength

theorem encStart_sealRtp (hlawful : keys.rtp.Lawful) (est : ℕ) (hpkt : encStart pkt ≤ pkt.length) :
    encStart (sealRtp keys est pkt) = encStart pkt :=
  encStart_eq_of_take (take_sealRtp hlawful est hpkt)

theorem ssrc_sealRtp (hlawful : keys.rtp.Lawful) (est : ℕ) (hpkt : encStart pkt ≤ pkt.length) :
    ssrc (sealRtp keys est pkt) = ssrc pkt :=
  ssrc_eq_of_take (take_sealRtp hlawful est hpkt) (twelve_le_encStart pkt)

theorem seq_sealRtp (hlawful : keys.rtp.Lawful) (est : ℕ) (hpkt : encStart pkt ≤ pkt.length) :
    seq (sealRtp keys est pkt) = seq pkt :=
  seq_eq_of_take (take_sealRtp hlawful est hpkt) (twelve_le_encStart pkt)

theorem isRtcp_sealRtp (hlawful : keys.rtp.Lawful) (est : ℕ) (hpkt : encStart pkt ≤ pkt.length) :
    isRtcp (sealRtp keys est pkt) = isRtcp pkt := by
  have hstart := twelve_le_encStart pkt
  have hlength := length_sealRtp hlawful est hpkt
  exact isRtcp_eq_of_take (take_sealRtp hlawful est hpkt) (by omega) (by omega) (by omega)

/-- The receiver gets the packet back under the index it was protected with, unless the key has
been used up. -/
theorem openRtp_sealRtp {t : Template} {est : ℕ} (hkeys : t.keys = keys) (hlawful : keys.rtp.Lawful)
    (hpkt : encStart pkt ≤ pkt.length) :
    openRtp t est (sealRtp keys est pkt) =
      if (keyLimitUpdate t.numLeft).1 = .hardLimit then
        (.error .keyExpired, (keyLimitUpdate t.numLeft).2)
      else (.ok pkt, (keyLimitUpdate t.numLeft).2) := by
  have hlength := length_sealRtp hlawful est hpkt
  have hstart := encStart_sealRtp hlawful est hpkt
  have hssrc := ssrc_sealRtp hlawful est hpkt
  have hfront : (pkt.take (encStart pkt)).length = encStart pkt := by
    rw [List.length_take]
    omega
  have hcut : (sealRtp keys est pkt).length - keys.rtp.tagLength = pkt.length := by omega
  have hroom : ¬unsignedSub (sealRtp keys est pkt).length keys.rtp.tagLength <
      encStart (sealRtp keys est pkt) := by
    rw [unsignedSub, if_pos (by omega), hcut, hstart]
    omega
  rw [openRtp, hkeys]
  split
  case isTrue haead =>
    have hsmall : ¬(sealRtp keys est pkt).length - encStart (sealRtp keys est pkt) <
        keys.rtp.tagLength := by omega
    simp only [openRtpAead, hkeys]
    generalize keyLimitUpdate t.numLeft = update
    rw [if_neg hroom, if_neg hsmall]
    split
    · rfl
    · have hiv : calcAeadIv keys.rtp.salt (sealRtp keys est pkt) est =
          calcAeadIv keys.rtp.salt pkt est := by rw [calcAeadIv, calcAeadIv, hssrc]
      rw [hiv, hcut, hstart]
      -- the three parts of the packet
      rw [sealRtp, if_pos haead]
      generalize hsealed : keys.rtp.aeadEncrypt (calcAeadIv keys.rtp.salt pkt est)
        (pkt.take (encStart pkt)) (pkt.drop (encStart pkt)) = sealed
      have hbody : (pkt.take (encStart pkt) ++ sealed.1).length = pkt.length := by
        rw [List.length_append, hfront, ← hsealed, hlawful.length_aeadEncrypt, List.length_drop]
        omega
      rw [List.take_left' hbody, List.drop_left' hbody, List.take_left' hfront,
        List.drop_left' hfront, ← hsealed, hlawful.aeadDecrypt_aeadEncrypt]
      simp only [List.take_append_drop]
  case isFalse hicm =>
    have hiv : icmIv (sealRtp keys est pkt) est = icmIv pkt est := by rw [icmIv, icmIv, hssrc]
    simp only [openRtpIcm, hkeys]
    generalize keyLimitUpdate t.numLeft = update
    rw [if_neg hroom, hiv, hcut, hstart, sealRtp, if_neg hicm]
    have hbody : (pkt.take (encStart pkt) ++
        keys.rtp.crypt (icmIv pkt est) (pkt.drop (encStart pkt))).length = pkt.length := by
      rw [List.length_append, hfront, hlawful.length_crypt, List.length_drop]
      omega
    simp only [List.take_left' hbody, List.drop_left' hbody, List.take_left' hfront,
      List.drop_left' hfront, hlawful.crypt_crypt, List.take_append_drop, ne_eq, not_true_eq_false,
      if_false]

end Rtp

/-! ## RTCP -/

/-- The tag of the packet is right. -/
def VerifiesRtcp (keys : SessionKeys) (pkt : List UInt8) : Prop :=
  if keys.isAead then
    let body := pkt.take (pkt.length - 4)
    let trailer := pkt.drop (pkt.length - 4)
    let packet := body.take (body.length - keys.rtcp.tagLength)
    let authTag := body.drop (body.length - keys.rtcp.tagLength)
    let iv := calcAeadIvSrtcp keys.rtcp.salt pkt (BigEndian.decode trailer % 2 ^ 31)
    (if trailer.getD 0 0 &&& 0x80 = 0 then
      keys.rtcp.aeadDecrypt iv (packet ++ trailer) [] authTag
    else keys.rtcp.aeadDecrypt iv (packet.take 8 ++ trailer) (packet.drop 8) authTag).isSome = true
  else
    keys.rtcp.auth (pkt.take (pkt.length - keys.rtcp.tagLength)) =
      pkt.drop (pkt.length - keys.rtcp.tagLength)

/-- What is let through has been authenticated, and its index has been checked. -/
theorem verifiesRtcp_of_openRtcp {t : Template} {rdb : Rdb} {seqNum : ℕ} {pkt plain : List UInt8}
    (h : openRtcp t rdb pkt = .ok (seqNum, plain)) :
    VerifiesRtcp t.keys pkt ∧ rdb.check seqNum = .ok () := by
  rw [openRtcp] at h
  rw [VerifiesRtcp]
  split at h
  case isTrue haead =>
    rw [if_pos haead]
    rw [openRtcpAead] at h
    simp only at h
    split at h
    · simp at h
    case h_2 hcheck =>
      split at h
      case isTrue hplain =>
        simp only [if_pos hplain]
        split at h
        · simp at h
        case h_2 hdecrypt =>
          simp only [Except.ok.injEq, Prod.mk.injEq] at h
          rw [hdecrypt, ← h.1]
          exact ⟨rfl, hcheck⟩
      case isFalse hencrypted =>
        simp only [if_neg hencrypted]
        split at h
        · simp at h
        case h_2 hdecrypt =>
          simp only [Except.ok.injEq, Prod.mk.injEq] at h
          rw [hdecrypt, ← h.1]
          exact ⟨rfl, hcheck⟩
  case isFalse hicm =>
    rw [if_neg hicm]
    rw [openRtcpIcm] at h
    simp only at h
    split at h
    · simp at h
    · split at h
      · simp at h
      case h_2 hcheck =>
        split at h
        · simp at h
        case isFalse hauth =>
          simp only [Except.ok.injEq, Prod.mk.injEq] at h
          rw [← h.1]
          exact ⟨not_not.1 hauth, hcheck⟩

section Trailer

variable {seqNum : ℕ}

theorem length_srtcpTrailer (seqNum : ℕ) : (srtcpTrailer seqNum).length = 4 :=
  BigEndian.length_encode 4 _

/-- The trailer holds the index. -/
theorem decode_srtcpTrailer (h : seqNum < 2 ^ 31) :
    BigEndian.decode (srtcpTrailer seqNum) % 2 ^ 31 = seqNum := by
  rw [srtcpTrailer, BigEndian.decode_encode (by omega)]
  omega

/-- The E bit is set. -/
theorem srtcpTrailer_encrypted (h : seqNum < 2 ^ 31) :
    ¬(srtcpTrailer seqNum).getD 0 0 &&& 0x80 = 0 := by
  have hbyte : (srtcpTrailer seqNum).getD 0 0 = UInt8.ofNat ((0x80000000 + seqNum) / 2 ^ 24) := by
    simp only [srtcpTrailer, BigEndian.encode, List.nil_append, List.cons_append,
      List.getD_cons_zero, Nat.div_div_eq_div_mul]
    rfl
  have hhigh : 128 ≤ (0x80000000 + seqNum) / 2 ^ 24 ∧ (0x80000000 + seqNum) / 2 ^ 24 < 256 := by
    omega
  have hall : ∀ b : UInt8, 128 ≤ b.toNat → ¬b &&& 0x80 = 0 :=
    BigEndian.forall_byte (by decide +kernel)
  rw [hbyte]
  apply hall
  rw [UInt8.toNat_ofNat']
  omega

end Trailer

section Rtcp

variable {keys : SessionKeys} {seqNum : ℕ} {pkt : List UInt8}

/-- An SRTCP packet starts with the header and as many bytes as were encrypted. -/
theorem sealRtcp_eq (hlawful : keys.rtcp.Lawful) (seqNum : ℕ) (pkt : List UInt8) :
    ∃ payload rest, sealRtcp keys seqNum pkt = pkt.take 8 ++ payload ++ rest ∧
      payload.length = pkt.length - 8 ∧ rest.length = keys.rtcp.tagLength + 4 := by
  rw [sealRtcp]
  split
  · refine ⟨_, _, List.append_assoc _ _ _, ?_, ?_⟩
    · rw [hlawful.length_aeadEncrypt, List.length_drop]
    · rw [List.length_append, hlawful.length_tag, length_srtcpTrailer]
  · refine ⟨_, _, List.append_assoc _ _ _, ?_, ?_⟩
    · rw [hlawful.length_crypt, List.length_drop]
    · rw [List.length_append, hlawful.length_auth, length_srtcpTrailer, Nat.add_comm]

theorem length_sealRtcp (hlawful : keys.rtcp.Lawful) (seqNum : ℕ) (hpkt : 8 ≤ pkt.length) :
    (sealRtcp keys seqNum pkt).length = pkt.length + (keys.rtcp.tagLength + 4) := by
  obtain ⟨payload, rest, heq, hpayload, hrest⟩ := sealRtcp_eq hlawful seqNum pkt
  rw [heq, List.length_append, List.length_append, List.length_take, hpayload, hrest]
  omega

/-- The header goes over the network as it is. -/
theorem take_sealRtcp (hlawful : keys.rtcp.Lawful) (seqNum : ℕ) (hpkt : 8 ≤ pkt.length) :
    (sealRtcp keys seqNum pkt).take 8 = pkt.take 8 := by
  obtain ⟨payload, rest, heq, -, -⟩ := sealRtcp_eq hlawful seqNum pkt
  rw [heq, List.append_assoc]
  apply List.take_left'
  rw [List.length_take]
  omega

theorem rtcpSsrc_sealRtcp (hlawful : keys.rtcp.Lawful) (seqNum : ℕ) (hpkt : 8 ≤ pkt.length) :
    rtcpSsrc (sealRtcp keys seqNum pkt) = rtcpSsrc pkt :=
  rtcpSsrc_eq_of_take (take_sealRtcp hlawful seqNum hpkt) (le_refl 8)

theorem isRtcp_sealRtcp (hlawful : keys.rtcp.Lawful) (seqNum : ℕ) (hpkt : 8 ≤ pkt.length) :
    isRtcp (sealRtcp keys seqNum pkt) = isRtcp pkt := by
  have hlength := length_sealRtcp hlawful seqNum hpkt
  exact isRtcp_eq_of_take (take_sealRtcp hlawful seqNum hpkt) (le_refl 8) (by omega) hpkt

/-- The receiver gets the packet back, if it lets the index through. -/
theorem openRtcp_sealRtcp {t : Template} {rdb : Rdb} (hkeys : t.keys = keys)
    (hlawful : keys.rtcp.Lawful) (hpkt : 8 ≤ pkt.length) (hseq : seqNum < 2 ^ 31) :
    openRtcp t rdb (sealRtcp keys seqNum pkt) =
      match rdb.check seqNum with
      | .error e => .error e
      | .ok () => .ok (seqNum, pkt) := by
  have hssrc := rtcpSsrc_sealRtcp hlawful seqNum hpkt
  have hlength := length_sealRtcp hlawful seqNum hpkt
  have hfront : (pkt.take 8).length = 8 := by
    rw [List.length_take]
    omega
  have htrailer := length_srtcpTrailer seqNum
  rw [openRtcp, hkeys]
  split
  case isTrue haead =>
    have hiv : calcAeadIvSrtcp keys.rtcp.salt (sealRtcp keys seqNum pkt) seqNum =
        calcAeadIvSrtcp keys.rtcp.salt pkt seqNum := by
      rw [calcAeadIvSrtcp, calcAeadIvSrtcp, hssrc]
    generalize hsealed : keys.rtcp.aeadEncrypt (calcAeadIvSrtcp keys.rtcp.salt pkt seqNum)
      (pkt.take 8 ++ srtcpTrailer seqNum) (pkt.drop 8) = sealed
    have hpayload : sealed.1.length = pkt.length - 8 := by
      rw [← hsealed, hlawful.length_aeadEncrypt, List.length_drop]
    have htag : sealed.2.length = keys.rtcp.tagLength := by
      rw [← hsealed, hlawful.length_tag]
    have heq : sealRtcp keys seqNum pkt =
        pkt.take 8 ++ sealed.1 ++ sealed.2 ++ srtcpTrailer seqNum := by
      rw [sealRtcp, if_pos haead, ← hsealed]
    -- the parts of the packet, from the end
    have hbody : (pkt.take 8 ++ sealed.1 ++ sealed.2).length =
        (sealRtcp keys seqNum pkt).length - 4 := by
      simp only [List.length_append, hfront, hpayload, htag, hlength]
      omega
    have hpacket : (pkt.take 8 ++ sealed.1).length =
        (pkt.take 8 ++ sealed.1 ++ sealed.2).length - keys.rtcp.tagLength := by
      simp only [List.length_append, htag]
      omega
    have htake := take_of_eq_append heq hbody
    have hdrop := drop_of_eq_append heq hbody
    simp only [openRtcpAead, hkeys, htake, hdrop, decode_srtcpTrailer hseq, hiv]
    rw [if_neg (srtcpTrailer_encrypted hseq), List.take_left' hpacket, List.drop_left' hpacket,
      List.take_left' hfront, List.drop_left' hfront, ← hsealed,
      hlawful.aeadDecrypt_aeadEncrypt]
    cases hcheck : rdb.check seqNum with
    | error e => simp only
    | ok _ => simp only [List.take_append_drop]
  case isFalse hicm =>
    have hiv : rtcpIcmIv (sealRtcp keys seqNum pkt) seqNum = rtcpIcmIv pkt seqNum := by
      rw [rtcpIcmIv, rtcpIcmIv, hssrc]
    generalize hsealed : keys.rtcp.crypt (rtcpIcmIv pkt seqNum) (pkt.drop 8) = sealed
    have hpayload : sealed.length = pkt.length - 8 := by
      rw [← hsealed, hlawful.length_crypt, List.length_drop]
    have heq : sealRtcp keys seqNum pkt =
        pkt.take 8 ++ sealed ++ srtcpTrailer seqNum ++
          keys.rtcp.auth (pkt.take 8 ++ sealed ++ srtcpTrailer seqNum) := by
      rw [sealRtcp, if_neg hicm, ← hsealed]
    have hbody : (pkt.take 8 ++ sealed ++ srtcpTrailer seqNum).length =
        (sealRtcp keys seqNum pkt).length - keys.rtcp.tagLength := by
      simp only [List.length_append, hfront, hpayload, htrailer, hlength]
      omega
    have hpacket : (pkt.take 8 ++ sealed).length =
        (pkt.take 8 ++ sealed ++ srtcpTrailer seqNum).length - 4 := by
      simp only [List.length_append, htrailer]
      omega
    have htake := take_of_eq_append heq hbody
    have hdrop := drop_of_eq_append heq hbody
    simp only [openRtcpIcm, hkeys, htake, hdrop]
    rw [List.drop_left' hpacket, List.take_left' hpacket, if_neg (srtcpTrailer_encrypted hseq),
      decode_srtcpTrailer hseq, hiv, List.take_left' hfront, List.drop_left' hfront, ← hsealed,
      hlawful.crypt_crypt, List.take_append_drop]
    cases hcheck : rdb.check seqNum with
    | error e => simp only
    | ok _ => simp only [ne_eq, not_true_eq_false, if_false]

end Rtcp

end Rtc.Srtp
