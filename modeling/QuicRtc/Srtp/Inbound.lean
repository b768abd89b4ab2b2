import QuicRtc.Srtp.Link

/-!
# What a session lets through

`Inbound` is the invariant of a receiving session: its databases hold exactly the indices of the
packets that it has let through, each of which has been sent. A genuine packet that it lets through
is one more of these (`Inbound.unprotect`, `Inbound.unprotectRtcp`); a packet whose index can be
guessed is let through exactly when the index is fresh (`Inbound.unprotect_of_near`,
`Inbound.unprotectRtcp_of_near`).
-/

namespace Rtc.Srtp

/-- The stream of a packet: its kind and its SSRC. -/
def Sent.stream (w : Sent) : Bool × ℕ :=
  if isRtcp w.plain then (true, rtcpSsrc w.plain) else (false, ssrc w.plain)

/-- The indices of the packets of one stream. -/
def indices (ws : List Sent) (stream : Bool × ℕ) : List ℕ :=
  (ws.filter fun w => w.stream = stream).map Sent.index

theorem mem_indices {ws : List Sent} {stream : Bool × ℕ} {i : ℕ} :
    i ∈ indices ws stream ↔ (stream, i) ∈ ws.map fun w => (w.stream, w.index) := by
  simp only [indices, List.mem_map, List.mem_filter, decide_eq_true_eq, Prod.mk.injEq, and_assoc]

theorem indices_cons (w : Sent) (ws : List Sent) (stream : Bool × ℕ) :
    indices (w :: ws) stream =
      if w.stream = stream then w.index :: indices ws stream else indices ws stream := by
  rw [indices, List.filter_cons]
  simp only [decide_eq_true_eq]
  split
  · rfl
  · rfl

/-- The index can be guessed from those of the stream that have been let through. -/
def Sent.Near (accepted : List Sent) (w : Sent) : Prop :=
  isRtcp w.plain = true ∨
  indices accepted w.stream = [] ∧ w.index < 2 ^ 16 ∨
  (∃ j ∈ indices accepted w.stream, w.index < j + 2 ^ 15) ∧
    ∀ j ∈ indices accepted w.stream, j < w.index + 2 ^ 15

/-- The length of the window of a stream. -/
def Sent.window (w : Sent) : ℕ := if isRtcp w.plain then 128 else 1024

/-- The guess is right for a packet that is near. -/
theorem estimateIndex_of_near {r : Rdbx} {accepted : List Sent} {w : Sent}
    (hr : r.Represents (indices accepted w.stream)) (hnear : w.Near accepted)
    (hkind : isRtcp w.plain = false) (hindex : ∀ j ∈ indices accepted w.stream, j < 2 ^ 48)
    (hlt : w.index < 2 ^ 48) :
    r.estimateIndex (w.index % 2 ^ 16) = (w.index, (w.index : ℤ) - r.index) := by
  rcases hnear with hrtcp | ⟨hnil, hlow⟩ | ⟨⟨j, hj, hahead⟩, hbehind⟩
  · exact absurd (hrtcp.symm.trans hkind) (by decide)
  · -- the database is fresh: the sequence number is the index
    have hzero : r.index = 0 := by
      rcases hr.index_mem with hmem | ⟨-, hzero⟩
      · rw [hnil] at hmem
        exact absurd hmem List.not_mem_nil
      · exact hzero
    rw [Rdbx.estimateIndex, if_neg (by omega), hzero, Nat.mod_eq_of_lt hlow]
    rfl
  · -- the highest index is one of those let through
    have hmem : r.index ∈ indices accepted w.stream := by
      rcases hr.index_mem with hmem | ⟨hnil, -⟩
      · exact hmem
      · rw [hnil] at hj
        exact absurd hj List.not_mem_nil
    have hle := hr.le_index j hj
    exact Rdbx.estimateIndex_eq hlt (hindex _ hmem) (by omega) (hbehind _ hmem)

theorem keyLimitUpdate_ne {n : ℕ} (h : 2 ≤ n) : (keyLimitUpdate n).1 ≠ .hardLimit := by
  have hpos : ¬n = 0 := by omega
  simp only [keyLimitUpdate, hpos, if_false]
  split_ifs
  · simp
  · omega
  · simp

theorem le_keyLimitUpdate (n : ℕ) : n ≤ (keyLimitUpdate n).2 + 1 := by
  simp only [keyLimitUpdate]
  split_ifs <;> simp only <;> omega

/-- What a receiving session has let through of what has been sent to it. -/
structure Inbound (peer : Option SessionKeys) (sent accepted : List Sent) (s : Session) : Prop where
  template : ∀ t, s.streamTemplate = some t → peer = some t.keys ∧ t.windowSize = 1024
  subset : accepted ⊆ sent
  nodup : (accepted.map fun w => (w.stream, w.index)).Nodup
  rdbx : ∀ k, (s.rdbx 1024 k).Represents (indices accepted (false, k)) ∧
    (s.rdbx 1024 k).bitmask.length = 1024
  rdb : ∀ k, (s.rdb k).Represents (indices accepted (true, k))

namespace Inbound

variable {peer : Option SessionKeys} {sent accepted : List Sent} {s : Session}
  {packet : List UInt8} {w : Sent}

theorem start (peer : Option SessionKeys) : Inbound peer [] [] {} where
  template := by simp
  subset := List.Subset.refl _
  nodup := List.nodup_nil
  rdbx _ := ⟨Rdbx.represents_init (by decide), rfl⟩
  rdb _ := Rdb.represents_init

theorem mono (h : Inbound peer sent accepted s) {more : List Sent} (hmore : sent ⊆ more) :
    Inbound peer more accepted s :=
  { h with subset := fun _ hw => hmore (h.subset hw) }

theorem setNumLeft (h : Inbound peer sent accepted s) (n : ℕ) :
    Inbound peer sent accepted (s.setNumLeft n) where
  template t ht := by
    rw [Session.setNumLeft, Option.map_eq_some_iff] at ht
    obtain ⟨old, hold, rfl⟩ := ht
    exact h.template old hold
  subset := h.subset
  nodup := h.nodup
  rdbx := h.rdbx
  rdb := h.rdb

/-- A packet whose index is new to its database joins those that have been let through. -/
theorem nodup_cons (h : Inbound peer sent accepted s)
    (hnew : w.index ∉ indices accepted w.stream) :
    ((w :: accepted).map fun w => (w.stream, w.index)).Nodup := by
  rw [List.map_cons, List.nodup_cons]
  exact ⟨fun hmem => hnew (mem_indices.2 hmem), h.nodup⟩

/-- The indices that have been let through are as small as those that have been sent. -/
theorem index_lt (h : Inbound peer sent accepted s)
    (hindex : ∀ w ∈ sent, w.index < 2 ^ 48 - 2 ^ 16) {stream : Bool × ℕ} {j : ℕ}
    (hj : j ∈ indices accepted stream) : j < 2 ^ 48 - 2 ^ 16 := by
  obtain ⟨v, hv, hkey⟩ := List.mem_map.1 (mem_indices.1 hj)
  have hlt := hindex v (h.subset hv)
  have hvindex : v.index = j := congrArg Prod.snd hkey
  omega

/-- An RTP packet joins those that have been let through, and its index the database of its
stream. -/
theorem put_rtp (h : Inbound peer sent accepted s) {t : Template} (hw : w ∈ sent) {k : ℕ}
    (hstream : w.stream = (false, k)) (hnew : w.index ∉ indices accepted (false, k)) {r : Rdbx}
    (hr : r.Represents (w.index :: indices accepted (false, k)))
    (hlength : r.bitmask.length = 1024) :
    Inbound peer sent (w :: accepted) (s.put t { s.streamFor t k with rtpRdbx := r }) where
  template t' ht' := by
    rw [Session.streamTemplate_put] at ht'
    exact h.template t' ht'
  subset := List.cons_subset.2 ⟨hw, h.subset⟩
  nodup := h.nodup_cons (hstream ▸ hnew)
  rdbx j := by
    rw [Session.rdbx_put, indices_cons, hstream]
    simp only [Session.ssrc_streamFor, Prod.mk.injEq, true_and]
    by_cases hj : j = k
    · rw [if_pos hj, if_pos hj.symm, hj]
      exact ⟨hr, hlength⟩
    · rw [if_neg hj, if_neg (Ne.symm hj)]
      exact h.rdbx j
  rdb j := by
    rw [Session.rdb_put, indices_cons, hstream]
    simp only [Session.ssrc_streamFor, Prod.mk.injEq, Bool.false_eq_true, false_and, if_false]
    split
    case isTrue hj =>
      rw [Session.rtcpRdb_streamFor, ← hj]
      exact h.rdb j
    case isFalse hj => exact h.rdb j

/-- The same for an RTCP packet. -/
theorem put_rtcp (h : Inbound peer sent accepted s) {t : Template}
    (ht : s.streamTemplate = some t) (hw : w ∈ sent) {k : ℕ} (hstream : w.stream = (true, k))
    (hnew : w.index ∉ indices accepted (true, k)) {r : Rdb}
    (hr : r.Represents (w.index :: indices accepted (true, k))) :
    Inbound peer sent (w :: accepted) (s.put t { s.streamFor t k with rtcpRdb := r }) where
  template t' ht' := by
    rw [Session.streamTemplate_put] at ht'
    exact h.template t' ht'
  subset := List.cons_subset.2 ⟨hw, h.subset⟩
  nodup := h.nodup_cons (hstream ▸ hnew)
  rdbx j := by
    rw [Session.rdbx_put, indices_cons, hstream]
    simp only [Session.ssrc_streamFor, Prod.mk.injEq, Bool.true_eq_false, false_and, if_false]
    split
    case isTrue hj =>
      rw [Session.rtpRdbx_streamFor, (h.template t ht).2, ← hj]
      exact h.rdbx j
    case isFalse hj => exact h.rdbx j
  rdb j := by
    rw [Session.rdb_put, indices_cons, hstream]
    simp only [Session.ssrc_streamFor, Prod.mk.injEq, true_and]
    by_cases hj : j = k
    · rw [if_pos hj, if_pos hj.symm, hj]
      exact hr
    · rw [if_neg hj, if_neg (Ne.symm hj)]
      exact h.rdb j

/-- An RTP packet is refused, or it is one that has been sent and has not been let through
before. -/
theorem unprotect (h : Inbound peer sent accepted s)
    (hpeer : ∀ keys, peer = some keys → keys.Lawful ∧ ∀ w ∈ sent, w.Sealed keys)
    (hindex : ∀ w ∈ sent, w.index < 2 ^ 48 - 2 ^ 16) (hkind : isRtcp packet = false)
    (hgenuine : ∀ keys, peer = some keys → ∀ est < 2 ^ 48, Verifies keys est packet →
      ∃ w ∈ sent, w.packet = packet ∧ w.index / 2 ^ 16 = est / 2 ^ 16) :
    (∃ e s', s.unprotect packet = (.error e, s') ∧ Inbound peer sent accepted s') ∨
    ∃ w s', s.unprotect packet = (.ok w.plain, s') ∧ w ∈ sent ∧ isRtcp w.plain = false ∧
      Inbound peer sent (w :: accepted) s' := by
  cases ht : s.streamTemplate with
  | none =>
    left
    rw [Session.unprotect, ht]
    cases validateRtpHeader packet with
    | error e => exact ⟨e, s, rfl, h⟩
    | ok _ => exact ⟨.noCtx, s, rfl, h⟩
  | some t =>
    obtain ⟨hkeys, hwindow⟩ := h.template t ht
    obtain ⟨hlawful, hsealed⟩ := hpeer t.keys hkeys
    rcases Session.unprotect_cases ht (by omega) packet with
      ⟨e, n, heq, -⟩ | ⟨est, delta, plain, n, -, hestimate, hcheck, hopen, -, heq⟩
    · exact .inl ⟨e, _, heq, h.setNumLeft n⟩
    · right
      rw [hwindow] at hestimate hcheck
      obtain ⟨hrepresents, hlength⟩ := h.rdbx (ssrc packet)
      have hmod := (s.rdbx 1024 (ssrc packet)).estimateIndex_mod (seq_lt packet)
      have hdelta := (s.rdbx 1024 (ssrc packet)).estimateIndex_lt (seq_lt packet)
      rw [hestimate] at hmod hdelta
      simp only at hmod hdelta
      -- the tag tells which packet it is, and its rollover counter
      obtain ⟨w, hw, hpacket, hroc⟩ :=
        hgenuine t.keys hkeys est hmod.2 (verifies_of_openRtp hopen)
      have hplain : isRtcp w.plain = false := by
        rw [← (hsealed w hw).isRtcp_packet hlawful, hpacket, hkind]
      obtain ⟨hstart, hpacketEq, hseq⟩ := (hsealed w hw).rtp hplain
      rw [hpacket] at hpacketEq
      have hest : est = w.index := by
        have hsame : seq packet = seq w.plain := by
          rw [hpacketEq, seq_sealRtp hlawful.rtp _ hstart]
        omega
      have hssrc : ssrc packet = ssrc w.plain := by
        rw [hpacketEq, ssrc_sealRtp hlawful.rtp _ hstart]
      have hstream : w.stream = (false, ssrc packet) := by
        rw [Sent.stream, hplain, hssrc]
        rfl
      have hopened : plain = w.plain := by
        rw [hpacketEq, hest, openRtp_sealRtp rfl hlawful.rtp hstart] at hopen
        generalize keyLimitUpdate t.numLeft = update at hopen
        split_ifs at hopen
        · simp at hopen
        · simp only [Prod.mk.injEq, Except.ok.injEq] at hopen
          exact hopen.1.symm
      -- and its index is new to the database
      have hsmall : (s.rdbx 1024 (ssrc packet)).index < 2 ^ 48 - 2 ^ 16 := by
        rcases hrepresents.index_mem with hmem | ⟨-, hzero⟩
        · exact h.index_lt hindex hmem
        · omega
      have hsub := Rdbx.estimateIndex_sub hsmall (seq packet)
      rw [hestimate] at hsub
      simp only at hsub
      have hfresh : Fresh 1024 (indices accepted (false, ssrc packet)) est := by
        rw [hrepresents.check_eq_ok_iff hsub, hlength] at hcheck
        exact hcheck
      have hbehind : (s.rdbx 1024 (ssrc packet)).index <
          est + (s.rdbx 1024 (ssrc packet)).bitmask.length := by
        rcases hrepresents.index_mem with hmem | ⟨-, hzero⟩
        · have := hfresh.2 _ hmem
          omega
        · omega
      obtain ⟨hadded, hkept⟩ := hrepresents.addIndex hsub hbehind hdelta (by omega)
      rw [hest] at hadded hfresh
      rw [hwindow, hopened] at heq
      exact ⟨w, _, heq, hw, hplain,
        (h.put_rtp hw hstream hfresh.1 hadded (hkept.trans hlength)).setNumLeft n⟩

/-- An RTCP packet is refused, or it is one that has been sent and has not been let through
before. -/
theorem unprotectRtcp (h : Inbound peer sent accepted s)
    (hpeer : ∀ keys, peer = some keys → keys.Lawful ∧ ∀ w ∈ sent, w.Sealed keys)
    (hkind : isRtcp packet = true)
    (hgenuine : ∀ keys, peer = some keys → VerifiesRtcp keys packet →
      ∃ w ∈ sent, w.packet = packet) :
    (∃ e s', s.unprotectRtcp packet = (.error e, s') ∧ Inbound peer sent accepted s') ∨
    ∃ w s', s.unprotectRtcp packet = (.ok w.plain, s') ∧ w ∈ sent ∧ isRtcp w.plain = true ∧
      Inbound peer sent (w :: accepted) s' := by
  cases ht : s.streamTemplate with
  | none =>
    left
    rw [Session.unprotectRtcp, ht]
    split
    · exact ⟨.badParam, s, rfl, h⟩
    · exact ⟨.noCtx, s, rfl, h⟩
  | some t =>
    obtain ⟨hkeys, -⟩ := h.template t ht
    obtain ⟨hlawful, hsealed⟩ := hpeer t.keys hkeys
    rcases Session.unprotectRtcp_cases ht packet with ⟨e, heq⟩ | ⟨seqNum, plain, hopen, heq⟩
    · exact .inl ⟨e, s, heq, h⟩
    · right
      have hrepresents := h.rdb (rtcpSsrc packet)
      obtain ⟨hverifies, hcheck⟩ := verifiesRtcp_of_openRtcp hopen
      obtain ⟨w, hw, hpacket⟩ := hgenuine t.keys hkeys hverifies
      have hplain : isRtcp w.plain = true := by
        rw [← (hsealed w hw).isRtcp_packet hlawful, hpacket, hkind]
      have hlength := isRtcp_length hplain
      obtain ⟨hpacketEq, hlt⟩ := (hsealed w hw).rtcp hplain
      rw [hpacket] at hpacketEq
      have hssrc : rtcpSsrc packet = rtcpSsrc w.plain := by
        rw [hpacketEq, rtcpSsrc_sealRtcp hlawful.rtcp _ hlength]
      have hstream : w.stream = (true, rtcpSsrc packet) := by
        rw [Sent.stream, hplain, hssrc]
        rfl
      have hopened : seqNum = w.index ∧ plain = w.plain := by
        rw [hpacketEq, openRtcp_sealRtcp rfl hlawful.rtcp hlength hlt] at hopen
        split at hopen
        · simp at hopen
        · simp only [Except.ok.injEq, Prod.mk.injEq] at hopen
          exact ⟨hopen.1.symm, hopen.2.symm⟩
      have hfresh := hrepresents.check_eq_ok_iff.1 hcheck
      have hwindow : (s.rdb (rtcpSsrc packet)).windowStart ≤ seqNum := by
        rcases hrepresents.end_mem with hzero | hmem
        · omega
        · have := hfresh.2 _ hmem
          omega
      have hadded := hrepresents.addIndex hwindow
      rw [hopened.2] at heq
      rw [hopened.1] at hadded hfresh heq
      exact ⟨w, _, heq, hw, hplain, h.put_rtcp ht hw hstream hfresh.1 hadded⟩

/-- A packet that is near is let through exactly when its index is fresh. -/
theorem unprotect_of_near (h : Inbound peer sent accepted s) {t : Template}
    (ht : s.streamTemplate = some t) (hlawful : t.keys.Lawful) (hsealed : w.Sealed t.keys)
    (hindex : ∀ w ∈ sent, w.index < 2 ^ 48 - 2 ^ 16) (hw : w ∈ sent)
    (hlimit : 2 ≤ t.numLeft) (hnear : w.Near accepted) (hkind : isRtcp w.plain = false) :
    (∃ s', s.unprotect w.packet = (.ok w.plain, s') ∧
      Fresh 1024 (indices accepted w.stream) w.index) ∨
    ∃ e s', s.unprotect w.packet = (.error e, s') ∧
      ¬Fresh 1024 (indices accepted w.stream) w.index := by
  obtain ⟨-, hwindow⟩ := h.template t ht
  obtain ⟨hstart, hpacket, hseq⟩ := hsealed.rtp hkind
  have hssrc : ssrc w.packet = ssrc w.plain := by rw [hpacket, ssrc_sealRtp hlawful.rtp _ hstart]
  have hsame : seq w.packet = w.index % 2 ^ 16 := by
    rw [hpacket, seq_sealRtp hlawful.rtp _ hstart, hseq]
  have hencStart : encStart w.packet ≤ w.packet.length := by
    rw [hpacket, encStart_sealRtp hlawful.rtp _ hstart, length_sealRtp hlawful.rtp _ hstart]
    omega
  have hstream : w.stream = (false, ssrc w.packet) := by
    rw [Sent.stream, hkind, hssrc]
    rfl
  obtain ⟨hrepresents, hlength⟩ := h.rdbx (ssrc w.packet)
  rw [← hstream] at hrepresents
  have hall : ∀ j ∈ indices accepted w.stream, j < 2 ^ 48 := by
    intro j hj
    have := h.index_lt hindex hj
    omega
  have hlt := hindex w hw
  have hestimate := estimateIndex_of_near hrepresents hnear hkind hall (by omega)
  have hsum : (w.index : ℤ) = (s.rdbx 1024 (ssrc w.packet)).index +
      ((w.index : ℤ) - (s.rdbx 1024 (ssrc w.packet)).index) := by omega
  have hcheck := hrepresents.check_eq_ok_iff hsum
  rw [hlength] at hcheck
  rw [Session.unprotect_eq ht (by omega) hencStart, hwindow, hsame, hestimate]
  cases hresult : (s.rdbx 1024 (ssrc w.packet)).check
      ((w.index : ℤ) - (s.rdbx 1024 (ssrc w.packet)).index) with
  | error e =>
    right
    refine ⟨e, s, rfl, fun hfresh => ?_⟩
    rw [hcheck.2 hfresh] at hresult
    simp at hresult
  | ok _ =>
    left
    have hopen : openRtp t w.index w.packet = (.ok w.plain, (keyLimitUpdate t.numLeft).2) := by
      rw [hpacket, openRtp_sealRtp rfl hlawful.rtp hstart, if_neg (keyLimitUpdate_ne hlimit)]
    simp only [hopen]
    exact ⟨_, rfl, hcheck.1 hresult⟩

/-- An RTCP packet is let through exactly when its index is fresh. -/
theorem unprotectRtcp_of_near (h : Inbound peer sent accepted s) {t : Template}
    (ht : s.streamTemplate = some t) (hlawful : t.keys.Lawful) (hsealed : w.Sealed t.keys)
    (hkind : isRtcp w.plain = true) :
    (∃ s', s.unprotectRtcp w.packet = (.ok w.plain, s') ∧
      Fresh 128 (indices accepted w.stream) w.index) ∨
    ∃ e s', s.unprotectRtcp w.packet = (.error e, s') ∧
      ¬Fresh 128 (indices accepted w.stream) w.index := by
  obtain ⟨hpacket, hlt⟩ := hsealed.rtcp hkind
  have hplain := isRtcp_length hkind
  have hssrc : rtcpSsrc w.packet = rtcpSsrc w.plain := by
    rw [hpacket, rtcpSsrc_sealRtcp hlawful.rtcp _ hplain]
  have hlength : 8 + t.keys.rtcp.tagLength + 4 ≤ w.packet.length := by
    rw [hpacket, length_sealRtcp hlawful.rtcp _ hplain]
    omega
  have hstream : w.stream = (true, rtcpSsrc w.packet) := by
    rw [Sent.stream, hkind, hssrc]
    rfl
  have hrepresents := h.rdb (rtcpSsrc w.packet)
  rw [← hstream] at hrepresents
  have hcheck := hrepresents.check_eq_ok_iff (i := w.index)
  have hopen : openRtcp t (s.rdb (rtcpSsrc w.packet)) (sealRtcp t.keys w.index w.plain) = _ :=
    openRtcp_sealRtcp rfl hlawful.rtcp hplain hlt
  rw [← hpacket] at hopen
  rw [Session.unprotectRtcp_eq ht hlength, hopen]
  cases hresult : (s.rdb (rtcpSsrc w.packet)).check w.index with
  | error e =>
    right
    refine ⟨e, s, rfl, fun hfresh => ?_⟩
    rw [hcheck.2 hfresh] at hresult
    simp at hresult
  | ok _ =>
    left
    exact ⟨_, rfl, hcheck.1 hresult⟩

/-- A session with keys keeps them, and spends at most one packet of the key limit. -/
theorem numLeft_unprotect (h : Inbound peer sent accepted s) {t : Template}
    (ht : s.streamTemplate = some t) (pkt : List UInt8) :
    ∃ t', (s.unprotect pkt).2.streamTemplate = some t' ∧ t.numLeft ≤ t'.numLeft + 1 := by
  have hspends : ∀ n, Session.Spends t.numLeft n → t.numLeft ≤ n + 1 := by
    rintro n (rfl | rfl)
    · omega
    · exact le_keyLimitUpdate _
  obtain ⟨-, hwindow⟩ := h.template t ht
  rcases Session.unprotect_cases ht (by omega) pkt with
    ⟨e, n, heq, hn⟩ | ⟨_, _, _, n, -, -, -, -, hn, heq⟩
  · rw [heq]
    exact ⟨_, Session.streamTemplate_setNumLeft ht n, hspends n hn⟩
  · rw [heq]
    refine ⟨_, Session.streamTemplate_setNumLeft (t := t) ?_ n, hspends n hn⟩
    rw [Session.streamTemplate_put, ht]

/-- RTCP packets are not counted. -/
theorem streamTemplate_unprotectRtcp {t : Template} (ht : s.streamTemplate = some t)
    (pkt : List UInt8) : (s.unprotectRtcp pkt).2.streamTemplate = some t := by
  rcases Session.unprotectRtcp_cases ht pkt with ⟨e, heq⟩ | ⟨_, _, -, heq⟩
  · rw [heq, ht]
  · rw [heq, Session.streamTemplate_put, ht]

end Inbound

end Rtc.Srtp
