import QuicRtc.Srtp.Sealing

/-!
# The streams of a session

What `srtp_unprotect` and `srtp_unprotect_rtcp` do to a session, seen through the two databases that
each SSRC has: those of its stream, or fresh ones while there is no stream. A packet that is let
through has its index added to one database; any other packet leaves all of them alone
(`unprotect_cases`, `unprotectRtcp_cases`).
-/

namespace Rtc.Srtp.Session

variable {s : Session} {t : Template} {k : ℕ}

/-- The database for RTP of an SSRC. -/
def rdbx (s : Session) (window k : ℕ) : Rdbx :=
  ((s.getStream k).map Stream.rtpRdbx).getD (.init window)

/-- The database for RTCP of an SSRC. -/
def rdb (s : Session) (k : ℕ) : Rdb := ((s.getStream k).map Stream.rtcpRdb).getD .init

/-- Put a stream into the list, new or in place of the one it was cloned or read from. -/
def put (s : Session) (t : Template) (stream : Stream) : Session :=
  (s.insertStream t stream.ssrc).updateStream stream

theorem ssrc_of_getStream {stream : Stream} (h : s.getStream k = some stream) :
    stream.ssrc = k := by
  have := List.find?_some h
  simpa using this

@[simp]
theorem ssrc_streamFor : (s.streamFor t k).ssrc = k := by
  rw [streamFor]
  cases h : s.getStream k with
  | none => rfl
  | some stream => exact ssrc_of_getStream h

@[simp]
theorem rtpRdbx_streamFor : (s.streamFor t k).rtpRdbx = s.rdbx t.windowSize k := by
  rw [streamFor, rdbx]
  cases s.getStream k <;> rfl

@[simp]
theorem rtcpRdb_streamFor : (s.streamFor t k).rtcpRdb = s.rdb k := by
  rw [streamFor, rdb]
  cases s.getStream k <;> rfl

/-- The stream that has been put is found under its SSRC, and all others as before. -/
theorem getStream_put (stream : Stream) (j : ℕ) :
    (s.put t stream).getStream j = if j = stream.ssrc then some stream else s.getStream j := by
  have hsame : ∀ old : Stream,
      decide ((if old.ssrc = stream.ssrc then stream else old).ssrc = j) =
        decide (old.ssrc = j) := by
    intro old
    split
    case isTrue h => rw [h]
    case isFalse h => rfl
  -- the replacement does not change which element is found
  have hfind : ∀ streams : List Stream,
      (streams.map fun old => if old.ssrc = stream.ssrc then stream else old).find?
          (fun old => old.ssrc = j) =
        (streams.find? fun old => old.ssrc = j).map
          fun old => if old.ssrc = stream.ssrc then stream else old := by
    intro streams
    rw [List.find?_map]
    congr 1
    congr 1
    funext old
    exact hsame old
  have hupdate : ∀ s' : Session, (s'.updateStream stream).getStream j =
      (s'.getStream j).map fun old => if old.ssrc = stream.ssrc then stream else old :=
    fun s' => hfind s'.streamList
  rw [put, hupdate, insertStream]
  by_cases hj : j = stream.ssrc
  · subst hj
    rw [if_pos rfl]
    split
    case isTrue h =>
      obtain ⟨old, hold⟩ := Option.isSome_iff_exists.1 h
      rw [hold, Option.map_some, if_pos (ssrc_of_getStream hold)]
    case isFalse h =>
      have hhead : ({ s with streamList := t.clone stream.ssrc :: s.streamList } :
          Session).getStream stream.ssrc = some (t.clone stream.ssrc) := by
        simp [getStream, Template.clone]
      rw [hhead, Option.map_some]
      exact congrArg some (if_pos rfl)
  · rw [if_neg hj]
    have hrest : (if (s.getStream stream.ssrc).isSome = true then s
        else { s with streamList := t.clone stream.ssrc :: s.streamList }).getStream j =
        s.getStream j := by
      split
      · rfl
      · rw [getStream, List.find?_cons_of_neg]
        · rfl
        · show ¬decide (stream.ssrc = j) = true
          rw [decide_eq_true_eq]
          exact Ne.symm hj
    rw [hrest]
    cases hold : s.getStream j with
    | none => rfl
    | some old =>
      have hother : old.ssrc ≠ stream.ssrc := by
        rw [ssrc_of_getStream hold]
        exact hj
      rw [Option.map_some, if_neg hother]

theorem rdbx_put (stream : Stream) (window j : ℕ) :
    (s.put t stream).rdbx window j =
      if j = stream.ssrc then stream.rtpRdbx else s.rdbx window j := by
  rw [rdbx, getStream_put]
  split
  · rfl
  · rfl

theorem rdb_put (stream : Stream) (j : ℕ) :
    (s.put t stream).rdb j = if j = stream.ssrc then stream.rtcpRdb else s.rdb j := by
  rw [rdb, getStream_put]
  split
  · rfl
  · rfl

@[simp]
theorem streamTemplate_put (stream : Stream) :
    (s.put t stream).streamTemplate = s.streamTemplate := by
  rw [put, insertStream]
  split
  · rfl
  · rfl

@[simp]
theorem rdbx_setNumLeft (n window j : ℕ) : (s.setNumLeft n).rdbx window j = s.rdbx window j := rfl

@[simp]
theorem rdb_setNumLeft (n j : ℕ) : (s.setNumLeft n).rdb j = s.rdb j := rfl

theorem streamTemplate_setNumLeft (ht : s.streamTemplate = some t) (n : ℕ) :
    (s.setNumLeft n).streamTemplate = some { t with numLeft := n } := by
  rw [setNumLeft, ht]
  rfl

theorem setNumLeft_self (ht : s.streamTemplate = some t) : s.setNumLeft t.numLeft = s := by
  obtain ⟨streams, template⟩ := s
  simp only at ht
  rw [setNumLeft, ht]
  rfl

/-! ## RTP -/

/-- A fresh database takes the sequence number for the index, and lets everything through. -/
theorem init_estimateIndex {window q : ℕ} (hwindow : 0 < window) :
    (Rdbx.init window).estimateIndex q = (q, (q : ℤ)) ∧
      (Rdbx.init window).check (q : ℤ) = .ok () := by
  have hestimate : (Rdbx.init window).estimateIndex q = (q, (q : ℤ)) := by
    rw [Rdbx.estimateIndex, if_neg (by simp [Rdbx.init])]
    simp [Rdbx.init]
  refine ⟨hestimate, ?_⟩
  rw [(Rdbx.represents_init hwindow).check_eq_ok_iff (i := q) (by simp [Rdbx.init])]
  simp [Fresh]

/-- `srtp_unprotect` in terms of the database of the SSRC: a provisional stream makes no
difference. -/
theorem unprotect_eq (ht : s.streamTemplate = some t) (hwindow : 0 < t.windowSize)
    {pkt : List UInt8} (hpkt : encStart pkt ≤ pkt.length) :
    s.unprotect pkt =
      match (s.rdbx t.windowSize (ssrc pkt)).check
        ((s.rdbx t.windowSize (ssrc pkt)).estimateIndex (seq pkt)).2 with
      | .error e => (.error e, s)
      | .ok () =>
        let opened := openRtp t ((s.rdbx t.windowSize (ssrc pkt)).estimateIndex (seq pkt)).1 pkt
        match opened.1 with
        | .error e => (.error e, s.setNumLeft opened.2)
        | .ok plain =>
          (.ok plain, (s.put t
            { s.streamFor t (ssrc pkt) with
              rtpRdbx := (s.rdbx t.windowSize (ssrc pkt)).addIndex
                ((s.rdbx t.windowSize (ssrc pkt)).estimateIndex (seq pkt)).2 }).setNumLeft
            opened.2) := by
  rw [unprotect, validateRtpHeader_eq_ok_iff.2 hpkt, ht]
  have hput : ∀ (n : ℕ) (rtpRdbx : Rdbx),
      ((s.insertStream t (ssrc pkt)).setNumLeft n).updateStream
          { s.streamFor t (ssrc pkt) with rtpRdbx } =
        (s.put t { s.streamFor t (ssrc pkt) with rtpRdbx }).setNumLeft n := by
    intro n rtpRdbx
    rw [put]
    simp only [ssrc_streamFor]
    rfl
  simp only [hput, rtpRdbx_streamFor]
  cases hstream : s.getStream (ssrc pkt) with
  | none =>
    have hfresh : s.rdbx t.windowSize (ssrc pkt) = .init t.windowSize := by
      rw [rdbx, hstream]
      rfl
    have hinit := init_estimateIndex (q := seq pkt) hwindow
    rw [hfresh]
    cases hopen : (openRtp t (seq pkt) pkt).1 with
    | error e => simp only [hinit.1, hinit.2, hopen]
    | ok plain => simp only [hinit.1, hinit.2, hopen]
  | some stream =>
    have hold : s.rdbx t.windowSize (ssrc pkt) = stream.rtpRdbx := by
      rw [rdbx, hstream]
      rfl
    cases hcheck : stream.rtpRdbx.check (stream.rtpRdbx.estimateIndex (seq pkt)).2 with
    | error e => simp only [hold, hcheck]
    | ok _ =>
      cases hopen : (openRtp t (stream.rtpRdbx.estimateIndex (seq pkt)).1 pkt).1 with
      | error e => simp only [hold, hcheck, hopen]
      | ok plain => simp only [hold, hcheck, hopen]

/-- The key limit after a packet. -/
def Spends (numLeft numLeft' : ℕ) : Prop :=
  numLeft' = numLeft ∨ numLeft' = (keyLimitUpdate numLeft).2

theorem spends_openRtp (t : Template) (est : ℕ) (pkt : List UInt8) :
    Spends t.numLeft (openRtp t est pkt).2 := by
  rw [openRtp, openRtpAead, openRtpIcm, Spends]
  generalize keyLimitUpdate t.numLeft = update
  simp only
  split
  · split_ifs
    · simp
    · simp
    · simp
    · split <;> simp
  · split_ifs <;> simp

/-- A packet is refused, with all databases as they were, or it is let through. -/
theorem unprotect_cases (ht : s.streamTemplate = some t) (hwindow : 0 < t.windowSize)
    (pkt : List UInt8) :
    (∃ e n, s.unprotect pkt = (.error e, s.setNumLeft n) ∧ Spends t.numLeft n) ∨
    ∃ est delta plain n, encStart pkt ≤ pkt.length ∧
      (s.rdbx t.windowSize (ssrc pkt)).estimateIndex (seq pkt) = (est, delta) ∧
      (s.rdbx t.windowSize (ssrc pkt)).check delta = .ok () ∧
      openRtp t est pkt = (.ok plain, n) ∧ Spends t.numLeft n ∧
      s.unprotect pkt = (.ok plain, (s.put t
        { s.streamFor t (ssrc pkt) with
          rtpRdbx := (s.rdbx t.windowSize (ssrc pkt)).addIndex delta }).setNumLeft n) := by
  by_cases hpkt : encStart pkt ≤ pkt.length
  · rw [unprotect_eq ht hwindow hpkt]
    generalize hestimate : (s.rdbx t.windowSize (ssrc pkt)).estimateIndex (seq pkt) = estimate
    obtain ⟨est, delta⟩ := estimate
    have hspends := spends_openRtp t est pkt
    cases hcheck : (s.rdbx t.windowSize (ssrc pkt)).check delta with
    | error e =>
      left
      exact ⟨e, t.numLeft, by simp only [setNumLeft_self ht], .inl rfl⟩
    | ok _ =>
      simp only
      cases hopen : (openRtp t est pkt).1 with
      | error e =>
        left
        exact ⟨e, _, rfl, hspends⟩
      | ok plain =>
        right
        exact ⟨est, delta, plain, _, hpkt, rfl, hcheck, Prod.ext hopen rfl, hspends, rfl⟩
  · left
    cases hvalid : validateRtpHeader pkt with
    | ok _ => exact absurd (validateRtpHeader_eq_ok_iff.1 hvalid) hpkt
    | error e =>
      refine ⟨e, t.numLeft, ?_, .inl rfl⟩
      rw [unprotect, hvalid, setNumLeft_self ht]

/-! ## RTCP -/

/-- `srtp_unprotect_rtcp` in terms of the database of the SSRC, for a packet that is long enough. -/
theorem unprotectRtcp_eq (ht : s.streamTemplate = some t) {pkt : List UInt8}
    (hpkt : 8 + t.keys.rtcp.tagLength + 4 ≤ pkt.length) :
    s.unprotectRtcp pkt =
      match openRtcp t (s.rdb (rtcpSsrc pkt)) pkt with
      | .error e => (.error e, s)
      | .ok (seqNum, plain) =>
        (.ok plain, s.put t
          { s.streamFor t (rtcpSsrc pkt) with
            rtcpRdb := (s.rdb (rtcpSsrc pkt)).addIndex seqNum }) := by
  have hput : ∀ rtcpRdb : Rdb,
      (s.insertStream t (rtcpSsrc pkt)).updateStream
          { s.streamFor t (rtcpSsrc pkt) with rtcpRdb } =
        s.put t { s.streamFor t (rtcpSsrc pkt) with rtcpRdb } := by
    intro rtcpRdb
    rw [put]
    simp only [ssrc_streamFor]
  rw [unprotectRtcp, ht, if_neg (by omega)]
  simp only [hput, rtcpRdb_streamFor]
  rw [if_neg (by omega)]
  cases hstream : s.getStream (rtcpSsrc pkt) with
  | none =>
    have hfresh : s.rdb (rtcpSsrc pkt) = .init := by
      rw [rdb, hstream]
      rfl
    cases hopen : openRtcp t .init pkt with
    | error e => simp only [hfresh, hopen]
    | ok opened => simp only [hfresh, hopen]
  | some stream =>
    have hold : s.rdb (rtcpSsrc pkt) = stream.rtcpRdb := by
      rw [rdb, hstream]
      rfl
    cases hopen : openRtcp t stream.rtcpRdb pkt with
    | error e => simp only [hold, hopen]
    | ok opened => simp only [hold, hopen]

/-- A packet is refused, with all databases as they were, or it is let through. -/
theorem unprotectRtcp_cases (ht : s.streamTemplate = some t) (pkt : List UInt8) :
    (∃ e, s.unprotectRtcp pkt = (.error e, s)) ∨
    ∃ seqNum plain, openRtcp t (s.rdb (rtcpSsrc pkt)) pkt = .ok (seqNum, plain) ∧
      s.unprotectRtcp pkt = (.ok plain, s.put t
        { s.streamFor t (rtcpSsrc pkt) with
          rtcpRdb := (s.rdb (rtcpSsrc pkt)).addIndex seqNum }) := by
  by_cases hpkt : 8 + t.keys.rtcp.tagLength + 4 ≤ pkt.length
  · rw [unprotectRtcp_eq ht hpkt]
    cases hopen : openRtcp t (s.rdb (rtcpSsrc pkt)) pkt with
    | error e => exact .inl ⟨e, rfl⟩
    | ok opened => exact .inr ⟨opened.1, opened.2, rfl, rfl⟩
  · left
    refine ⟨.badParam, ?_⟩
    rw [unprotectRtcp, ht]
    dsimp only
    split
    · rfl
    · rw [if_pos (by omega)]

end Rtc.Srtp.Session
