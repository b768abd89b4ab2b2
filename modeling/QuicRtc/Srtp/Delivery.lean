import Mathlib.Data.List.Perm.Subperm
import QuicRtc.Srtp.Inbound

/-!
# What arrives through SRTP

`Link.Holds` is the invariant of an end of a link; every event keeps it (`holds_foldl`).

The main results are about every run. `received_subperm`: whatever a side has been given by the
other side it was given unchanged, and no packet more than once. `received_arrive`: a packet whose
index can be guessed is handed on exactly when it has not been handed on yet and is not behind the
window.
-/

namespace Rtc.Srtp

/-- What holds of one end of a link after `n` events: of what it has sent, of what it has let
through and of the key limit. -/
structure Link.Holds (net : Handshake) (l : Link) (p : Party) (accepted : List Sent) (n : ℕ) :
    Prop where
  role : (l.transport p).mIsClient = decide (p = .client)
  outbound : ∀ keys, (l.transport p).mSrtpOut.keys = some keys → net.keys p = some keys
  sealed_sent : ∀ w ∈ l.sent p, ∃ keys, net.keys p = some keys ∧ w.Sealed keys
  inbound : Inbound (net.keys p.other) (l.sent p.other) accepted (l.transport p).mSrtpIn
  received : l.received p = accepted.reverse.map fun w => recvMedia w.plain
  ready : (l.transport p).mInitDone = true →
    ∃ t, (l.transport p).mSrtpIn.streamTemplate = some t ∧ 2 ^ 48 - 1 ≤ t.numLeft + n

end Rtc.Srtp

namespace Rtc.DtlsSrtpTransport

open Srtp

variable {t t' : DtlsSrtpTransport}

/-- The handshake puts the keys of the two directions into the two sessions, once. -/
theorem postHandshake_cases {net : Handshake} (h : t.postHandshake net = .ok t') {p : Party}
    (hrole : t.mIsClient = decide (p = .client)) :
    t' = t ∨ ∃ inbound outbound, net.keys p.other = some inbound ∧ net.keys p = some outbound ∧
      t' = { t with
        mInitDone := true
        mSrtpIn := { t.mSrtpIn with streamTemplate := some ⟨inbound, 1024, true, 0xffffffffffff⟩ }
        mSrtpOut :=
          { t.mSrtpOut with streamTemplate := some ⟨outbound, 1024, true, 0xffffffffffff⟩ } } := by
  have hadd : ∀ {s s' : Srtp.Session} {keys : SessionKeys}, s.addStream keys 1024 true = .ok s' →
      s' = { s with streamTemplate := some ⟨keys, 1024, true, 0xffffffffffff⟩ } := by
    intro s s' keys hs
    rw [Srtp.Session.addStream, if_neg (by decide)] at hs
    split at hs
    · simp at hs
    · simp only [Except.ok.injEq] at hs
      exact hs.symm
  rw [postHandshake] at h
  split at h
  · simp only [Except.ok.injEq] at h
    exact .inl h.symm
  · right
    cases hname : net.profileName with
    | none => simp [hname] at h
    | some name =>
      cases hprofile : getProfileParamsFromName name with
      | error e => simp [hname, hprofile] at h
      | ok params =>
        obtain ⟨profile, keySize, saltSize⟩ := params
        cases hmaterial : net.exportKeyingMaterial ((keySize + saltSize) * 2) with
        | none => simp [hname, hprofile, hmaterial] at h
        | some material =>
          have hkeys : ∀ q : Party, net.keys q = some (net.deriveKeys profile
              (if q = .client then (sessionKeys material keySize saltSize).1
              else (sessionKeys material keySize saltSize).2)) := by
            intro q
            simp only [Handshake.keys, hname, hprofile, hmaterial]
          simp only [hname, hprofile, hmaterial] at h
          split at h
          · simp at h
          case h_2 hin =>
            split at h
            · simp at h
            case h_2 hout =>
              simp only [Except.ok.injEq] at h
              rw [← h, hadd hin, hadd hout]
              refine ⟨_, _, hkeys p.other, hkeys p, ?_⟩
              cases p with
              | client => simp [hrole, Party.other]
              | server => simp [hrole, Party.other]

/-- What `sendMedia` gives to the network has been protected under the index, and it changes
nothing but the outbound session. -/
theorem sendMedia_cases (t : DtlsSrtpTransport) (message : Datagram) :
    ∃ mSrtpOut, (t.sendMedia (some message)).2 = { t with mSrtpOut } ∧
      mSrtpOut.keys = t.mSrtpOut.keys ∧
      ∀ datagram, (t.sendMedia (some message)).1 = .ok (some datagram) →
        ∃ keys, t.mSrtpOut.keys = some keys ∧
          Sent.Sealed keys ⟨message.data, t.mSrtpOut.packetIndex message.data, datagram.data⟩ := by
  simp only [sendMedia]
  split
  · exact ⟨t.mSrtpOut, rfl, rfl, by simp⟩
  · split
    · exact ⟨t.mSrtpOut, rfl, rfl, by simp⟩
    · split
      case isTrue hkind =>
        have hkeep := t.mSrtpOut.keys_protectRtcp message.data
        cases hprotect : t.mSrtpOut.protectRtcp message.data with
        | mk result mSrtpOut =>
          rw [hprotect] at hkeep
          cases result with
          | error e => cases e <;> exact ⟨mSrtpOut, rfl, hkeep, by simp⟩
          | ok data =>
            refine ⟨mSrtpOut, rfl, hkeep, fun datagram h => ?_⟩
            simp only [Except.ok.injEq, Option.some.injEq] at h
            rw [← h]
            exact Srtp.Session.sealed_protectRtcp hprotect hkind
      case isFalse hkind =>
        have hkeep := t.mSrtpOut.keys_protect message.data
        cases hprotect : t.mSrtpOut.protect message.data with
        | mk result mSrtpOut =>
          rw [hprotect] at hkeep
          cases result with
          | error e => cases e <;> exact ⟨mSrtpOut, rfl, hkeep, by simp⟩
          | ok data =>
            refine ⟨mSrtpOut, rfl, hkeep, fun datagram h => ?_⟩
            simp only [Except.ok.injEq, Option.some.injEq] at h
            rw [← h]
            exact Srtp.Session.sealed_protect hprotect (Bool.not_eq_true _ ▸ hkind)

/-- What `recvMedia` calls the callback with has been sent and has not been let through before. -/
theorem recvMedia_cases (t : DtlsSrtpTransport) (packet : List UInt8) {peer : Option SessionKeys}
    {sent accepted : List Sent} (h : Inbound peer sent accepted t.mSrtpIn)
    (hpeer : ∀ keys, peer = some keys → keys.Lawful ∧ ∀ w ∈ sent, w.Sealed keys)
    (hindex : ∀ w ∈ sent, w.index < 2 ^ 48 - 2 ^ 16)
    (hgenuine : ∀ keys, peer = some keys →
      (isRtcp packet = false → ∀ est < 2 ^ 48, Verifies keys est packet →
        ∃ w ∈ sent, w.packet = packet ∧ w.index / 2 ^ 16 = est / 2 ^ 16) ∧
      (isRtcp packet = true → VerifiesRtcp keys packet → ∃ w ∈ sent, w.packet = packet)) :
    ∃ (more : Option Sent) (mSrtpIn : Srtp.Session),
      t.recvMedia packet = (more.map fun w => Rtc.recvMedia w.plain, { t with mSrtpIn }) ∧
      Inbound peer sent (more.toList ++ accepted) mSrtpIn := by
  rw [recvMedia]
  split
  · exact ⟨none, t.mSrtpIn, rfl, h⟩
  · split
    case isTrue hkind =>
      rcases h.unprotectRtcp hpeer hkind (fun keys hkeys => (hgenuine keys hkeys).2 hkind) with
        ⟨e, s', heq, hs⟩ | ⟨w, s', heq, -, hplain, hs⟩
      · exact ⟨none, s', by rw [heq]; rfl, hs⟩
      · refine ⟨some w, s', ?_, hs⟩
        rw [heq, Option.map_some, Rtc.recvMedia, hplain]
        rfl
    case isFalse hkind =>
      rw [Bool.not_eq_true] at hkind
      rcases h.unprotect hpeer hindex hkind (fun keys hkeys => (hgenuine keys hkeys).1 hkind) with
        ⟨e, s', heq, hs⟩ | ⟨w, s', heq, -, hplain, hs⟩
      · exact ⟨none, s', by rw [heq]; rfl, hs⟩
      · refine ⟨some w, s', ?_, hs⟩
        rw [heq, Option.map_some, Rtc.recvMedia, hplain]
        rfl

/-- A packet spends at most one of the key limit. -/
theorem numLeft_recvMedia (t : DtlsSrtpTransport) (packet : List UInt8)
    {peer : Option SessionKeys} {sent accepted : List Sent}
    (h : Inbound peer sent accepted t.mSrtpIn) {template : Template}
    (ht : t.mSrtpIn.streamTemplate = some template) :
    ∃ template', (t.recvMedia packet).2.mSrtpIn.streamTemplate = some template' ∧
      template.numLeft ≤ template'.numLeft + 1 := by
  rw [recvMedia]
  split
  · exact ⟨template, ht, Nat.le_succ _⟩
  · split
    · have hkeep := Inbound.streamTemplate_unprotectRtcp ht packet
      generalize t.mSrtpIn.unprotectRtcp packet = result at hkeep
      obtain ⟨_ | _, mSrtpIn⟩ := result
      · exact ⟨template, hkeep, Nat.le_succ _⟩
      · exact ⟨template, hkeep, Nat.le_succ _⟩
    · have hkeep := h.numLeft_unprotect ht packet
      generalize t.mSrtpIn.unprotect packet = result at hkeep
      obtain ⟨_ | _, mSrtpIn⟩ := result
      · exact hkeep
      · exact hkeep

/-- `demuxMessage` hands the packet to `recvMedia` or does nothing with it. -/
theorem demuxMessage_cases (t : DtlsSrtpTransport) (packet : List UInt8) :
    (t.demuxMessage packet).2 = (none, t) ∨ (t.demuxMessage packet).2 = t.recvMedia packet := by
  cases packet with
  | nil =>
    simp only [demuxMessage]
    split
    · exact .inl rfl
    · exact .inl rfl
  | cons value1 rest =>
    simp only [demuxMessage]
    split_ifs <;> first | exact .inl rfl | exact .inr rfl

/-- A packet that is near is handed on exactly when its index is fresh. -/
theorem demuxMessage_of_near {t : DtlsSrtpTransport} {peer : Option SessionKeys}
    {sent accepted : List Sent} {template : Template} {w : Sent}
    (h : Inbound peer sent accepted t.mSrtpIn) (hdone : t.mInitDone = true)
    (ht : t.mSrtpIn.streamTemplate = some template) (hlawful : template.keys.Lawful)
    (hsealed : w.Sealed template.keys) (hindex : ∀ w ∈ sent, w.index < 2 ^ 48 - 2 ^ 16)
    (hw : w ∈ sent) (hlimit : 2 ≤ template.numLeft) (hnear : w.Near accepted)
    (hversion : 128 ≤ w.plain.getD 0 0 ∧ w.plain.getD 0 0 ≤ 191) :
    (t.demuxMessage w.packet).2.1 =
      if Fresh w.window (indices accepted w.stream) w.index then some (Rtc.recvMedia w.plain)
      else none := by
  have hfront : w.packet.getD 0 0 = w.plain.getD 0 0 ∧ 8 ≤ w.packet.length := by
    cases hkind : isRtcp w.plain with
    | false =>
      obtain ⟨hstart, hpacket, -⟩ := hsealed.rtp hkind
      have htwelve := twelve_le_encStart w.plain
      rw [hpacket, length_sealRtp hlawful.rtp _ hstart]
      exact ⟨getD_eq_of_take (take_sealRtp hlawful.rtp _ hstart) (by omega) 0, by omega⟩
    | true =>
      obtain ⟨hpacket, -⟩ := hsealed.rtcp hkind
      have hplain := isRtcp_length hkind
      rw [hpacket, length_sealRtcp hlawful.rtcp _ hplain]
      exact ⟨getD_eq_of_take (take_sealRtcp hlawful.rtcp _ hplain) (by omega) 0, by omega⟩
  obtain ⟨hfirst, hlength⟩ := hfront
  rw [← hfirst] at hversion
  -- the first byte is that of the packet before it was protected
  have hmedia : (t.demuxMessage w.packet).2 = t.recvMedia w.packet := by
    cases hpacket : w.packet with
    | nil =>
      rw [hpacket] at hlength
      simp at hlength
    | cons value1 rest =>
      rw [hpacket, List.getD_cons_zero] at hversion
      have hmiddle : ¬(20 ≤ value1 ∧ value1 ≤ 63) := by
        intro hdtls
        have := UInt8.le_trans hversion.1 hdtls.2
        exact absurd this (by decide)
      simp only [demuxMessage]
      rw [if_neg (by simp [hdone]), if_neg hmiddle, if_pos hversion]
  rw [hmedia, recvMedia, if_neg (by omega), hsealed.isRtcp_packet hlawful]
  cases hkind : isRtcp w.plain with
  | false =>
    have hwindow : w.window = 1024 := by
      rw [Sent.window, hkind]
      rfl
    rw [if_neg (by decide), hwindow]
    rcases h.unprotect_of_near ht hlawful hsealed hindex hw hlimit hnear hkind with
      ⟨s', heq, hfresh⟩ | ⟨e, s', heq, hstale⟩
    · rw [heq, if_pos hfresh, Rtc.recvMedia, hkind]
      rfl
    · rw [heq, if_neg hstale]
  | true =>
    have hwindow : w.window = 128 := by
      rw [Sent.window, hkind]
      rfl
    rw [if_pos rfl, hwindow]
    rcases h.unprotectRtcp_of_near ht hlawful hsealed hkind with
      ⟨s', heq, hfresh⟩ | ⟨e, s', heq, hstale⟩
    · rw [heq, if_pos hfresh, Rtc.recvMedia, hkind]
      rfl
    · rw [heq, if_neg hstale]

end Rtc.DtlsSrtpTransport

namespace Rtc.Srtp.Link

variable {net : Handshake} {l : Link} {event : Event}

theorem mem_sentBy {result : Except Exception (Option Datagram)} {plain : List UInt8} {i : ℕ}
    {w : Sent} : w ∈ sentBy result plain i ↔
      ∃ datagram, result = .ok (some datagram) ∧ w = ⟨plain, i, datagram.data⟩ := by
  cases result with
  | error e => simp [sentBy]
  | ok message => cases message <;> simp [sentBy]

/-- Nothing that has been sent is forgotten. -/
theorem sent_subset_step (net : Handshake) (l : Link) (event : Event) (p : Party) :
    l.sent p ⊆ (l.step net event).sent p := by
  cases event with
  | finish q =>
    rw [step]
    split
    · exact List.Subset.refl _
    · exact List.Subset.refl _
  | send q message =>
    simp only [step]
    by_cases hq : p = q
    · subst hq
      rw [Function.update_self]
      exact List.subset_append_left _ _
    · rw [Function.update_of_ne hq]
      exact List.Subset.refl _
  | arrive q packet => exact List.Subset.refl _

theorem sent_subset_foldl (net : Handshake) (l : Link) (events : List Event) (p : Party) :
    l.sent p ⊆ (events.foldl (step net) l).sent p := by
  induction events generalizing l with
  | nil => exact List.Subset.refl _
  | cons event events ih => exact List.Subset.trans (sent_subset_step net l event p) (ih _)

theorem holds_start (net : Handshake) (p : Party) : start.Holds net p [] 0 where
  role := rfl
  outbound := by simp [start, Session.keys]
  sealed_sent := by simp [start]
  inbound := Inbound.start _
  received := rfl
  ready := by simp [start]

variable {p : Party} {accepted : List Sent} {n : ℕ}

/-- One more event. -/
theorem Holds.later (h : l.Holds net p accepted n) : l.Holds net p accepted (n + 1) :=
  { h with
    ready := fun hdone =>
      (h.ready hdone).imp fun _ ht => ⟨ht.1, Nat.le_succ_of_le ht.2⟩ }

/-- An event elsewhere: the other end may have sent more. -/
theorem Holds.congr (h : l.Holds net p accepted n) {l' : Link}
    (htransport : l'.transport p = l.transport p) (hsent : l'.sent p = l.sent p)
    (hmore : l.sent p.other ⊆ l'.sent p.other) (hreceived : l'.received p = l.received p) :
    l'.Holds net p accepted n where
  role := htransport ▸ h.role
  outbound := htransport ▸ h.outbound
  sealed_sent := hsent ▸ h.sealed_sent
  inbound := htransport ▸ h.inbound.mono hmore
  received := hreceived.trans h.received
  ready := htransport ▸ h.ready

/-- The handshake at one end. -/
theorem Holds.finish (h : l.Holds net p accepted n) (q : Party) :
    (l.step net (.finish q)).Holds net p accepted n := by
  rw [step]
  cases hpost : (l.transport q).postHandshake net with
  | error e => exact h
  | ok t =>
    by_cases hq : p = q
    · subst hq
      have hself : ({ l with transport := Function.update l.transport p t } : Link).transport p =
          t := Function.update_self ..
      rcases DtlsSrtpTransport.postHandshake_cases hpost h.role with
        rfl | ⟨inbound, outbound, hin, hout, ht⟩
      · exact h.congr hself rfl (List.Subset.refl _) rfl
      · refine ⟨?_, ?_, h.sealed_sent, ?_, h.received, ?_⟩
        · rw [hself, ht]
          exact h.role
        · rw [hself, ht]
          intro keys hkeys
          exact hout.trans hkeys
        · rw [hself, ht]
          refine ⟨?_, h.inbound.subset, h.inbound.nodup, h.inbound.rdbx, h.inbound.rdb⟩
          intro t' ht'
          simp only [Option.some.injEq] at ht'
          rw [← ht']
          exact ⟨hin, rfl⟩
        · rw [hself, ht]
          exact fun _ => ⟨_, rfl, by simp only; omega⟩
    · exact h.congr (Function.update_of_ne hq ..) rfl (List.Subset.refl _) rfl

/-- A packet is sent at one end. -/
theorem Holds.send (h : l.Holds net p accepted n) (q : Party) (message : Datagram) :
    (l.step net (.send q message)).Holds net p accepted n := by
  have hmore := sent_subset_step net l (.send q message) p.other
  by_cases hq : p = q
  · subst hq
    obtain ⟨mSrtpOut, hresult, hkeep, hsealed⟩ := (l.transport p).sendMedia_cases message
    have hself : (l.step net (.send p message)).transport p = { l.transport p with mSrtpOut } :=
      (Function.update_self ..).trans hresult
    refine ⟨?_, ?_, ?_, ?_, h.received, ?_⟩
    · rw [hself]
      exact h.role
    · rw [hself]
      intro keys hkeys
      exact h.outbound keys (hkeep.symm.trans hkeys)
    · simp only [step, Function.update_self]
      intro w hw
      rcases List.mem_append.1 hw with hold | hnew
      · exact h.sealed_sent w hold
      · obtain ⟨datagram, hsend, rfl⟩ := mem_sentBy.1 hnew
        obtain ⟨keys, hkeys, hw⟩ := hsealed datagram hsend
        exact ⟨keys, h.outbound keys hkeys, hw⟩
    · rw [hself]
      exact h.inbound.mono hmore
    · rw [hself]
      exact h.ready
  · exact h.congr (Function.update_of_ne hq ..) (Function.update_of_ne hq ..) hmore rfl

/-- A genuine packet arrives at one end: if the callback is called then with a packet that has not
been let through before. -/
theorem Holds.arrive (h : l.Holds net p accepted n)
    (hpeer : ∀ keys, net.keys p.other = some keys →
      keys.Lawful ∧ ∀ w ∈ l.sent p.other, w.Sealed keys)
    (hindex : ∀ w ∈ l.sent p.other, w.index < 2 ^ 48 - 2 ^ 16) {q : Party} {packet : List UInt8}
    (hgenuine : l.Genuine net q packet) :
    ∃ accepted', (l.step net (.arrive q packet)).Holds net p accepted' (n + 1) := by
  by_cases hq : p = q
  · subst hq
    have hself : (l.step net (.arrive p packet)).transport p =
        ((l.transport p).demuxMessage packet).2.2 := Function.update_self ..
    have hreceived : (l.step net (.arrive p packet)).received p =
        l.received p ++ ((l.transport p).demuxMessage packet).2.1.toList := Function.update_self ..
    rcases (l.transport p).demuxMessage_cases packet with hnone | hrecv
    · rw [hnone] at hself hreceived
      rw [Option.toList_none, List.append_nil] at hreceived
      exact ⟨accepted, h.later.congr hself rfl (List.Subset.refl _) hreceived⟩
    · obtain ⟨more, mSrtpIn, heq, hin⟩ :=
        (l.transport p).recvMedia_cases packet h.inbound hpeer hindex hgenuine
      rw [hrecv, heq] at hself hreceived
      refine ⟨more.toList ++ accepted, ?_, ?_, h.sealed_sent, ?_, ?_, ?_⟩
      · rw [hself]
        exact h.role
      · rw [hself]
        exact h.outbound
      · rw [hself]
        exact hin
      · rw [hreceived, h.received]
        cases more with
        | none => simp
        | some w => simp
      · rw [hself]
        intro hdone
        obtain ⟨t, ht, hleft⟩ := h.ready hdone
        obtain ⟨t', ht', hle⟩ := (l.transport p).numLeft_recvMedia packet h.inbound ht
        rw [heq] at ht'
        exact ⟨t', ht', by omega⟩
  · refine ⟨accepted, h.later.congr ?_ rfl (List.Subset.refl _) ?_⟩
    · exact Function.update_of_ne hq ..
    · exact Function.update_of_ne hq ..

/-- The invariant of both ends is kept by every event. -/
theorem holds_foldl (hlawful : ∀ p keys, net.keys p = some keys → keys.Lawful)
    (events : List Event) (h : ∀ p, ∃ accepted, l.Holds net p accepted n)
    (hforge : l.Unforged net events)
    (hindex : ∀ p, ∀ w ∈ (events.foldl (step net) l).sent p, w.index < 2 ^ 48 - 2 ^ 16)
    (p : Party) :
    ∃ accepted, (events.foldl (step net) l).Holds net p accepted (n + events.length) := by
  induction events generalizing l n with
  | nil => exact h p
  | cons event events ih =>
    -- only a packet that arrives needs more than the invariant of the end itself
    rw [List.length_cons, Nat.add_comm events.length, ← Nat.add_assoc]
    cases event with
    | finish q =>
      refine ih (fun p => ?_) hforge hindex
      obtain ⟨accepted, hp⟩ := h p
      exact ⟨accepted, (hp.finish q).later⟩
    | send q message =>
      refine ih (fun p => ?_) hforge hindex
      obtain ⟨accepted, hp⟩ := h p
      exact ⟨accepted, (hp.send q message).later⟩
    | arrive q packet =>
      refine ih (fun p => ?_) hforge.2 hindex
      obtain ⟨accepted, hp⟩ := h p
      obtain ⟨_, hother⟩ := h p.other
      -- what the packets may be is known from the other end
      apply hp.arrive ?_ ?_ hforge.1
      · intro keys hkeys
        refine ⟨hlawful _ _ hkeys, fun w hw => ?_⟩
        obtain ⟨keys', hkeys', hsealed⟩ := hother.sealed_sent w hw
        rw [hkeys, Option.some.injEq] at hkeys'
        rw [hkeys']
        exact hsealed
      · intro w hw
        exact hindex p.other w (sent_subset_foldl net l (.arrive q packet :: events) p.other hw)

theorem holds_run (hlawful : ∀ p keys, net.keys p = some keys → keys.Lawful) {events : List Event}
    (hforge : start.Unforged net events)
    (hindex : ∀ p, ∀ w ∈ (run net events).sent p, w.index < 2 ^ 48 - 2 ^ 16) (p : Party) :
    ∃ accepted, (run net events).Holds net p accepted events.length := by
  have h := holds_foldl hlawful events (fun p => ⟨[], holds_start net p⟩) hforge hindex p
  rw [Nat.zero_add] at h
  exact h

/-- A cipher and an authentication function for the example: the tag is the rollover counter, or the
trailer. -/
def exampleProtection : Protection where
  tagLength := 4
  crypt _ data := data.map (· ^^^ 0x5A)
  auth data := (data.reverse ++ [0, 0, 0, 0]).take 4
  aeadEncrypt _ _ data := (data.map (· ^^^ 0x5A), [0, 0, 0, 0])
  aeadDecrypt _ _ data tag :=
    if tag = [0, 0, 0, 0] then some (data.map (· ^^^ 0x5A)) else none
  salt := []

def exampleHandshake : Handshake where
  profileName := some "SRTP_AES128_CM_SHA1_80"
  exportKeyingMaterial length := some (List.replicate length 0)
  deriveKeys _ _ := { isAead := false, rtp := exampleProtection, rtcp := exampleProtection }

def examplePlain : List UInt8 := [0x80, 96, 0, 1, 0, 0, 0, 0, 0, 0, 0, 7, 42]

def examplePacket : List UInt8 := [0x80, 96, 0, 1, 0, 0, 0, 0, 0, 0, 0, 7, 112, 0, 0, 0, 0]

/-- A packet is sent, and the network repeats it. -/
def exampleEvents : List Event :=
  [.finish .client, .finish .server, .send .client { data := examplePlain },
    .arrive .server examplePacket, .arrive .server examplePacket]

theorem map_xor_map_xor (data : List UInt8) :
    (data.map (· ^^^ 0x5A)).map (· ^^^ 0x5A) = data := by
  rw [List.map_map]
  have hid : ((· ^^^ 0x5A) ∘ (· ^^^ 0x5A) : UInt8 → UInt8) = id := by
    funext b
    rw [Function.comp_apply, UInt8.xor_assoc, UInt8.xor_self, UInt8.xor_zero]
    rfl
  rw [hid, List.map_id]

theorem lawful_exampleProtection : exampleProtection.Lawful where
  length_crypt _ data := List.length_map _
  crypt_crypt _ data := map_xor_map_xor data
  length_auth data := by simp [exampleProtection]
  length_aeadEncrypt _ _ data := List.length_map _
  length_tag _ _ _ := rfl
  aeadDecrypt_aeadEncrypt _ _ data := congrArg some (map_xor_map_xor data)

theorem keys_exampleHandshake (p : Party) : exampleHandshake.keys p =
    some { isAead := false, rtp := exampleProtection, rtcp := exampleProtection } := by
  simp [Handshake.keys, exampleHandshake, DtlsSrtpTransport.getProfileParamsFromName]

theorem lawful_exampleHandshake (p : Party) (keys : SessionKeys)
    (h : exampleHandshake.keys p = some keys) : keys.Lawful := by
  rw [keys_exampleHandshake, Option.some.injEq] at h
  rw [← h]
  exact ⟨lawful_exampleProtection, lawful_exampleProtection⟩

/-- The tag says which rollover counter it is for. -/
theorem genuine_examplePacket {l : Link}
    (hsent : l.sent .client = [⟨examplePlain, 1, examplePacket⟩]) :
    l.Genuine exampleHandshake .server examplePacket := by
  intro keys hkeys
  rw [keys_exampleHandshake, Option.some.injEq] at hkeys
  subst hkeys
  have hmem : (⟨examplePlain, 1, examplePacket⟩ : Sent) ∈ l.sent Party.server.other := by
    rw [Party.other, hsent]
    exact List.mem_singleton_self _
  refine ⟨fun _ est hest hverifies => ⟨_, hmem, rfl, ?_⟩, fun _ _ => ⟨_, hmem, rfl⟩⟩
  have hlength : (rocBytes est).reverse.length = 4 := by
    rw [List.length_reverse, rocBytes, BigEndian.length_encode]
  rw [Verifies, if_neg (by decide)] at hverifies
  simp only [exampleProtection, List.reverse_append, List.append_assoc] at hverifies
  rw [List.take_left' hlength] at hverifies
  have hroc : BigEndian.decode (rocBytes est) = 0 := by
    rw [← List.reverse_reverse (rocBytes est), hverifies]
    decide
  rw [rocBytes, BigEndian.decode_encode (by omega)] at hroc
  simp only
  omega

theorem unforged_exampleEvents : start.Unforged exampleHandshake exampleEvents :=
  ⟨genuine_examplePacket (by decide +kernel), genuine_examplePacket (by decide +kernel), trivial⟩

theorem index_exampleEvents : ∀ p, ∀ w ∈ (run exampleHandshake exampleEvents).sent p,
    w.index < 2 ^ 48 - 2 ^ 16 := by
  intro p
  cases p
  · decide +kernel
  · decide +kernel

example : (run exampleHandshake exampleEvents).received .server = [recvMedia examplePlain] := by
  decide +kernel

/-- Whatever the network does, short of making up a packet whose tag verifies: what a side has
received is what the other side has sent, unchanged, and no packet more than once. -/
theorem received_subperm (net : Handshake)
    (hlawful : ∀ p keys, net.keys p = some keys → keys.Lawful) (events : List Event)
    (hforge : start.Unforged net events)
    (hindex : ∀ p, ∀ w ∈ (run net events).sent p, w.index < 2 ^ 48 - 2 ^ 16) (p : Party) :
    ((run net events).received p).Subperm
      (((run net events).sent p.other).map fun w => recvMedia w.plain) := by
  -- the packets let through are distinct, so they fit into those sent
  obtain ⟨accepted, h⟩ := holds_run hlawful hforge hindex p
  have hnodup : accepted.Nodup := h.inbound.nodup.of_map _
  obtain ⟨ws, hperm, hsublist⟩ := hnodup.subperm h.inbound.subset
  refine ⟨ws.map fun w => recvMedia w.plain, ?_, hsublist.map _⟩
  rw [h.received]
  exact (hperm.trans (List.reverse_perm accepted).symm).map _

theorem received_subperm_example : ((run exampleHandshake exampleEvents).received .server).Subperm
    (((run exampleHandshake exampleEvents).sent .client).map fun w => recvMedia w.plain) :=
  received_subperm exampleHandshake lawful_exampleHandshake exampleEvents unforged_exampleEvents
    index_exampleEvents .server

/-- After every run there is a list of the packets let through so far, and whichever packet of the
other side arrives next, if its index can be guessed, is handed on exactly when its index is fresh:
not let through yet, and not behind the window. -/
theorem received_arrive (net : Handshake)
    (hlawful : ∀ p keys, net.keys p = some keys → keys.Lawful) (events : List Event)
    (hforge : start.Unforged net events)
    (hindex : ∀ p, ∀ w ∈ (run net events).sent p, w.index < 2 ^ 48 - 2 ^ 16)
    (hcount : events.length + 3 ≤ 2 ^ 48) (p : Party)
    (hdone : ((run net events).transport p).mInitDone = true) :
    ∃ accepted, accepted ⊆ (run net events).sent p.other ∧
      (accepted.map fun w => (w.stream, w.index)).Nodup ∧
      (run net events).received p = accepted.reverse.map (fun w => recvMedia w.plain) ∧
      ∀ w ∈ (run net events).sent p.other, w.Near accepted →
        128 ≤ w.plain.getD 0 0 ∧ w.plain.getD 0 0 ≤ 191 →
        (run net (events ++ [.arrive p w.packet])).received p =
          (run net events).received p ++
            if Fresh w.window (indices accepted w.stream) w.index then [recvMedia w.plain]
            else [] := by
  have hrun := holds_run hlawful hforge hindex
  obtain ⟨accepted, h⟩ := hrun p
  obtain ⟨_, hother⟩ := hrun p.other
  refine ⟨accepted, h.inbound.subset, h.inbound.nodup, h.received, fun w hw hnear hversion => ?_⟩
  obtain ⟨template, ht, hleft⟩ := h.ready hdone
  have hkeys := (h.inbound.template template ht).1
  obtain ⟨keys, hkeys', hsealed⟩ := hother.sealed_sent w hw
  rw [hkeys, Option.some.injEq] at hkeys'
  subst hkeys'
  have hdemux := DtlsSrtpTransport.demuxMessage_of_near h.inbound hdone ht
    (hlawful _ _ hkeys) hsealed (hindex p.other) hw (by omega) hnear hversion
  have hstep : (run net (events ++ [.arrive p w.packet])).received p =
      (run net events).received p ++
        (((run net events).transport p).demuxMessage w.packet).2.1.toList := by
    rw [run, List.foldl_append]
    exact Function.update_self ..
  rw [hstep, hdemux]
  congr 1
  split
  · rfl
  · rfl

theorem received_arrive_example : ∃ accepted,
    accepted ⊆ (run exampleHandshake exampleEvents).sent .client ∧
    (accepted.map fun w => (w.stream, w.index)).Nodup ∧
    (run exampleHandshake exampleEvents).received .server =
      accepted.reverse.map (fun w => recvMedia w.plain) ∧
    ∀ w ∈ (run exampleHandshake exampleEvents).sent .client, w.Near accepted →
      128 ≤ w.plain.getD 0 0 ∧ w.plain.getD 0 0 ≤ 191 →
      (run exampleHandshake (exampleEvents ++ [.arrive .server w.packet])).received .server =
        (run exampleHandshake exampleEvents).received .server ++
          if Fresh w.window (indices accepted w.stream) w.index then [recvMedia w.plain]
          else [] :=
  received_arrive exampleHandshake lawful_exampleHandshake exampleEvents unforged_exampleEvents
    index_exampleEvents (by decide) .server (by decide +kernel)

end Rtc.Srtp.Link
