import Mathlib.Tactic.SplitIfs
import QuicRtc.Signaling.Defs

/-!
# Specifications of the signaling functions

What `setLocalDescription` and `setRemoteDescription` do up to the release of the lock, when the
switch takes the description and its contents are acceptable.

* `setLocalLocked_eq`: the description is issued (`issue`) and the signaling state changes.
* `setRemoteLocked_eq`: the description is stored, the role is fixed and the SCTP transport is
  started if it has to be (`take`).
-/

namespace Rtc.Signaling

/-- The local description of a type that is issued in a state. -/
def localDescription (s : Signaling) (type : Description.Kind) : Description :=
  { s.getLocalDescription type with media := s.localMedia type }

@[simp]
theorem localDescription_type (s : Signaling) (type : Description.Kind) :
    (s.localDescription type).type = type := rfl

/-- The state after a local description is issued. -/
def issue (s : Signaling) (type : Description.Kind) (state : SignalingState) : Signaling :=
  { s with
    mLocalDescription := some (s.localDescription type)
    mCurrentLocalDescription :=
      if s.mLocalDescription.isSome then s.mLocalDescription else s.mCurrentLocalDescription
    issued := s.issued ++ [s.localDescription type]
    signalingState := state }

@[simp]
theorem issue_issued (s : Signaling) (type : Description.Kind) (state : SignalingState) :
    (s.issue type state).issued = s.issued ++ [s.localDescription type] := rfl

@[simp]
theorem issue_signalingState (s : Signaling) (type : Description.Kind) (state : SignalingState) :
    (s.issue type state).signalingState = state := rfl

/-- The SCTP transport has to be started for a remote description: it is the first with an
application since the DTLS transport is connected. -/
def NeedsSctp (s : Signaling) (d : Description) : Prop :=
  d.hasApplication = true ∧ s.mSctpTransport = false ∧ s.mDtlsTransport = some .connected

instance (s : Signaling) (d : Description) : Decidable (s.NeedsSctp d) :=
  inferInstanceAs (Decidable (_ ∧ _ ∧ _))

/-- The SCTP transport starts if it has to: the local description has an application, and usrsctp
agrees. -/
def StartsSctp (s : Signaling) (d : Description) : Prop :=
  s.NeedsSctp d → s.mLocalDescription.any (·.application) = true ∧ s.usrsctp = true

instance (s : Signaling) (d : Description) : Decidable (s.StartsSctp d) :=
  inferInstanceAs (Decidable (_ → _ ∧ _))

/-- The state after a remote description is stored. -/
def take (s : Signaling) (d : Description) (state : SignalingState) : Signaling :=
  { s with
    mRole := selectRole s.mRole d.role
    mRemoteDescription := some d
    mSctpTransport := s.mSctpTransport || decide (s.NeedsSctp d)
    signalingState := state }

@[simp]
theorem take_issued (s : Signaling) (d : Description) (state : SignalingState) :
    (s.take d state).issued = s.issued := rfl

/-- What the ICE transport requires of a remote description, given its role. -/
structure Fits (juice : Description → Bool) (role : Description.Role) (d : Description) :
    Prop where
  answer : ¬(d.type = .answer ∧ d.role = .actPass)
  role : selectRole role d.role ≠ d.role
  juice : juice d = true

instance (juice : Description → Bool) (role : Description.Role) (d : Description) :
    Decidable (Fits juice role d) :=
  decidable_of_iff
    (¬(d.type = .answer ∧ d.role = .actPass) ∧ selectRole role d.role ≠ d.role ∧ juice d = true)
    ⟨fun h => ⟨h.1, h.2.1, h.2.2⟩, fun h => ⟨h.answer, h.role, h.juice⟩⟩

/-! ## Media lines -/

/-- A valid description has a media line. -/
theorem media_ne_nil_of_validate {d : Description} (h : validateRemoteDescription d = none) :
    d.media ≠ [] := by
  intro hnil
  simp only [validateRemoteDescription, hnil, List.isEmpty_nil, if_true] at h
  split_ifs at h

/-- There is a media line in a local description as soon as the remote description has one, or in
an offer if there are data channels. -/
theorem localMedia_ne_nil {s : Signaling} {type : Description.Kind}
    (hremote : ∀ d, s.mRemoteDescription = some d → d.media ≠ [])
    (h : s.mRemoteDescription.isSome ∨ type = .offer ∧ s.dataChannels = true) :
    s.localMedia type ≠ [] := by
  unfold localMedia
  rcases hd : s.mRemoteDescription with _ | d
  · -- without a remote description only an offer has a line, that of the data channels
    obtain ⟨htype, hchannels⟩ : type = .offer ∧ s.dataChannels = true := by simpa [hd] using h
    simp [htype, hchannels]
  · have hmedia := hremote d hd
    -- the lines of the remote description are reciprocated one by one
    simp only [Option.map_some, Option.getD_some]
    split <;> simp [hmedia]

/-! ## Rollback -/

/-- A rollback only touches the local descriptions. -/
theorem rollbackLocalDescription_eq (s : Signaling) :
    ∃ l c, s.rollbackLocalDescription =
      { s with mLocalDescription := l, mCurrentLocalDescription := c } := by
  unfold rollbackLocalDescription
  split
  · exact ⟨_, _, rfl⟩
  · exact ⟨_, _, rfl⟩

/-! ## Transports -/

/-- The start of the SCTP transport touches nothing else. -/
theorem initSctpTransport_eq (s : Signaling) :
    ∃ sctp, s.initSctpTransport.1 = { s with mSctpTransport := sctp } := by
  unfold initSctpTransport
  split_ifs
  · exact ⟨s.mSctpTransport, rfl⟩
  · exact ⟨true, rfl⟩
  · exact ⟨s.mSctpTransport, rfl⟩

/-- Nor does a change of the DTLS transport touch anything but the transports. -/
theorem dtlsStateChanged_eq (s : Signaling) (state : Transport.State) :
    ∃ sctp, s.dtlsStateChanged state =
      { s with mDtlsTransport := some state, mSctpTransport := sctp } := by
  unfold dtlsStateChanged
  dsimp only
  split_ifs
  · exact initSctpTransport_eq _
  · exact ⟨s.mSctpTransport, rfl⟩

/-! ## The two functions -/

/-- A local description that the switch takes is issued, if it has a media line. -/
theorem setLocalLocked_eq {s : Signaling} {type : Description.Kind} {state : SignalingState}
    (hrollback : type ≠ .rollback) (hunspec : type ≠ .unspec)
    (hnext : nextLocalState s.signalingState type = .ok (some state))
    (hmedia : s.localMedia type ≠ []) :
    s.setLocalLocked type = (s.issue type state, .ok (some state)) := by
  have hprocess : s.processLocalDescription (s.getLocalDescription type) =
      ({ s.issue type state with signalingState := s.signalingState }, none) := by
    have htype : (s.getLocalDescription type).type = type := rfl
    simp [processLocalDescription, htype, hmedia, issue, localDescription]
  simp only [setLocalLocked, hrollback, if_false, guessType, hunspec, hnext, hprocess]
  rfl

/-- A remote description that fits is accepted by the ICE transport. -/
theorem iceSetRemoteDescription_eq {juice : Description → Bool} {s : Signaling} {d : Description}
    (h : Fits juice s.mRole d) :
    iceSetRemoteDescription juice s d =
      ({ s with mRole := selectRole s.mRole d.role }, none) := by
  unfold iceSetRemoteDescription
  rw [if_neg h.answer]
  simp [h.role, h.juice]

/-- An application line that is not removed is an application line. -/
theorem application_of_hasApplication {d : Description} (h : d.hasApplication = true) :
    d.application = true := by
  have hmem : Description.Entry.application false ∈ d.media := by
    simpa [Description.hasApplication] using h
  exact List.any_eq_true.2 ⟨_, hmem, rfl⟩

/-- A remote description is stored, and the SCTP transport is started if it has to be and can. -/
theorem processRemoteDescription_eq {s : Signaling} {d : Description} (h : s.StartsSctp d) :
    s.processRemoteDescription d =
      ({ s with
          mRemoteDescription := some d
          mSctpTransport := s.mSctpTransport || decide (s.NeedsSctp d) },
        none) := by
  unfold processRemoteDescription
  by_cases hneeds : s.NeedsSctp d
  · obtain ⟨hlocal, husrsctp⟩ := h hneeds
    obtain ⟨happlication, hnone, hconnected⟩ := hneeds
    simp [initSctpTransport, NeedsSctp, happlication, hnone, hconnected, hlocal, husrsctp,
      application_of_hasApplication happlication]
  · have hskip : ¬(d.hasApplication && !s.mSctpTransport &&
        decide (s.mDtlsTransport = some .connected)) = true := by
      simpa [NeedsSctp, and_assoc] using hneeds
    simp only [if_neg hskip, hneeds, decide_false, Bool.or_false]

/-- If the SCTP transport cannot be started, the description is stored nevertheless. -/
theorem processRemoteDescription_throws {s : Signaling} {d : Description} (h : ¬s.StartsSctp d) :
    s.processRemoteDescription d =
      ({ s with mRemoteDescription := some d },
        some (.runtimeError "SCTP transport initialization failed")) := by
  obtain ⟨⟨happlication, hnone, hconnected⟩, hmissing⟩ := Classical.not_imp.1 h
  have hfails : (s.mLocalDescription.any (·.application) && s.usrsctp) = false := by
    apply Bool.eq_false_iff.2
    intro hboth
    exact hmissing (by simpa using hboth)
  unfold processRemoteDescription initSctpTransport
  simp only [happlication, hnone, hconnected, Option.any_some,
    application_of_hasApplication happlication]
  simp [hfails]

/-- A remote description that the switch takes is stored, if it fits. -/
theorem setRemoteLocked_eq {juice : Description → Bool} {s t : Signaling} {d d' : Description}
    {state : SignalingState} (hrollback : d.type ≠ .rollback)
    (hvalid : validateRemoteDescription d = none)
    (hnext : s.nextRemoteState d = .ok (t, d', state)) (hfits : Fits juice t.mRole d')
    (hstarts : t.StartsSctp d') :
    s.setRemoteLocked juice d = (t.take d' state, .ok (some state)) := by
  have hprocess := processRemoteDescription_eq
    (s := { t with mRole := selectRole t.mRole d'.role }) (d := d') hstarts
  simp only [setRemoteLocked, hrollback, if_false, hvalid, hnext,
    iceSetRemoteDescription_eq hfits, hprocess]
  rfl

/-- If the SCTP transport cannot be started for it, the call throws when it has stored the
description and taken the role. -/
theorem setRemoteLocked_throws {juice : Description → Bool} {s t : Signaling} {d d' : Description}
    {state : SignalingState} (hrollback : d.type ≠ .rollback)
    (hvalid : validateRemoteDescription d = none)
    (hnext : s.nextRemoteState d = .ok (t, d', state)) (hfits : Fits juice t.mRole d')
    (hfails : ¬t.StartsSctp d') :
    s.setRemoteLocked juice d =
      ({ t with mRole := selectRole t.mRole d'.role, mRemoteDescription := some d' },
        .error (.runtimeError "SCTP transport initialization failed")) := by
  have hprocess := processRemoteDescription_throws
    (s := { t with mRole := selectRole t.mRole d'.role }) (d := d') hfails
  simp only [setRemoteLocked, hrollback, if_false, hvalid, hnext,
    iceSetRemoteDescription_eq hfits, hprocess]

end Rtc.Signaling
