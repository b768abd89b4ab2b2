import QuicRtc.Description
import QuicRtc.Message
import QuicRtc.Transport

/-!
# Signaling

The offer/answer engine: `setLocalDescription` and `setRemoteDescription` of `peerconnection.cpp`,
the description bookkeeping of `impl/peerconnection.cpp` they rely on, and the DTLS role kept by
`impl/icetransport.cpp`.

Each of the two functions returns the state together with the exception it ended with, if any.
Whether libjuice accepts a remote description is the parameter `juice`; it is taken to produce a
local description whenever asked. Of the other transports there is what `processRemoteDescription`
needs to start the SCTP transport. Locally created tracks are left out, and so are candidates; a
peer connection that is being closed is not modelled.
-/

namespace Rtc

/-- `PeerConnection::SignalingState`. -/
inductive SignalingState where
  | stable
  | haveLocalOffer
  | haveRemoteOffer
  | haveLocalPranswer
  | haveRemotePranswer
  deriving DecidableEq, Repr

/-- `operator<<` on a signaling state. -/
def SignalingState.toText : SignalingState → String
  | .stable => "stable"
  | .haveLocalOffer => "have-local-offer"
  | .haveRemoteOffer => "have-remote-offer"
  | .haveLocalPranswer => "have-local-pranswer"
  | .haveRemotePranswer => "have-remote-pranswer"

/-- The signaling side of a peer connection. `mRole` is the role of the ICE transport, which is
`ActPass` when the transport is created. `dataChannels` says that some data channel is registered or
unassigned, and `issued` are the local descriptions passed to the callback, in order.
`mDtlsTransport` is the state of the DTLS transport, if there is one, `mSctpTransport` says whether
there is an SCTP transport, and `usrsctp` whether usrsctp lets one start. -/
structure Signaling where
  signalingState : SignalingState := .stable
  mRole : Description.Role := .actPass
  mLocalDescription : Option Description := none
  mCurrentLocalDescription : Option Description := none
  mRemoteDescription : Option Description := none
  dataChannels : Bool := true
  disableAutoNegotiation : Bool := false
  issued : List Description := []
  mDtlsTransport : Option Transport.State := none
  mSctpTransport : Bool := false
  usrsctp : Bool := true
  deriving DecidableEq, Repr

namespace Signaling

/-! ## The ICE transport -/

/-- `IceTransport::getLocalDescription`. Offers always advertise `actpass`. -/
def getLocalDescription (s : Signaling) (type : Description.Kind) : Description where
  type := type
  role := if type = .offer then .actPass else s.mRole

/-- The role taken by `IceTransport::setRemoteDescription`: fixed by the first remote
description. -/
def selectRole (role remote : Description.Role) : Description.Role :=
  if role = .actPass then (if remote = .active then .passive else .active) else role

/-- `IceTransport::setRemoteDescription`. -/
def iceSetRemoteDescription (juice : Description → Bool) (s : Signaling) (d : Description) :
    Signaling × Option Exception :=
  if d.type = .answer ∧ d.role = .actPass then
    (s, some (.invalidArgument "Illegal role actpass in remote answer description"))
  else
    let s := { s with mRole := selectRole s.mRole d.role }
    if s.mRole = d.role then
      (s, some (.invalidArgument "Incompatible roles with remote description"))
    else if !juice d then (s, some (.invalidArgument "Invalid ICE settings from remote SDP"))
    else (s, none)

/-! ## Descriptions -/

/-- `rollbackLocalDescription`. -/
def rollbackLocalDescription (s : Signaling) : Signaling :=
  match s.mCurrentLocalDescription with
  | some current => { s with mLocalDescription := some current, mCurrentLocalDescription := none }
  | none => s

/-- `validateRemoteDescription`: the exception, if it throws. -/
def validateRemoteDescription (d : Description) : Option Exception :=
  if !d.iceUfrag then some (.invalidArgument "Remote description has no ICE user fragment")
  else if !d.icePwd then some (.invalidArgument "Remote description has no ICE password")
  else if !d.fingerprint then
    some (.invalidArgument "Remote description has no valid fingerprint")
  else if d.media.isEmpty then some (.invalidArgument "Remote description has no media line")
  else if !d.media.any (·.isActive) then
    some (.invalidArgument "Remote description has no active media")
  else none

/-- The media line of a local description that answers one of the remote description. The local
application is preferred if there are data channels. -/
def reciprocate (s : Signaling) : Description.Entry → Description.Entry
  | .application removed => .application (if s.dataChannels then false else removed)
  | .media removed inactive => .media removed inactive

/-- The media lines of a local description: those of the remote description, and in an offer an
application line if there are data channels. -/
def localMedia (s : Signaling) (type : Description.Kind) : List Description.Entry :=
  let reciprocated := ((s.mRemoteDescription.map (·.media)).getD []).map s.reciprocate
  if type = .offer && !reciprocated.contains (.application false) && s.dataChannels then
    reciprocated ++ [.application false]
  else reciprocated

/-- `processLocalDescription`. -/
def processLocalDescription (s : Signaling) (d : Description) : Signaling × Option Exception :=
  let d := { d with media := s.localMedia d.type }
  if d.media.isEmpty then
    (s, some (if d.type = .offer then .runtimeError "No DataChannel or Track to negotiate"
      else .logicError "Local description has no media line"))
  else
    ({ s with
        mLocalDescription := some d
        -- the pending description becomes the one to roll back to
        mCurrentLocalDescription :=
          if s.mLocalDescription.isSome then s.mLocalDescription else s.mCurrentLocalDescription
        issued := s.issued ++ [d] },
      none)

/-- `negotiationNeeded`. -/
def negotiationNeeded (s : Signaling) : Bool :=
  s.dataChannels && !(s.mLocalDescription.any (·.hasApplication))

/-! ## `setLocalDescription` -/

/-- The signaling state `setLocalDescription` moves to, `none` when the call is ignored. -/
def nextLocalState (state : SignalingState) (type : Description.Kind) :
    Except Exception (Option SignalingState) :=
  match state with
  | .stable =>
    if type ≠ .offer then
      .error (.logicError ("Unexpected local desciption type " ++ type.typeToString ++
        " in signaling state " ++ state.toText))
    else .ok (some .haveLocalOffer)
  | .haveRemoteOffer =>
    if type ≠ .answer ∧ type ≠ .pranswer then
      .error (.logicError ("Unexpected local description type " ++ type.typeToString ++
        " description in signaling state " ++ state.toText))
    else .ok (some .stable)
  | .haveLocalPranswer =>
    if type ≠ .answer ∧ type ≠ .pranswer then
      .error (.logicError ("Unexpected local description type " ++ type.typeToString ++
        " description in signaling state " ++ state.toText))
    else .ok (some .stable)
  -- logged as a warning
  | .haveLocalOffer => .ok none
  | .haveRemotePranswer => .ok none

/-- The type of an unspecified local description. -/
def guessType (state : SignalingState) (type : Description.Kind) : Description.Kind :=
  if type = .unspec then (if state = .haveRemoteOffer then .answer else .offer) else type

/-- `setLocalDescription` up to the release of the lock, and the state it has moved to, if any. -/
def setLocalLocked (s : Signaling) (type : Description.Kind) :
    Signaling × Except Exception (Option SignalingState) :=
  if type = .rollback then
    if s.signalingState = .haveLocalOffer ∨ s.signalingState = .haveLocalPranswer then
      ({ s.rollbackLocalDescription with signalingState := .stable }, .ok none)
    else (s, .ok none)
  else
    let type := guessType s.signalingState type
    match nextLocalState s.signalingState type with
    | .error e => (s, .error e)
    | .ok none => (s, .ok none)
    | .ok (some newState) =>
      match s.processLocalDescription (s.getLocalDescription type) with
      | (s, some e) => (s, .error e)
      | (s, none) => ({ s with signalingState := newState }, .ok (some newState))

/-- The offer made by automatic negotiation, when it is needed. It does not lead back to `Stable`,
so that it makes no further offer. -/
def offerIfNeeded (s : Signaling) : Signaling × Option Exception :=
  if s.negotiationNeeded then
    match s.setLocalLocked .offer with
    | (s, .error e) => (s, some e)
    | (s, .ok _) => (s, none)
  else (s, none)

/-- `setLocalDescription`. -/
def setLocalDescription (s : Signaling) (type : Description.Kind) : Signaling × Option Exception :=
  match s.setLocalLocked type with
  | (s, .error e) => (s, some e)
  | (s, .ok (some .stable)) =>
    if s.disableAutoNegotiation then (s, none) else s.offerIfNeeded
  | (s, .ok _) => (s, none)

/-! ## `setRemoteDescription` -/

/-- The exception on an unexpected remote description. -/
def unexpectedRemote (state : SignalingState) (type : Description.Kind) : Exception :=
  .logicError ("Unexpected remote " ++ type.typeToString ++ " description in signaling state " ++
    state.toText)

/-- The switch of `setRemoteDescription`: the state, after an implicit rollback if any, the
description with its type, and the signaling state to move to. -/
def nextRemoteState (s : Signaling) (d : Description) :
    Except Exception (Signaling × Description × SignalingState) :=
  match s.signalingState with
  | .stable =>
    let d := d.hintType .offer
    if d.type ≠ .offer then .error (unexpectedRemote s.signalingState d.type)
    else .ok (s, d, .haveRemoteOffer)
  | .haveLocalOffer =>
    let d := d.hintType .answer
    if d.type = .offer then
      -- the peer had made an offer and receives one: implicit rollback
      .ok ({ s.rollbackLocalDescription with signalingState := .stable }, d, .haveRemoteOffer)
    else if d.type ≠ .answer ∧ d.type ≠ .pranswer then
      .error (unexpectedRemote s.signalingState d.type)
    else .ok (s, d, .stable)
  | .haveRemotePranswer =>
    let d := d.hintType .answer
    if d.type ≠ .answer ∧ d.type ≠ .pranswer then
      .error (unexpectedRemote s.signalingState d.type)
    else .ok (s, d, .stable)
  | .haveRemoteOffer =>
    .error (.logicError
      ("Unexpected remote description in signaling state " ++ s.signalingState.toText))
  | .haveLocalPranswer =>
    .error (.logicError
      ("Unexpected remote description in signaling state " ++ s.signalingState.toText))

/-- `initSctpTransport`. Whatever prevents the transport from starting ends in one exception. -/
def initSctpTransport (s : Signaling) : Signaling × Option Exception :=
  if s.mSctpTransport then (s, none)
  else if s.mDtlsTransport.isSome && s.mLocalDescription.any (·.application) &&
      s.mRemoteDescription.any (·.application) && s.usrsctp then
    ({ s with mSctpTransport := true }, none)
  else (s, some (.runtimeError "SCTP transport initialization failed"))

/-- The DTLS transport changes its state. An exception from its callback is logged and ignored. -/
def dtlsStateChanged (s : Signaling) (state : Transport.State) : Signaling :=
  let s := { s with mDtlsTransport := some state }
  if state = .connected && s.mRemoteDescription.any (·.hasApplication) then s.initSctpTransport.1
  else s

/-- `processRemoteDescription`. The SCTP transport was not started before if there was no
application. -/
def processRemoteDescription (s : Signaling) (d : Description) : Signaling × Option Exception :=
  let s := { s with mRemoteDescription := some d }
  if d.hasApplication && !s.mSctpTransport && s.mDtlsTransport = some .connected then
    s.initSctpTransport
  else (s, none)

/-- `setRemoteDescription` up to the release of the lock, and the state it has moved to, if any. -/
def setRemoteLocked (juice : Description → Bool) (s : Signaling) (d : Description) :
    Signaling × Except Exception (Option SignalingState) :=
  if d.type = .rollback then ({ s with signalingState := .stable }, .ok none)
  else
    match validateRemoteDescription d with
    | some e => (s, .error e)
    | none =>
      match s.nextRemoteState d with
      | .error e => (s, .error e)
      | .ok (s, d, newState) =>
        match iceSetRemoteDescription juice s d with
        | (s, some e) => (s, .error e)
        | (s, none) =>
          match s.processRemoteDescription d with
          | (s, some e) => (s, .error e)
          | (s, none) => ({ s with signalingState := newState }, .ok (some newState))

/-- `setRemoteDescription`. -/
def setRemoteDescription (juice : Description → Bool) (s : Signaling) (d : Description) :
    Signaling × Option Exception :=
  match s.setRemoteLocked juice d with
  | (s, .error e) => (s, some e)
  | (s, .ok newState) =>
    if s.disableAutoNegotiation then (s, none)
    else
      match newState with
      -- a new offer might be needed
      | some .stable => s.offerIfNeeded
      -- an answer is needed
      | some .haveRemoteOffer => s.setLocalDescription .answer
      | _ => (s, none)

end Signaling

end Rtc
