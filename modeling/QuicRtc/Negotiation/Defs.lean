import QuicRtc.LocalDescription.MLines
import QuicRtc.Signaling.Roles

/-!
# Negotiating the sections

`setLocalDescription` and `setRemoteDescription` of `peerconnection.cpp` with the sections of the
descriptions and the tracks behind them: `processLocalDescription` builds the sections from the
tracks and the remote description, and `negotiationNeeded` compares them with the tracks.

The switches on the signaling state are those of `Signaling`. What else can make
`setRemoteDescription` throw is left out, since it does not depend on the sections: the check of the
attributes that every description of a peer connection has (ICE credentials and fingerprint), that
of the DTLS role, which `Signaling.Roles` is about, the verdict of libjuice, which is taken to
accept what it is given, and the start of the SCTP transport, which is taken to succeed. Candidates
are left out too, and the peer connection is not closed meanwhile.

A `Session` is two peer connections with automatic negotiation that exchange their descriptions over
two FIFO links. Each has a data channel all the time. Crossing offers are resolved as in perfect
negotiation.
-/

namespace Rtc.Negotiation

open LocalDescription (Entry Media Environment DataChannels TrackCall mids hasMid hasApplication)

/-! ## A peer connection -/

/-- A description, of which the type and the sections are kept. -/
structure Sdp where
  type : Description.Kind
  mEntries : List Entry
  deriving DecidableEq, Repr

/-- `hintType`. -/
def Sdp.hintType (d : Sdp) (type : Description.Kind) : Sdp :=
  if d.type = .unspec then { d with type } else d

/-- A peer connection. `issued` are the descriptions passed to the local description callback. -/
structure Peer where
  signalingState : SignalingState := .stable
  tracks : LocalDescription.State := {}
  mLocalDescription : Option (List Entry) := none
  mCurrentLocalDescription : Option (List Entry) := none
  mRemoteDescription : Option (List Entry) := none
  disableAutoNegotiation : Bool := false
  issued : List Sdp := []
  deriving DecidableEq, Repr

/-- What happens while a call runs: during the description that it is about, when
`negotiationNeeded` looks at the data-channel tables, and during the offer that follows. There is a
data channel all the time. -/
structure Surroundings where
  processing : Environment
  tables : DataChannels
  offering : Environment
  processing_isUsed : ∀ i, (processing.tables i).isUsed = true
  isUsed : tables.isUsed = true
  offering_isUsed : ∀ i, (offering.tables i).isUsed = true

namespace Peer

/-- `rollbackLocalDescription`. -/
def rollbackLocalDescription (p : Peer) : Peer :=
  match p.mCurrentLocalDescription with
  | some current => { p with mLocalDescription := some current, mCurrentLocalDescription := none }
  | none => p

/-- `processLocalDescription`. -/
def processLocalDescription (p : Peer) (env : Environment) (type : Description.Kind) :
    Peer × Option Exception :=
  match p.tracks.processLocalDescription env type p.mRemoteDescription with
  | (tracks, .error e) => ({ p with tracks }, some e)
  | (tracks, .ok mEntries) =>
    ({ p with
        tracks
        mLocalDescription := some mEntries
        -- the pending description becomes the one to roll back to
        mCurrentLocalDescription :=
          if p.mLocalDescription.isSome then p.mLocalDescription else p.mCurrentLocalDescription
        issued := p.issued ++ [⟨type, mEntries⟩] },
      none)

/-- The user calls a function on the tracks. -/
def call (p : Peer) (c : TrackCall) : Peer := { p with tracks := p.tracks.call c }

/-- `negotiationNeeded`: for the data channels, to add a track, or to remove one. -/
def negotiationNeeded (p : Peer) (tables : DataChannels) : Bool :=
  (tables.isUsed && !p.mLocalDescription.any hasApplication) ||
    (p.tracks.mTracks.any fun entry => (p.tracks.lock entry.2).any fun track =>
      !p.mLocalDescription.any (hasMid · track.description.mid)) ||
    p.mLocalDescription.any fun mEntries => mEntries.any fun
      | .media media =>
        !media.isRemoved && (p.tracks.mTracks.lookup media.mid).any fun track =>
          (p.tracks.lock track).all (·.isClosed)
      | .application _ => false

/-- `setLocalDescription` up to the release of the lock, and the state it has moved to, if any. -/
def setLocalLocked (p : Peer) (env : Environment) (type : Description.Kind) :
    Peer × Except Exception (Option SignalingState) :=
  if type = .rollback then
    if p.signalingState = .haveLocalOffer ∨ p.signalingState = .haveLocalPranswer then
      ({ p.rollbackLocalDescription with signalingState := .stable }, .ok none)
    else (p, .ok none)
  else
    let type := Signaling.guessType p.signalingState type
    match Signaling.nextLocalState p.signalingState type with
    | .error e => (p, .error e)
    | .ok none => (p, .ok none)
    | .ok (some newState) =>
      match p.processLocalDescription env type with
      | (p, some e) => (p, .error e)
      | (p, none) => ({ p with signalingState := newState }, .ok (some newState))

/-- The offer made by automatic negotiation, when it is needed. It does not lead back to `Stable`,
so that it makes no further offer. -/
def offerIfNeeded (p : Peer) (around : Surroundings) : Peer × Option Exception :=
  if p.negotiationNeeded around.tables then
    match p.setLocalLocked around.offering .offer with
    | (p, .error e) => (p, some e)
    | (p, .ok _) => (p, none)
  else (p, none)

/-- `setLocalDescription`. -/
def setLocalDescription (p : Peer) (around : Surroundings) (type : Description.Kind) :
    Peer × Option Exception :=
  match p.setLocalLocked around.processing type with
  | (p, .error e) => (p, some e)
  | (p, .ok (some .stable)) =>
    if p.disableAutoNegotiation then (p, none) else p.offerIfNeeded around
  | (p, .ok _) => (p, none)

end Peer

/-- Whether `validateRemoteDescription` counts a section as active. -/
def isActive : Entry → Bool
  | .application app => !app.isRemoved
  | .media media => !media.isRemoved || media.direction != .inactive

/-- `validateRemoteDescription`: the exception, if it throws. -/
def validateRemoteDescription (d : Sdp) : Option Exception :=
  if d.mEntries.isEmpty then some (.invalidArgument "Remote description has no media line")
  else if !d.mEntries.any isActive then
    some (.invalidArgument "Remote description has no active media")
  else none

namespace Peer

/-- The switch of `setRemoteDescription`: the state, after an implicit rollback if any, the
description with its type, and the signaling state to move to. -/
def nextRemoteState (p : Peer) (d : Sdp) : Except Exception (Peer × Sdp × SignalingState) :=
  match p.signalingState with
  | .stable =>
    let d := d.hintType .offer
    if d.type ≠ .offer then .error (Signaling.unexpectedRemote p.signalingState d.type)
    else .ok (p, d, .haveRemoteOffer)
  | .haveLocalOffer =>
    let d := d.hintType .answer
    if d.type = .offer then
      -- the peer had made an offer and receives one: implicit rollback
      .ok ({ p.rollbackLocalDescription with signalingState := .stable }, d, .haveRemoteOffer)
    else if d.type ≠ .answer ∧ d.type ≠ .pranswer then
      .error (Signaling.unexpectedRemote p.signalingState d.type)
    else .ok (p, d, .stable)
  | .haveRemotePranswer =>
    let d := d.hintType .answer
    if d.type ≠ .answer ∧ d.type ≠ .pranswer then
      .error (Signaling.unexpectedRemote p.signalingState d.type)
    else .ok (p, d, .stable)
  | .haveRemoteOffer =>
    .error (.logicError
      ("Unexpected remote description in signaling state " ++ p.signalingState.toText))
  | .haveLocalPranswer =>
    .error (.logicError
      ("Unexpected remote description in signaling state " ++ p.signalingState.toText))

/-- `setRemoteDescription` up to the release of the lock, and the state it has moved to, if any. -/
def setRemoteLocked (p : Peer) (d : Sdp) : Peer × Except Exception (Option SignalingState) :=
  if d.type = .rollback then ({ p with signalingState := .stable }, .ok none)
  else
    match validateRemoteDescription d with
    | some e => (p, .error e)
    | none =>
      match p.nextRemoteState d with
      | .error e => (p, .error e)
      | .ok (p, d, newState) =>
        ({ p with mRemoteDescription := some d.mEntries, signalingState := newState },
          .ok (some newState))

/-- `setRemoteDescription`. -/
def setRemoteDescription (p : Peer) (around : Surroundings) (d : Sdp) : Peer × Option Exception :=
  match p.setRemoteLocked d with
  | (p, .error e) => (p, some e)
  | (p, .ok newState) =>
    if p.disableAutoNegotiation then (p, none)
    else
      match newState with
      -- a new offer might be needed
      | some .stable => p.offerIfNeeded around
      -- an answer is needed
      | some .haveRemoteOffer => p.setLocalDescription around .answer
      | _ => (p, none)

end Peer

/-! ## Two peer connections -/

/-- The two ends of a session. The polite one gives way when offers cross. -/
inductive End where
  | polite
  | impolite
  deriving DecidableEq, Repr

/-- The end across. -/
def End.other : End → End
  | polite => impolite
  | impolite => polite

/-- Two peers, the descriptions on their way to them, and the exceptions that were thrown. -/
structure Session where
  polite : Peer := {}
  impolite : Peer := {}
  toPolite : List Sdp := []
  toImpolite : List Sdp := []
  thrown : List Exception := []
  deriving DecidableEq, Repr

/-- Two new peer connections, each with its media support and its `config.maxMessageSize`. -/
def Session.start (polite impolite : Bool × Option ℕ) : Session :=
  { polite := { tracks := { enableMedia := polite.1, maxMessageSize := polite.2 } }
    impolite := { tracks := { enableMedia := impolite.1, maxMessageSize := impolite.2 } } }

/-- What can happen in a session: a call on the tracks of an end, `setLocalDescription` of an offer,
and a description that reaches an end. -/
inductive Event where
  | track (e : End) (call : TrackCall)
  | offer (e : End) (around : Surroundings)
  | deliver (e : End) (around : Surroundings)

namespace Session

/-- The peer at an end. -/
def peer (s : Session) : End → Peer
  | .polite => s.polite
  | .impolite => s.impolite

/-- The descriptions on their way to an end. -/
def link (s : Session) : End → List Sdp
  | .polite => s.toPolite
  | .impolite => s.toImpolite

/-- A peer returns from a call, with `rest` on its way to it. What it has issued is sent. -/
def finish (s : Session) (rest : List Sdp) (r : Peer × Option Exception) : End → Session
  | .polite =>
    { polite := r.1
      impolite := s.impolite
      toPolite := rest
      toImpolite := s.toImpolite ++ r.1.issued.drop s.polite.issued.length
      thrown := s.thrown ++ r.2.toList }
  | .impolite =>
    { polite := s.polite
      impolite := r.1
      toPolite := s.toPolite ++ r.1.issued.drop s.impolite.issued.length
      toImpolite := rest
      thrown := s.thrown ++ r.2.toList }

/-- An end drops a description. -/
def drops (s : Session) (e : End) (d : Sdp) : Bool :=
  e = .impolite && d.type = .offer && (s.peer e).signalingState = .haveLocalOffer

/-- One event, where it is enabled. -/
def step (s : Session) : Event → Option Session
  | .track e call =>
    some (s.finish (s.link e) ((s.peer e).call call, none) e)
  | .offer e around =>
    some (s.finish (s.link e) ((s.peer e).setLocalDescription around .offer) e)
  | .deliver e around =>
    match s.link e with
    | [] => none
    | d :: rest =>
      -- an offer that crosses the own one is dropped
      if s.drops e d then some (s.finish rest (s.peer e, none) e)
      else some (s.finish rest ((s.peer e).setRemoteDescription around d) e)

end Session

end Rtc.Negotiation
