import Mathlib.Data.List.Basic
import QuicRtc.Description
import QuicRtc.Message

/-!
# Local descriptions

`PeerConnection::processLocalDescription` answers every section of the remote description and, for
an offer, adds sections for the local tracks and the data channels (`impl/peerconnection.cpp`). The
sections and the operations on them are those of `description.cpp`; of a section only the mid, the
removed flag, the direction and the SCTP parameters are kept.

Tracks are numbered in the order of their creation, and `mTracks` and `mTrackLines` hold these
numbers for weak pointers: `State.lock` returns the track while it exists.

While the call runs, other threads and the user's track callback may use the tracks and the
data-channel tables, which are locked for one section at a time. An `Environment` says what they do
in between.
-/

namespace Rtc.LocalDescription

/-! ## Sections -/

/-- `Description::Direction`. -/
inductive Direction where
  | unknown
  | sendOnly
  | recvOnly
  | sendRecv
  | inactive
  deriving DecidableEq, Repr

/-- `Description::Media`. -/
structure Media where
  mid : String
  isRemoved : Bool := false
  direction : Direction := .sendRecv
  deriving DecidableEq, Repr

/-- `Description::Application`. -/
structure Application where
  mid : String
  isRemoved : Bool := false
  mSctpPort : Option ℕ := none
  mMaxMessageSize : Option ℕ := none
  deriving DecidableEq, Repr

/-- `Entry::markRemoved`. -/
def Media.markRemoved (media : Media) : Media := { media with isRemoved := true }

/-- `Media::reciprocate`. -/
def Media.reciprocate (media : Media) : Media :=
  { media with
    direction := match media.direction with
      | .recvOnly => .sendOnly
      | .sendOnly => .recvOnly
      | direction => direction }

/-- `Application::reciprocate`. -/
def Application.reciprocate (app : Application) : Application :=
  { app with mMaxMessageSize := none }

/-- `Application::hintSctpPort`. -/
def Application.hintSctpPort (app : Application) (port : ℕ) : Application :=
  { app with mSctpPort := some (app.mSctpPort.getD port) }

/-- A section of a description. -/
inductive Entry where
  | media (media : Media)
  | application (app : Application)
  deriving DecidableEq, Repr

/-- `Entry::mid`. -/
def Entry.mid : Entry → String
  | .media m => m.mid
  | .application app => app.mid

/-- The section is the application section `mApplication` points to. -/
def Entry.isApplication : Entry → Bool
  | .media _ => false
  | .application _ => true

/-- The section is an application section that is not removed. -/
def Entry.isActiveApplication : Entry → Bool
  | .media _ => false
  | .application app => !app.isRemoved

/-- The mids of the sections, in order. -/
def mids (mEntries : List Entry) : List String := mEntries.map Entry.mid

/-- `Description::hasMid`. -/
def hasMid (mEntries : List Entry) (mid : String) : Bool := mEntries.any (·.mid == mid)

/-- `Description::hasApplication`. -/
def hasApplication (mEntries : List Entry) : Bool := mEntries.any Entry.isActiveApplication

/-- `Description::removeApplication`. -/
def removeApplication (mEntries : List Entry) : List Entry := mEntries.eraseP Entry.isApplication

/-- `Description::addMedia` of a media section. -/
def addMedia (mEntries : List Entry) (media : Media) : List Entry := mEntries ++ [.media media]

/-- `Description::addMedia` of an application section, which replaces the previous one. -/
def addApplication (mEntries : List Entry) (app : Application) : List Entry :=
  removeApplication mEntries ++ [.application app]

/-! ## Tracks -/

/-- A `Track`. `isAlive` says whether it still exists. -/
structure Track where
  description : Media
  isClosed : Bool := false
  isAlive : Bool := true
  deriving DecidableEq, Repr

/-- The tracks of a peer connection. -/
structure State where
  /-- `RTC_ENABLE_MEDIA`. -/
  enableMedia : Bool := true
  /-- `config.maxMessageSize`. -/
  maxMessageSize : Option ℕ := none
  tracks : List Track := []
  mTracks : List (String × ℕ) := []
  mTrackLines : List ℕ := []
  deriving DecidableEq, Repr

/-- What may happen to the tracks outside `processLocalDescription`. -/
inductive TrackCall where
  | emplaceTrack (description : Media)
  | setDescription (track : ℕ) (description : Media)
  | close (track : ℕ)
  | destroy (track : ℕ)
  deriving DecidableEq, Repr

namespace State

/-- Lock a weak pointer to a track. -/
def lock (s : State) (track : ℕ) : Option Track := s.tracks[track]?.filter (·.isAlive)

/-- `Track::setDescription`. It throws, and does nothing, when the mid is not that of the track. -/
def setDescription (s : State) (track : ℕ) (description : Media) : State :=
  { s with
    tracks := s.tracks.modify track fun t =>
      if description.mid = t.description.mid then { t with description } else t }

/-- `Track::close`. -/
def close (s : State) (track : ℕ) : State :=
  { s with tracks := s.tracks.modify track fun t => { t with isClosed := true } }

/-- The last pointer to the track is gone. -/
def destroy (s : State) (track : ℕ) : State :=
  { s with tracks := s.tracks.modify track fun t => { t with isClosed := true, isAlive := false } }

/-- `if (track->description().isRemoved()) track->close();`. -/
def closeRemoved (s : State) (track : ℕ) : State :=
  if s.tracks[track]?.any (·.description.isRemoved) then s.close track else s

/-- Create a track and register it. `mTracks.emplace` keeps an older entry of the same mid. -/
def makeTrack (s : State) (description : Media) : State :=
  { s with
    tracks := s.tracks ++ [{ description }]
    mTracks :=
      -- the entry of a track that is closed or gone stays
      if (s.mTracks.lookup description.mid).isSome then s.mTracks
      else (description.mid, s.tracks.length) :: s.mTracks
    mTrackLines := s.mTrackLines ++ [s.tracks.length] }

/-- The registered track of a mid, if it exists and is not closed. -/
def openTrack (s : State) (mid : String) : Option ℕ :=
  (s.mTracks.lookup mid).filter fun track => (s.lock track).any fun t => !t.isClosed

/-- `PeerConnection::emplaceTrack`. -/
def emplaceTrack (s : State) (description : Media) : State :=
  -- without media support every track is rejected
  let description := if s.enableMedia then description else description.markRemoved
  match s.openTrack description.mid with
  -- an open track of the same mid is reused
  | some track => (s.setDescription track description).closeRemoved track
  | none => (s.makeTrack description).closeRemoved s.tracks.length

/-- One call. -/
def call (s : State) : TrackCall → State
  | .emplaceTrack description => s.emplaceTrack description
  | .setDescription track description => s.setDescription track description
  | .close track => s.close track
  | .destroy track => s.destroy track

/-- Calls in order. -/
def calls (s : State) (cs : List TrackCall) : State := cs.foldl call s

end State

/-! ## The local description -/

/-- The data-channel tables. -/
structure DataChannels where
  /-- The streams of the channels that have one. -/
  mDataChannels : List ℕ := []
  /-- The number of channels without one. -/
  mUnassignedDataChannels : ℕ := 0
  deriving DecidableEq, Repr

/-- `!mDataChannels.empty() || !mUnassignedDataChannels.empty()`. -/
def DataChannels.isUsed (tables : DataChannels) : Bool :=
  !tables.mDataChannels.isEmpty || tables.mUnassignedDataChannels != 0

/-- What happens while `processLocalDescription` runs on a remote description of `n` sections. -/
structure Environment where
  /-- The data-channel tables when section `i` is answered, and for `i = n` when the application
  section of an offer is added. -/
  tables : ℕ → DataChannels
  /-- What other threads do to the tracks before section `i` is answered, and for `i = n` before the
  local tracks are added. -/
  between : ℕ → List TrackCall := fun _ => []
  /-- What the track callback does when it gets the track of section `i`. -/
  callback : ℕ → List TrackCall := fun _ => []

/-- `DEFAULT_SCTP_PORT`. -/
def defaultSctpPort : ℕ := 5000

/-- `DEFAULT_LOCAL_MAX_MESSAGE_SIZE`. -/
def defaultLocalMaxMessageSize : ℕ := 256 * 1024

namespace State

/-- The application section of the local side. -/
def localApplication (s : State) (mid : String) : Application where
  mid := mid
  mSctpPort := some defaultSctpPort
  mMaxMessageSize := some (s.maxMessageSize.getD defaultLocalMaxMessageSize)

/-- The answer to an application section. -/
def answerApplication (s : State) (tables : DataChannels) (remoteApp : Application) : Application :=
  -- prefer the local description, which is not removed
  if tables.isUsed then s.localApplication remoteApp.mid
  else
    { remoteApp.reciprocate.hintSctpPort defaultSctpPort with
      mMaxMessageSize := some (s.maxMessageSize.getD defaultLocalMaxMessageSize) }

/-- The answer to a media section without a registered track: a track is created and passed to the
callback, which may modify its description. -/
def incomingTrack (s : State) (callback : List TrackCall) (remoteMedia : Media) : State :=
  let reciprocated := remoteMedia.reciprocate
  let reciprocated := if s.enableMedia then reciprocated else reciprocated.markRemoved
  ((s.makeTrack reciprocated).calls callback).closeRemoved s.tracks.length

/-- The answer to one section of the remote description, added to the local one. -/
def answer (s : State) (env : Environment) (i : ℕ) (mEntries : List Entry) :
    Entry → State × List Entry
  | .application remoteApp =>
    (s, addApplication mEntries (s.answerApplication (env.tables i) remoteApp))
  | .media remoteMedia =>
    match s.mTracks.lookup remoteMedia.mid with
    | some track =>
      match s.lock track with
      | some t => (s, addMedia mEntries t.description)
      -- the track is destroyed
      | none => (s, addMedia mEntries remoteMedia.reciprocate.markRemoved)
    | none =>
      -- the description of the new track is read after the callback
      let s' := s.incomingTrack (env.callback i) remoteMedia
      (s', addMedia mEntries ((s'.tracks[s.tracks.length]?.map (·.description)).getD
        remoteMedia.reciprocate))

/-- Reciprocate the remote description from section `i` on. -/
def reciprocate (env : Environment) : ℕ → State → List Entry → List Entry → State × List Entry
  | _, s, mEntries, [] => (s, mEntries)
  | i, s, mEntries, remote :: rest =>
    let (s', mEntries') := (s.calls (env.between i)).answer env i mEntries remote
    reciprocate env (i + 1) s' mEntries' rest

/-- Add a section for a local track whose mid is not in the description. -/
def addTrack (s : State) (mEntries : List Entry) (track : ℕ) : List Entry :=
  match s.lock track with
  | some t =>
    if hasMid mEntries t.description.mid then mEntries else addMedia mEntries t.description
  | none => mEntries

/-- `while (description.hasMid(std::to_string(m))) ++m;`, with the number of sections as a bound on
the number of rounds. -/
def freeMid (mEntries : List Entry) : ℕ → ℕ → ℕ
  | 0, m => m
  | rounds + 1, m => if hasMid mEntries (toString m) then freeMid mEntries rounds (m + 1) else m

/-- Add an application section for the data channels. -/
def addDataChannels (s : State) (tables : DataChannels) (mEntries : List Entry) : List Entry :=
  if hasApplication mEntries then mEntries
  else if tables.isUsed then
    addApplication mEntries (s.localApplication (toString (freeMid mEntries mEntries.length 0)))
  else mEntries

/-- `PeerConnection::processLocalDescription`: the tracks after it, and the sections of the
description or the exception. The fingerprint and the SSRC cache are left out. -/
def processLocalDescription (s : State) (env : Environment) (type : Description.Kind)
    (remote : Option (List Entry)) : State × Except Exception (List Entry) :=
  let sections := remote.getD []
  let (s', mEntries) := reciprocate env 0 s [] sections
  if type = .offer then
    -- only an offer adds local tracks and data channels
    let s'' := s'.calls (env.between sections.length)
    let mEntries := s''.addDataChannels (env.tables sections.length)
      (s''.mTrackLines.foldl s''.addTrack mEntries)
    (s'', if mEntries.isEmpty then .error (.runtimeError "No DataChannel or Track to negotiate")
      else .ok mEntries)
  else
    (s', if mEntries.isEmpty then .error (.logicError "Local description has no media line")
      else .ok mEntries)

/-- The calls on the tracks and the negotiations. -/
inductive Event where
  | track (call : TrackCall)
  | negotiate (env : Environment) (type : Description.Kind) (remote : Option (List Entry))

/-- One event. -/
def step (s : State) : Event → Option State
  | .track c => some (s.call c)
  | .negotiate env type remote => some (s.processLocalDescription env type remote).1

end State

end Rtc.LocalDescription
