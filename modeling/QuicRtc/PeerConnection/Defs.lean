import Mathlib.Data.List.AList
import QuicRtc.DataChannel.Defs
import QuicRtc.Description
import QuicRtc.SctpTransport.Defs

/-!
# Data channels of a peer connection

The part of `impl/peerconnection.cpp` that owns the data channels: creation
(`emplaceDataChannel`), the table of stream ids (`mDataChannels`), the assignment of stream ids
(`assignDataChannels`), the sweep that opens the channels (`openDataChannels`) and the dispatch of
incoming messages (`forwardMessage`).

Channel objects live in `objects` and are named by their index. The tables hold weak pointers: an
object is locked only while it is live, that is, while someone else owns it. Functions return the
state together with the exception they ended with, if any, since what they did before it stays
done. Those that assign stream ids return `none` if they never end: stream ids have 16 bits, and the
search for an unused one then goes round and round.

`handed` logs what is handed to `SctpTransport::send` and `SctpTransport::closeStream`, with the
channel that made the call, `assigned` the channels in the order they got their stream, and
`removed` the channels unregistered by `removeDataChannel`.
-/

namespace Rtc

/-- `DataChannelInit`. -/
structure DataChannelInit where
  reliability : Reliability := {}
  negotiated : Bool := false
  id : Option ℕ := none
  protocol : List UInt8 := []
  deriving DecidableEq, Repr

/-- `MAX_SCTP_STREAMS_COUNT`. -/
def maxSctpStreamsCount : ℕ := 1024

/-- What a peer connection reads of its SCTP transport. -/
structure SctpStatus where
  state : Transport.State
  mNegotiatedStreamsCount : Option UInt16 := none
  deriving DecidableEq, Repr

/-- `SctpTransport::maxStream`. -/
def SctpStatus.maxStream (t : SctpStatus) : ℕ :=
  let streamsCount := (t.mNegotiatedStreamsCount.map (·.toNat)).getD maxSctpStreamsCount
  if streamsCount > 0 then streamsCount - 1 else 0

namespace PeerConnection

/-- A channel object. It is live while a shared pointer to it exists. -/
structure Object where
  channel : DataChannel
  live : Bool := true
  deriving DecidableEq, Repr

end PeerConnection

/-- The state of a `PeerConnection`, as far as its data channels are concerned. -/
structure PeerConnection where
  /-- The role of `mIceTransport`, when there is one. -/
  mIceTransport : Option Description.Role := none
  mSctpTransport : Option SctpStatus := none
  mDataChannels : AList (fun _ : ℕ => ℕ) := ∅
  mUnassignedDataChannels : List ℕ := []
  objects : List PeerConnection.Object := []
  assigned : List ℕ := []
  removed : List ℕ := []
  handed : List (Option ℕ × Message) := []

namespace PeerConnection

/-! ## Objects -/

/-- Lock the weak pointer to a channel. -/
def lock (pc : PeerConnection) (c : ℕ) : Option DataChannel :=
  (pc.objects[c]?).bind fun o => if o.live then some o.channel else none

/-- Replace the state of a channel object. -/
def setChannel (pc : PeerConnection) (c : ℕ) (channel : DataChannel) : PeerConnection :=
  { pc with objects := pc.objects.modify c fun o => { o with channel } }

/-- Create an object, whose name is returned. -/
def allocate (pc : PeerConnection) (channel : DataChannel) : PeerConnection × ℕ :=
  ({ pc with objects := pc.objects ++ [{ channel }] }, pc.objects.length)

/-- Call a member function of a channel object. -/
def call (pc : PeerConnection) (c : ℕ) (function : DataChannel → DataChannel.Outcome) :
    PeerConnection × Option Exception :=
  match pc.objects[c]? with
  | none => (pc, none)
  | some o =>
    let outcome := function o.channel
    ({ pc.setChannel c outcome.channel with
        handed := pc.handed ++ outcome.messages.map (some c, ·) },
      outcome.thrown)

/-- The last shared pointer to a channel goes away: its destructor closes it. -/
def destroy (pc : PeerConnection) (c : ℕ) : PeerConnection :=
  ({ pc with objects := pc.objects.modify c fun o => { o with live := false } }.call c
    DataChannel.close).1

/-! ## The stream table -/

/-- `mDataChannels.emplace`, which does nothing when the key exists. -/
def emplace (table : AList (fun _ : ℕ => ℕ)) (stream c : ℕ) : AList (fun _ : ℕ => ℕ) :=
  if stream ∈ table then table else table.insert stream c

/-- `findDataChannel`: the channel, unless its weak pointer has expired, and whether there is an
entry. -/
def findDataChannel (pc : PeerConnection) (stream : ℕ) : Option ℕ × Bool :=
  match pc.mDataChannels.lookup stream with
  | some c => (if (pc.lock c).isSome then some c else none, true)
  | none => (none, false)

/-- `mDataChannels` is a hash table: between two uses its entries may come into any other order. -/
def rehash (pc : PeerConnection) (table : AList (fun _ : ℕ => ℕ)) : Option PeerConnection :=
  if table.entries.Perm pc.mDataChannels.entries then some { pc with mDataChannels := table }
  else none

/-- `removeDataChannel`. -/
def removeDataChannel (pc : PeerConnection) (stream : ℕ) : PeerConnection :=
  { pc with
    mDataChannels := pc.mDataChannels.erase stream
    removed := pc.removed ++ (pc.mDataChannels.lookup stream).toList }

/-- `maxDataChannelStream`. -/
def maxDataChannelStream (pc : PeerConnection) : ℕ :=
  match pc.mSctpTransport with
  | some transport => transport.maxStream
  | none => maxSctpStreamsCount - 1

/-- How the search for an unused stream id ends, if it does. -/
inductive Search where
  | found (stream : ℕ)
  | tooMany
  | endless
  deriving DecidableEq, Repr

/-- The loop of `assignDataChannels` that looks for an unused stream id, every second one from
`stream` up to `maxStream`, in 16 bits. It is endless if it is not over after the given number of
rounds. -/
def unusedStream (table : AList (fun _ : ℕ => ℕ)) (maxStream : ℕ) : ℕ → ℕ → Search
  | 0, _ => .endless
  | rounds + 1, stream =>
    if stream > maxStream then .tooMany
    else if stream ∉ table then .found stream
    else unusedStream table maxStream rounds ((stream + 2) % 65536)

/-- The loop of `assignDataChannels` over the unassigned channels. Rounds enough to get past
`maxStream` or back to the first id are enough for the search. -/
def assignLoop (maxStream first : ℕ) :
    List ℕ → PeerConnection → Option (PeerConnection × Option Exception)
  | [], pc => some ({ pc with mUnassignedDataChannels := [] }, none)
  | c :: rest, pc =>
    match pc.lock c with
    | none => assignLoop maxStream first rest pc
    | some channel =>
      match unusedStream pc.mDataChannels maxStream (maxStream + 2) first with
      | .endless => none
      | .tooMany => some (pc, some (.runtimeError "Too many DataChannels"))
      | .found stream =>
        match channel.assignStream stream with
        | .error e => some (pc, some e)
        | .ok channel' =>
          assignLoop maxStream first rest
            { pc.setChannel c channel' with
              mDataChannels := emplace pc.mDataChannels stream c
              assigned := pc.assigned ++ [c] }

/-- The parity of the stream ids a peer assigns: even for the DTLS client, odd for the server. -/
def parity (role : Description.Role) : ℕ := if role = .active then 0 else 1

/-- `assignDataChannels`. -/
def assignDataChannels (pc : PeerConnection) : Option (PeerConnection × Option Exception) :=
  match pc.mIceTransport with
  | none => some (pc, some (.logicError "Attempted to assign DataChannels without ICE transport"))
  | some role =>
    assignLoop pc.maxDataChannelStream (parity role) pc.mUnassignedDataChannels pc

/-! ## Creation and opening -/

/-- `emplaceDataChannel` under the lock: create the channel and register it. -/
def registerDataChannel (pc : PeerConnection) (label : List UInt8) (init : DataChannelInit) :
    PeerConnection × Except Exception ℕ :=
  match DataChannel.make (if init.negotiated then .negotiated else .outgoing) label init.protocol
      init.reliability with
  | .error e => (pc, .error e)
  | .ok channel =>
    match init.id with
    | none =>
      let (pc', c) := pc.allocate channel
      ({ pc' with mUnassignedDataChannels := pc.mUnassignedDataChannels ++ [c] }, .ok c)
    | some stream =>
      if stream > pc.maxDataChannelStream then
        (pc, .error (.invalidArgument "DataChannel stream id is too high"))
      else
        match channel.assignStream stream with
        | .error e => (pc, .error e)
        | .ok channel' =>
          let (pc', c) := pc.allocate channel'
          ({ pc' with
              mDataChannels := emplace pc.mDataChannels stream c
              assigned := pc.assigned ++ [c] },
            .ok c)

/-- The test of `emplaceDataChannel` and `openDataChannels` on the transport. -/
def sctpConnected (pc : PeerConnection) : Bool :=
  pc.mSctpTransport.map (·.state) = some .connected

/-- `emplaceDataChannel`. The channel is destroyed if the call ends with an exception. -/
def emplaceDataChannel (pc : PeerConnection) (label : List UInt8) (init : DataChannelInit) :
    Option (PeerConnection × Except Exception ℕ) :=
  match pc.registerDataChannel label init with
  | (pc, .error e) => some (pc, .error e)
  | (pc, .ok c) =>
    if pc.sctpConnected then
      match pc.assignDataChannels with
      | none => none
      | some (pc, some e) => some (pc.destroy c, .error e)
      | some (pc, none) =>
        match pc.call c DataChannel.openOn with
        | (pc, some e) => some (pc.destroy c, .error e)
        | (pc, none) => some (pc, .ok c)
    else some (pc, .ok c)

/-- The channels that `iterateDataChannels` locks, in the order of the table. -/
def lockedChannels (pc : PeerConnection) : List ℕ :=
  (pc.mDataChannels.entries.map (·.2)).filter fun c => (pc.lock c).any (!·.isClosed)

/-- `iterateDataChannels`, without a pause. Exceptions are logged and ignored. -/
def iterateDataChannels (pc : PeerConnection)
    (function : DataChannel → DataChannel.Outcome) : PeerConnection :=
  pc.lockedChannels.foldl (fun pc c => (pc.call c function).1) pc

/-- The body of the sweep: open a channel that is not open yet. -/
def openUnlessOpen (channel : DataChannel) : DataChannel.Outcome :=
  if channel.isOpen then { channel } else channel.openOn

/-- `openDataChannels`. -/
def openDataChannels (pc : PeerConnection) : PeerConnection :=
  if pc.mSctpTransport.isSome then pc.iterateDataChannels openUnlessOpen else pc

/-- `remoteCloseDataChannels`. -/
def remoteCloseDataChannels (pc : PeerConnection) : PeerConnection :=
  pc.iterateDataChannels DataChannel.close

/-! ## Incoming messages -/

/-- `SctpTransport::closeStream`, called by the peer connection itself. -/
def closeStream (pc : PeerConnection) (stream : ℕ) : PeerConnection × Option Exception :=
  match toUint16 stream with
  | .error e => (pc, some e)
  | .ok streamId =>
    ({ pc with handed := pc.handed ++ [(none, DataChannel.resetMessage streamId)] }, none)

/-- The part of `forwardMessage` that creates a channel for an OPEN message on an unused stream.
Nobody owns the channel yet, so it is destroyed if the message is invalid. -/
def acceptDataChannel (pc : PeerConnection) (stream : ℕ) (message : Message) :
    PeerConnection × Option Exception :=
  let (pc', c) := pc.allocate { DataChannel.makeIncoming with mStream := some stream }
  let pc'' :=
    { pc' with
      mDataChannels := emplace pc.mDataChannels stream c
      assigned := pc.assigned ++ [c] }
  match pc''.call c (·.incoming message) with
  | (pc, some e) => (pc.destroy c, some e)
  | (pc, none) => (pc, none)

/-- `forwardMessage` on an OPEN message. -/
def forwardOpenMessage (pc : PeerConnection) (role : Description.Role) (message : Message) :
    PeerConnection × Option Exception :=
  let stream := message.stream % 65536
  match pc.findDataChannel stream with
  -- the stream is already used, the receiver must close the channel
  | (some c, true) =>
    if (pc.lock c).any (!·.isClosed) then pc.call c DataChannel.close
    else pc.closeStream message.stream
  | (none, true) => pc.closeStream message.stream
  | (_, false) =>
    let remoteParity := if role = .active then 1 else 0
    -- the odd/even rule is violated, the receiver must close the channel
    if stream % 2 ≠ remoteParity then pc.closeStream message.stream
    else pc.acceptDataChannel stream message

/-- `forwardMessage` on a message that is not an OPEN message. -/
def forwardOtherMessage (pc : PeerConnection) (message : Message) :
    PeerConnection × Option Exception :=
  let stream := message.stream % 65536
  match pc.findDataChannel stream with
  | (_, false) => if message.type = .reset then (pc, none) else pc.closeStream message.stream
  | (channel, true) =>
    let pc := if message.type = .reset then pc.removeDataChannel stream else pc
    match channel with
    | some c => pc.call c (·.incoming message)
    | none => (pc, none)

/-- `forwardMessage`. A null message closes every channel. -/
def forwardMessage (pc : PeerConnection) (message : Option Message) :
    PeerConnection × Option Exception :=
  match message with
  | none => (pc.remoteCloseDataChannels, none)
  | some message =>
    match pc.mIceTransport, pc.mSctpTransport with
    | some role, some _ =>
      if isOpenMessage message then pc.forwardOpenMessage role message
      else pc.forwardOtherMessage message
    | _, _ => (pc, none)

end PeerConnection

end Rtc
