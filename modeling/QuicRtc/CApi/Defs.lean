import Mathlib.Logic.Function.Basic
import QuicRtc.Lib.Transition
import QuicRtc.Message

/-!
# The handles of the C API

The tables of `capi.cpp` and the functions that change them: those that create and delete peer
connections, data channels, tracks, WebSockets and WebSocket servers, `rtcSetUserPointer`, the
set-up calls of packetizers and sender report reporters, `rtcCleanup`, and the callbacks that hand
incoming objects to the user.

The objects are opaque: what the library returns or throws when one is made is an argument. A call
is one step; `close` and what it calls are left out, as they do not touch the tables. The callbacks
may come for any id, also when the object they belong to has been deleted.

`lastId` is a plain `int`. Incrementing it behind 2^31 - 1 is undefined in C++; here it wraps
around, as it does on the usual machines, so that negative ids follow. Whoever does not want to rely
on that reads the results for runs that make fewer than 2^31 objects.
-/

namespace Rtc

namespace CApi

/-! ## Tables -/

/-- A `std::unordered_map` by id. -/
abbrev Table (β : Type) := ℤ → Option β

namespace Table

variable {β : Type}

/-- `unordered_map::emplace`, which keeps what is there. -/
def emplace (t : Table β) (id : ℤ) (value : β) : Table β :=
  if (t id).isSome then t else Function.update t id (some value)

/-- `t[id] = value`. -/
def assign (t : Table β) (id : ℤ) (value : β) : Table β := Function.update t id (some value)

/-- `unordered_map::erase`. -/
def erase (t : Table β) (id : ℤ) : Table β := Function.update t id none

/-- `unordered_map::clear`. -/
def clear : Table β := fun _ => none

end Table

/-- The object maps. -/
inductive ObjectKind where
  | peerConnection
  | dataChannel
  | track
  | webSocket
  | webSocketServer
  deriving DecidableEq, Repr

/-- The global tables, for objects `α`, RTP configurations `γ` and sender report reporters `ρ`. A
user pointer is a number, with 0 for the null pointer. -/
structure Tables (α γ ρ : Type) where
  objects : ObjectKind → Table α := fun _ => Table.clear
  rtcpSrReporterMap : Table ρ := Table.clear
  rtpConfigMap : Table γ := Table.clear
  userPointerMap : Table ℕ := Table.clear
  lastId : ℤ := 0

/-- `RTC_ERR_SUCCESS`. -/
def success : ℤ := 0

namespace Tables

variable {α γ ρ : Type} (s : Tables α γ ρ)

def peerConnectionMap : Table α := s.objects .peerConnection

def dataChannelMap : Table α := s.objects .dataChannel

def trackMap : Table α := s.objects .track

def webSocketMap : Table α := s.objects .webSocket

def webSocketServerMap : Table α := s.objects .webSocketServer

/-- `getUserPointer`. -/
def getUserPointer (id : ℤ) : Option ℕ := s.userPointerMap id

/-- `setUserPointer`. -/
def setUserPointer (i : ℤ) (ptr : ℕ) : Tables α γ ρ :=
  { s with userPointerMap := s.userPointerMap.assign i ptr }

/-- Find an object, or throw. -/
def getObject (kind : ObjectKind) (what : String) (id : ℤ) : Except Exception α :=
  match s.objects kind id with
  | some object => .ok object
  | none => .error (.invalidArgument what)

def getPeerConnection (id : ℤ) : Except Exception α :=
  s.getObject .peerConnection "PeerConnection ID does not exist" id

def getDataChannel (id : ℤ) : Except Exception α :=
  s.getObject .dataChannel "DataChannel ID does not exist" id

def getTrack (id : ℤ) : Except Exception α := s.getObject .track "Track ID does not exist" id

def getWebSocket (id : ℤ) : Except Exception α :=
  s.getObject .webSocket "WebSocket ID does not exist" id

def getWebSocketServer (id : ℤ) : Except Exception α :=
  s.getObject .webSocketServer "WebSocketServer ID does not exist" id

/-- `getChannel`. -/
def getChannel (id : ℤ) : Except Exception α :=
  match s.dataChannelMap id, s.trackMap id, s.webSocketMap id with
  | some object, _, _ => .ok object
  | none, some object, _ => .ok object
  | none, none, some object => .ok object
  | none, none, none =>
    .error (.invalidArgument "DataChannel, Track, or WebSocket ID does not exist")

/-- `++lastId`. Behind the largest `int` C++ leaves the result open; it is the smallest one here. -/
def nextId : ℤ := if s.lastId = 2147483647 then -2147483648 else s.lastId + 1

/-- Put an object into its map under a new id. -/
def emplaceObject (kind : ObjectKind) (object : α) : Tables α γ ρ × ℤ :=
  ({ s with
      objects := Function.update s.objects kind ((s.objects kind).emplace s.nextId object)
      userPointerMap := s.userPointerMap.emplace s.nextId 0
      lastId := s.nextId },
    s.nextId)

def emplacePeerConnection (ptr : α) : Tables α γ ρ × ℤ := s.emplaceObject .peerConnection ptr

def emplaceDataChannel (ptr : α) : Tables α γ ρ × ℤ := s.emplaceObject .dataChannel ptr

def emplaceTrack (ptr : α) : Tables α γ ρ × ℤ := s.emplaceObject .track ptr

def emplaceWebSocket (ptr : α) : Tables α γ ρ × ℤ := s.emplaceObject .webSocket ptr

def emplaceWebSocketServer (ptr : α) : Tables α γ ρ × ℤ := s.emplaceObject .webSocketServer ptr

/-- Take an id out of an object map and out of the user pointers. -/
def dropObject (kind : ObjectKind) (id : ℤ) : Tables α γ ρ :=
  { s with
    objects := Function.update s.objects kind ((s.objects kind).erase id)
    userPointerMap := s.userPointerMap.erase id }

/-- Take an id out of the maps of the tracks. -/
def dropTrack (tr : ℤ) : Tables α γ ρ :=
  { s.dropObject .track tr with
    rtcpSrReporterMap := s.rtcpSrReporterMap.erase tr
    rtpConfigMap := s.rtpConfigMap.erase tr }

/-- Erase an object, or throw if it is not in its map. -/
def eraseObject (kind : ObjectKind) (what : String) (id : ℤ) : Except Exception (Tables α γ ρ) :=
  if (s.objects kind id).isSome then .ok (s.dropObject kind id)
  else .error (.invalidArgument what)

def erasePeerConnection (pc : ℤ) : Except Exception (Tables α γ ρ) :=
  s.eraseObject .peerConnection "Peer Connection ID does not exist" pc

def eraseDataChannel (dc : ℤ) : Except Exception (Tables α γ ρ) :=
  s.eraseObject .dataChannel "Data Channel ID does not exist" dc

/-- `eraseTrack`. -/
def eraseTrack (tr : ℤ) : Except Exception (Tables α γ ρ) :=
  if (s.trackMap tr).isSome then .ok (s.dropTrack tr)
  else .error (.invalidArgument "Track ID does not exist")

def eraseWebSocket (ws : ℤ) : Except Exception (Tables α γ ρ) :=
  s.eraseObject .webSocket "WebSocket ID does not exist" ws

def eraseWebSocketServer (wsserver : ℤ) : Except Exception (Tables α γ ρ) :=
  s.eraseObject .webSocketServer "WebSocketServer ID does not exist" wsserver

/-- `eraseChannel`. -/
def eraseChannel (id : ℤ) : Except Exception (Tables α γ ρ) :=
  if (s.dataChannelMap id).isSome then .ok (s.dropObject .dataChannel id)
  else if (s.trackMap id).isSome then .ok (s.dropTrack id)
  else if (s.webSocketMap id).isSome then .ok (s.dropObject .webSocket id)
  else .error (.invalidArgument "DataChannel, Track, or WebSocket ID does not exist")

/-- `eraseAll`, whose count is only logged. -/
def eraseAll : Tables α γ ρ := { lastId := s.lastId }

/-- `getRtpConfig`. -/
def getRtpConfig (id : ℤ) : Except Exception γ :=
  match s.rtpConfigMap id with
  | some config => .ok config
  | none => .error (.invalidArgument "RTP configuration ID does not exist")

/-- `emplaceRtpConfig`. -/
def emplaceRtpConfig (ptr : γ) (tr : ℤ) : Tables α γ ρ :=
  { s with rtpConfigMap := s.rtpConfigMap.emplace tr ptr }

/-- `emplaceRtcpSrReporter`. -/
def emplaceRtcpSrReporter (ptr : ρ) (tr : ℤ) : Tables α γ ρ :=
  { s with rtcpSrReporterMap := s.rtcpSrReporterMap.emplace tr ptr }

/-! ## Calls -/

/-- The new object `id` gets the user pointer of the object it comes from, if that has one. -/
def inheritUserPointer (parent id : ℤ) : Tables α γ ρ :=
  match s.getUserPointer parent with
  | some ptr => s.setUserPointer id ptr
  | none => s

/-- The rest of a call that makes an object of its own. -/
def create (kind : ObjectKind) (made : Except Exception α) :
    Except Exception (Tables α γ ρ × ℤ) := do
  return s.emplaceObject kind (← made)

/-- `rtcCreatePeerConnection`. -/
def rtcCreatePeerConnection (made : Except Exception α) : Except Exception (Tables α γ ρ × ℤ) :=
  s.create .peerConnection made

/-- `rtcCreateWebSocket` and `rtcCreateWebSocketEx`. -/
def rtcCreateWebSocket (made : Except Exception α) : Except Exception (Tables α γ ρ × ℤ) :=
  s.create .webSocket made

/-- `rtcCreateWebSocketServer`. -/
def rtcCreateWebSocketServer (made : Except Exception α) :
    Except Exception (Tables α γ ρ × ℤ) :=
  s.create .webSocketServer made

/-- The rest of a call that makes an object from a peer connection. -/
def createFrom (kind : ObjectKind) (pc : ℤ) (made : Except Exception α) :
    Except Exception (Tables α γ ρ × ℤ) := do
  let _ ← s.getPeerConnection pc
  let object ← made
  let (s', id) := s.emplaceObject kind object
  return (s'.inheritUserPointer pc id, id)

/-- `rtcCreateDataChannelEx`. -/
def rtcCreateDataChannelEx (pc : ℤ) (made : Except Exception α) :
    Except Exception (Tables α γ ρ × ℤ) :=
  s.createFrom .dataChannel pc made

/-- `rtcAddTrack` and `rtcAddTrackEx`. -/
def rtcAddTrack (pc : ℤ) (made : Except Exception α) : Except Exception (Tables α γ ρ × ℤ) :=
  s.createFrom .track pc made

/-- The callback of `rtcSetDataChannelCallback` for an incoming data channel. -/
def onDataChannel (pc : ℤ) (dataChannel : α) : Tables α γ ρ × ℤ :=
  let (s', dc) := s.emplaceDataChannel dataChannel
  (s'.inheritUserPointer pc dc, dc)

/-- The callback of `rtcSetTrackCallback` for an incoming track. -/
def onTrack (pc : ℤ) (track : α) : Tables α γ ρ × ℤ :=
  let (s', tr) := s.emplaceTrack track
  (s'.inheritUserPointer pc tr, tr)

/-- The callback of `rtcCreateWebSocketServer` for a client. It sets the pointer of the server. -/
def onClient (wsserver : ℤ) (webSocket : α) : Tables α γ ρ × ℤ :=
  let (s', ws) := s.emplaceWebSocket webSocket
  (s'.inheritUserPointer wsserver wsserver, ws)

/-- `rtcDeletePeerConnection`. -/
def rtcDeletePeerConnection (pc : ℤ) : Except Exception (Tables α γ ρ × ℤ) := do
  let _ ← s.getPeerConnection pc
  return (← s.erasePeerConnection pc, success)

/-- `rtcDeleteDataChannel`. -/
def rtcDeleteDataChannel (dc : ℤ) : Except Exception (Tables α γ ρ × ℤ) := do
  let _ ← s.getDataChannel dc
  return (← s.eraseDataChannel dc, success)

/-- `rtcDeleteTrack`. -/
def rtcDeleteTrack (tr : ℤ) : Except Exception (Tables α γ ρ × ℤ) := do
  let _ ← s.getTrack tr
  return (← s.eraseTrack tr, success)

/-- `rtcDeleteWebSocket`. -/
def rtcDeleteWebSocket (ws : ℤ) : Except Exception (Tables α γ ρ × ℤ) := do
  let _ ← s.getWebSocket ws
  return (← s.eraseWebSocket ws, success)

/-- `rtcDeleteWebSocketServer`. -/
def rtcDeleteWebSocketServer (wsserver : ℤ) : Except Exception (Tables α γ ρ × ℤ) := do
  let _ ← s.getWebSocketServer wsserver
  return (← s.eraseWebSocketServer wsserver, success)

/-- `rtcDelete`. -/
def rtcDelete (id : ℤ) : Except Exception (Tables α γ ρ × ℤ) := do
  let _ ← s.getChannel id
  return (← s.eraseChannel id, success)

/-- A packetizer set-up call that registers its configuration. -/
def setRegisteredPacketizer (tr : ℤ) (config : Except Exception γ) :
    Except Exception (Tables α γ ρ × ℤ) := do
  let _ ← s.getTrack tr
  let rtpConfig ← config
  return (s.emplaceRtpConfig rtpConfig tr, success)

/-- A packetizer set-up call that does not register its configuration. -/
def setUnregisteredPacketizer (tr : ℤ) (config : Except Exception γ) :
    Except Exception (Tables α γ ρ × ℤ) := do
  let _ ← s.getTrack tr
  let _ ← config
  return (s, success)

/-- `rtcSetH264Packetizer`. -/
def rtcSetH264Packetizer := s.setRegisteredPacketizer

/-- `rtcSetH265Packetizer`. -/
def rtcSetH265Packetizer := s.setUnregisteredPacketizer

/-- `rtcSetAV1Packetizer`. -/
def rtcSetAV1Packetizer := s.setUnregisteredPacketizer

/-- `rtcSetOpusPacketizer`. -/
def rtcSetOpusPacketizer := s.setRegisteredPacketizer

/-- `rtcSetAACPacketizer`. -/
def rtcSetAACPacketizer := s.setUnregisteredPacketizer

/-- `rtcChainRtcpSrReporter`, with the reporter it makes. -/
def rtcChainRtcpSrReporter (tr : ℤ) (reporter : ρ) : Except Exception (Tables α γ ρ × ℤ) := do
  let _ ← s.getTrack tr
  let _ ← s.getRtpConfig tr
  return (s.emplaceRtcpSrReporter reporter tr, success)

end Tables

/-- The packetizers. -/
inductive Packetizer where
  | h264
  | h265
  | av1
  | opus
  | aac
  deriving DecidableEq, Repr

/-- The calls that change the tables, and the callbacks. -/
inductive Op (α γ ρ : Type) where
  | setUserPointer (id : ℤ) (ptr : ℕ)
  | createPeerConnection (made : Except Exception α)
  | createDataChannel (pc : ℤ) (made : Except Exception α)
  | addTrack (pc : ℤ) (made : Except Exception α)
  | createWebSocket (made : Except Exception α)
  | createWebSocketServer (made : Except Exception α)
  | onDataChannel (pc : ℤ) (dataChannel : α)
  | onTrack (pc : ℤ) (track : α)
  | onClient (wsserver : ℤ) (webSocket : α)
  | deletePeerConnection (pc : ℤ)
  | deleteDataChannel (dc : ℤ)
  | deleteTrack (tr : ℤ)
  | deleteWebSocket (ws : ℤ)
  | deleteWebSocketServer (wsserver : ℤ)
  | delete (id : ℤ)
  | setPacketizer (packetizer : Packetizer) (tr : ℤ) (config : Except Exception γ)
  | chainRtcpSrReporter (tr : ℤ) (reporter : ρ)
  | cleanup

/-- The call for a packetizer. -/
def Packetizer.call {α γ ρ : Type} (s : Tables α γ ρ) :
    Packetizer → ℤ → Except Exception γ → Except Exception (Tables α γ ρ × ℤ)
  | .h264 => s.rtcSetH264Packetizer
  | .h265 => s.rtcSetH265Packetizer
  | .av1 => s.rtcSetAV1Packetizer
  | .opus => s.rtcSetOpusPacketizer
  | .aac => s.rtcSetAACPacketizer

/-- The tables after a call, and the value it returns; or the exception that `wrap` turns into an
error code. -/
def Op.execute {α γ ρ : Type} (s : Tables α γ ρ) :
    Op α γ ρ → Except Exception (Tables α γ ρ × ℤ)
  | .setUserPointer id ptr => .ok (s.setUserPointer id ptr, success)
  | .createPeerConnection made => s.rtcCreatePeerConnection made
  | .createDataChannel pc made => s.rtcCreateDataChannelEx pc made
  | .addTrack pc made => s.rtcAddTrack pc made
  | .createWebSocket made => s.rtcCreateWebSocket made
  | .createWebSocketServer made => s.rtcCreateWebSocketServer made
  | .onDataChannel pc dataChannel => .ok (s.onDataChannel pc dataChannel)
  | .onTrack pc track => .ok (s.onTrack pc track)
  | .onClient wsserver webSocket => .ok (s.onClient wsserver webSocket)
  | .deletePeerConnection pc => s.rtcDeletePeerConnection pc
  | .deleteDataChannel dc => s.rtcDeleteDataChannel dc
  | .deleteTrack tr => s.rtcDeleteTrack tr
  | .deleteWebSocket ws => s.rtcDeleteWebSocket ws
  | .deleteWebSocketServer wsserver => s.rtcDeleteWebSocketServer wsserver
  | .delete id => s.rtcDelete id
  | .setPacketizer packetizer tr config => packetizer.call s tr config
  | .chainRtcpSrReporter tr reporter => s.rtcChainRtcpSrReporter tr reporter
  | .cleanup => .ok (s.eraseAll, success)

end CApi

end Rtc
