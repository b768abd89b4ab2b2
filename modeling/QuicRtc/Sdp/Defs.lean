import QuicRtc.Description
import QuicRtc.Lib.OrderedMap
import QuicRtc.LocalDescription.Defs
import QuicRtc.Sdp.Candidate

/-!
# Session descriptions as texts

`Description` of `description.cpp` with its sections: how it is printed by `generateSdp`, how it is
parsed by its constructor, and the calls that build it.

The printers return the lines; `generateSdp` writes the end of line behind each. `mApplication` is
the application section among `mEntries`. `std::map` is an `OrderedMap`, except for `mCNameMap`,
whose order nothing reads.
-/

namespace Rtc

namespace Sdp

open Http (space lf cr colon)
open LocalDescription (Direction)

/-- `Description::Role`. -/
abbrev Role := Description.Role

/-- `Description::Type`. -/
abbrev Kind := Description.Kind

/-- `<<` of a direction. -/
def directionText : Direction → Text
  | .recvOnly => bytes "recvonly"
  | .sendOnly => bytes "sendonly"
  | .sendRecv => bytes "sendrecv"
  | .inactive => bytes "inactive"
  | .unknown => bytes "unknown"

/-- `<<` of a role. -/
def roleText : Role → Text
  | .active => bytes "active"
  | .passive => bytes "passive"
  | .actPass => bytes "actpass"

/-- The line of an attribute with a value. -/
def attributeLine (key value : Text) : Text := bytes "a=" ++ (key ++ colon :: value)

/-- The rest of a text behind the first occurrence of a pattern. -/
def behindText (pattern : Text) : Text → Option Text
  | [] => none
  | c :: s =>
    if matchPrefix (c :: s) pattern then some ((c :: s).drop pattern.length)
    else behindText pattern s

/-- Texts with a space between them. -/
def joinSpace : List Text → Text
  | [] => []
  | [text] => text
  | text :: texts => text ++ space :: joinSpace texts

/-! ## Extensions -/

/-- `Entry::ExtMap`. -/
structure ExtMap where
  id : CInt
  uri : Text
  attributes : Text := []
  direction : Direction := .unknown
  deriving DecidableEq, Repr

namespace ExtMap

/-- `parseId`. -/
def parseId (description : Text) : Except Exception CInt := toInt (before space description)

/-- The direction in a description. -/
def parseDirection (directionStr : Text) : Except Exception Direction :=
  if directionStr = bytes "sendonly" then .ok .sendOnly
  else if directionStr = bytes "recvonly" then .ok .recvOnly
  else if directionStr = bytes "sendrecv" then .ok .sendRecv
  else if directionStr = bytes "inactive" then .ok .inactive
  else .error (.invalidArgument "Invalid direction for extmap")

/-- `setDescription`: the identifier and the direction. -/
def setId (map : ExtMap) (idAndDirection : Text) : Except Exception ExtMap :=
  match Reader.upTo slash idAndDirection with
  | none => do return { map with id := ← toInt idAndDirection }
  | some (idText, directionStr) => do
    return { map with id := ← toInt idText, direction := ← parseDirection directionStr }

/-- `setDescription`: the URI and the attributes. -/
def setUri (map : ExtMap) (uriAndAttributes : Text) : ExtMap :=
  match Reader.upTo space uriAndAttributes with
  | none => { map with uri := uriAndAttributes }
  | some (uri, attributes) => { map with uri, attributes }

/-- `setDescription`. -/
def setDescription (map : ExtMap) (description : Text) : Except Exception ExtMap :=
  match Reader.upTo space description with
  | none => .error (.invalidArgument "Invalid description for extmap")
  | some (idAndDirection, uriAndAttributes) => do
    return (← map.setId idAndDirection).setUri uriAndAttributes

/-- The constructor from a description. -/
def ofDescription (description : Text) : Except Exception ExtMap :=
  setDescription { id := ⟨0, by decide⟩, uri := [] } description

/-- The identifier and the direction, as they are printed. -/
def idText (map : ExtMap) : Text :=
  toString map.id ++ if map.direction = .unknown then [] else slash :: directionText map.direction

/-- The URI and the attributes, as they are printed. -/
def uriText (map : ExtMap) : Text :=
  map.uri ++ if map.attributes = [] then [] else space :: map.attributes

/-- The line of an extension. -/
def line (map : ExtMap) : Text :=
  attributeLine (bytes "extmap") (map.idText ++ space :: map.uriText)

end ExtMap

/-! ## Sections -/

/-- `Description::Entry`. -/
structure Entry where
  mType : Text
  mProtocol : Text
  mDescription : Text
  mMid : Text
  mDirection : Direction
  mIsRemoved : Bool
  mAttributes : List Text := []
  mExtMaps : OrderedMap CInt ExtMap := .empty
  mRids : List Text := []

namespace Entry

/-- The type, the port, the protocol and the rest of a media line. -/
def readMLine (stream : Text) : Option (Text × ℕ × Text × Text) := do
  let (mType, stream) ← word stream
  let (port, stream) ← readUnsigned (2 ^ 16) stream
  let (mProtocol, stream) ← word stream
  return (mType, port, mProtocol, before lf (trimBegin stream))

/-- The constructor from a media line. -/
def ofMLine (mline mid : Text) (dir : Direction) : Except Exception Entry :=
  match readMLine (if matchPrefix mline (bytes "m=") then mline.drop 2 else mline) with
  | none => .error (.invalidArgument "Invalid media description line")
  | some (mType, port, mProtocol, mDescription) =>
    .ok
      { mType, mProtocol, mDescription, mMid := mid, mDirection := dir
        mIsRemoved := port = 0 }

/-- `addExtMap`. -/
def addExtMap (e : Entry) (map : ExtMap) : Entry :=
  { e with mExtMaps := e.mExtMaps.emplace map.id map }

/-- `generateSdpLines`: the line of the direction. -/
def directionLines (e : Entry) : List Text :=
  if e.mDirection = .unknown then [] else [bytes "a=" ++ directionText e.mDirection]

/-- `generateSdpLines`: the lines of the attributes, those of SSRCs without RIDs only. -/
def attributeLines (e : Entry) : List Text :=
  (e.mAttributes.filter fun attr => e.mRids = [] ∨ matchPrefix attr (bytes "ssrc:") = false).map
    (bytes "a=" ++ ·)

/-- `generateSdpLines`: the lines of the RIDs. -/
def ridLines (e : Entry) : List Text :=
  if e.mRids = [] then []
  else
    e.mRids.map (fun rid => attributeLine (bytes "rid") (rid ++ bytes " send")) ++
      [attributeLine (bytes "simulcast") (bytes "send " ++ Utils.implode e.mRids 59)]

/-- `generateSdpLines`. -/
def generateSdpLines (e : Entry) : List Text :=
  attributeLine (bytes "mid") e.mMid :: e.mExtMaps.entries.map (fun entry => entry.2.line) ++
    e.directionLines ++ e.attributeLines ++ e.ridLines

/-- `parseSdpLine`: the attribute `extmap`. -/
def parseExtMap (e : Entry) (value : Text) : Except Exception Entry := do
  let id ← ExtMap.parseId value
  match e.mExtMaps.find? id with
  | none => return { e with mExtMaps := e.mExtMaps.emplace id (← ExtMap.ofDescription value) }
  | some map =>
    let map ← map.setDescription value
    return { e with mExtMaps := e.mExtMaps.modify id fun _ => map }

/-- `parseSdpLine` for the attributes. -/
def parseAttribute (e : Entry) (attr : Text) : Except Exception Entry :=
  let (key, value) := parsePair attr
  if key = bytes "mid" then .ok { e with mMid := value }
  else if key = bytes "extmap" then e.parseExtMap value
  else if attr = bytes "sendonly" then .ok { e with mDirection := .sendOnly }
  else if attr = bytes "recvonly" then .ok { e with mDirection := .recvOnly }
  else if key = bytes "sendrecv" then .ok { e with mDirection := .sendRecv }
  else if key = bytes "inactive" then .ok { e with mDirection := .inactive }
  else if key = bytes "bundle-only" then .ok { e with mIsRemoved := false }
  else .ok { e with mAttributes := e.mAttributes ++ [attr] }

/-- `parseSdpLine`. -/
def parseSdpLine (e : Entry) (line : Text) : Except Exception Entry :=
  if matchPrefix line (bytes "a=") then e.parseAttribute (line.drop 2) else .ok e

end Entry

/-- `Description::Application`. -/
structure Application extends Entry where
  mSctpPort : Option UInt16 := none
  mMaxMessageSize : Option UInt64 := none

namespace Application

/-- The constructor from a media line. -/
def ofMLine (mline mid : Text) : Except Exception Application := do
  return { toEntry := ← Entry.ofMLine mline mid .sendRecv }

/-- `generateSdpLines`. -/
def generateSdpLines (a : Application) : List Text :=
  a.toEntry.generateSdpLines ++
    (a.mSctpPort.toList.map fun port => attributeLine (bytes "sctp-port") (toString port.toNat)) ++
    a.mMaxMessageSize.toList.map fun size =>
      attributeLine (bytes "max-message-size") (toString size.toNat)

/-- `parseSdpLine`. -/
def parseSdpLine (a : Application) (line : Text) : Except Exception Application :=
  if matchPrefix line (bytes "a=") then
    let (key, value) := parsePair (line.drop 2)
    if key = bytes "sctp-port" then do
      return { a with mSctpPort := some (.ofNat (← toUnsigned value)) }
    else if key = bytes "max-message-size" then do
      return { a with mMaxMessageSize := some (.ofNat (← toUnsigned value)) }
    else do return { a with toEntry := ← a.toEntry.parseSdpLine line }
  else do return { a with toEntry := ← a.toEntry.parseSdpLine line }

end Application

/-- `Media::RtpMap`. -/
structure RtpMap where
  payloadType : CInt
  format : Text := []
  clockRate : CInt := ⟨0, by decide⟩
  encParams : Text := []
  rtcpFbs : List Text := []
  fmtps : List Text := []
  deriving DecidableEq, Repr

namespace RtpMap

/-- `parsePayloadType`. -/
def parsePayloadType (description : Text) : Except Exception CInt :=
  toInt (before space description)

/-- `setDescription`: the clock rate and the encoding parameters. -/
def setClockRate (map : RtpMap) (line : Text) : Except Exception RtpMap :=
  match (Reader.upTo slash line).or (Reader.upTo space line) with
  | none => do return { map with clockRate := ← toInt line }
  | some (clockRate, encParams) => do
    return { map with clockRate := ← toInt clockRate, encParams }

/-- `setDescription`. -/
def setDescription (map : RtpMap) (description : Text) : Except Exception RtpMap :=
  match Reader.upTo space description with
  | none => .error (.invalidArgument "Invalid format description for rtpmap")
  | some (payloadType, line) => do
    let payloadType ← toInt payloadType
    match Reader.upTo slash line with
    | none => .error (.invalidArgument "Invalid format description for rtpmap")
    | some (format, line) => setClockRate { map with payloadType, format } line

/-- The constructor from a description. -/
def ofDescription (description : Text) : Except Exception RtpMap :=
  setDescription { payloadType := ⟨0, by decide⟩ } description

/-- `addFeedback`. -/
def addFeedback (map : RtpMap) (fb : Text) : RtpMap :=
  if fb ∈ map.rtcpFbs then map else { map with rtcpFbs := map.rtcpFbs ++ [fb] }

/-- `addParameter`. -/
def addParameter (map : RtpMap) (p : Text) : RtpMap :=
  if p ∈ map.fmtps then map else { map with fmtps := map.fmtps ++ [p] }

/-- The clock rate and the encoding parameters, as they are printed. -/
def clockText (map : RtpMap) : Text :=
  toString map.clockRate ++ if map.encParams = [] then [] else slash :: map.encParams

/-- The line of an RTP map. -/
def line (map : RtpMap) : Text :=
  attributeLine (bytes "rtpmap")
    (toString map.payloadType ++ space :: (map.format ++ slash :: map.clockText))

/-- The line of a feedback or format parameter. -/
def parameterLine (key : Text) (payloadType : CInt) (val : Text) : Text :=
  attributeLine key (toString payloadType ++ space :: val)

/-- The lines of an RTP map with its parameters. -/
def lines (map : RtpMap) : List Text :=
  map.line :: map.rtcpFbs.map (parameterLine (bytes "rtcp-fb") map.payloadType) ++
    map.fmtps.map (parameterLine (bytes "fmtp") map.payloadType)

end RtpMap

/-- `Description::Media`. -/
structure Media extends Entry where
  mBas : CInt := CInt.unset
  mOrderedPayloadTypes : List CInt := []
  mRtpMaps : OrderedMap CInt RtpMap := .empty
  mSsrcs : List UInt32 := []
  mCNameMap : List (UInt32 × Text) := []

namespace Media

/-- The payload types that a stream begins with. -/
def readPayloadTypes (stream : Text) : List CInt :=
  match _h : readSigned (2 ^ 31) stream with
  | none => []
  | some (payloadType, rest) => CInt.wrap payloadType :: readPayloadTypes rest
termination_by stream.length
decreasing_by exact readSigned_length _h

/-- The constructor from a media line. -/
def ofMLine (mline mid : Text) (dir : Direction) : Except Exception Media := do
  let entry ← Entry.ofMLine mline mid dir
  return { toEntry := entry, mOrderedPayloadTypes := readPayloadTypes entry.mDescription }

/-- `description`. -/
def description (m : Media) : Text :=
  joinSpace (m.mOrderedPayloadTypes.map fun payloadType : CInt => toString payloadType)

/-- `mCNameMap.emplace`, if there is a name. -/
def emplaceCName (mCNameMap : List (UInt32 × Text)) (ssrc : UInt32) (cname : Option Text) :
    List (UInt32 × Text) :=
  match cname with
  | some cname =>
    if mCNameMap.any fun entry => entry.1 = ssrc then mCNameMap else mCNameMap ++ [(ssrc, cname)]
  | none => mCNameMap

/-- `getCNameForSsrc`. -/
def getCNameForSsrc (m : Media) (ssrc : UInt32) : Option Text :=
  (m.mCNameMap.find? fun entry => entry.1 = ssrc).map Prod.snd

/-- The attributes of an SSRC. -/
def ssrcAttributes (ssrc : UInt32) (name msid trackId : Option Text) : List Text :=
  (match name with
    | some name => bytes "ssrc:" ++ (toString ssrc.toNat ++ (bytes " cname:" ++ name))
    | none => bytes "ssrc:" ++ toString ssrc.toNat) ::
  match msid with
  | some msid =>
    [bytes "ssrc:" ++
        (toString ssrc.toNat ++ (bytes " msid:" ++ (msid ++ space :: trackId.getD msid))),
      bytes "msid:" ++ (msid ++ space :: trackId.getD msid)]
  | none => []

/-- `addSSRC`. -/
def addSSRC (m : Media) (ssrc : UInt32) (name msid trackId : Option Text) : Media :=
  { m with
    mAttributes := m.mAttributes ++ ssrcAttributes ssrc name msid trackId
    mCNameMap := emplaceCName m.mCNameMap ssrc name
    mSsrcs := m.mSsrcs ++ [ssrc] }

/-- `addRtpMap`. -/
def addRtpMap (m : Media) (map : RtpMap) : Media :=
  { m with
    mOrderedPayloadTypes :=
      if map.payloadType ∈ m.mOrderedPayloadTypes then m.mOrderedPayloadTypes
      else m.mOrderedPayloadTypes ++ [map.payloadType]
    mRtpMaps := m.mRtpMaps.emplace map.payloadType map }

/-- `rtpMap`, and a change of the map. -/
def updateRtpMap (m : Media) (payloadType : CInt) (f : RtpMap → RtpMap) :
    Except Exception Media :=
  match m.mRtpMaps.find? payloadType with
  | none => .error (.invalidArgument "rtpmap not found")
  | some _ => .ok { m with mRtpMaps := m.mRtpMaps.modify payloadType f }

/-- The codec with the parameters that `addAudioCodec` gives it. -/
def audioCodec (codec : Text) : Text :=
  if slash ∈ codec then codec
  else if codec = bytes "PCMA" ∨ codec = bytes "PCMU" then codec ++ bytes "/8000/1"
  else codec ++ bytes "/48000/2"

/-- `addAudioCodec`. The other codecs of `Audio` call it with their names. -/
def addAudioCodec (m : Media) (payloadType : CInt) (codec : Text) (profile : Option Text) :
    Except Exception Media := do
  let map ← RtpMap.ofDescription (toString payloadType ++ space :: audioCodec codec)
  return m.addRtpMap { map with fmtps := map.fmtps ++ profile.toList }

/-- The codec with the parameters that `addVideoCodec` gives it. -/
def videoCodec (codec : Text) : Text := if slash ∈ codec then codec else codec ++ bytes "/90000"

/-- `addVideoCodec`. The other codecs of `Video` call it with their names. -/
def addVideoCodec (m : Media) (payloadType : CInt) (codec : Text) (profile : Option Text) :
    Except Exception Media := do
  let map ← RtpMap.ofDescription (toString payloadType ++ space :: videoCodec codec)
  let map := ((map.addFeedback (bytes "nack")).addFeedback (bytes "nack pli")).addFeedback
    (bytes "goog-remb")
  return m.addRtpMap { map with fmtps := map.fmtps ++ profile.toList }

/-- `addRtxCodec`. -/
def addRtxCodec (m : Media) (payloadType origPayloadType : CInt) (clockRate : UInt32) :
    Except Exception Media := do
  let map ← RtpMap.ofDescription
    (toString payloadType ++ bytes " RTX/" ++ toString clockRate.toNat)
  return m.addRtpMap
    { map with fmtps := map.fmtps ++ [bytes "apt=" ++ toString origPayloadType] }

/-- `generateSdpLines`. -/
def generateSdpLines (m : Media) : List Text :=
  (if 0 ≤ m.mBas.1 then [bytes "b=AS:" ++ toString m.mBas] else []) ++
    m.toEntry.generateSdpLines ++ bytes "a=rtcp-mux" ::
      m.mRtpMaps.entries.flatMap fun entry => entry.2.lines

/-- `parseSdpLine`: the attribute `rtpmap`. -/
def parseRtpMap (m : Media) (value : Text) : Except Exception Media := do
  let payloadType ← RtpMap.parsePayloadType value
  match m.mRtpMaps.find? payloadType with
  | none =>
    return { m with
      mRtpMaps := m.mRtpMaps.emplace payloadType (← RtpMap.ofDescription value) }
  | some map =>
    let map ← map.setDescription value
    return { m with mRtpMaps := m.mRtpMaps.modify payloadType fun _ => map }

/-- `parseSdpLine`: an attribute with a parameter for a payload type, which is inserted if it is
new. -/
def parseParameter (m : Media) (value : Text) (add : RtpMap → Text → RtpMap) :
    Except Exception Media := do
  let payloadType ← toInt (before space value)
  let mRtpMaps :=
    match m.mRtpMaps.find? payloadType with
    | none => m.mRtpMaps.emplace payloadType { payloadType }
    | some _ => m.mRtpMaps
  return { m with mRtpMaps := mRtpMaps.modify payloadType fun map => add map (behind space value) }

/-- `parseSdpLine`: the attribute `ssrc`. -/
def parseSSRC (m : Media) (attr value : Text) : Except Exception Media := do
  let ssrc := UInt32.ofNat (← toUnsigned value)
  return { m with
    mSsrcs := if ssrc ∈ m.mSsrcs then m.mSsrcs else m.mSsrcs ++ [ssrc]
    mCNameMap := emplaceCName m.mCNameMap ssrc (behindText (bytes "cname:") value)
    mAttributes := m.mAttributes ++ [attr] }

/-- `parseSdpLine`. -/
def parseSdpLine (m : Media) (line : Text) : Except Exception Media :=
  if matchPrefix line (bytes "a=") then
    let (key, value) := parsePair (line.drop 2)
    if key = bytes "rtpmap" then m.parseRtpMap value
    else if key = bytes "rtcp-fb" then
      m.parseParameter value fun map fb => { map with rtcpFbs := map.rtcpFbs ++ [fb] }
    else if key = bytes "fmtp" then
      m.parseParameter value fun map fmtp => { map with fmtps := map.fmtps ++ [fmtp] }
    else if key = bytes "rtcp-mux" then .ok m
    else if key = bytes "ssrc" then m.parseSSRC (line.drop 2) value
    else do return { m with toEntry := ← m.toEntry.parseSdpLine line }
  else if matchPrefix line (bytes "b=AS") then do
    return { m with mBas := ← toInt (behind colon line) }
  else do return { m with toEntry := ← m.toEntry.parseSdpLine line }

end Media

/-- A section of a description. -/
inductive Section where
  | application (a : Application)
  | media (m : Media)

namespace Section

/-- The part that all sections have. -/
def entry : Section → Entry
  | .application a => a.toEntry
  | .media m => m.toEntry

def isApplication : Section → Bool
  | .application _ => true
  | .media _ => false

/-- `description`. -/
def description : Section → Text
  | .application a => a.mDescription
  | .media m => m.description

/-- `generateSdpLines`. -/
def generateSdpLines : Section → List Text
  | .application a => a.generateSdpLines
  | .media m => m.generateSdpLines

/-- The media line. -/
def mLine (s : Section) (port : ℕ) : Text :=
  bytes "m=" ++ (s.entry.mType ++ space :: (toString (if s.entry.mIsRemoved then 0 else port : ℕ) ++
    space :: (s.entry.mProtocol ++ space :: s.description)))

/-- `generateSdp`. -/
def generateSdp (s : Section) (addr : Text) (port : ℕ) : List Text :=
  s.mLine port :: (bytes "c=IN " ++ addr) :: s.generateSdpLines

/-- `parseSdpLine`. -/
def parseSdpLine (line : Text) : Section → Except Exception Section
  | .application a => do return .application (← a.parseSdpLine line)
  | .media m => do return .media (← m.parseSdpLine line)

/-- A change of the part that all sections have. -/
def onEntry (f : Entry → Entry) : Section → Except Exception Section
  | .application a => .ok (.application { a with toEntry := f a.toEntry })
  | .media m => .ok (.media { m with toEntry := f m.toEntry })

/-- A change of an application section, which `std::get` does not find in a media section. -/
def onApplication (f : Application → Application) : Section → Except Exception Section
  | .application a => .ok (.application (f a))
  | .media _ => .error .badVariantAccess

/-- A change of a media section. -/
def onMedia (f : Media → Except Exception Media) : Section → Except Exception Section
  | .application _ => .error .badVariantAccess
  | .media m => do return .media (← f m)

end Section

end Sdp

end Rtc
