import QuicRtc.Lib.BigEndian
import QuicRtc.Message

/-!
# RTP packets

The RTP header and its extension (`rtp.cpp`), and `RtpPacketizer::packetize`, which puts a header in
front of a payload.

The packed structures that the source lays over a buffer are records with a `toBytes` and a `read`;
their integers are in host order. A buffer is a list of bytes, and the bytes `packetize` does not
write are zero, as `make_message` leaves them. A field that is read past the end of a packet reads
as zero; the packets of `packetize` are never that short.
-/

namespace Rtc

/-! ## The header -/

/-- `RtpHeader`. `typeByte` is the field `_payloadType`, which also holds the marker. -/
structure RtpHeader where
  first : UInt8 := 0
  typeByte : UInt8 := 0
  seqNumber : UInt16 := 0
  timestamp : UInt32 := 0
  ssrc : UInt32 := 0
  deriving DecidableEq, Repr

namespace RtpHeader

/-- `sizeof(RtpHeader)`. -/
def sizeOf : ℕ := 12

/-- The header as laid out in the buffer. -/
def toBytes (h : RtpHeader) : List UInt8 :=
  [h.first, h.typeByte] ++ BigEndian.encode 2 h.seqNumber.toNat ++
    BigEndian.encode 4 h.timestamp.toNat ++ BigEndian.encode 4 h.ssrc.toNat

/-- The header at the start of a packet. -/
def read (data : List UInt8) : RtpHeader where
  first := data.getD 0 0
  typeByte := data.getD 1 0
  seqNumber := UInt16.ofNat (BigEndian.decode ((data.drop 2).take 2))
  timestamp := UInt32.ofNat (BigEndian.decode ((data.drop 4).take 4))
  ssrc := UInt32.ofNat (BigEndian.decode ((data.drop 8).take 4))

/-- `RtpHeader::padding`. -/
def padding (h : RtpHeader) : Bool := (h.first >>> 5) &&& 0x01 != 0

/-- `RtpHeader::extension`. -/
def extension (h : RtpHeader) : Bool := (h.first >>> 4) &&& 0x01 != 0

/-- `RtpHeader::csrcCount`. -/
def csrcCount (h : RtpHeader) : ℕ := (h.first &&& 0x0F).toNat

/-- `RtpHeader::marker`. -/
def marker (h : RtpHeader) : Bool := h.typeByte &&& 0x80 != 0

/-- `RtpHeader::payloadType`. -/
def payloadType (h : RtpHeader) : UInt8 := h.typeByte &&& 0x7F

/-- `RtpHeader::getSize`: the header with its CSRCs. -/
def getSize (h : RtpHeader) : ℕ := sizeOf + 4 * h.csrcCount

/-- `RtpHeader::preparePacket`. -/
def preparePacket (h : RtpHeader) : RtpHeader := { h with first := h.first ||| 0x80 }

/-- `RtpHeader::setPayloadType`. -/
def setPayloadType (h : RtpHeader) (newPayloadType : UInt8) : RtpHeader :=
  { h with typeByte := (h.typeByte &&& 0x80) ||| (0x7F &&& newPayloadType) }

/-- `RtpHeader::setMarker`. -/
def setMarker (h : RtpHeader) (marker : Bool) : RtpHeader :=
  { h with typeByte := (h.typeByte &&& 0x7F) ||| (if marker then 0x80 else 0) }

/-- `RtpHeader::setExtension`. -/
def setExtension (h : RtpHeader) (extension : Bool) : RtpHeader :=
  { h with first := (h.first &&& 0xEF) ||| (if extension then 0x10 else 0) }

end RtpHeader

/-! ## The extension header -/

/-- `RtpExtensionHeader`, with the bytes of the packet that are reserved for its body. -/
structure RtpExtensionHeader where
  profileSpecificId : UInt16
  headerLength : UInt16
  body : List UInt8
  deriving DecidableEq, Repr

namespace RtpExtensionHeader

/-- `sizeof(RtpExtensionHeader)`. -/
def sizeOf : ℕ := 4

/-- `RtpExtensionHeader::getSize`: the size of the body that the header announces. -/
def getSize (e : RtpExtensionHeader) : ℕ := e.headerLength.toNat * 4

/-- The extension header and its body as laid out in the packet. -/
def toBytes (e : RtpExtensionHeader) : List UInt8 :=
  BigEndian.encode 2 e.profileSpecificId.toNat ++ BigEndian.encode 2 e.headerLength.toNat ++ e.body

/-- Write bytes over a part of a buffer. -/
def write (buffer : List UInt8) (offset : ℕ) (bytes : List UInt8) : List UInt8 :=
  buffer.take offset ++ bytes ++ buffer.drop (offset + bytes.length)

/-- `RtpExtensionHeader::clearBody`. -/
def clearBody (e : RtpExtensionHeader) : RtpExtensionHeader :=
  { e with body := write e.body 0 (List.replicate e.getSize 0) }

/-- `RtpExtensionHeader::writeOneByteHeader`. An element that is too long, or that does not fit in
the announced body, is not written. -/
def writeOneByteHeader (e : RtpExtensionHeader) (offset : ℕ) (id : UInt8) (value : List UInt8) :
    RtpExtensionHeader :=
  if id = 0 ∨ 14 < id ∨ value.length = 0 ∨ 16 < value.length ∨
      e.getSize < offset + 1 + value.length then e
  else
    let start := if value.length ≠ 1 then (id <<< 4) ||| (UInt8.ofNat value.length - 1)
      else id <<< 4
    { e with body := write e.body offset (start :: value) }

/-- `RtpExtensionHeader::writeCurrentVideoOrientation`. -/
def writeCurrentVideoOrientation (e : RtpExtensionHeader) (offset : ℕ) (id value : UInt8) :
    RtpExtensionHeader :=
  e.writeOneByteHeader offset id [value]

end RtpExtensionHeader

/-- `RtpHeader::getExtensionHeaderSize` of the header of a packet. The length is read from behind
the CSRCs. -/
def RtpHeader.getExtensionHeaderSize (data : List UInt8) : ℕ :=
  let h := RtpHeader.read data
  if h.extension then
    BigEndian.decode ((data.drop (h.getSize + 2)).take 2) * 4 + RtpExtensionHeader.sizeOf
  else 0

/-- Where the payload of a packet starts, as the depacketizers compute it. -/
def rtpHeaderSize (data : List UInt8) : ℕ :=
  (RtpHeader.read data).getSize + RtpHeader.getExtensionHeaderSize data

/-! ## Packetization -/

/-- `RtpPacketizationConfig`, without the fields that no modelled function uses. -/
structure RtpPacketizationConfig where
  ssrc : UInt32
  payloadType : UInt8
  sequenceNumber : UInt16
  timestamp : UInt32
  videoOrientationId : UInt8 := 0
  videoOrientation : UInt8 := 0
  midId : UInt8 := 0
  mid : Option (List UInt8) := none
  ridId : UInt8 := 0
  rid : Option (List UInt8) := none
  playoutDelayId : UInt8 := 0
  playoutDelayMin : UInt16 := 0
  playoutDelayMax : UInt16 := 0
  cname : List UInt8 := []
  deriving DecidableEq, Repr

namespace RtpPacketizationConfig

variable (config : RtpPacketizationConfig) (mark : Bool)

/-- The video orientation is sent, with the last packet of a frame. -/
def setVideoRotation : Bool :=
  config.videoOrientationId != 0 && config.videoOrientationId < 15 && mark &&
    config.videoOrientation != 0

/-- The playout delay is sent. -/
def setPlayoutDelay : Bool := 0 < config.playoutDelayId && config.playoutDelayId < 15

/-- The bytes of a string element, with its one-byte header. -/
def stringElementSize (value : Option (List UInt8)) : ℕ :=
  match value with
  | some value => 1 + value.length
  | none => 0

/-- The bytes of the extension elements. -/
def elementsSize : ℕ :=
  (if config.setVideoRotation mark then 2 else 0) + (if config.setPlayoutDelay then 4 else 0) +
    stringElementSize config.mid + stringElementSize config.rid

/-- `rtpExtHeaderSize`: the elements and the extension header, in whole words. -/
def rtpExtHeaderSize : ℕ :=
  ((if config.elementsSize mark ≠ 0 then config.elementsSize mark + 4 else 0) + 3) / 4 * 4

/-- The three bytes of the playout delay: twelve bits for the minimum and for the maximum. -/
def playoutDelay : List UInt8 :=
  let min := config.playoutDelayMin &&& 0xFFF
  let max := config.playoutDelayMax &&& 0xFFF
  [((min >>> 4) &&& 0xFF).toUInt8, (((min &&& 0xF) <<< 4) ||| ((max >>> 8) &&& 0xF)).toUInt8,
    (max &&& 0xFF).toUInt8]

/-- The extension header before its elements are written. -/
def emptyExtensionHeader : RtpExtensionHeader where
  profileSpecificId := 0xbede
  -- the number of words is converted to 16 bits
  headerLength := UInt16.ofNat (config.rtpExtHeaderSize mark / 4) - 1
  body := List.replicate (config.rtpExtHeaderSize mark - RtpExtensionHeader.sizeOf) 0

/-- The extension header that `packetize` writes. -/
def extensionHeader : RtpExtensionHeader :=
  let empty := (config.emptyExtensionHeader mark).clearBody
  let oriented :=
    if config.setVideoRotation mark then
      empty.writeCurrentVideoOrientation 0 config.videoOrientationId config.videoOrientation
    else empty
  let offset := if config.setVideoRotation mark then 2 else 0
  let withMid :=
    match config.mid with
    | some mid => oriented.writeOneByteHeader offset config.midId mid
    | none => oriented
  let offset := offset + stringElementSize config.mid
  -- the offset is not advanced behind the rid
  let withRid :=
    match config.rid with
    | some rid => withMid.writeOneByteHeader offset config.ridId rid
    | none => withMid
  if config.setPlayoutDelay then
    withRid.writeOneByteHeader offset config.playoutDelayId config.playoutDelay
  else withRid

/-- The RTP header that `packetize` writes. -/
def header : RtpHeader :=
  let h : RtpHeader :=
    { RtpHeader.setPayloadType {} config.payloadType with
      seqNumber := config.sequenceNumber
      timestamp := config.timestamp
      ssrc := config.ssrc }
  let h := if mark then h.setMarker true else h
  let h := if config.rtpExtHeaderSize mark ≠ 0 then h.setExtension true else h
  h.preparePacket

/-- `RtpPacketizer::packetize`: the packet, and the configuration with the next sequence number. -/
def packetize (payload : List UInt8) : List UInt8 × RtpPacketizationConfig :=
  ((config.header mark).toBytes ++
      (if config.rtpExtHeaderSize mark ≠ 0 then (config.extensionHeader mark).toBytes else []) ++
      payload,
    { config with sequenceNumber := config.sequenceNumber + 1 })

end RtpPacketizationConfig

end Rtc
