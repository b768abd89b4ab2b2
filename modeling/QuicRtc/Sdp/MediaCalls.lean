import Mathlib.Data.List.Infix
import QuicRtc.Sdp.Defs

/-!
# The calls of a media section

The rest of `Media` and `Entry` in `description.cpp`: what removes attributes, SSRCs, extensions and
formats again, and the constructor from a text. `Call` is a call that changes a media section, and a
call that throws leaves the section as it was.
-/

namespace Rtc

namespace Sdp

open Http (space lf cr colon)
open LocalDescription (Direction)

namespace Entry

/-- `addAttribute`. -/
def addAttribute (e : Entry) (attr : Text) : Entry :=
  if attr ∈ e.mAttributes then e else { e with mAttributes := e.mAttributes ++ [attr] }

/-- `removeAttribute`: an attribute is given as a whole or by its key. -/
def removeAttribute (e : Entry) (attr : Text) : Entry :=
  { e with mAttributes := e.mAttributes.filter fun a => ¬(a = attr ∨ (parsePair a).1 = attr) }

/-- `addRid`. -/
def addRid (e : Entry) (rid : Text) : Entry := { e with mRids := e.mRids ++ [rid] }

/-- `removeExtMap`. -/
def removeExtMap (e : Entry) (id : CInt) : Entry := { e with mExtMaps := e.mExtMaps.erase id }

end Entry

namespace RtpMap

/-- `removeFeedback`: the feedback that a text stands in. -/
def removeFeedback (map : RtpMap) (str : Text) : RtpMap :=
  { map with rtcpFbs := map.rtcpFbs.filter fun fb => ¬str <:+: fb }

/-- `removeParameter`: the parameters that a text stands in. -/
def removeParameter (map : RtpMap) (str : Text) : RtpMap :=
  { map with fmtps := map.fmtps.filter fun p => ¬str <:+: p }

/-- The format parameter by which a payload type depends on another. -/
def aptText (payloadType : CInt) : Text := bytes "apt=" ++ toString payloadType

end RtpMap

namespace Media

/-! ## SSRCs -/

/-- The prefix of the attributes of an SSRC. -/
def ssrcPrefix (ssrc : UInt32) : Text := bytes "ssrc:" ++ toString ssrc.toNat

/-- `removeSSRC`. -/
def removeSSRC (m : Media) (ssrc : UInt32) : Media :=
  { m with
    mAttributes := m.mAttributes.filter fun a => ¬matchPrefix a (ssrcPrefix ssrc)
    mSsrcs := m.mSsrcs.filter (· ≠ ssrc) }

/-- `replaceSSRC`. -/
def replaceSSRC (m : Media) (old ssrc : UInt32) (name msid trackID : Option Text) : Media :=
  (m.removeSSRC old).addSSRC ssrc name msid trackID

/-- `clearSSRCs`. -/
def clearSSRCs (m : Media) : Media :=
  { m with
    mAttributes := m.mAttributes.filter fun a => ¬matchPrefix a (bytes "ssrc:")
    mSsrcs := []
    mCNameMap := [] }

/-! ## Formats -/

/-- `removeRtpMap`: a payload type is erased from the order and from the map. -/
def eraseRtpMap (m : Media) (payloadType : CInt) : Media :=
  { m with
    mOrderedPayloadTypes := m.mOrderedPayloadTypes.filter (· ≠ payloadType)
    mRtpMaps := m.mRtpMaps.erase payloadType }

/-- `removeRtpMap`: the loop over the map. An entry is erased where it stands, and the others stay
where they are. -/
def eraseDependents (payloadType : CInt) (m : Media) (entries : List (CInt × RtpMap)) : Media :=
  entries.foldl
    (fun m entry =>
      if RtpMap.aptText payloadType ∈ entry.2.fmtps then m.eraseRtpMap entry.1 else m) m

/-- `removeRtpMap`. -/
def removeRtpMap (m : Media) (payloadType : CInt) : Media :=
  let m := m.eraseRtpMap payloadType
  eraseDependents payloadType m m.mRtpMaps.entries

/-- `removeFormat`: the payload types with a format. -/
def payloadTypesOf (m : Media) (format : Text) : List CInt :=
  (m.mRtpMaps.entries.filter fun entry => entry.2.format = format).map Prod.fst

/-- `removeFormat`. -/
def removeFormat (m : Media) (format : Text) : Media :=
  (m.payloadTypesOf format).foldl removeRtpMap m

/-! ## The section as a text -/

/-- `operator string`. -/
def text (m : Media) : Text :=
  ((Section.media m).generateSdp (bytes "IP4 0.0.0.0") 9).flatMap (· ++ Http.crlf)

/-- The lines that the constructor reads behind the first one, trimmed, without the empty ones.
A `getline` that fails leaves the line as it was, so a last line without an end is read twice. -/
def linesOf (sdp : Text) : List Text :=
  let texts := Utils.explode sdp lf
  ((texts.tail ++ if sdp.getLast? = some lf then [] else texts.getLast?.toList).map trimEnd).filter
    (· ≠ [])

/-- The constructor from a text. -/
def ofText (sdp : Text) : Except Exception Media := do
  let m ← (linesOf sdp).foldlM parseSdpLine (← ofMLine (before lf sdp) [] .unknown)
  if m.mMid = [] then .error (.invalidArgument "Missing mid in media description") else return m

/-! ## Calls -/

/-- The calls that change a media section. -/
inductive Call where
  | setDirection (dir : Direction)
  | markRemoved
  | setBitrate (bitrate : CInt)
  | addAttribute (attr : Text)
  | removeAttribute (attr : Text)
  | addRid (rid : Text)
  | addExtMap (map : ExtMap)
  | removeExtMap (id : CInt)
  | addSSRC (ssrc : UInt32) (name msid trackId : Option Text)
  | removeSSRC (ssrc : UInt32)
  | replaceSSRC (old ssrc : UInt32) (name msid trackID : Option Text)
  | clearSSRCs
  | addRtpMap (map : RtpMap)
  | removeRtpMap (payloadType : CInt)
  | removeFormat (format : Text)
  | addAudioCodec (payloadType : CInt) (codec : Text) (profile : Option Text)
  | addVideoCodec (payloadType : CInt) (codec : Text) (profile : Option Text)
  | addRtxCodec (payloadType origPayloadType : CInt) (clockRate : UInt32)
  | addFeedback (payloadType : CInt) (fb : Text)
  | removeFeedback (payloadType : CInt) (str : Text)
  | addParameter (payloadType : CInt) (p : Text)
  | removeParameter (payloadType : CInt) (str : Text)

/-- What a call does. -/
def apply (m : Media) : Call → Except Exception Media
  | .setDirection dir => .ok { m with mDirection := dir }
  | .markRemoved => .ok { m with mIsRemoved := true }
  | .setBitrate bitrate => .ok { m with mBas := bitrate }
  | .addAttribute attr => .ok { m with toEntry := m.toEntry.addAttribute attr }
  | .removeAttribute attr => .ok { m with toEntry := m.toEntry.removeAttribute attr }
  | .addRid rid => .ok { m with toEntry := m.toEntry.addRid rid }
  | .addExtMap map => .ok { m with toEntry := m.toEntry.addExtMap map }
  | .removeExtMap id => .ok { m with toEntry := m.toEntry.removeExtMap id }
  | .addSSRC ssrc name msid trackId => .ok (m.addSSRC ssrc name msid trackId)
  | .removeSSRC ssrc => .ok (m.removeSSRC ssrc)
  | .replaceSSRC old ssrc name msid trackID => .ok (m.replaceSSRC old ssrc name msid trackID)
  | .clearSSRCs => .ok m.clearSSRCs
  | .addRtpMap map => .ok (m.addRtpMap map)
  | .removeRtpMap payloadType => .ok (m.removeRtpMap payloadType)
  | .removeFormat format => .ok (m.removeFormat format)
  | .addAudioCodec payloadType codec profile => m.addAudioCodec payloadType codec profile
  | .addVideoCodec payloadType codec profile => m.addVideoCodec payloadType codec profile
  | .addRtxCodec payloadType origPayloadType clockRate =>
    m.addRtxCodec payloadType origPayloadType clockRate
  | .addFeedback payloadType fb => m.updateRtpMap payloadType (·.addFeedback fb)
  | .removeFeedback payloadType str => m.updateRtpMap payloadType (·.removeFeedback str)
  | .addParameter payloadType p => m.updateRtpMap payloadType (·.addParameter p)
  | .removeParameter payloadType str => m.updateRtpMap payloadType (·.removeParameter str)

/-- The section after a call. -/
def call (m : Media) (c : Call) : Media := (m.apply c).toOption.getD m

end Media

end Sdp

end Rtc
