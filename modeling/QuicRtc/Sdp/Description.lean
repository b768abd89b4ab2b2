import QuicRtc.Sdp.Defs

/-!
# Descriptions as texts

The session level of `description.cpp`: `generateSdp`, the constructor from a text, and the calls
that build a description.

`current` of the constructor is the last section. A call that throws leaves the description as it
was.
-/

namespace Rtc

namespace Sdp

open Http (space lf cr colon toLower)
open LocalDescription (Direction)

/-- `','`. -/
def comma : UInt8 := 44

/-! ## Fingerprints -/

/-- `CertificateFingerprint::Algorithm`. -/
inductive Algorithm where
  | sha1
  | sha224
  | sha256
  | sha384
  | sha512
  deriving DecidableEq, Repr

namespace Algorithm

/-- `AlgorithmIdentifier`. -/
def identifier : Algorithm → Text
  | .sha1 => bytes "sha-1"
  | .sha224 => bytes "sha-224"
  | .sha256 => bytes "sha-256"
  -- as in the source
  | .sha384 => bytes "sha-256"
  | .sha512 => bytes "sha-512"

/-- `AlgorithmSize`. -/
def size : Algorithm → ℕ
  | .sha1 => 20
  | .sha224 => 28
  | .sha256 => 32
  | .sha384 => 48
  | .sha512 => 64

/-- The algorithm of an identifier, the first one in their order. -/
def ofIdentifier (first : Text) : Option Algorithm :=
  [sha1, sha224, sha256, sha384, sha512].find? fun a => first = a.identifier

end Algorithm

/-- `std::isxdigit`. -/
def isXDigit (c : UInt8) : Bool :=
  WsHandshake.isDigit c || (65 ≤ c && c ≤ 70) || (97 ≤ c && c ≤ 102)

/-- `std::toupper`. -/
def toUpper (c : UInt8) : UInt8 := if 97 ≤ c ∧ c ≤ 122 then c - 32 else c

/-- `CertificateFingerprint`. -/
structure CertificateFingerprint where
  algorithm : Algorithm
  value : Text
  deriving DecidableEq, Repr

/-- `isValid`. -/
def CertificateFingerprint.isValid (f : CertificateFingerprint) : Bool :=
  f.value.length = f.algorithm.size * 3 - 1 ∧
    f.value.zipIdx.all fun (c, i) => if i % 3 = 2 then c = colon else isXDigit c

/-! ## Descriptions -/

/-- `Description`. -/
structure Description where
  mType : Kind := .unspec
  mRole : Role
  mUsername : Text := []
  mSessionId : Text := []
  mIceOptions : List Text := []
  mIceUfrag : Option Text := none
  mIcePwd : Option Text := none
  mFingerprint : Option CertificateFingerprint := none
  mAttributes : List Text := []
  mEntries : List Section := []
  mCandidates : List Candidate := []
  mEnded : Bool := false

namespace Description

/-- `hintType`. -/
def hintType (d : Description) (type : Kind) : Description :=
  if d.mType = .unspec then { d with mType := type } else d

/-- `setFingerprint`. -/
def setFingerprint (d : Description) (f : CertificateFingerprint) : Except Exception Description :=
  if f.isValid then
    .ok { d with mFingerprint := some { f with value := f.value.map toUpper } }
  else
    .error (.invalidArgument
      ("Invalid " ++ shown f.algorithm.identifier ++ " fingerprint \"" ++ shown f.value ++ "\""))

/-- `addIceOption`. -/
def addIceOption (d : Description) (option : Text) : Description :=
  if d.mIceOptions.contains option then d else { d with mIceOptions := d.mIceOptions ++ [option] }

/-- `hasCandidate`. -/
def hasCandidate (d : Description) (candidate : Candidate) : Bool :=
  d.mCandidates.any fun c => c.same candidate

/-- `addCandidate`. -/
def addCandidate (d : Description) (candidate : Candidate) : Description :=
  if d.hasCandidate candidate then d
  else { d with mCandidates := d.mCandidates ++ [candidate] }

/-- `endCandidates`. -/
def endCandidates (d : Description) : Description := { d with mEnded := true }

/-- `removeApplication`. -/
def removeApplication (d : Description) : Description :=
  { d with mEntries := d.mEntries.eraseP Section.isApplication }

/-- `mEntries.emplace_back`. -/
def addSection (d : Description) (s : Section) : Description :=
  { d with mEntries := d.mEntries ++ [s] }

/-- `createEntry`. -/
def createEntry (d : Description) (mline mid : Text) (dir : Direction) :
    Except Exception Description :=
  if before space mline = bytes "application" then do
    return d.removeApplication.addSection (.application (← Application.ofMLine mline mid))
  else do return d.addSection (.media (← Media.ofMLine mline mid dir))

/-- `addMedia` of an application section. -/
def addApplication (d : Description) (mid : Text) : Except Exception Description := do
  let application ← Application.ofMLine
    (bytes "application 9 UDP/DTLS/SCTP webrtc-datachannel") mid
  return d.removeApplication.addSection (.application application)

/-- `addMedia` of a media section. `addAudio` and `addVideo` call it with their media lines. -/
def addMedia (d : Description) (mline mid : Text) (dir : Direction) :
    Except Exception Description := do
  return d.addSection (.media (← Media.ofMLine mline mid dir))

/-- `addAudio`. -/
def addAudio (d : Description) (mid : Text) (dir : Direction) : Except Exception Description :=
  d.addMedia (bytes "audio 9 UDP/TLS/RTP/SAVPF") mid dir

/-- `addVideo`. -/
def addVideo (d : Description) (mid : Text) (dir : Direction) : Except Exception Description :=
  d.addMedia (bytes "video 9 UDP/TLS/RTP/SAVPF") mid dir

/-! ## Printing -/

/-- `defaultCandidate`. -/
def defaultCandidate (d : Description) : Option Candidate :=
  d.mCandidates.foldl
    (fun result c =>
      if c.isHost then
        match result with
        | none => some c
        | some best =>
          if (best.family = some .ipv6 ∧ c.family = some .ipv4) ∨
              (best.family = c.family ∧ best.mPriority < c.mPriority) then some c
          else some best
      else result)
    none

/-- The address and the port that the sections are printed with. -/
def addrPort (d : Description) : Text × ℕ :=
  match d.defaultCandidate.bind Candidate.resolution with
  | some r =>
    (bytes (if r.mFamily = .ipv6 then "IP6" else "IP4") ++ space :: r.mAddress, r.mPort.toNat)
  | none => (bytes "IP4 0.0.0.0", 9)

/-- The line of a group of sections, if there are any. -/
def groupLines (semantics : Text) (sections : List Section) : List Text :=
  if sections = [] then []
  else
    [attributeLine (bytes "group")
      (semantics ++ sections.flatMap fun s => space :: s.entry.mMid)]

/-- The sections that are not removed. -/
def kept (d : Description) : List Section := d.mEntries.filter fun s => !s.entry.mIsRemoved

/-- `generateSdp`: the header. -/
def headerLines (d : Description) : List Text :=
  [bytes "v=0",
    bytes "o=" ++ (d.mUsername ++ space :: (d.mSessionId ++ bytes " 0 IN IP4 127.0.0.1")),
    bytes "s=-", bytes "t=0 0"]

/-- `generateSdp`: the attributes of the session. -/
def sessionLines (d : Description) : List Text :=
  groupLines (bytes "BUNDLE") d.kept ++
    groupLines (bytes "LS") (d.kept.filter fun s => !s.isApplication) ++
    bytes "a=msid-semantic:WMS *" ::
      ((if d.mIceOptions = [] then []
        else [attributeLine (bytes "ice-options") (Utils.implode d.mIceOptions comma)]) ++
      (d.mFingerprint.toList.map fun f =>
        attributeLine (bytes "fingerprint") (f.algorithm.identifier ++ space :: f.value)) ++
      d.mAttributes.map (bytes "a=" ++ ·))

/-- `generateSdp`: the attributes of the session that every section has. -/
def transportLines (d : Description) : List Text :=
  attributeLine (bytes "setup") (roleText d.mRole) ::
    ((d.mIceUfrag.toList.map fun ufrag => attributeLine (bytes "ice-ufrag") ufrag) ++
      d.mIcePwd.toList.map fun pwd => attributeLine (bytes "ice-pwd") pwd)

/-- `generateSdp`: the candidates. -/
def candidateLines (d : Description) : List Text :=
  d.mCandidates.map Candidate.line ++ if d.mEnded then [bytes "a=end-of-candidates"] else []

/-- `generateSdp`: the sections. The candidates stand in the first one that is not removed. -/
def entryLines (d : Description) (first : Bool) : List Section → List Text
  | [] => []
  | s :: sections =>
    s.generateSdp d.addrPort.1 d.addrPort.2 ++ d.transportLines ++
      (if !s.entry.mIsRemoved && first then d.candidateLines else []) ++
      d.entryLines (s.entry.mIsRemoved && first) sections

/-- The lines of `generateSdp`. -/
def sdpLines (d : Description) : List Text :=
  d.headerLines ++ d.sessionLines ++ d.entryLines true d.mEntries

/-- `generateSdp`. -/
def generateSdp (d : Description) (eol : Text) : Text := d.sdpLines.flatMap (· ++ eol)

/-! ## Parsing -/

/-- The constructor at work: `index` counts the media lines from zero. -/
structure Parser where
  description : Description
  index : ℤ := -1

namespace Parser

/-- The origin line. -/
def parseOrigin (d : Description) (origin : Text) : Description :=
  match word origin with
  | none => d
  | some (mUsername, rest) =>
    match word rest with
    | none => { d with mUsername }
    | some (mSessionId, _) => { d with mUsername, mSessionId }

/-- The attribute `setup`. -/
def parseSetup (value : Text) : Role :=
  if value = bytes "active" then .active
  else if value = bytes "passive" then .passive
  else .actPass

/-- The attribute `fingerprint`. -/
def parseFingerprint (d : Description) (value : Text) : Except Exception Description :=
  match Utils.explode value space with
  | [first, second] =>
    match Algorithm.ofIdentifier (first.map toLower) with
    | some algorithm => d.setFingerprint { algorithm, value := second }
    | none => .ok d
  | _ => .ok d

/-- `current->parseSdpLine`. -/
def parseCurrent (d : Description) (line : Text) : Except Exception Description :=
  match d.mEntries.getLast? with
  | some current => do
    return { d with mEntries := d.mEntries.dropLast ++ [← current.parseSdpLine line] }
  | none => .ok d

/-- An attribute that belongs to the current section, or to the session before the first one. -/
def parseOther (d : Description) (line : Text) : Except Exception Description :=
  if d.mEntries = [] then .ok { d with mAttributes := d.mAttributes ++ [line.drop 2] }
  else parseCurrent d line

/-- An attribute line. The first section overrides the session. -/
def parseAttribute (d : Description) (index : ℤ) (line : Text) : Except Exception Description :=
  let attr := line.drop 2
  let (key, value) := parsePair attr
  if key = bytes "setup" then .ok { d with mRole := parseSetup value }
  else if key = bytes "fingerprint" then
    if d.mFingerprint = none ∨ index = 0 then parseFingerprint d value else .ok d
  else if key = bytes "ice-ufrag" then
    .ok (if d.mIceUfrag = none ∨ index = 0 then { d with mIceUfrag := some value } else d)
  else if key = bytes "ice-pwd" then
    .ok (if d.mIcePwd = none ∨ index = 0 then { d with mIcePwd := some value } else d)
  else if key = bytes "ice-options" then
    .ok (if d.mIceOptions = [] then { d with mIceOptions := Utils.explode value comma } else d)
  else if key = bytes "candidate" then do return d.addCandidate (← Candidate.ofText attr)
  else if key = bytes "end-of-candidates" then .ok d.endCandidates
  else parseOther d line

/-- A line that is trimmed and not empty. -/
def parseLine (p : Parser) (line : Text) : Except Exception Parser :=
  if matchPrefix line (bytes "m=") then do
    let index := p.index + 1
    return { description := ← p.description.createEntry (line.drop 2) (toString index) .unknown
             index }
  else if matchPrefix line (bytes "o=") then
    .ok { p with description := parseOrigin p.description (line.drop 2) }
  else if matchPrefix line (bytes "a=") then do
    return { p with description := ← parseAttribute p.description p.index line }
  else do return { p with description := ← parseCurrent p.description line }

end Parser

/-- The lines of a text, trimmed, without the empty ones. -/
def lines (sdp : Text) : List Text := ((Utils.explode sdp lf).map trimEnd).filter (· ≠ [])

/-- The end of the constructor. `random` is drawn for the session identifier. -/
def finish (d : Description) (random : UInt32) : Description :=
  { d with
    mUsername := if d.mUsername = [] then bytes "rtc" else d.mUsername
    mSessionId := if d.mSessionId = [] then toString random.toNat else d.mSessionId }

/-- The constructor from a text. -/
def parse (sdp : Text) (type : Kind) (role : Role) (random : UInt32) :
    Except Exception Description := do
  let start : Parser := { description := hintType { mRole := role } type }
  let p ← (lines sdp).foldlM Parser.parseLine start
  return p.description.finish random

/-! ## Calls -/

/-- The calls that build a description. The section of a call is given by its index. -/
inductive Call where
  | addApplication (mid : Text)
  | addAudio (mid : Text) (dir : Direction)
  | addVideo (mid : Text) (dir : Direction)
  | addMedia (mline mid : Text) (dir : Direction)
  | addIceOption (option : Text)
  | setFingerprint (f : CertificateFingerprint)
  | addCandidate (candidate : Text)
  | endCandidates
  | setDirection (index : ℕ) (dir : Direction)
  | markRemoved (index : ℕ)
  | addExtMap (index : ℕ) (map : ExtMap)
  | setSctpPort (index : ℕ) (port : UInt16)
  | setMaxMessageSize (index : ℕ) (size : UInt64)
  | addSSRC (index : ℕ) (ssrc : UInt32) (name msid trackId : Option Text)
  | addRtpMap (index : ℕ) (map : RtpMap)
  | addAudioCodec (index : ℕ) (payloadType : CInt) (codec : Text) (profile : Option Text)
  | addVideoCodec (index : ℕ) (payloadType : CInt) (codec : Text) (profile : Option Text)
  | addRtxCodec (index : ℕ) (payloadType origPayloadType : CInt) (clockRate : UInt32)
  | addFeedback (index : ℕ) (payloadType : CInt) (fb : Text)
  | addParameter (index : ℕ) (payloadType : CInt) (p : Text)

/-- `media`, and a change of the section. -/
def updateSection (d : Description) (index : ℕ) (f : Section → Except Exception Section) :
    Except Exception Description :=
  match d.mEntries[index]? with
  | none => .error (.logicError "Media index out of range")
  | some s => do return { d with mEntries := d.mEntries.set index (← f s) }

/-- What a call does. -/
def apply (d : Description) : Call → Except Exception Description
  | .addApplication mid => d.addApplication mid
  | .addAudio mid dir => d.addAudio mid dir
  | .addVideo mid dir => d.addVideo mid dir
  | .addMedia mline mid dir => d.addMedia mline mid dir
  | .addIceOption option => .ok (d.addIceOption option)
  | .setFingerprint f => d.setFingerprint f
  | .addCandidate candidate => do return d.addCandidate (← Candidate.ofText candidate)
  | .endCandidates => .ok d.endCandidates
  | .setDirection i dir => d.updateSection i (Section.onEntry fun e => { e with mDirection := dir })
  | .markRemoved i => d.updateSection i (Section.onEntry fun e => { e with mIsRemoved := true })
  | .addExtMap i map => d.updateSection i (Section.onEntry fun e => e.addExtMap map)
  | .setSctpPort i port =>
    d.updateSection i (Section.onApplication fun a => { a with mSctpPort := some port })
  | .setMaxMessageSize i size =>
    d.updateSection i (Section.onApplication fun a => { a with mMaxMessageSize := some size })
  | .addSSRC i ssrc name msid trackId =>
    d.updateSection i (Section.onMedia fun m => .ok (m.addSSRC ssrc name msid trackId))
  | .addRtpMap i map => d.updateSection i (Section.onMedia fun m => .ok (m.addRtpMap map))
  | .addAudioCodec i payloadType codec profile =>
    d.updateSection i (Section.onMedia fun m => m.addAudioCodec payloadType codec profile)
  | .addVideoCodec i payloadType codec profile =>
    d.updateSection i (Section.onMedia fun m => m.addVideoCodec payloadType codec profile)
  | .addRtxCodec i payloadType origPayloadType clockRate =>
    d.updateSection i (Section.onMedia fun m => m.addRtxCodec payloadType origPayloadType clockRate)
  | .addFeedback i payloadType fb =>
    d.updateSection i (Section.onMedia fun m => m.updateRtpMap payloadType (·.addFeedback fb))
  | .addParameter i payloadType p =>
    d.updateSection i (Section.onMedia fun m => m.updateRtpMap payloadType (·.addParameter p))

/-- The description after a call. -/
def call (d : Description) (c : Call) : Description := (d.apply c).toOption.getD d

end Description

end Sdp

end Rtc
