import QuicRtc.Rtp.Pipeline
import QuicRtc.Srtp.Replay

/-!
# SRTP

`DtlsSrtpTransport` (`impl/dtlssrtptransport.cpp`) and the part of libSRTP (`srtp/srtp.c`) it rests
on: `srtp_protect` and `srtp_unprotect` with their counterparts for RTCP, for the counter mode
profiles and for the AEAD ones.

The ciphers, the authentication functions and the key derivation are parameters (`Protection`,
`Handshake`); `Protection.Lawful` is what the transport relies on. A session has one template stream
and one master key, no master key identifiers and no encrypted header extensions, as `postHandshake`
sets it up. The direction of a stream, the pending rollover counter, which nothing in the library
sets, and the event handlers and counters, which only log, are left out.
-/

namespace Rtc.Srtp

/-! ## Packets -/

/-- `hdr->cc` of an RTP packet. -/
def cc (pkt : List UInt8) : ℕ := (pkt.getD 0 0 &&& 0x0F).toNat

/-- `hdr->x` of an RTP packet. -/
def x (pkt : List UInt8) : Bool := pkt.getD 0 0 &&& 0x10 ≠ 0

/-- `ntohs(hdr->seq)` of an RTP packet. -/
def seq (pkt : List UInt8) : ℕ := BigEndian.decode ((pkt.drop 2).take 2)

/-- `hdr->ssrc` of an RTP packet. -/
def ssrc (pkt : List UInt8) : ℕ := BigEndian.decode ((pkt.drop 8).take 4)

/-- `ntohs(xtn_hdr->length)` of an RTP packet. -/
def xtnLength (pkt : List UInt8) : ℕ := BigEndian.decode ((pkt.drop (12 + 4 * cc pkt + 2)).take 2)

/-- `enc_start` of an RTP packet, as an offset. -/
def encStart (pkt : List UInt8) : ℕ :=
  12 + 4 * cc pkt + if x pkt then 4 * (xtnLength pkt + 1) else 0

/-- `hdr->ssrc` of an RTCP packet. -/
def rtcpSsrc (pkt : List UInt8) : ℕ := BigEndian.decode ((pkt.drop 4).take 4)

/-- `srtp_validate_rtp_header`. -/
def validateRtpHeader (pkt : List UInt8) : Except ErrStatus Unit :=
  if pkt.length < 12 then .error .badParam
  -- Check RTP header length
  else if pkt.length < 12 + 4 * cc pkt + (if x pkt then 4 else 0) then .error .badParam
  -- Verifying profile length
  else if x pkt ∧ pkt.length < 12 + 4 * cc pkt + 4 + xtnLength pkt * 4 then .error .badParam
  else .ok ()

/-! ## Keys -/

/-- The cipher and the authentication function for RTP, or for RTCP, set up with their keys. -/
structure Protection where
  /-- `srtp_auth_get_tag_length`. -/
  tagLength : ℕ
  /-- `srtp_cipher_encrypt` and `srtp_cipher_decrypt` of a counter mode cipher at an IV. -/
  crypt : List UInt8 → List UInt8 → List UInt8
  /-- `srtp_auth_compute`, cut to the length of a tag. -/
  auth : List UInt8 → List UInt8
  /-- `srtp_cipher_encrypt` and `srtp_cipher_get_tag` of an AEAD cipher, on an IV, the associated
  data and the plaintext. -/
  aeadEncrypt : List UInt8 → List UInt8 → List UInt8 → List UInt8 × List UInt8
  /-- `srtp_cipher_decrypt` of an AEAD cipher, which checks the tag. -/
  aeadDecrypt : List UInt8 → List UInt8 → List UInt8 → List UInt8 → Option (List UInt8)
  /-- The salt for the IV of an AEAD cipher. -/
  salt : List UInt8

/-- Decryption undoes encryption, ciphertexts are as long as the plaintext and tags are of the
agreed length. -/
structure Protection.Lawful (p : Protection) : Prop where
  length_crypt : ∀ iv data, (p.crypt iv data).length = data.length
  crypt_crypt : ∀ iv data, p.crypt iv (p.crypt iv data) = data
  length_auth : ∀ data, (p.auth data).length = p.tagLength
  length_aeadEncrypt : ∀ iv aad data, (p.aeadEncrypt iv aad data).1.length = data.length
  length_tag : ∀ iv aad data, (p.aeadEncrypt iv aad data).2.length = p.tagLength
  aeadDecrypt_aeadEncrypt : ∀ iv aad data,
    p.aeadDecrypt iv aad (p.aeadEncrypt iv aad data).1 (p.aeadEncrypt iv aad data).2 = some data

/-- `srtp_session_keys_t`. -/
structure SessionKeys where
  /-- `rtp_cipher->algorithm` is one of the GCM ciphers. -/
  isAead : Bool
  rtp : Protection
  rtcp : Protection

/-- What the transport relies on for both kinds of packets. -/
structure SessionKeys.Lawful (keys : SessionKeys) : Prop where
  rtp : keys.rtp.Lawful
  rtcp : keys.rtcp.Lawful

/-- `srtp_key_event_t`. -/
inductive KeyEvent where
  | normal
  | softLimit
  | hardLimit
  deriving DecidableEq, Repr

/-- `srtp_key_limit_update`, on `key->num_left`. -/
def keyLimitUpdate (numLeft : ℕ) : KeyEvent × ℕ :=
  let numLeft := if numLeft = 0 then 2 ^ 64 - 1 else numLeft - 1
  if 0x10000 ≤ numLeft then (.normal, numLeft)
  else if numLeft < 1 then (.hardLimit, numLeft)
  else (.softLimit, numLeft)

/-- The rollover counter of an index as it goes into the authentication function. -/
def rocBytes (est : ℕ) : List UInt8 := BigEndian.encode 4 (est / 2 ^ 16)

/-- The IV of an RTP packet in counter mode. -/
def icmIv (pkt : List UInt8) (est : ℕ) : List UInt8 :=
  BigEndian.encode 4 0 ++ BigEndian.encode 4 (ssrc pkt) ++ BigEndian.encode 8 (est * 2 ^ 16)

/-- `srtp_calc_aead_iv`. -/
def calcAeadIv (salt pkt : List UInt8) (est : ℕ) : List UInt8 :=
  List.zipWith (· ^^^ ·) salt (BigEndian.encode 2 0 ++ BigEndian.encode 4 (ssrc pkt) ++
    BigEndian.encode 4 (est / 2 ^ 16) ++ BigEndian.encode 2 est)

/-- The IV of an RTCP packet in counter mode. -/
def rtcpIcmIv (pkt : List UInt8) (seqNum : ℕ) : List UInt8 :=
  BigEndian.encode 4 0 ++ BigEndian.encode 4 (rtcpSsrc pkt) ++
    BigEndian.encode 4 (seqNum / 2 ^ 16) ++ BigEndian.encode 4 (seqNum * 2 ^ 16)

/-- `srtp_calc_aead_iv_srtcp`. -/
def calcAeadIvSrtcp (salt pkt : List UInt8) (seqNum : ℕ) : List UInt8 :=
  List.zipWith (· ^^^ ·) salt (BigEndian.encode 2 0 ++ BigEndian.encode 4 (rtcpSsrc pkt) ++
    BigEndian.encode 2 0 ++ BigEndian.encode 4 seqNum)

/-- What `srtp_protect` and `srtp_protect_aead` make of a packet once its index is known. -/
def sealRtp (keys : SessionKeys) (est : ℕ) (pkt : List UInt8) : List UInt8 :=
  let header := pkt.take (encStart pkt)
  let payload := pkt.drop (encStart pkt)
  if keys.isAead then
    let sealed := keys.rtp.aeadEncrypt (calcAeadIv keys.rtp.salt pkt est) header payload
    header ++ sealed.1 ++ sealed.2
  else
    let body := header ++ keys.rtp.crypt (icmIv pkt est) payload
    body ++ keys.rtp.auth (body ++ rocBytes est)

/-- The trailer of an SRTCP packet: the E bit and the index. -/
def srtcpTrailer (seqNum : ℕ) : List UInt8 := BigEndian.encode 4 (0x80000000 + seqNum)

/-- What `srtp_protect_rtcp` and `srtp_protect_rtcp_aead` make of a packet once its index is
known. -/
def sealRtcp (keys : SessionKeys) (seqNum : ℕ) (pkt : List UInt8) : List UInt8 :=
  let header := pkt.take 8
  let payload := pkt.drop 8
  if keys.isAead then
    let sealed := keys.rtcp.aeadEncrypt (calcAeadIvSrtcp keys.rtcp.salt pkt seqNum)
      (header ++ srtcpTrailer seqNum) payload
    header ++ sealed.1 ++ sealed.2 ++ srtcpTrailer seqNum
  else
    let body := header ++ keys.rtcp.crypt (rtcpIcmIv pkt seqNum) payload ++ srtcpTrailer seqNum
    body ++ keys.rtcp.auth body

/-! ## Streams -/

/-- `srtp_stream_ctx_t`, without the keys, which all streams of a session share. -/
structure Stream where
  ssrc : ℕ
  rtpRdbx : Rdbx
  rtcpRdb : Rdb

/-- The template stream of a session, with the key limit that its clones share. -/
structure Template where
  keys : SessionKeys
  windowSize : ℕ
  allowRepeatTx : Bool
  numLeft : ℕ

/-- `srtp_stream_clone`. -/
def Template.clone (t : Template) (ssrc : ℕ) : Stream where
  ssrc := ssrc
  rtpRdbx := .init t.windowSize
  rtcpRdb := .init

/-! ## Opening a packet -/

/-- The difference of two lengths as `unsigned int`, which wraps below zero. -/
def unsignedSub (length tagLength : ℕ) : ℕ :=
  if tagLength ≤ length then length - tagLength else 2 ^ 32 + length - tagLength

/-- `srtp_unprotect` from the tag on: the packet and what is left of the key limit. -/
def openRtpIcm (t : Template) (est : ℕ) (pkt : List UInt8) : Except ErrStatus (List UInt8) × ℕ :=
  let tagLength := t.keys.rtp.tagLength
  if unsignedSub pkt.length tagLength < encStart pkt then (.error .parseErr, t.numLeft)
  else
    let body := pkt.take (pkt.length - tagLength)
    let authTag := pkt.drop (pkt.length - tagLength)
    if t.keys.rtp.auth (body ++ rocBytes est) ≠ authTag then (.error .authFail, t.numLeft)
    else
      let update := keyLimitUpdate t.numLeft
      if update.1 = .hardLimit then (.error .keyExpired, update.2)
      else
        (.ok (body.take (encStart pkt) ++
          t.keys.rtp.crypt (icmIv pkt est) (body.drop (encStart pkt))), update.2)

/-- `srtp_unprotect_aead` up to the decryption: the packet and what is left of the key limit. -/
def openRtpAead (t : Template) (est : ℕ) (pkt : List UInt8) :
    Except ErrStatus (List UInt8) × ℕ :=
  let tagLength := t.keys.rtp.tagLength
  if unsignedSub pkt.length tagLength < encStart pkt then (.error .parseErr, t.numLeft)
  -- the encrypted payload must be at least as large as the tag
  else if pkt.length - encStart pkt < tagLength then (.error .cipherFail, t.numLeft)
  else
    let update := keyLimitUpdate t.numLeft
    if update.1 = .hardLimit then (.error .keyExpired, update.2)
    else
      let body := pkt.take (pkt.length - tagLength)
      match t.keys.rtp.aeadDecrypt (calcAeadIv t.keys.rtp.salt pkt est) (body.take (encStart pkt))
          (body.drop (encStart pkt)) (pkt.drop (pkt.length - tagLength)) with
      | none => (.error .authFail, update.2)
      | some payload => (.ok (body.take (encStart pkt) ++ payload), update.2)

/-- The part of `srtp_unprotect` between the check for replays and the update of the database. -/
def openRtp (t : Template) (est : ℕ) (pkt : List UInt8) : Except ErrStatus (List UInt8) × ℕ :=
  if t.keys.isAead then openRtpAead t est pkt else openRtpIcm t est pkt

/-- The rest of `srtp_unprotect_rtcp` after the checks of the length, for a stream with the given
database: the index and the packet. -/
def openRtcpIcm (t : Template) (rdb : Rdb) (pkt : List UInt8) :
    Except ErrStatus (ℕ × List UInt8) :=
  let tagLength := t.keys.rtcp.tagLength
  let body := pkt.take (pkt.length - tagLength)
  let trailer := body.drop (body.length - 4)
  if trailer.getD 0 0 &&& 0x80 = 0 then .error .cantCheck
  else
    let seqNum := BigEndian.decode trailer % 2 ^ 31
    match rdb.check seqNum with
    | .error e => .error e
    | .ok () =>
      if t.keys.rtcp.auth body ≠ pkt.drop (pkt.length - tagLength) then .error .authFail
      else
        let packet := body.take (body.length - 4)
        .ok (seqNum, packet.take 8 ++ t.keys.rtcp.crypt (rtcpIcmIv pkt seqNum) (packet.drop 8))

/-- `srtp_unprotect_rtcp_aead` up to the decryption: the index and the packet. -/
def openRtcpAead (t : Template) (rdb : Rdb) (pkt : List UInt8) :
    Except ErrStatus (ℕ × List UInt8) :=
  let tagLength := t.keys.rtcp.tagLength
  let body := pkt.take (pkt.length - 4)
  let trailer := pkt.drop (pkt.length - 4)
  let packet := body.take (body.length - tagLength)
  let authTag := body.drop (body.length - tagLength)
  let seqNum := BigEndian.decode trailer % 2 ^ 31
  match rdb.check seqNum with
  | .error e => .error e
  | .ok () =>
    let iv := calcAeadIvSrtcp t.keys.rtcp.salt pkt seqNum
    if trailer.getD 0 0 &&& 0x80 = 0 then
      -- not encrypted: the whole packet is associated data
      match t.keys.rtcp.aeadDecrypt iv (packet ++ trailer) [] authTag with
      | none => .error .authFail
      | some _ => .ok (seqNum, packet)
    else
      match t.keys.rtcp.aeadDecrypt iv (packet.take 8 ++ trailer) (packet.drop 8) authTag with
      | none => .error .authFail
      | some payload => .ok (seqNum, packet.take 8 ++ payload)

/-- The part of `srtp_unprotect_rtcp` that depends on the profile. -/
def openRtcp (t : Template) (rdb : Rdb) (pkt : List UInt8) : Except ErrStatus (ℕ × List UInt8) :=
  if t.keys.isAead then openRtcpAead t rdb pkt else openRtcpIcm t rdb pkt

/-! ## Sessions -/

/-- `srtp_ctx_t`. Without a template, no stream is ever in the list. -/
structure Session where
  streamList : List Stream := []
  streamTemplate : Option Template := none

namespace Session

/-- `srtp_get_stream`: walk down the list until the SSRC is found. -/
def getStream (s : Session) (ssrc : ℕ) : Option Stream :=
  s.streamList.find? fun stream => stream.ssrc = ssrc

/-- The stream that a packet belongs to, cloned from the template where there is none yet. -/
def streamFor (s : Session) (t : Template) (ssrc : ℕ) : Stream :=
  (s.getStream ssrc).getD (t.clone ssrc)

/-- A new stream is inserted at the head of the list. -/
def insertStream (s : Session) (t : Template) (ssrc : ℕ) : Session :=
  if (s.getStream ssrc).isSome then s
  else { s with streamList := t.clone ssrc :: s.streamList }

/-- What an assignment to the members of a stream does to the list. -/
def updateStream (s : Session) (stream : Stream) : Session :=
  { s with
    streamList := s.streamList.map fun old => if old.ssrc = stream.ssrc then stream else old }

/-- An update of the key limit. -/
def setNumLeft (s : Session) (numLeft : ℕ) : Session :=
  { s with streamTemplate := s.streamTemplate.map fun t => { t with numLeft } }

/-- `srtp_add_stream` for a policy with `ssrc_any_inbound` or `ssrc_any_outbound`, whose window is
checked in `srtp_stream_init`. -/
def addStream (s : Session) (keys : SessionKeys) (windowSize : ℕ) (allowRepeatTx : Bool) :
    Except ErrStatus Session :=
  if windowSize ≠ 0 ∧ (windowSize < 64 ∨ 0x8000 ≤ windowSize) then .error .badParam
  else if s.streamTemplate.isSome then .error .badParam
  else
    .ok { s with
      streamTemplate := some
        { keys
          windowSize := if windowSize = 0 then 128 else windowSize
          allowRepeatTx
          numLeft := 0xffffffffffff } }

/-! ## Protection -/

/-- `srtp_protect`, which goes through `srtp_protect_aead` in the same order. -/
def protect (s : Session) (pkt : List UInt8) : Except ErrStatus (List UInt8) × Session :=
  match validateRtpHeader pkt with
  | .error e => (.error e, s)
  | .ok () =>
    match s.streamTemplate with
    | none => (.error .noCtx, s)
    | some t =>
      let stream := s.streamFor t (ssrc pkt)
      let update := keyLimitUpdate t.numLeft
      let opened := (s.insertStream t (ssrc pkt)).setNumLeft update.2
      if update.1 = .hardLimit then (.error .keyExpired, opened)
      else if pkt.length < encStart pkt then (.error .parseErr, opened)
      else
        let estimate := stream.rtpRdbx.estimateIndex (seq pkt)
        let next := opened.updateStream
          { stream with rtpRdbx := stream.rtpRdbx.addIndex estimate.2 }
        match stream.rtpRdbx.check estimate.2 with
        | .ok () => (.ok (sealRtp t.keys estimate.1 pkt), next)
        | .error e =>
          if e ≠ .replayFail ∨ ¬t.allowRepeatTx then (.error e, opened)
          else (.ok (sealRtp t.keys estimate.1 pkt), next)

/-- `srtp_unprotect`. -/
def unprotect (s : Session) (pkt : List UInt8) : Except ErrStatus (List UInt8) × Session :=
  match validateRtpHeader pkt with
  | .error e => (.error e, s)
  | .ok () =>
    match s.streamTemplate with
    | none => (.error .noCtx, s)
    | some t =>
      -- for a provisional stream the estimate is the sequence number, and nothing is checked
      let estimate := match s.getStream (ssrc pkt) with
        | none => (seq pkt, (seq pkt : ℤ))
        | some stream => stream.rtpRdbx.estimateIndex (seq pkt)
      let checked : Except ErrStatus Unit := match s.getStream (ssrc pkt) with
        | none => .ok ()
        | some stream => stream.rtpRdbx.check estimate.2
      match checked with
      | .error e => (.error e, s)
      | .ok () =>
        let opened := openRtp t estimate.1 pkt
        match opened.1 with
        | .error e => (.error e, s.setNumLeft opened.2)
        | .ok plain =>
          let stream := s.streamFor t (ssrc pkt)
          (.ok plain, ((s.insertStream t (ssrc pkt)).setNumLeft opened.2).updateStream
            { stream with rtpRdbx := stream.rtpRdbx.addIndex estimate.2 })

/-- `srtp_protect_rtcp`, which goes through `srtp_protect_rtcp_aead` in the same order. -/
def protectRtcp (s : Session) (pkt : List UInt8) : Except ErrStatus (List UInt8) × Session :=
  if pkt.length < 8 then (.error .badParam, s)
  else
    match s.streamTemplate with
    | none => (.error .noCtx, s)
    | some t =>
      let stream := s.streamFor t (rtcpSsrc pkt)
      let opened := s.insertStream t (rtcpSsrc pkt)
      match stream.rtcpRdb.increment with
      | .error e => (.error e, opened)
      | .ok rtcpRdb =>
        (.ok (sealRtcp t.keys rtcpRdb.windowStart pkt),
          opened.updateStream { stream with rtcpRdb })

/-- `srtp_unprotect_rtcp`. The database of the template, which a provisional stream is checked
against, stays as `srtp_stream_init` made it. -/
def unprotectRtcp (s : Session) (pkt : List UInt8) : Except ErrStatus (List UInt8) × Session :=
  if pkt.length < 8 + 4 then (.error .badParam, s)
  else
    match s.streamTemplate with
    | none => (.error .noCtx, s)
    | some t =>
      let rdb := match s.getStream (rtcpSsrc pkt) with
        | none => .init
        | some stream => stream.rtcpRdb
      if pkt.length < 8 + t.keys.rtcp.tagLength + 4 then (.error .badParam, s)
      else
        match openRtcp t rdb pkt with
        | .error e => (.error e, s)
        | .ok (seqNum, plain) =>
          let stream := s.streamFor t (rtcpSsrc pkt)
          (.ok plain, (s.insertStream t (rtcpSsrc pkt)).updateStream
            { stream with rtcpRdb := stream.rtcpRdb.addIndex seqNum })

end Session

/-! ## The transport -/

/-- `srtp_profile_t`, the profiles that `getProfileParamsFromName` knows. -/
inductive Profile where
  | aes128CmSha1_80
  | aes128CmSha1_32
  | aeadAes128Gcm
  | aeadAes256Gcm
  deriving DecidableEq, Repr

/-- What the transport takes from the TLS library and from libSRTP. -/
structure Handshake where
  /-- `SSL_get_selected_srtp_profile`. -/
  profileName : Option String
  /-- `SSL_export_keying_material` for a length. -/
  exportKeyingMaterial : ℕ → Option (List UInt8)
  /-- `srtp_stream_init_keys`, for the policies of a profile. -/
  deriveKeys : Profile → List UInt8 → SessionKeys

end Rtc.Srtp

namespace Rtc

open Srtp

/-- A message for the network, with its differentiated services code point. -/
structure Datagram where
  data : List UInt8
  dscp : ℕ := 0
  deriving DecidableEq, Repr

/-- `DtlsSrtpTransport`, the part about media. -/
structure DtlsSrtpTransport where
  mIsClient : Bool
  mInitDone : Bool := false
  mSrtpIn : Srtp.Session := {}
  mSrtpOut : Srtp.Session := {}

namespace DtlsSrtpTransport

/-- `static_cast<int>(err)`. -/
def statusCode : ErrStatus → ℕ
  | .badParam => 2
  | .authFail => 7
  | .cipherFail => 8
  | .replayFail => 9
  | .replayOld => 10
  | .noCtx => 13
  | .cantCheck => 14
  | .keyExpired => 15
  | .parseErr => 21

/-- `getProfileParamsFromName`: the profile and the lengths of its key and salt. -/
def getProfileParamsFromName (name : String) : Except Exception (Profile × ℕ × ℕ) :=
  if name = "SRTP_AES128_CM_SHA1_80" then .ok (.aes128CmSha1_80, 16, 14)
  else if name = "SRTP_AES128_CM_SHA1_32" then .ok (.aes128CmSha1_32, 16, 14)
  else if name = "SRTP_AEAD_AES_128_GCM" then .ok (.aeadAes128Gcm, 16, 12)
  else if name = "SRTP_AEAD_AES_256_GCM" then .ok (.aeadAes256Gcm, 32, 12)
  else .error (.logicError ("Unknown SRTP profile name: " ++ name))

/-- `mClientSessionKey` and `mServerSessionKey` from the exported material: client key, server key,
client salt and server salt. -/
def sessionKeys (material : List UInt8) (keySize saltSize : ℕ) : List UInt8 × List UInt8 :=
  let clientKey := material.take keySize
  let serverKey := (material.drop keySize).take keySize
  let clientSalt := (material.drop (keySize + keySize)).take saltSize
  let serverSalt := (material.drop (keySize + keySize + saltSize)).take saltSize
  (clientKey ++ clientSalt, serverKey ++ serverSalt)

/-- `postHandshake` of the OpenSSL build. -/
def postHandshake (t : DtlsSrtpTransport) (net : Handshake) : Except Exception DtlsSrtpTransport :=
  if t.mInitDone then .ok t
  else
    match net.profileName with
    | none => .error (.runtimeError "Failed to get SRTP profile: ")
    | some name =>
      match getProfileParamsFromName name with
      | .error e => .error e
      | .ok (profile, keySize, saltSize) =>
        match net.exportKeyingMaterial ((keySize + saltSize) * 2) with
        | none => .error (.runtimeError "Failed to derive SRTP keys: ")
        | some material =>
          let (client, server) := sessionKeys material keySize saltSize
          let inbound := net.deriveKeys profile (if t.mIsClient then server else client)
          let outbound := net.deriveKeys profile (if t.mIsClient then client else server)
          match t.mSrtpIn.addStream inbound 1024 true with
          | .error err => .error (.runtimeError
              ("SRTP add inbound stream failed, status=" ++ toString (statusCode err)))
          | .ok mSrtpIn =>
            match t.mSrtpOut.addStream outbound 1024 true with
            | .error err => .error (.runtimeError
                ("SRTP add outbound stream failed, status=" ++ toString (statusCode err)))
            | .ok mSrtpOut => .ok { t with mInitDone := true, mSrtpIn, mSrtpOut }

/-- `sendMedia`: what is given to the transport below, if anything. -/
def sendMedia (t : DtlsSrtpTransport) (message : Option Datagram) :
    Except Exception (Option Datagram) × DtlsSrtpTransport :=
  match message with
  | none => (.ok none, t)
  | some message =>
    if ¬t.mInitDone then (.ok none, t)
    else if message.data.length < 8 then
      (.error (.runtimeError "RTP/RTCP packet too short"), t)
    else
      -- Set recommended medium-priority DSCP value unless the track has set one
      let dscp := if message.dscp = 0 then 36 else message.dscp
      if isRtcp message.data then
        match t.mSrtpOut.protectRtcp message.data with
        | (.error .replayFail, mSrtpOut) =>
          (.error (.runtimeError "Outgoing SRTCP packet is a replay"), { t with mSrtpOut })
        | (.error err, mSrtpOut) =>
          (.error (.runtimeError ("SRTCP protect error, status=" ++ toString (statusCode err))),
            { t with mSrtpOut })
        | (.ok data, mSrtpOut) => (.ok (some { data, dscp }), { t with mSrtpOut })
      else
        match t.mSrtpOut.protect message.data with
        | (.error .replayFail, mSrtpOut) =>
          (.error (.runtimeError "Outgoing SRTP packet is a replay"), { t with mSrtpOut })
        | (.error err, mSrtpOut) =>
          (.error (.runtimeError ("SRTP protect error, status=" ++ toString (statusCode err))),
            { t with mSrtpOut })
        | (.ok data, mSrtpOut) => (.ok (some { data, dscp }), { t with mSrtpOut })

/-- `recvMedia`: what `mSrtpRecvCallback` is called with, if it is. -/
def recvMedia (t : DtlsSrtpTransport) (message : List UInt8) :
    Option Message × DtlsSrtpTransport :=
  if message.length < 8 then (none, t)
  else if isRtcp message then
    match t.mSrtpIn.unprotectRtcp message with
    | (.error _, mSrtpIn) => (none, { t with mSrtpIn })
    | (.ok data, mSrtpIn) =>
      (some { data, type := .control, stream := BigEndian.decode ((data.drop 4).take 4) },
        { t with mSrtpIn })
  else
    match t.mSrtpIn.unprotect message with
    | (.error _, mSrtpIn) => (none, { t with mSrtpIn })
    | (.ok data, mSrtpIn) =>
      (some { data, type := .binary, stream := (RtpHeader.read data).ssrc.toNat },
        { t with mSrtpIn })

/-- `demuxMessage`: whether the message has been dealt with, and what `recvMedia` does. -/
def demuxMessage (t : DtlsSrtpTransport) (message : List UInt8) :
    Bool × Option Message × DtlsSrtpTransport :=
  if ¬t.mInitDone then (false, none, t)
  else
    match message with
    | [] => (false, none, t)
    | value1 :: _ =>
      if 20 ≤ value1 ∧ value1 ≤ 63 then (false, none, t)
      else if 128 ≤ value1 ∧ value1 ≤ 191 then (true, t.recvMedia message)
      else (true, none, t)

end DtlsSrtpTransport
end Rtc
