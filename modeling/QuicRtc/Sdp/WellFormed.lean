import QuicRtc.Sdp.Description

/-!
# Descriptions that are built by calls

`Description.WellFormed` says what the texts of a description look like: tokens, words and lines,
SSRCs that were added once, and at most one application section. `Call.Allowed` says the same of
the arguments of a call.

* `Description.wellFormed_call`: an allowed call keeps the description well formed.
* `Built.wellFormed`: so is every description that is built by allowed calls.
-/

namespace Rtc

namespace Sdp

open Http (space lf cr colon)
open WsHandshake (isSpace)
open LocalDescription (Direction)

/-! ## Texts -/

/-- A word without colon, comma and slash. -/
structure IsToken (s : Text) : Prop extends IsWord s where
  colon_notMem : colon ∉ s
  comma_notMem : comma ∉ s
  slash_notMem : slash ∉ s

/-- A text, maybe empty, without line breaks and without white space at its ends. -/
structure IsPlain (s : Text) : Prop where
  cr_notMem : cr ∉ s
  lf_notMem : lf ∉ s
  head : ∀ c ∈ s.head?, isSpace c = false
  last : ∀ c ∈ s.getLast?, isSpace c = false

/-- A text, maybe empty, without line feed and without white space at its end. -/
structure IsTail (s : Text) : Prop where
  lf_notMem : lf ∉ s
  last : ∀ c ∈ s.getLast?, isSpace c = false

theorem IsTail.isLine {s : Text} (h : IsTail s) (hne : s ≠ []) : IsLine s := ⟨hne, h.1, h.2⟩

theorem IsLine.isTail {s : Text} (h : IsLine s) : IsTail s := ⟨h.2, h.3⟩

theorem IsPlain.isTail {s : Text} (h : IsPlain s) : IsTail s := ⟨h.2, h.4⟩

theorem IsPlain.isLine {s : Text} (h : IsPlain s) (hne : s ≠ []) : IsLine s := h.isTail.isLine hne

theorem IsLine.isPlain {s : Text} (h : IsLine s) (hcr : cr ∉ s)
    (hhead : s.head?.all (!isSpace ·) = true) : IsPlain s where
  cr_notMem := hcr
  lf_notMem := h.lf_notMem
  head c hc := by
    rw [hc] at hhead
    simpa using hhead
  last := h.last

theorem isPlain_nil : IsPlain [] where
  cr_notMem := List.not_mem_nil
  lf_notMem := List.not_mem_nil
  head c hc := by cases hc
  last c hc := by cases hc

theorem IsWord.isPlain {s : Text} (h : IsWord s) : IsPlain s where
  cr_notMem hmem := absurd (h.not_space cr hmem) (by decide)
  lf_notMem := h.lf_notMem
  head c hc := h.not_space c (List.mem_of_mem_head? hc)
  last c hc := h.not_space c (List.mem_of_getLast? hc)

/-! ## Sections -/

/-- An extension whose URI is a word. -/
structure ExtMap.WellFormed (map : ExtMap) : Prop where
  uri : IsWord map.uri
  attributes : IsPlain map.attributes

/-- An RTP map whose format is a token and whose parameters stay on their lines. -/
structure RtpMap.WellFormed (map : RtpMap) : Prop where
  format : IsToken map.format
  encParams : IsPlain map.encParams
  rtcpFbs : ∀ fb ∈ map.rtcpFbs, IsPlain fb
  fmtps : ∀ fmtp ∈ map.fmtps, IsPlain fmtp

/-- An RTP map whose format ends at its slash and whose other texts stay on their lines. -/
structure RtpMap.Printable (map : RtpMap) : Prop where
  slash_notMem : slash ∉ map.format
  lf_notMem : lf ∉ map.format
  encParams : IsTail map.encParams
  rtcpFbs : ∀ fb ∈ map.rtcpFbs, IsTail fb
  fmtps : ∀ fmtp ∈ map.fmtps, IsTail fmtp

theorem RtpMap.WellFormed.printable {map : RtpMap} (h : map.WellFormed) : map.Printable where
  slash_notMem := h.format.slash_notMem
  lf_notMem := h.format.lf_notMem
  encParams := h.encParams.isTail
  rtcpFbs fb hfb := (h.rtcpFbs fb hfb).isTail
  fmtps fmtp hfmtp := (h.fmtps fmtp hfmtp).isTail

/-- The arguments of `addSSRC`. -/
structure Ssrc where
  ssrc : UInt32
  name : Option Text
  msid : Option Text
  trackId : Option Text

namespace Ssrc

/-- The attributes that `addSSRC` adds. -/
def attributes (s : Ssrc) : List Text := Media.ssrcAttributes s.ssrc s.name s.msid s.trackId

/-- The entry of `mCNameMap` that `addSSRC` adds. -/
def cname (s : Ssrc) : Option (UInt32 × Text) := s.name.map (s.ssrc, ·)

structure WellFormed (s : Ssrc) : Prop where
  name : ∀ name ∈ s.name, IsToken name
  msid : ∀ msid ∈ s.msid, IsToken msid
  trackId : ∀ trackId ∈ s.trackId, IsToken trackId

end Ssrc

/-- The section has the attributes, the SSRCs and the names that these calls of `addSSRC` add. -/
structure Media.HasSsrcs (m : Media) (ssrcs : List Ssrc) : Prop where
  attributes : m.mAttributes = ssrcs.flatMap Ssrc.attributes
  mSsrcs : m.mSsrcs = ssrcs.map Ssrc.ssrc
  names : m.mCNameMap = ssrcs.filterMap Ssrc.cname
  nodup : (ssrcs.map Ssrc.ssrc).Nodup
  wellFormed : ∀ s ∈ ssrcs, s.WellFormed

structure Entry.WellFormed (e : Entry) : Prop where
  protocol : IsWord e.mProtocol
  mid : IsToken e.mMid
  direction : e.mDirection ≠ .unknown
  extMaps : ∀ entry ∈ e.mExtMaps.entries, entry.1 = entry.2.id ∧ entry.2.WellFormed
  rids : e.mRids = []

structure Application.WellFormed (a : Application) : Prop extends a.toEntry.WellFormed where
  type : a.mType = bytes "application"
  description : a.mDescription = bytes "webrtc-datachannel"
  attributes : a.mAttributes = []

/-- The type of a media section, behind which the parser finds the section again. -/
structure IsMediaType (mType : Text) : Prop extends IsWord mType where
  ne_application : mType ≠ bytes "application"
  not_prefix : matchPrefix mType (bytes "m=") = false

structure Media.WellFormed (m : Media) : Prop extends m.toEntry.WellFormed where
  type : IsMediaType m.mType
  mBas : m.mBas = CInt.unset
  rtpMaps : ∀ entry ∈ m.mRtpMaps.entries, entry.1 = entry.2.payloadType ∧ entry.2.WellFormed
  ssrcs : ∃ ssrcs, m.HasSsrcs ssrcs

/-- The parts of a section are well formed. -/
def Section.WellFormed : Section → Prop
  | .application a => a.WellFormed
  | .media m => m.WellFormed

/-! ## Descriptions -/

/-- A fingerprint as `setFingerprint` stores it. -/
structure CertificateFingerprint.WellFormed (f : CertificateFingerprint) : Prop where
  sha256 : f.algorithm = .sha256
  valid : f.isValid = true
  upper : f.value.map toUpper = f.value

namespace Description

structure WellFormed (d : Description) : Prop where
  username : IsWord d.mUsername
  sessionId : IsWord d.mSessionId
  attributes : d.mAttributes = []
  iceOptions : ∀ option ∈ d.mIceOptions, IsToken option
  iceUfrag : ∀ ufrag ∈ d.mIceUfrag, IsToken ufrag
  icePwd : ∀ pwd ∈ d.mIcePwd, IsToken pwd
  fingerprint : ∀ f ∈ d.mFingerprint, f.WellFormed
  sections : ∀ s ∈ d.mEntries, s.WellFormed
  oneApplication : d.mEntries.countP Section.isApplication ≤ 1
  candidates : ∀ c ∈ d.mCandidates, c.WellFormed
  distinct : d.mCandidates.Pairwise fun c other => c.same other = false

/-- The arguments of a call: Mids, names, formats and options are tokens, feedback and format
parameters are plain, the direction is known, and an SSRC is added once. -/
def Call.Allowed (d : Description) : Call → Prop
  | .addApplication mid => IsToken mid
  | .addAudio mid dir => IsToken mid ∧ dir ≠ .unknown
  | .addVideo mid dir => IsToken mid ∧ dir ≠ .unknown
  | .addMedia mline mid dir =>
    (∀ e, Entry.ofMLine mline mid dir = .ok e → IsMediaType e.mType) ∧ IsToken mid ∧
      dir ≠ .unknown
  | .addIceOption option => IsToken option
  | .setFingerprint f => f.algorithm = .sha256
  | .addCandidate _ => True
  | .endCandidates => True
  | .setDirection _ dir => dir ≠ .unknown
  | .markRemoved _ => True
  | .addExtMap _ map => map.WellFormed
  | .setSctpPort _ _ => True
  | .setMaxMessageSize _ _ => True
  | .addSSRC i ssrc name msid trackId =>
    Ssrc.WellFormed { ssrc, name, msid, trackId } ∧
      ∀ m, d.mEntries[i]? = some (.media m) → ssrc ∉ m.mSsrcs
  | .addRtpMap _ map => map.WellFormed
  | .addAudioCodec _ _ codec profile => IsToken codec ∧ ∀ p ∈ profile, IsPlain p
  | .addVideoCodec _ _ codec profile => IsToken codec ∧ ∀ p ∈ profile, IsPlain p
  | .addRtxCodec _ _ _ _ => True
  | .addFeedback _ _ fb => IsPlain fb
  | .addParameter _ _ p => IsPlain p

/-- A description before any call: the constructor sets the type, the role, the user name and the
session identifier, and the ICE credentials, if the text has any. -/
def start (type : Kind) (role : Role) (ufrag pwd : Option Text) (random : UInt32) : Description :=
  { mType := type, mRole := role, mUsername := bytes "rtc", mSessionId := toString random.toNat
    mIceUfrag := ufrag, mIcePwd := pwd }

/-- The description is built by a sequence of allowed calls. -/
inductive Built : Description → Prop
  | start {type : Kind} {role : Role} {ufrag pwd : Option Text} {random : UInt32}
      (hufrag : ∀ text ∈ ufrag, IsToken text) (hpwd : ∀ text ∈ pwd, IsToken text) :
      Built (start type role ufrag pwd random)
  | call {d : Description} {c : Call} (hd : Built d) (hc : c.Allowed d) : Built (d.call c)

end Description

/-! ## Calls on the parts of a section -/

theorem Entry.wellFormed_addExtMap {e : Entry} {map : ExtMap} (h : e.WellFormed)
    (hmap : map.WellFormed) : (e.addExtMap map).WellFormed where
  protocol := h.protocol
  mid := h.mid
  direction := h.direction
  extMaps entry hentry := by
    rcases OrderedMap.mem_emplace hentry with rfl | hold
    · exact ⟨rfl, hmap⟩
    · exact h.extMaps entry hold
  rids := h.rids

theorem RtpMap.wellFormed_addFeedback {map : RtpMap} {fb : Text} (h : map.WellFormed)
    (hfb : IsPlain fb) : (map.addFeedback fb).WellFormed := by
  rw [addFeedback]
  split_ifs
  · exact h
  · exact ⟨h.format, h.encParams, List.forall_mem_append.2 ⟨h.rtcpFbs, by simpa using hfb⟩,
      h.fmtps⟩

theorem RtpMap.wellFormed_addParameter {map : RtpMap} {p : Text} (h : map.WellFormed)
    (hp : IsPlain p) : (map.addParameter p).WellFormed := by
  rw [addParameter]
  split_ifs
  · exact h
  · exact ⟨h.format, h.encParams, h.rtcpFbs, List.forall_mem_append.2 ⟨h.fmtps, by simpa using hp⟩⟩

/-- The parameters that a codec is added with. -/
theorem RtpMap.wellFormed_profile {map : RtpMap} {profile : List Text} (h : map.WellFormed)
    (hprofile : ∀ p ∈ profile, IsPlain p) :
    RtpMap.WellFormed { map with fmtps := map.fmtps ++ profile } :=
  ⟨h.format, h.encParams, h.rtcpFbs, List.forall_mem_append.2 ⟨h.fmtps, hprofile⟩⟩

namespace RtpMap

/-- A payload type and a format are read in front of the clock rate. -/
theorem setDescription_append (map : RtpMap) (payloadType : CInt) {format : Text}
    (hformat : slash ∉ format) (line : Text) :
    map.setDescription (toString payloadType ++ space :: (format ++ slash :: line)) =
      setClockRate { map with payloadType, format } line := by
  have hspace : space ∉ toString payloadType := (isWord_toString _).space_notMem
  have hint : toInt (toString payloadType) = .ok payloadType := by
    simpa using toInt_toString payloadType noDigit_nil
  rw [setDescription, upTo_append hspace]
  simp only [hint, upTo_append hformat]
  rfl

/-- Only the clock rate is set. -/
theorem setClockRate_of_notMem {map map' : RtpMap} {line : Text} (hslash : slash ∉ line)
    (hspace : space ∉ line) (h : map.setClockRate line = .ok map') :
    ∃ clockRate, map' = { map with clockRate } := by
  rw [setClockRate, upTo_of_notMem hslash, upTo_of_notMem hspace] at h
  obtain ⟨clockRate, -, h⟩ := bind_eq_ok.1 h
  exact ⟨clockRate, (Except.ok.inj h).symm⟩

/-- The clock rate and the encoding parameters are set. -/
theorem setClockRate_append {map map' : RtpMap} {clock encParams : Text} (hclock : slash ∉ clock)
    (h : map.setClockRate (clock ++ slash :: encParams) = .ok map') :
    ∃ clockRate, map' = { map with clockRate, encParams } := by
  rw [setClockRate, upTo_append hclock] at h
  obtain ⟨clockRate, -, h⟩ := bind_eq_ok.1 h
  exact ⟨clockRate, (Except.ok.inj h).symm⟩

/-- The map of a codec has no parameters yet. -/
theorem wellFormed_codec {payloadType : CInt} {codec line : Text} {map : RtpMap}
    (hcodec : IsToken codec)
    (hline : (slash ∉ line ∧ space ∉ line) ∨
      ∃ clock encParams, line = clock ++ slash :: encParams ∧ slash ∉ clock ∧ IsPlain encParams)
    (h : ofDescription (toString payloadType ++ space :: (codec ++ slash :: line)) = .ok map) :
    map.WellFormed := by
  rw [ofDescription, setDescription_append _ _ hcodec.slash_notMem] at h
  rcases hline with ⟨hslash, hspace⟩ | ⟨clock, encParams, rfl, hclock, hplain⟩
  · obtain ⟨clockRate, rfl⟩ := setClockRate_of_notMem hslash hspace h
    exact ⟨hcodec, isPlain_nil, fun _ hmem => (List.not_mem_nil hmem).elim,
      fun _ hmem => (List.not_mem_nil hmem).elim⟩
  · obtain ⟨clockRate, rfl⟩ := setClockRate_append hclock h
    exact ⟨hcodec, hplain, fun _ hmem => (List.not_mem_nil hmem).elim,
      fun _ hmem => (List.not_mem_nil hmem).elim⟩

end RtpMap

namespace Media

variable {m m' : Media}

/-- Only the attributes, the SSRCs and the names count. -/
theorem HasSsrcs.of_eq {ssrcs : List Ssrc} (h : m.HasSsrcs ssrcs)
    (hattributes : m'.mAttributes = m.mAttributes) (hssrcs : m'.mSsrcs = m.mSsrcs)
    (hnames : m'.mCNameMap = m.mCNameMap) : m'.HasSsrcs ssrcs where
  attributes := hattributes.trans h.attributes
  mSsrcs := hssrcs.trans h.mSsrcs
  names := hnames.trans h.names
  nodup := h.nodup
  wellFormed := h.wellFormed

theorem wellFormed_addRtpMap {map : RtpMap} (h : m.WellFormed) (hmap : map.WellFormed) :
    (m.addRtpMap map).WellFormed where
  toWellFormed := h.toWellFormed
  type := h.type
  mBas := h.mBas
  rtpMaps entry hentry := by
    rcases OrderedMap.mem_emplace hentry with rfl | hold
    · exact ⟨rfl, hmap⟩
    · exact h.rtpMaps entry hold
  ssrcs := h.ssrcs.imp fun _ hssrcs => hssrcs.of_eq rfl rfl rfl

theorem wellFormed_updateRtpMap {payloadType : CInt} {f : RtpMap → RtpMap} (h : m.WellFormed)
    (hf : ∀ map : RtpMap, map.WellFormed →
      (f map).WellFormed ∧ (f map).payloadType = map.payloadType)
    (hm : m.updateRtpMap payloadType f = .ok m') : m'.WellFormed := by
  rw [updateRtpMap] at hm
  split at hm
  · cases hm
  · obtain rfl := Except.ok.inj hm
    refine ⟨h.toWellFormed, h.type, h.mBas, fun entry hentry => ?_,
      h.ssrcs.imp fun _ hssrcs => hssrcs.of_eq rfl rfl rfl⟩
    obtain ⟨map, hmem, hvalue⟩ := OrderedMap.mem_modify hentry
    obtain ⟨hkey, hmap⟩ := h.rtpMaps (entry.1, map) hmem
    obtain ⟨hfmap, htype⟩ := hf map hmap
    rcases hvalue with hvalue | ⟨-, hvalue⟩
    · rw [hvalue]
      exact ⟨hkey, hmap⟩
    · rw [hvalue, htype]
      exact ⟨hkey, hfmap⟩

/-- The name of a new SSRC is inserted. -/
theorem emplaceCName_of_forall_ne {names : List (UInt32 × Text)} {ssrc : UInt32}
    (h : ∀ entry ∈ names, entry.1 ≠ ssrc) (cname : Option Text) :
    emplaceCName names ssrc cname = names ++ (cname.map (ssrc, ·)).toList := by
  cases cname with
  | none => exact (List.append_nil names).symm
  | some cname =>
    have hany : ¬(names.any fun entry => decide (entry.1 = ssrc)) = true := by
      rw [List.any_eq_true]
      rintro ⟨entry, hentry, heq⟩
      exact h entry hentry (of_decide_eq_true heq)
    rw [emplaceCName, if_neg hany]
    rfl

/-- The names belong to the SSRCs. -/
theorem HasSsrcs.ne_of_notMem {ssrcs : List Ssrc} (h : m.HasSsrcs ssrcs) {ssrc : UInt32}
    (hnew : ssrc ∉ m.mSsrcs) : ∀ entry ∈ m.mCNameMap, entry.1 ≠ ssrc := by
  rintro entry hentry rfl
  obtain ⟨s, hs, hcname⟩ := List.mem_filterMap.1 (h.names ▸ hentry)
  obtain ⟨name, -, rfl⟩ := Option.map_eq_some_iff.1 hcname
  rw [h.mSsrcs] at hnew
  exact hnew (List.mem_map.2 ⟨s, hs, rfl⟩)

/-- A new SSRC is added at the end. -/
theorem hasSsrcs_addSSRC {ssrcs : List Ssrc} {s : Ssrc} (h : m.HasSsrcs ssrcs)
    (hs : s.WellFormed) (hnew : s.ssrc ∉ m.mSsrcs) :
    (m.addSSRC s.ssrc s.name s.msid s.trackId).HasSsrcs (ssrcs ++ [s]) := by
  have hssrcs : s.ssrc ∉ ssrcs.map Ssrc.ssrc := h.mSsrcs ▸ hnew
  refine ⟨?_, ?_, ?_, ?_, ?_⟩
  · rw [List.flatMap_append, List.flatMap_singleton, ← h.attributes]
    rfl
  · rw [List.map_append, List.map_singleton, ← h.mSsrcs]
    rfl
  · rw [List.filterMap_append, ← h.names]
    refine (emplaceCName_of_forall_ne (h.ne_of_notMem hnew) _).trans ?_
    cases hname : s.name <;> simp [Ssrc.cname, hname]
  · rw [List.map_append, List.map_singleton, List.nodup_append]
    refine ⟨h.nodup, by simp, fun a ha b hb => ?_⟩
    obtain rfl := List.mem_singleton.1 hb
    rintro rfl
    exact hssrcs ha
  · exact List.forall_mem_append.2 ⟨h.wellFormed, by simpa using hs⟩

theorem wellFormed_addSSRC {ssrc : UInt32} {name msid trackId : Option Text} (h : m.WellFormed)
    (hs : Ssrc.WellFormed { ssrc, name, msid, trackId }) (hnew : ssrc ∉ m.mSsrcs) :
    (m.addSSRC ssrc name msid trackId).WellFormed := by
  obtain ⟨ssrcs, hssrcs⟩ := h.ssrcs
  have hnext := hasSsrcs_addSSRC hssrcs hs hnew
  exact ⟨⟨h.protocol, h.mid, h.direction, h.extMaps, h.rids⟩, h.type, h.mBas, h.rtpMaps,
    _, hnext⟩

/-- The media line of a section gives its type and its protocol. -/
theorem wellFormed_ofMLine {mline mid : Text} {dir : Direction}
    (htype : ∀ e, Entry.ofMLine mline mid dir = .ok e → IsMediaType e.mType) (hmid : IsToken mid)
    (hdir : dir ≠ .unknown) (h : ofMLine mline mid dir = .ok m) : m.WellFormed := by
  obtain ⟨e, he, h⟩ := bind_eq_ok.1 h
  obtain rfl := Except.ok.inj h
  have hmtype := htype e he
  rw [Entry.ofMLine] at he
  split at he
  · cases he
  · rename_i mType port mProtocol mDescription hread
    obtain rfl := Except.ok.inj he
    have hprotocol : IsWord mProtocol := by
      simp only [Entry.readMLine, Option.bind_eq_bind, Option.bind_eq_some_iff,
        Prod.exists] at hread
      obtain ⟨_, _, -, _, _, -, _, _, hprotocol, hread⟩ := hread
      obtain ⟨rfl, rfl, rfl, rfl⟩ : _ = mType ∧ _ = port ∧ _ = mProtocol ∧ _ = mDescription := by
        simpa using hread
      exact isWord_of_word hprotocol
    exact ⟨⟨hprotocol, hmid, hdir, fun _ hmem => (List.not_mem_nil hmem).elim, rfl⟩, hmtype, rfl,
      fun _ hmem => (List.not_mem_nil hmem).elim, [], rfl, rfl, rfl, List.nodup_nil,
      fun _ hmem => (List.not_mem_nil hmem).elim⟩

end Media

/-! ## Calls on a description -/

namespace Description

variable {d d' : Description}

/-- A section is put in place of one of its kind. -/
theorem wellFormed_updateSection {i : ℕ} {f : Section → Except Exception Section}
    (h : d.WellFormed)
    (hf : ∀ s s', d.mEntries[i]? = some s → s.WellFormed → f s = .ok s' →
      s'.WellFormed ∧ s'.isApplication = s.isApplication)
    (hd : d.updateSection i f = .ok d') : d'.WellFormed := by
  rw [updateSection] at hd
  split at hd
  · cases hd
  · next s hs =>
    obtain ⟨s', hs', hd⟩ := bind_eq_ok.1 hd
    obtain rfl := Except.ok.inj hd
    obtain ⟨hlt, hget⟩ := List.getElem?_eq_some_iff.1 hs
    obtain ⟨hwf, happ⟩ := hf s s' hs (h.sections s (List.mem_of_getElem? hs)) hs'
    have hkinds : (d.mEntries.set i s').map Section.isApplication =
        d.mEntries.map Section.isApplication := by
      rw [List.map_set, happ, ← hget]
      exact List.ext_getElem (by simp) fun j hj _ => by
        rw [List.getElem_set]
        split_ifs with hij <;> simp [hij]
    have hcount : (d.mEntries.set i s').countP Section.isApplication =
        d.mEntries.countP Section.isApplication := by
      have := congrArg (List.countP id) hkinds
      rwa [List.countP_map, List.countP_map] at this
    refine { h with
      sections := fun other hother => ?_
      oneApplication := hcount ▸ h.oneApplication }
    rcases List.mem_or_eq_of_mem_set hother with hold | rfl
    · exact h.sections other hold
    · exact hwf

theorem wellFormed_addMedia {mline mid : Text} {dir : Direction} (h : d.WellFormed)
    (htype : ∀ e, Entry.ofMLine mline mid dir = .ok e → IsMediaType e.mType) (hmid : IsToken mid)
    (hdir : dir ≠ .unknown) (hd : d.addMedia mline mid dir = .ok d') : d'.WellFormed := by
  obtain ⟨m, hm, hd⟩ := bind_eq_ok.1 hd
  obtain rfl := Except.ok.inj hd
  refine { h with sections := ?_, oneApplication := ?_ }
  · refine List.forall_mem_append.2 ⟨h.sections, ?_⟩
    rw [List.forall_mem_singleton]
    exact Media.wellFormed_ofMLine htype hmid hdir hm
  · exact (List.countP_append ..).trans_le h.oneApplication

/-- No section of the kind is left when the only one is removed. -/
theorem countP_eraseP {sections : List Section} {p : Section → Bool} (h : sections.countP p ≤ 1) :
    (sections.eraseP p).countP p = 0 := by
  induction sections with
  | nil => rfl
  | cons s sections ih =>
    rw [List.countP_cons] at h
    rw [List.eraseP_cons]
    cases hs : p s with
    | true =>
      rw [hs, if_pos rfl] at h
      change sections.countP p = 0
      omega
    | false =>
      rw [hs, if_neg Bool.false_ne_true] at h
      change (s :: sections.eraseP p).countP p = 0
      rw [List.countP_cons_of_neg (by simp [hs]), ih h]

theorem isWord_application : IsWord (bytes "UDP/DTLS/SCTP") :=
  ⟨by decide, forall_mem_of_all (by decide)⟩

/-- The application section that is created from its constants. -/
def newApplication (mid : Text) : Application where
  mType := bytes "application"
  mProtocol := bytes "UDP/DTLS/SCTP"
  mDescription := bytes "webrtc-datachannel"
  mMid := mid
  mDirection := .sendRecv
  mIsRemoved := false

theorem ofMLine_application (mid : Text) :
    Application.ofMLine (bytes "application 9 UDP/DTLS/SCTP webrtc-datachannel") mid =
      .ok (newApplication mid) := by
  have hread : Entry.readMLine (bytes "application 9 UDP/DTLS/SCTP webrtc-datachannel") =
      some (bytes "application", 9, bytes "UDP/DTLS/SCTP", bytes "webrtc-datachannel") := by
    decide
  have hm : matchPrefix (bytes "application 9 UDP/DTLS/SCTP webrtc-datachannel")
      (bytes "m=") = false := by decide
  rw [Application.ofMLine, Entry.ofMLine, hm]
  simp only [Bool.false_eq_true, if_false, hread]
  rfl

theorem wellFormed_newApplication {mid : Text} (hmid : IsToken mid) :
    (newApplication mid).WellFormed :=
  ⟨⟨isWord_application, hmid, nofun, fun _ hmem => (List.not_mem_nil hmem).elim, rfl⟩, rfl, rfl,
    rfl⟩

/-- The new application section is the only one. -/
theorem wellFormed_addApplication {mid : Text} (h : d.WellFormed) (hmid : IsToken mid)
    (hd : d.addApplication mid = .ok d') : d'.WellFormed := by
  rw [addApplication, ofMLine_application] at hd
  obtain rfl := Except.ok.inj hd
  refine { h with sections := ?_, oneApplication := ?_ }
  · refine List.forall_mem_append.2 ⟨fun s hs => h.sections s (List.mem_of_mem_eraseP hs), ?_⟩
    exact List.forall_mem_singleton.2 (wellFormed_newApplication hmid)
  · change (d.mEntries.eraseP Section.isApplication ++ _).countP _ ≤ 1
    rw [List.countP_append, countP_eraseP h.oneApplication]
    exact le_refl 1

/-- The audio and video sections are media sections. -/
theorem isMediaType_of_ofMLine {mline mType mProtocol mDescription mid : Text} {dir : Direction}
    {port : ℕ} (hm : matchPrefix mline (bytes "m=") = false)
    (hread : Entry.readMLine mline = some (mType, port, mProtocol, mDescription))
    (htype : IsMediaType mType) (e : Entry) (he : Entry.ofMLine mline mid dir = .ok e) :
    IsMediaType e.mType := by
  rw [Entry.ofMLine, hm] at he
  simp only [Bool.false_eq_true, if_false, hread] at he
  obtain rfl := Except.ok.inj he
  exact htype

/-- Upper case digits are digits, in upper case. -/
theorem toUpper_byte : ∀ c : UInt8,
    toUpper (toUpper c) = toUpper c ∧ (isXDigit c = true → isXDigit (toUpper c) = true) ∧
      (c = colon → toUpper c = colon) :=
  BigEndian.forall_byte (by decide +kernel)

theorem isValid_upper {f : CertificateFingerprint} (h : f.isValid = true) :
    CertificateFingerprint.isValid { f with value := f.value.map toUpper } = true := by
  obtain ⟨hlength, hall⟩ := of_decide_eq_true h
  refine decide_eq_true ⟨by rw [List.length_map, hlength], ?_⟩
  rw [List.zipIdx_map, List.all_map, List.all_eq_true]
  rw [List.all_eq_true] at hall
  rintro ⟨c, i⟩ hc
  have hci := hall (c, i) hc
  obtain ⟨-, hdigit, hcolon⟩ := toUpper_byte c
  simp only [Function.comp_apply, Prod.map_apply, id_eq] at hci ⊢
  split_ifs at hci ⊢
  · exact decide_eq_true (hcolon (of_decide_eq_true hci))
  · exact hdigit hci

theorem readMLine_audio : Entry.readMLine (bytes "audio 9 UDP/TLS/RTP/SAVPF") =
    some (bytes "audio", 9, bytes "UDP/TLS/RTP/SAVPF", []) := by decide

theorem readMLine_video : Entry.readMLine (bytes "video 9 UDP/TLS/RTP/SAVPF") =
    some (bytes "video", 9, bytes "UDP/TLS/RTP/SAVPF", []) := by decide

theorem wellFormed_setFingerprint {f : CertificateFingerprint} (h : d.WellFormed)
    (hf : f.algorithm = .sha256) (hd : d.setFingerprint f = .ok d') : d'.WellFormed := by
  rw [setFingerprint] at hd
  split_ifs at hd with hvalid
  obtain rfl := Except.ok.inj hd
  refine { h with fingerprint := ?_ }
  rintro g hg
  obtain rfl := Option.some.inj hg
  refine ⟨hf, isValid_upper hvalid, ?_⟩
  rw [List.map_map]
  exact List.map_congr_left fun c _ => (toUpper_byte c).1

theorem wellFormed_addCandidate {c : Candidate} (h : d.WellFormed) (hc : c.WellFormed) :
    (d.addCandidate c).WellFormed := by
  rw [addCandidate]
  split_ifs with hhas
  · exact h
  · refine { h with candidates := ?_, distinct := ?_ }
    · exact List.forall_mem_append.2 ⟨h.candidates, by simpa using hc⟩
    · refine List.pairwise_append.2 ⟨h.distinct, List.pairwise_singleton _ _, ?_⟩
      intro other hother c' hc'
      obtain rfl := List.mem_singleton.1 hc'
      rw [hasCandidate, List.any_eq_true] at hhas
      exact Bool.eq_false_of_not_eq_true fun hsame => hhas ⟨other, hother, hsame⟩

theorem wellFormed_addIceOption {option : Text} (h : d.WellFormed) (ho : IsToken option) :
    (d.addIceOption option).WellFormed := by
  rw [addIceOption]
  split_ifs
  · exact h
  · exact { h with
      iceOptions := List.forall_mem_append.2 ⟨h.iceOptions, by simpa using ho⟩ }

/-- A call on the part that all sections have. -/
theorem wellFormed_onEntry {i : ℕ} {f : Entry → Entry} (h : d.WellFormed)
    (hf : ∀ e : Entry, e.WellFormed → (f e).WellFormed)
    (hsame : ∀ e : Entry, (f e).mType = e.mType ∧ (f e).mDescription = e.mDescription ∧
      (f e).mAttributes = e.mAttributes)
    (hd : d.updateSection i (Section.onEntry f) = .ok d') : d'.WellFormed := by
  refine wellFormed_updateSection h (fun s s' _ hs hs' => ?_) hd
  cases s with
  | application a =>
    obtain rfl := Except.ok.inj hs'
    obtain ⟨htype, hdescription, hattributes⟩ := hsame a.toEntry
    exact ⟨⟨hf _ hs.toWellFormed, htype.trans hs.type, hdescription.trans hs.description,
      hattributes.trans hs.attributes⟩, rfl⟩
  | media m =>
    obtain rfl := Except.ok.inj hs'
    obtain ⟨htype, -, hattributes⟩ := hsame m.toEntry
    have hmtype : IsMediaType (f m.toEntry).mType := htype.symm ▸ hs.type
    exact ⟨⟨hf _ hs.toWellFormed, hmtype, hs.mBas, hs.rtpMaps,
      hs.ssrcs.imp fun _ hssrcs => hssrcs.of_eq hattributes rfl rfl⟩, rfl⟩

/-- A call on an application section. -/
theorem wellFormed_onApplication {i : ℕ} {f : Application → Application} (h : d.WellFormed)
    (hf : ∀ a : Application, a.WellFormed → (f a).WellFormed)
    (hd : d.updateSection i (Section.onApplication f) = .ok d') : d'.WellFormed := by
  refine wellFormed_updateSection h (fun s s' _ hs hs' => ?_) hd
  cases s with
  | application a =>
    obtain rfl := Except.ok.inj hs'
    exact ⟨hf a hs, rfl⟩
  | media m => cases hs'

/-- A call on a media section. -/
theorem wellFormed_onMedia {i : ℕ} {f : Media → Except Exception Media} (h : d.WellFormed)
    (hf : ∀ m m' : Media, d.mEntries[i]? = some (.media m) → m.WellFormed → f m = .ok m' →
      m'.WellFormed)
    (hd : d.updateSection i (Section.onMedia f) = .ok d') : d'.WellFormed := by
  refine wellFormed_updateSection h (fun s s' hget hs hs' => ?_) hd
  cases s with
  | application a => cases hs'
  | media m =>
    obtain ⟨m', hm', hs'⟩ := bind_eq_ok.1 hs'
    obtain rfl := Except.ok.inj hs'
    exact ⟨hf m m' hget hs hm', rfl⟩

end Description

namespace Media

variable {m m' : Media} {payloadType : CInt} {codec : Text} {profile : Option Text}

theorem wellFormed_addAudioCodec (h : m.WellFormed) (hcodec : IsToken codec)
    (hprofile : ∀ p ∈ profile, IsPlain p)
    (hm : m.addAudioCodec payloadType codec profile = .ok m') : m'.WellFormed := by
  obtain ⟨map, hmap, hm⟩ := bind_eq_ok.1 hm
  obtain rfl := Except.ok.inj hm
  have hline : ∃ clock encParams, audioCodec codec =
      codec ++ slash :: (clock ++ slash :: encParams) ∧ slash ∉ clock ∧ IsPlain encParams := by
    rw [audioCodec, if_neg hcodec.slash_notMem]
    split_ifs
    · exact ⟨bytes "8000", bytes "1", rfl, by decide,
        IsWord.isPlain ⟨by decide, forall_mem_of_all (by decide)⟩⟩
    · exact ⟨bytes "48000", bytes "2", rfl, by decide,
        IsWord.isPlain ⟨by decide, forall_mem_of_all (by decide)⟩⟩
  obtain ⟨clock, encParams, hcodecs, hclock, hplain⟩ := hline
  rw [hcodecs] at hmap
  have hwf := RtpMap.wellFormed_codec hcodec (.inr ⟨clock, encParams, rfl, hclock, hplain⟩) hmap
  refine wellFormed_addRtpMap h (RtpMap.wellFormed_profile hwf fun p hp => ?_)
  exact hprofile p (by simpa using hp)

theorem wellFormed_addVideoCodec (h : m.WellFormed) (hcodec : IsToken codec)
    (hprofile : ∀ p ∈ profile, IsPlain p)
    (hm : m.addVideoCodec payloadType codec profile = .ok m') : m'.WellFormed := by
  obtain ⟨map, hmap, hm⟩ := bind_eq_ok.1 hm
  obtain rfl := Except.ok.inj hm
  have hline : videoCodec codec = codec ++ slash :: bytes "90000" := by
    rw [videoCodec, if_neg hcodec.slash_notMem]
    rfl
  rw [hline] at hmap
  have hwf := RtpMap.wellFormed_codec hcodec (.inl ⟨by decide, by decide⟩) hmap
  have hnack : IsPlain (bytes "nack") :=
    (isLine_of_text (by decide)).isPlain (by decide) (by decide)
  have hpli : IsPlain (bytes "nack pli") :=
    (isLine_of_text (by decide)).isPlain (by decide) (by decide)
  have hremb : IsPlain (bytes "goog-remb") :=
    (isLine_of_text (by decide)).isPlain (by decide) (by decide)
  have hfbs := RtpMap.wellFormed_addFeedback
    (RtpMap.wellFormed_addFeedback (RtpMap.wellFormed_addFeedback hwf hnack) hpli) hremb
  refine wellFormed_addRtpMap h (RtpMap.wellFormed_profile hfbs fun p hp => ?_)
  exact hprofile p (by simpa using hp)

theorem wellFormed_addRtxCodec {origPayloadType : CInt} {clockRate : UInt32} (h : m.WellFormed)
    (hm : m.addRtxCodec payloadType origPayloadType clockRate = .ok m') : m'.WellFormed := by
  obtain ⟨map, hmap, hm⟩ := bind_eq_ok.1 hm
  obtain rfl := Except.ok.inj hm
  have hcodec : IsToken (bytes "RTX") :=
    ⟨⟨by decide, forall_mem_of_all (by decide)⟩, by decide, by decide, by decide⟩
  have hline : toString payloadType ++ bytes " RTX/" ++ toString clockRate.toNat =
      toString payloadType ++ space :: (bytes "RTX" ++ slash :: toString clockRate.toNat) :=
    List.append_assoc _ _ _
  rw [hline] at hmap
  have hwf := RtpMap.wellFormed_codec hcodec
    (.inl ⟨notMem_toString (by decide) (by decide) _, (isWord_toString _).space_notMem⟩) hmap
  refine wellFormed_addRtpMap h (RtpMap.wellFormed_profile hwf fun p hp => ?_)
  obtain rfl := List.mem_singleton.1 hp
  refine IsWord.isPlain ⟨List.append_ne_nil_of_left_ne_nil (by decide) _, ?_⟩
  exact List.forall_mem_append.2
    ⟨forall_mem_of_all (by decide), (isWord_toString origPayloadType).not_space⟩

end Media

namespace Description

variable {d d' : Description}

/-- An allowed call that succeeds keeps the description well formed. -/
theorem wellFormed_apply {c : Call} (h : d.WellFormed) (hc : c.Allowed d)
    (hd : d.apply c = .ok d') : d'.WellFormed := by
  cases c with
  | addApplication mid => exact wellFormed_addApplication h hc hd
  | addAudio mid dir =>
    refine wellFormed_addMedia h ?_ hc.1 hc.2 hd
    refine isMediaType_of_ofMLine (by decide) readMLine_audio ?_
    exact ⟨⟨by decide, forall_mem_of_all (by decide)⟩, by decide, by decide⟩
  | addVideo mid dir =>
    refine wellFormed_addMedia h ?_ hc.1 hc.2 hd
    refine isMediaType_of_ofMLine (by decide) readMLine_video ?_
    exact ⟨⟨by decide, forall_mem_of_all (by decide)⟩, by decide, by decide⟩
  | addMedia mline mid dir => exact wellFormed_addMedia h hc.1 hc.2.1 hc.2.2 hd
  -- the session
  | addIceOption option =>
    obtain rfl := Except.ok.inj hd
    exact wellFormed_addIceOption h hc
  | setFingerprint f => exact wellFormed_setFingerprint h hc hd
  | addCandidate candidate =>
    obtain ⟨c, hcandidate, hd⟩ := bind_eq_ok.1 hd
    obtain rfl := Except.ok.inj hd
    exact wellFormed_addCandidate h (Candidate.wellFormed_ofText hcandidate)
  | endCandidates =>
    obtain rfl := Except.ok.inj hd
    exact { h with }
  -- a section of either kind: only its entry changes, and neither its type nor its mid
  | setDirection i dir =>
    refine wellFormed_onEntry h ?_ ?_ hd
    · exact fun e he => ⟨he.protocol, he.mid, hc, he.extMaps, he.rids⟩
    · exact fun e => ⟨rfl, rfl, rfl⟩
  | markRemoved i =>
    refine wellFormed_onEntry h ?_ ?_ hd
    · exact fun e he => ⟨he.protocol, he.mid, he.direction, he.extMaps, he.rids⟩
    · exact fun e => ⟨rfl, rfl, rfl⟩
  | addExtMap i map =>
    refine wellFormed_onEntry h ?_ ?_ hd
    · exact fun e he => Entry.wellFormed_addExtMap he hc
    · exact fun e => ⟨rfl, rfl, rfl⟩
  -- an application section
  | setSctpPort i port =>
    refine wellFormed_onApplication h ?_ hd
    exact fun a ha => ⟨ha.toWellFormed, ha.type, ha.description, ha.attributes⟩
  | setMaxMessageSize i size =>
    refine wellFormed_onApplication h ?_ hd
    exact fun a ha => ⟨ha.toWellFormed, ha.type, ha.description, ha.attributes⟩
  -- a media section
  | addSSRC i ssrc name msid trackId =>
    refine wellFormed_onMedia h (fun m m' hget hm hm' => ?_) hd
    obtain rfl := Except.ok.inj hm'
    exact Media.wellFormed_addSSRC hm hc.1 (hc.2 m hget)
  | addRtpMap i map =>
    refine wellFormed_onMedia h (fun m m' _ hm hm' => ?_) hd
    obtain rfl := Except.ok.inj hm'
    exact Media.wellFormed_addRtpMap hm hc
  | addAudioCodec i payloadType codec profile =>
    exact wellFormed_onMedia h
      (fun m m' _ hm hm' => Media.wellFormed_addAudioCodec hm hc.1 hc.2 hm') hd
  | addVideoCodec i payloadType codec profile =>
    exact wellFormed_onMedia h
      (fun m m' _ hm hm' => Media.wellFormed_addVideoCodec hm hc.1 hc.2 hm') hd
  | addRtxCodec i payloadType origPayloadType clockRate =>
    exact wellFormed_onMedia h (fun m m' _ hm hm' => Media.wellFormed_addRtxCodec hm hm') hd
  | addFeedback i payloadType fb =>
    refine wellFormed_onMedia h (fun m m' _ hm hm' => ?_) hd
    refine Media.wellFormed_updateRtpMap hm (fun map hmap => ?_) hm'
    exact ⟨RtpMap.wellFormed_addFeedback hmap hc, by rw [RtpMap.addFeedback]; split_ifs <;> rfl⟩
  | addParameter i payloadType p =>
    refine wellFormed_onMedia h (fun m m' _ hm hm' => ?_) hd
    refine Media.wellFormed_updateRtpMap hm (fun map hmap => ?_) hm'
    exact ⟨RtpMap.wellFormed_addParameter hmap hc, by rw [RtpMap.addParameter]; split_ifs <;> rfl⟩

/-- An allowed call keeps the description well formed. -/
theorem wellFormed_call {c : Call} (h : d.WellFormed) (hc : c.Allowed d) :
    (d.call c).WellFormed := by
  rw [call]
  cases hd : d.apply c with
  | error e => exact h
  | ok d' => exact wellFormed_apply h hc hd

/-- What is built by allowed calls is well formed. -/
theorem Built.wellFormed (h : Built d) : d.WellFormed := by
  induction h with
  | @start type role ufrag pwd random hufrag hpwd =>
    have husername : IsWord (bytes "rtc") := ⟨by decide, forall_mem_of_all (by decide)⟩
    exact
      { username := husername
        sessionId := isWord_toString random.toNat
        attributes := rfl
        iceOptions := fun _ hmem => (List.not_mem_nil hmem).elim
        iceUfrag := hufrag
        icePwd := hpwd
        fingerprint := nofun
        sections := fun _ hmem => (List.not_mem_nil hmem).elim
        oneApplication := Nat.zero_le 1
        candidates := fun _ hmem => (List.not_mem_nil hmem).elim
        distinct := .nil }
  | call _ hc ih => exact wellFormed_call ih hc

end Description

end Sdp

end Rtc
