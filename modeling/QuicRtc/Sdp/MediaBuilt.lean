import QuicRtc.Sdp.RemoveCodec
import QuicRtc.Sdp.Sections
import QuicRtc.Sdp.Ssrcs

/-!
# Media sections that are built by calls

`Media.Printable` says what the lines of a section are printed from: words, lines, and attributes
that the parser keeps. `Call.Allowed` says the same of the arguments of a call.

* `Media.Printable.apply`: what an allowed call keeps, one case for each call.
* `Media.Built.printable`: every section that is built by allowed calls can be printed.
-/

namespace Rtc

namespace Sdp

open Http (space lf cr colon crlf)
open WsHandshake (isSpace isDigit)
open LocalDescription (Direction)

/-! ## What is printed on its lines -/

/-- The keys of the attributes that the parser treats specially. -/
def specialKeys : List Text :=
  [bytes "mid", bytes "extmap", bytes "sendonly", bytes "recvonly", bytes "sendrecv",
    bytes "inactive", bytes "bundle-only", bytes "rtpmap", bytes "rtcp-fb", bytes "fmtp",
    bytes "rtcp-mux", bytes "ssrc"]

/-- An attribute that the parser keeps as it is. -/
structure IsOther (attr : Text) : Prop where
  isLine : IsLine attr
  key : (parsePair attr).1 ∉ specialKeys

/-- An attribute that the parser keeps, maybe as one of an SSRC. -/
def IsKept (attr : Text) : Prop := IsOther attr ∨ (IsLine attr ∧ ∃ ssrc, Media.IsNumber ssrc attr)

theorem IsKept.isLine {attr : Text} (h : IsKept attr) : IsLine attr :=
  h.elim IsOther.isLine And.left

/-- An RTP map without empty parameters. -/
structure RtpMap.Restorable (map : RtpMap) : Prop where
  slash_notMem : slash ∉ map.format
  lf_notMem : lf ∉ map.format
  encParams : IsTail map.encParams
  rtcpFbs : ∀ fb ∈ map.rtcpFbs, IsLine fb
  fmtps : ∀ fmtp ∈ map.fmtps, IsLine fmtp

/-- What the lines of a section are printed from. -/
structure Entry.Printable (e : Entry) : Prop where
  type : IsWord e.mType
  protocol : IsWord e.mProtocol
  mid : IsLine e.mMid
  extMaps : ∀ entry ∈ e.mExtMaps.entries, entry.1 = entry.2.id ∧ IsLine entry.2.uriText
  attributes : ∀ attr ∈ e.mAttributes, IsKept attr
  rids : ∀ rid ∈ e.mRids, IsLine rid

structure Media.Printable (m : Media) : Prop extends m.toEntry.Printable where
  rtpMaps : ∀ entry ∈ m.mRtpMaps.entries, entry.1 = entry.2.payloadType ∧ entry.2.Restorable

namespace Media

/-- The arguments of a call: texts are lines, attributes have keys of their own, and formats have no
slash. -/
def Call.Allowed : Call → Prop
  | .setDirection _ => True
  | .markRemoved => True
  | .setBitrate _ => True
  | .addAttribute attr => IsOther attr
  | .removeAttribute _ => True
  | .addRid rid => IsLine rid
  | .addExtMap map => IsLine map.uriText
  | .removeExtMap _ => True
  | .addSSRC _ name msid trackId =>
    (∀ text ∈ name, IsLine text) ∧ (∀ text ∈ msid, IsLine text) ∧ ∀ text ∈ trackId, IsLine text
  | .removeSSRC _ => True
  | .replaceSSRC _ _ name msid trackID =>
    (∀ text ∈ name, IsLine text) ∧ (∀ text ∈ msid, IsLine text) ∧ ∀ text ∈ trackID, IsLine text
  | .clearSSRCs => True
  | .addRtpMap map => map.Restorable
  | .removeRtpMap _ => True
  | .removeFormat _ => True
  | .addAudioCodec _ codec profile => IsLine codec ∧ ∀ p ∈ profile, IsLine p
  | .addVideoCodec _ codec profile => IsLine codec ∧ ∀ p ∈ profile, IsLine p
  | .addRtxCodec _ _ _ => True
  | .addFeedback _ fb => IsLine fb
  | .removeFeedback _ _ => True
  | .addParameter _ p => IsLine p
  | .removeParameter _ _ => True

/-- The section is created from a media line, and then changed by allowed calls. -/
inductive Built : Media → Prop
  | ofMLine {mline mid : Text} {dir : Direction} {m : Media} (hmid : IsLine mid)
      (hm : ofMLine mline mid dir = .ok m) : Built m
  | call {m : Media} {c : Call} (hm : Built m) (hc : c.Allowed) : Built (m.call c)

end Media

/-! ## Calls -/

namespace RtpMap

variable {map : RtpMap}

theorem Restorable.printable (h : map.Restorable) : map.Printable where
  slash_notMem := h.slash_notMem
  lf_notMem := h.lf_notMem
  encParams := h.encParams
  rtcpFbs fb hfb := (h.rtcpFbs fb hfb).isTail
  fmtps fmtp hfmtp := (h.fmtps fmtp hfmtp).isTail

/-- The end of a text behind one of its symbols. -/
theorem isTail_of_append {text rest : Text} {c : UInt8} (h : IsTail (text ++ c :: rest)) :
    IsTail rest where
  lf_notMem hmem := h.lf_notMem (List.mem_append_right _ (List.mem_cons_of_mem _ hmem))
  last b hb := by
    refine h.last b ?_
    have hne : rest ≠ [] := by
      rintro rfl
      cases hb
    rw [List.getLast?_append_cons, List.getLast?_cons_of_ne_nil hne]
    exact hb

/-- The clock rate is set, and what stands behind it. -/
theorem setClockRate_cases {map' : RtpMap} {line : Text} (h : IsTail line)
    (hmap : map.setClockRate line = .ok map') :
    ∃ clockRate, map' = { map with clockRate } ∨
      ∃ encParams, IsTail encParams ∧ map' = { map with clockRate, encParams } := by
  rw [setClockRate] at hmap
  split at hmap
  · obtain ⟨clockRate, -, hmap⟩ := bind_eq_ok.1 hmap
    exact ⟨clockRate, .inl (Except.ok.inj hmap).symm⟩
  · next clock encParams hclock =>
    obtain ⟨clockRate, -, hmap⟩ := bind_eq_ok.1 hmap
    refine ⟨clockRate, .inr ⟨encParams, ?_, (Except.ok.inj hmap).symm⟩⟩
    rcases Option.or_eq_some_iff.1 hclock with hread | ⟨-, hread⟩
    · obtain ⟨-, rfl⟩ := Reader.upTo_eq_some_iff.1 hread
      exact isTail_of_append h
    · obtain ⟨-, rfl⟩ := Reader.upTo_eq_some_iff.1 hread
      exact isTail_of_append h

/-- The map of a description that stays on its line. -/
theorem restorable_ofDescription {description : Text} (h : IsTail description)
    (hmap : ofDescription description = .ok map) : map.Restorable := by
  rw [ofDescription, setDescription] at hmap
  split at hmap
  · cases hmap
  · next payloadType line hline =>
    obtain ⟨-, rfl⟩ := Reader.upTo_eq_some_iff.1 hline
    have htail := isTail_of_append h
    obtain ⟨number, -, hread⟩ := bind_eq_ok.1 hmap
    split at hread
    · cases hread
    · next format clock hformat =>
      obtain ⟨hslash, rfl⟩ := Reader.upTo_eq_some_iff.1 hformat
      have hlf : lf ∉ format := fun hmem => htail.lf_notMem (List.mem_append_left _ hmem)
      obtain ⟨clockRate, rfl | ⟨encParams, henc, rfl⟩⟩ :=
        setClockRate_cases (isTail_of_append htail) hread
      · exact ⟨hslash, hlf, isPlain_nil.isTail, by simp, by simp⟩
      · exact ⟨hslash, hlf, henc, by simp, by simp⟩

theorem Restorable.addFeedback (h : map.Restorable) {fb : Text} (hfb : IsLine fb) :
    (map.addFeedback fb).Restorable := by
  rw [RtpMap.addFeedback]
  split_ifs
  · exact h
  · exact { h with
      rtcpFbs := List.forall_mem_append.2 ⟨h.rtcpFbs, List.forall_mem_singleton.2 hfb⟩ }

theorem Restorable.addFmtps (h : map.Restorable) {fmtps : List Text}
    (hfmtps : ∀ fmtp ∈ fmtps, IsLine fmtp) :
    Restorable { map with fmtps := map.fmtps ++ fmtps } :=
  { h with fmtps := List.forall_mem_append.2 ⟨h.fmtps, hfmtps⟩ }

theorem Restorable.addParameter (h : map.Restorable) {p : Text} (hp : IsLine p) :
    (map.addParameter p).Restorable := by
  rw [RtpMap.addParameter]
  split_ifs
  · exact h
  · exact h.addFmtps (List.forall_mem_singleton.2 hp)

theorem Restorable.removeFeedback (h : map.Restorable) (str : Text) :
    (map.removeFeedback str).Restorable :=
  { h with rtcpFbs := fun fb hfb => h.rtcpFbs fb (List.mem_of_mem_filter hfb) }

theorem Restorable.removeParameter (h : map.Restorable) (str : Text) :
    (map.removeParameter str).Restorable :=
  { h with fmtps := fun p hp => h.fmtps p (List.mem_of_mem_filter hp) }

/-- A codec behind its payload type. -/
theorem isTail_codec (payloadType : CInt) {codec : Text} (h : IsLine codec) :
    IsTail (toString payloadType ++ space :: codec) :=
  ((isWord_toString payloadType).append_isLine h).isTail

end RtpMap

namespace Media

variable {m m' : Media}

/-- The attributes of an SSRC. -/
theorem printable_ssrcAttributes (ssrc : UInt32) {name msid trackId : Option Text}
    (hname : ∀ text ∈ name, IsLine text) (hmsid : ∀ text ∈ msid, IsLine text)
    (htrack : ∀ text ∈ trackId, IsLine text) :
    ∀ attr ∈ ssrcAttributes ssrc name msid trackId, IsKept attr := by
  have hdigits : lf ∉ toString ssrc.toNat := (isWord_toString _).lf_notMem
  obtain ⟨first, attributes, heq, hfirst, hline⟩ : ∃ first attributes,
      ssrcAttributes ssrc name msid trackId = first :: attributes ∧ IsNumber ssrc first ∧
        IsLine first := by
    cases name with
    | none =>
      refine ⟨_, _, rfl, ⟨[], (List.append_nil _).symm, noDigit_nil⟩, ?_⟩
      exact (isWord_toString _).isLine.append (by decide)
    | some name =>
      refine ⟨_, _, rfl, ⟨bytes " cname:" ++ name, rfl, noDigit_space _⟩, ?_⟩
      exact (((hname name rfl).append (by decide)).append hdigits).append (by decide)
  rw [heq]
  refine List.forall_mem_cons.2 ⟨.inr ⟨hline, ssrc, hfirst⟩, ?_⟩
  obtain ⟨-, rfl⟩ := List.cons.inj heq
  -- behind the first one, the attributes with the stream if there is one
  cases hmsid' : msid with
  | none => exact fun _ hmem => (List.not_mem_nil hmem).elim
  | some msid =>
    have hstream : IsLine msid := hmsid msid hmsid'
    have htail : IsLine (trackId.getD msid) := by
      cases htrack' : trackId with
      | none => exact hstream
      | some trackId => exact htrack trackId htrack'
    have hvalue : IsLine (msid ++ space :: trackId.getD msid) :=
      htail.append_cons hstream.lf_notMem (by decide)
    rw [List.forall_mem_cons, List.forall_mem_singleton]
    refine ⟨.inr ⟨?_, ssrc, _, rfl, noDigit_space _⟩, .inl ⟨hvalue.append (by decide), ?_⟩⟩
    · exact ((hvalue.append (by decide)).append hdigits).append (by decide)
    · have hkey : (parsePair (bytes "msid:" ++ (msid ++ space :: trackId.getD msid))).1 =
          bytes "msid" := rfl
      rw [hkey]
      decide

namespace Printable

/-- Fewer attributes. -/
theorem filter_attributes (h : m.Printable) (p : Text → Bool) (ssrcs : List UInt32)
    (names : List (UInt32 × Text)) :
    Printable { m with
      mAttributes := m.mAttributes.filter p, mSsrcs := ssrcs, mCNameMap := names } :=
  { h with attributes := fun attr hattr => h.attributes attr (List.mem_of_mem_filter hattr) }

theorem addSSRC (h : m.Printable) (ssrc : UInt32) {name msid trackId : Option Text}
    (hname : ∀ text ∈ name, IsLine text) (hmsid : ∀ text ∈ msid, IsLine text)
    (htrack : ∀ text ∈ trackId, IsLine text) : (m.addSSRC ssrc name msid trackId).Printable :=
  { h with
    attributes := List.forall_mem_append.2
      ⟨h.attributes, printable_ssrcAttributes ssrc hname hmsid htrack⟩ }

theorem without (h : m.Printable) (p : CInt → Bool) : (m.without p).Printable :=
  { h with rtpMaps := fun entry hentry => h.rtpMaps entry (List.mem_of_mem_filter hentry) }

theorem addRtpMap (h : m.Printable) {map : RtpMap} (hmap : map.Restorable) :
    (m.addRtpMap map).Printable :=
  { h with
    rtpMaps := fun entry hentry => by
      rcases OrderedMap.mem_emplace hentry with rfl | hold
      · exact ⟨rfl, hmap⟩
      · exact h.rtpMaps entry hold }

theorem updateRtpMap (h : m.Printable) {payloadType : CInt} {f : RtpMap → RtpMap}
    (hf : ∀ map : RtpMap, map.Restorable →
      (f map).Restorable ∧ (f map).payloadType = map.payloadType)
    (hm : m.updateRtpMap payloadType f = .ok m') : m'.Printable := by
  rw [Media.updateRtpMap] at hm
  split at hm
  · cases hm
  · obtain rfl := Except.ok.inj hm
    refine { h with rtpMaps := fun entry hentry => ?_ }
    obtain ⟨map, hmem, hvalue⟩ := OrderedMap.mem_modify hentry
    obtain ⟨hkey, hmap⟩ := h.rtpMaps (entry.1, map) hmem
    obtain ⟨hfmap, htype⟩ := hf map hmap
    rcases hvalue with hvalue | ⟨-, hvalue⟩
    · rw [hvalue]
      exact ⟨hkey, hmap⟩
    · rw [hvalue, htype]
      exact ⟨hkey, hfmap⟩

theorem addRid (h : m.Printable) {rid : Text} (hrid : IsLine rid) :
    Printable { m with toEntry := m.toEntry.addRid rid } :=
  { h with rids := List.forall_mem_append.2 ⟨h.rids, List.forall_mem_singleton.2 hrid⟩ }

theorem addAttribute (h : m.Printable) {attr : Text} (hattr : IsOther attr) :
    Printable { m with toEntry := m.toEntry.addAttribute attr } := by
  rw [Entry.addAttribute]
  split_ifs
  · exact h
  · exact { h with
      attributes := List.forall_mem_append.2
        ⟨h.attributes, List.forall_mem_singleton.2 (.inl hattr)⟩ }

theorem addExtMap (h : m.Printable) {map : ExtMap} (hmap : IsLine map.uriText) :
    Printable { m with toEntry := m.toEntry.addExtMap map } :=
  { h with
    extMaps := fun entry hentry => by
      rcases OrderedMap.mem_emplace hentry with rfl | hold
      · exact ⟨rfl, hmap⟩
      · exact h.extMaps entry hold }

theorem removeExtMap (h : m.Printable) (id : CInt) :
    Printable { m with toEntry := m.toEntry.removeExtMap id } :=
  { h with extMaps := fun entry hentry => h.extMaps entry (List.mem_of_mem_filter hentry) }

/-- The RTP map of a codec, with feedback and format parameters. -/
theorem addCodec (h : m.Printable) {payloadType : CInt} {codec : Text} {map : RtpMap}
    (hcodec : IsLine codec)
    (hmap : RtpMap.ofDescription (toString payloadType ++ space :: codec) = .ok map)
    {fbs fmtps : List Text} (hfbs : ∀ fb ∈ fbs, IsLine fb) (hfmtps : ∀ fmtp ∈ fmtps, IsLine fmtp) :
    let map := fbs.foldl RtpMap.addFeedback map
    (m.addRtpMap { map with fmtps := map.fmtps ++ fmtps }).Printable := by
  have hfeedback : (fbs.foldl RtpMap.addFeedback map).Restorable := by
    have hstart := RtpMap.restorable_ofDescription (RtpMap.isTail_codec payloadType hcodec) hmap
    clear hmap
    induction fbs generalizing map with
    | nil => exact hstart
    | cons fb fbs ih =>
      obtain ⟨hfb, hfbs⟩ := List.forall_mem_cons.1 hfbs
      exact ih hfbs (hstart.addFeedback hfb)
  exact h.addRtpMap (hfeedback.addFmtps hfmtps)

theorem addAudioCodec (h : m.Printable) {payloadType : CInt} {codec : Text} {profile : Option Text}
    (hcodec : IsLine codec) (hprofile : ∀ p ∈ profile, IsLine p)
    (hm : m.addAudioCodec payloadType codec profile = .ok m') : m'.Printable := by
  obtain ⟨map, hmap, hm⟩ := bind_eq_ok.1 hm
  obtain rfl := Except.ok.inj hm
  have haudio : IsLine (audioCodec codec) := by
    rw [audioCodec]
    split_ifs
    · exact hcodec
    · exact IsLine.append hcodec.lf_notMem (isLine_of_text (by decide))
    · exact IsLine.append hcodec.lf_notMem (isLine_of_text (by decide))
  refine h.addCodec haudio hmap (List.forall_mem_nil _) fun p hp => ?_
  exact hprofile p (Option.mem_toList.1 hp)

theorem addVideoCodec (h : m.Printable) {payloadType : CInt} {codec : Text} {profile : Option Text}
    (hcodec : IsLine codec) (hprofile : ∀ p ∈ profile, IsLine p)
    (hm : m.addVideoCodec payloadType codec profile = .ok m') : m'.Printable := by
  obtain ⟨map, hmap, hm⟩ := bind_eq_ok.1 hm
  obtain rfl := Except.ok.inj hm
  have hvideo : IsLine (videoCodec codec) := by
    rw [videoCodec]
    split_ifs
    · exact hcodec
    · exact IsLine.append hcodec.lf_notMem (isLine_of_text (by decide))
  have hfbs : ∀ fb ∈ [bytes "nack", bytes "nack pli", bytes "goog-remb"], IsLine fb := by
    refine List.forall_mem_cons.2 ⟨isLine_of_text (by decide), ?_⟩
    refine List.forall_mem_cons.2 ⟨isLine_of_text (by decide), ?_⟩
    exact List.forall_mem_singleton.2 (isLine_of_text (by decide))
  exact h.addCodec hvideo hmap hfbs fun p hp => hprofile p (Option.mem_toList.1 hp)

theorem addRtxCodec (h : m.Printable) {payloadType origPayloadType : CInt} {clockRate : UInt32}
    (hm : m.addRtxCodec payloadType origPayloadType clockRate = .ok m') : m'.Printable := by
  obtain ⟨map, hmap, hm⟩ := bind_eq_ok.1 hm
  obtain rfl := Except.ok.inj hm
  have hline : toString payloadType ++ bytes " RTX/" ++ toString clockRate.toNat =
      toString payloadType ++ space :: (bytes "RTX/" ++ toString clockRate.toNat) :=
    List.append_assoc _ _ _
  rw [hline] at hmap
  have hrtx : IsLine (bytes "RTX/" ++ toString clockRate.toNat) :=
    (isWord_toString _).isLine.append (by decide)
  have hapt : IsLine (bytes "apt=" ++ toString origPayloadType) :=
    (isWord_toString _).isLine.append (by decide)
  exact h.addCodec hrtx hmap (List.forall_mem_nil _) (List.forall_mem_singleton.2 hapt)

/-- What an allowed call keeps. -/
theorem apply (h : m.Printable) {c : Call} (hc : c.Allowed) (hm : m.apply c = .ok m') :
    m'.Printable := by
  cases c with
  | setDirection dir =>
    obtain rfl := Except.ok.inj hm
    exact { h with }
  | markRemoved =>
    obtain rfl := Except.ok.inj hm
    exact { h with }
  | setBitrate bitrate =>
    obtain rfl := Except.ok.inj hm
    exact { h with }
  | addAttribute attr =>
    obtain rfl := Except.ok.inj hm
    exact h.addAttribute hc
  | removeAttribute attr =>
    obtain rfl := Except.ok.inj hm
    exact h.filter_attributes _ m.mSsrcs m.mCNameMap
  -- what is printed from lists of its own
  | addRid rid =>
    obtain rfl := Except.ok.inj hm
    exact h.addRid hc
  | addExtMap map =>
    obtain rfl := Except.ok.inj hm
    exact h.addExtMap hc
  | removeExtMap id =>
    obtain rfl := Except.ok.inj hm
    exact h.removeExtMap id
  -- SSRCs are kept as attributes too, where they are filtered out again
  | addSSRC ssrc name msid trackId =>
    obtain rfl := Except.ok.inj hm
    exact h.addSSRC ssrc hc.1 hc.2.1 hc.2.2
  | removeSSRC ssrc =>
    obtain rfl := Except.ok.inj hm
    exact h.filter_attributes _ _ m.mCNameMap
  | replaceSSRC old ssrc name msid trackID =>
    obtain rfl := Except.ok.inj hm
    exact (h.filter_attributes _ _ m.mCNameMap).addSSRC ssrc hc.1 hc.2.1 hc.2.2
  | clearSSRCs =>
    obtain rfl := Except.ok.inj hm
    exact h.filter_attributes _ [] []
  -- formats
  | addRtpMap map =>
    obtain rfl := Except.ok.inj hm
    exact h.addRtpMap hc
  | removeRtpMap payloadType =>
    obtain rfl := Except.ok.inj hm
    rw [removeRtpMap_eq]
    exact h.without _
  | removeFormat format =>
    obtain rfl := Except.ok.inj hm
    rw [removeFormat, removeAll_eq]
    exact h.without _
  | addAudioCodec payloadType codec profile => exact h.addAudioCodec hc.1 hc.2 hm
  | addVideoCodec payloadType codec profile => exact h.addVideoCodec hc.1 hc.2 hm
  | addRtxCodec payloadType origPayloadType clockRate => exact h.addRtxCodec hm
  | addFeedback payloadType fb =>
    refine h.updateRtpMap (fun map hmap => ⟨hmap.addFeedback hc, ?_⟩) hm
    rw [RtpMap.addFeedback]
    split_ifs <;> rfl
  | removeFeedback payloadType str =>
    exact h.updateRtpMap (fun map hmap => ⟨hmap.removeFeedback str, rfl⟩) hm
  | addParameter payloadType p =>
    refine h.updateRtpMap (fun map hmap => ⟨hmap.addParameter hc, ?_⟩) hm
    rw [RtpMap.addParameter]
    split_ifs <;> rfl
  | removeParameter payloadType str =>
    exact h.updateRtpMap (fun map hmap => ⟨hmap.removeParameter str, rfl⟩) hm

theorem call (h : m.Printable) {c : Call} (hc : c.Allowed) : (m.call c).Printable := by
  rw [Media.call]
  cases hm : m.apply c with
  | error e => exact h
  | ok m' => exact h.apply hc hm

theorem ofMLine {mline mid : Text} {dir : Direction} (hmid : IsLine mid)
    (hm : ofMLine mline mid dir = .ok m) : m.Printable := by
  obtain ⟨e, he, hm⟩ := bind_eq_ok.1 hm
  obtain rfl := Except.ok.inj hm
  rw [Entry.ofMLine] at he
  split at he
  · cases he
  · next mType port mProtocol mDescription hline =>
    obtain rfl := Except.ok.inj he
    simp only [Entry.readMLine, Option.bind_eq_bind, Option.bind_eq_some_iff] at hline
    obtain ⟨⟨type, rest⟩, htype, ⟨number, rest'⟩, -, ⟨protocol, rest''⟩, hprotocol, heq⟩ := hline
    obtain ⟨rfl, -, rfl, -⟩ := heq
    exact {
      type := isWord_of_word htype
      protocol := isWord_of_word hprotocol
      mid := hmid
      extMaps := List.forall_mem_nil _
      attributes := List.forall_mem_nil _
      rids := List.forall_mem_nil _
      rtpMaps := List.forall_mem_nil _ }

end Printable

/-- A sequence of allowed calls. -/
theorem Built.foldl (h : Built m) {calls : List Call} (hcalls : ∀ c ∈ calls, c.Allowed) :
    Built (calls.foldl Media.call m) := by
  induction calls generalizing m with
  | nil => exact h
  | cons c calls ih =>
    obtain ⟨hc, hcalls⟩ := List.forall_mem_cons.1 hcalls
    exact ih (h.call hc) hcalls

/-- Every section that is built by allowed calls can be printed. -/
theorem Built.printable (h : Built m) : m.Printable := by
  induction h with
  | ofMLine hmid hm => exact .ofMLine hmid hm
  | call _ hc ih => exact ih.call hc

end Media

end Sdp

end Rtc
