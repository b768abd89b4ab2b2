import Mathlib.Data.List.Forall2
import QuicRtc.Sdp.Session

/-!
# The round trip of descriptions

`Description.Same` compares a description with what is parsed from its text, in everything that the
text is meant to carry.

* `Description.same_iff_noEmptyParameter`: for a description that is built by calls, the two are
  the same exactly when no feedback and no format parameter is empty. An empty one comes back as the
  payload type.
-/

namespace Rtc

namespace Sdp

open Http (crlf)
open LocalDescription (Direction)

/-! ## Comparing descriptions -/

/-- The type, the mid, the direction, the removed flag and the extensions are the same. -/
structure Entry.Same (e e' : Entry) : Prop where
  type : e'.mType = e.mType
  mid : e'.mMid = e.mMid
  direction : e'.mDirection = e.mDirection
  isRemoved : e'.mIsRemoved = e.mIsRemoved
  extMaps : e'.mExtMaps = e.mExtMaps

/-- The SCTP parameters are the same, too. -/
structure Application.Same (a a' : Application) : Prop extends a.toEntry.Same a'.toEntry where
  sctpPort : a'.mSctpPort = a.mSctpPort
  maxMessageSize : a'.mMaxMessageSize = a.mMaxMessageSize

/-- The payload types, the RTP maps with their parameters, and the SSRCs with their names are the
same, too. -/
structure Media.Same (m m' : Media) : Prop extends m.toEntry.Same m'.toEntry where
  payloadTypes : m'.mOrderedPayloadTypes = m.mOrderedPayloadTypes
  rtpMaps : m'.mRtpMaps = m.mRtpMaps
  ssrcs : m'.mSsrcs = m.mSsrcs
  cnames : ∀ ssrc, m'.getCNameForSsrc ssrc = m.getCNameForSsrc ssrc

/-- The sections are of one kind and the same. -/
def Section.Same : Section → Section → Prop
  | .application a, .application a' => a.Same a'
  | .media m, .media m' => m.Same m'
  | _, _ => False

namespace Description

/-- The sections are the same, position by position, and so is the session: what is printed with the
sections if there is one, and the candidates if there is one that is not removed. -/
structure Same (d d' : Description) : Prop where
  iceOptions : d'.mIceOptions = d.mIceOptions
  fingerprint : d'.mFingerprint = d.mFingerprint
  transport : d.mEntries ≠ [] →
    d'.mRole = d.mRole ∧ d'.mIceUfrag = d.mIceUfrag ∧ d'.mIcePwd = d.mIcePwd
  candidates : (∃ s ∈ d.mEntries, s.entry.mIsRemoved = false) →
    d'.mCandidates.map Candidate.line = d.mCandidates.map Candidate.line ∧ d'.mEnded = d.mEnded
  sections : List.Forall₂ Section.Same d.mEntries d'.mEntries

/-- No feedback and no format parameter is empty. -/
def NoEmptyParameter (d : Description) : Prop :=
  ∀ m, .media m ∈ d.mEntries → ∀ entry ∈ m.mRtpMaps.entries,
    [] ∉ entry.2.rtcpFbs ∧ [] ∉ entry.2.fmtps

end Description

/-! ## Empty parameters -/

namespace RtpMap

theorem map_readParameter (payloadType : CInt) (vals : List Text) :
    vals.map (readParameter payloadType) = vals ↔ [] ∉ vals := by
  rw [map_eq_self_iff]
  constructor
  · intro hsame hmem
    exact (isWord_toString payloadType).ne_nil (hsame [] hmem)
  · intro hnil val hval
    refine if_neg ?_
    rintro rfl
    exact hnil hval

/-- An RTP map comes back as it was exactly without empty parameters. -/
theorem reparsed_eq_iff (map : RtpMap) :
    map.reparsed = map ↔ [] ∉ map.rtcpFbs ∧ [] ∉ map.fmtps := by
  rw [← map_readParameter map.payloadType, ← map_readParameter map.payloadType]
  constructor
  · intro heq
    exact ⟨congrArg rtcpFbs heq, congrArg fmtps heq⟩
  · rintro ⟨hfbs, hfmtps⟩
    rw [reparsed, hfbs, hfmtps]

end RtpMap

theorem Media.mapValues_reparsed_iff (m : Media) :
    m.mRtpMaps.mapValues RtpMap.reparsed = m.mRtpMaps ↔
      ∀ entry ∈ m.mRtpMaps.entries, [] ∉ entry.2.rtcpFbs ∧ [] ∉ entry.2.fmtps := by
  simp only [← RtpMap.reparsed_eq_iff]
  constructor
  · intro heq entry hentry
    have hentries := map_eq_self_iff.1 (congrArg OrderedMap.entries heq) entry hentry
    exact congrArg Prod.snd hentries
  · intro h
    refine OrderedMap.ext (map_eq_self_iff.2 ?_)
    rintro ⟨payloadType, map⟩ hentry
    rw [h _ hentry]

/-- A section comes back the same exactly without empty parameters. -/
theorem Section.same_reparsed_iff (s : Section) : s.Same s.reparsed ↔
    ∀ m, s = .media m → ∀ entry ∈ m.mRtpMaps.entries,
      [] ∉ entry.2.rtcpFbs ∧ [] ∉ entry.2.fmtps := by
  cases s with
  | application a =>
    constructor
    · rintro - m heq
      cases heq
    · exact fun _ => ⟨⟨rfl, rfl, rfl, rfl, rfl⟩, rfl, rfl⟩
  | media m =>
    constructor
    · rintro hsame m' heq
      cases heq
      exact m.mapValues_reparsed_iff.1 hsame.rtpMaps
    · intro h
      have hmaps := m.mapValues_reparsed_iff.2 (h m rfl)
      exact ⟨⟨rfl, rfl, rfl, rfl, rfl⟩, rfl, hmaps, rfl, fun _ => rfl⟩

namespace Description

variable {d : Description}

/-- The description that is parsed is the same exactly without empty parameters. -/
theorem same_reparsed_iff (type : Kind) (role : Role) :
    d.Same (d.reparsed type role) ↔ d.NoEmptyParameter := by
  have hsections : (d.reparsed type role).mEntries = d.mEntries.map Section.reparsed := rfl
  have hforall : List.Forall₂ Section.Same d.mEntries (d.reparsed type role).mEntries ↔
      ∀ s ∈ d.mEntries, s.Same s.reparsed := by
    rw [hsections, List.forall₂_map_right_iff, List.forall₂_same]
  have hparameters : (∀ s ∈ d.mEntries, s.Same s.reparsed) ↔ d.NoEmptyParameter := by
    simp only [Section.same_reparsed_iff, NoEmptyParameter]
    exact ⟨fun h m hm => h _ hm m rfl, fun h s hs m hsm => h m (hsm ▸ hs)⟩
  rw [← hparameters, ← hforall]
  refine ⟨Same.sections, fun h => ⟨rfl, rfl, fun hne => ?_, fun ⟨s, hs, hkept⟩ => ?_, h⟩⟩
  · exact ⟨if_neg hne, if_neg hne, if_neg hne⟩
  · have hall : ¬d.mEntries.all (·.entry.mIsRemoved) = true := by
      rw [List.all_eq_true]
      intro hall
      rw [hall s hs] at hkept
      cases hkept
    have hcandidates : (d.reparsed type role).mCandidates = d.mCandidates := if_neg hall
    rw [hcandidates]
    exact ⟨rfl, if_neg hall⟩

/-- A description that is built by calls is parsed back from its text exactly when no feedback and
no format parameter is empty. -/
theorem same_iff_noEmptyParameter (h : Built d) (type : Kind) (role : Role) (random : UInt32) :
    (∃ d', parse (d.generateSdp crlf) type role random = .ok d' ∧ d.Same d') ↔
      d.NoEmptyParameter := by
  rw [parse_generateSdp h.wellFormed, ← same_reparsed_iff type role]
  constructor
  · rintro ⟨d', hd', hsame⟩
    obtain rfl := Except.ok.inj hd'
    exact hsame
  · exact fun hsame => ⟨_, rfl, hsame⟩

/-- An audio section with the codec opus and a profile. -/
def withOpus (profile : Text) : Description :=
  ((start .unspec .actPass none none 0).call (.addAudio (bytes "audio") .sendOnly)).call
    (.addAudioCodec 0 ⟨111, by decide⟩ (bytes "opus") (some profile))

theorem built_withOpus {profile : Text} (h : IsPlain profile) : Built (withOpus profile) := by
  have hmid : IsToken (bytes "audio") :=
    ⟨⟨by decide, forall_mem_of_all (by decide)⟩, by decide, by decide, by decide⟩
  have hcodec : IsToken (bytes "opus") :=
    ⟨⟨by decide, forall_mem_of_all (by decide)⟩, by decide, by decide, by decide⟩
  refine .call (.call (.start nofun nofun) ⟨hmid, by decide⟩) ⟨hcodec, ?_⟩
  rintro p hp
  obtain rfl := Option.some.inj hp
  exact h

theorem entries_withOpus (profile : Text) : ∃ m map, (withOpus profile).mEntries = [.media m] ∧
    m.mRtpMaps.entries = [(⟨111, by decide⟩, map)] ∧ map.rtcpFbs = [] ∧ map.fmtps = [profile] :=
  ⟨_, _, rfl, rfl, rfl, rfl⟩

/-- The profile is the only parameter. -/
theorem noEmptyParameter_withOpus (profile : Text) :
    (withOpus profile).NoEmptyParameter ↔ profile ≠ [] := by
  obtain ⟨m, map, hentries, hmaps, hfbs, hfmtps⟩ := entries_withOpus profile
  constructor
  · rintro h rfl
    have hmap := h m (by rw [hentries]; exact List.mem_singleton_self _) _
      (by rw [hmaps]; exact List.mem_singleton_self _)
    exact hmap.2 (hfmtps ▸ List.mem_singleton_self _)
  · intro hne m' hm' entry hentry
    rw [hentries, List.mem_singleton] at hm'
    obtain rfl := Section.media.inj hm'
    rw [hmaps, List.mem_singleton] at hentry
    rw [hentry, hfbs, hfmtps, List.mem_singleton]
    exact ⟨List.not_mem_nil, hne.symm⟩

/-- A profile comes back. -/
theorem same_withOpus : ∃ d', parse ((withOpus (bytes "minptime=10")).generateSdp crlf) .unspec
    .actPass 0 = .ok d' ∧ (withOpus (bytes "minptime=10")).Same d' :=
  (same_iff_noEmptyParameter (built_withOpus
    ⟨by decide, by decide, by decide +kernel, by decide +kernel⟩) .unspec .actPass 0).2
    ((noEmptyParameter_withOpus _).2 (by decide))

/-- An empty profile does not. -/
theorem not_same_withOpus_empty : Built (withOpus []) ∧
    ¬∃ d', parse ((withOpus []).generateSdp crlf) .unspec .actPass 0 = .ok d' ∧
      (withOpus []).Same d' := by
  have hbuilt := built_withOpus isPlain_nil
  refine ⟨hbuilt, ?_⟩
  rintro ⟨d', hd', hsame⟩
  rw [parse_generateSdp hbuilt.wellFormed] at hd'
  obtain rfl := Except.ok.inj hd'
  exact (noEmptyParameter_withOpus []).1 ((same_reparsed_iff _ _).1 hsame) rfl

end Description

end Sdp

end Rtc
