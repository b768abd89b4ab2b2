import QuicRtc.Sdp.MediaCalls

/-!
# Formats are removed

`removeRtpMap` and `removeFormat` remove payload types and what depends on them. A payload type
depends on the one that a format parameter `apt` of its RTP map names, but the code looks for a
whole line `apt=` with the number, and only for the payload types that were asked for.

* `removeAll_eq`: what is removed is what was asked for or has such a line.
* `removesDependents_iff`: that is right if all that depends on what was asked for, through any
  number of payload types, was asked for or has such a line, and only then.
-/

namespace Rtc

namespace Sdp

open Http (space lf cr colon)
open LocalDescription (Direction)

/-- `';'`. -/
def semicolon : UInt8 := 59

/-- `'='`. -/
def equals : UInt8 := 61

namespace RtpMap

/-- The payload type that a format parameter names, if it is `apt`. -/
def aptOf (parameter : Text) : Option CInt :=
  match Reader.upTo equals (trimBegin parameter) with
  | some (name, value) => if trimEnd name = bytes "apt" then (toInt value).toOption else none
  | none => none

/-- One of the parameters, with semicolons between them, is `apt` and names the payload type. -/
def NamesApt (map : RtpMap) (payloadType : CInt) : Prop :=
  ∃ fmtp ∈ map.fmtps, ∃ parameter ∈ Utils.explode fmtp semicolon,
    aptOf parameter = some payloadType

/-- The only parameter of a line is `apt`. -/
theorem namesApt_of_mem {map : RtpMap} {payloadType : CInt}
    (h : aptText payloadType ∈ map.fmtps) : map.NamesApt payloadType := by
  have hsemicolon : semicolon ∉ aptText payloadType := by
    rw [aptText, List.mem_append, not_or]
    exact ⟨by decide, notMem_toString (by decide) (by decide) _⟩
  have hone : Utils.explode (aptText payloadType) semicolon = [aptText payloadType] :=
    Utils.explode_token (List.append_ne_nil_of_left_ne_nil (by decide) _) hsemicolon
  refine ⟨aptText payloadType, h, aptText payloadType, by simp [hone], ?_⟩
  have hint : toInt (toString payloadType) = .ok payloadType := by
    simpa using toInt_toString payloadType noDigit_nil
  have hsplit : Reader.upTo equals (trimBegin (aptText payloadType)) =
      some (bytes "apt", toString payloadType) := rfl
  rw [aptOf, hsplit]
  simp only [hint]
  rfl

end RtpMap

namespace Media

/-! ## What depends on what -/

/-- The payload type is a target, or its RTP map names one that depends on the targets. -/
inductive Dependent (m : Media) (targets : List CInt) : CInt → Prop
  | target {payloadType : CInt} (h : payloadType ∈ targets) : Dependent m targets payloadType
  | names {payloadType original : CInt} {map : RtpMap} (horiginal : Dependent m targets original)
      (hmap : (payloadType, map) ∈ m.mRtpMaps.entries) (hnames : map.NamesApt original) :
      Dependent m targets payloadType

/-- The payload type is a target, or its RTP map has a line for a target. -/
def isDirect (m : Media) (targets : List CInt) (payloadType : CInt) : Bool :=
  payloadType ∈ targets || m.mRtpMaps.entries.any fun entry =>
    entry.1 = payloadType ∧ ∃ target ∈ targets, RtpMap.aptText target ∈ entry.2.fmtps

theorem isDirect_iff {m : Media} {targets : List CInt} {payloadType : CInt} :
    m.isDirect targets payloadType = true ↔ payloadType ∈ targets ∨
      ∃ map, (payloadType, map) ∈ m.mRtpMaps.entries ∧
        ∃ target ∈ targets, RtpMap.aptText target ∈ map.fmtps := by
  rw [isDirect, Bool.or_eq_true, decide_eq_true_iff, List.any_eq_true]
  refine or_congr_right ⟨?_, ?_⟩
  · rintro ⟨⟨key, map⟩, hmem, h⟩
    obtain ⟨rfl, hline⟩ := of_decide_eq_true h
    exact ⟨map, hmem, hline⟩
  · rintro ⟨map, hmem, hline⟩
    exact ⟨(payloadType, map), hmem, decide_eq_true ⟨rfl, hline⟩⟩

/-- A line for a target is enough to depend on it. -/
theorem Dependent.of_isDirect {m : Media} {targets : List CInt} {payloadType : CInt}
    (h : m.isDirect targets payloadType = true) : Dependent m targets payloadType := by
  rcases isDirect_iff.1 h with htarget | ⟨map, hmem, target, htarget, hline⟩
  · exact .target htarget
  · exact .names (.target htarget) hmem (RtpMap.namesApt_of_mem hline)

/-! ## What the loops remove -/

/-- The section without some payload types. -/
def without (m : Media) (p : CInt → Bool) : Media :=
  { m with
    mOrderedPayloadTypes := m.mOrderedPayloadTypes.filter fun payloadType => !p payloadType
    mRtpMaps := m.mRtpMaps.filter fun entry => !p entry.1 }

theorem without_without (m : Media) (p q : CInt → Bool) :
    (m.without p).without q = m.without fun payloadType => p payloadType || q payloadType := by
  simp only [without, List.filter_filter, OrderedMap.filter_filter, Bool.not_or, Bool.and_comm]

theorem without_congr {m : Media} {p q : CInt → Bool} (h : ∀ payloadType,
    p payloadType = q payloadType) : m.without p = m.without q := by
  rw [funext h]

theorem without_false {m : Media} {p : CInt → Bool} (h : ∀ payloadType, p payloadType = false) :
    m.without p = m := by
  simp [without, OrderedMap.filter, h]

theorem eraseRtpMap_eq (m : Media) (payloadType : CInt) :
    m.eraseRtpMap payloadType = m.without (· = payloadType) := by
  simp only [eraseRtpMap, without, OrderedMap.erase, decide_not]

/-- The loop over the entries of the map. -/
theorem eraseDependents_eq (payloadType : CInt) (m : Media) (entries : List (CInt × RtpMap)) :
    eraseDependents payloadType m entries = m.without fun key =>
      entries.any fun entry => entry.1 = key ∧ RtpMap.aptText payloadType ∈ entry.2.fmtps := by
  induction entries generalizing m with
  | nil => exact (without_false fun _ => rfl).symm
  | cons entry entries ih =>
    rw [eraseDependents, List.foldl_cons]
    by_cases hline : RtpMap.aptText payloadType ∈ entry.2.fmtps
    · rw [if_pos hline]
      refine (ih _).trans ?_
      rw [eraseRtpMap_eq, without_without]
      refine without_congr fun key => ?_
      rw [List.any_cons]
      congr 1
      simp [hline, eq_comm]
    · rw [if_neg hline]
      refine (ih _).trans (without_congr fun key => ?_)
      rw [List.any_cons]
      simp [hline]

/-- A payload type that is left has its RTP map still. -/
theorem isDirect_without {m : Media} {p : CInt → Bool} {targets : List CInt} {payloadType : CInt}
    (h : p payloadType = false) :
    (m.without p).isDirect targets payloadType = m.isDirect targets payloadType := by
  rw [Bool.eq_iff_iff, isDirect_iff, isDirect_iff]
  have hentries : ∀ map, (payloadType, map) ∈ (m.without p).mRtpMaps.entries ↔
      (payloadType, map) ∈ m.mRtpMaps.entries := by
    intro map
    rw [without, OrderedMap.filter, List.mem_filter]
    simp [h]
  simp only [hentries]

theorem removeRtpMap_eq (m : Media) (payloadType : CInt) :
    m.removeRtpMap payloadType = m.without (m.isDirect [payloadType]) := by
  rw [removeRtpMap, eraseDependents_eq, eraseRtpMap_eq, without_without]
  refine without_congr fun key => ?_
  by_cases hkey : key = payloadType
  · simp [isDirect, hkey]
  · have hleft := @isDirect_without m (· = payloadType) [payloadType] key (decide_eq_false hkey)
    rw [← hleft, decide_eq_false hkey, Bool.false_or, isDirect]
    simp [hkey]

/-- The payload types are removed one after the other. -/
theorem removeAll_eq (m : Media) (targets : List CInt) :
    targets.foldl removeRtpMap m = m.without (m.isDirect targets) := by
  induction targets generalizing m with
  | nil => exact (without_false fun payloadType => by simp [isDirect]).symm
  | cons target targets ih =>
    rw [List.foldl_cons, ih, removeRtpMap_eq, without_without]
    refine without_congr fun key => ?_
    cases hfirst : m.isDirect [target] key with
    | true =>
      -- what the first target removes, all targets remove
      have hall : m.isDirect (target :: targets) key = true := by
        rw [isDirect_iff] at hfirst ⊢
        rcases hfirst with hkey | ⟨map, hmem, other, hother, hline⟩
        · exact .inl (List.mem_cons.2 (.inl (List.mem_singleton.1 hkey)))
        · exact .inr ⟨map, hmem, other, List.mem_cons.2 (.inl (List.mem_singleton.1 hother)), hline⟩
      rw [hall, Bool.true_or]
    | false =>
      rw [isDirect_without hfirst, Bool.false_or, Bool.eq_iff_iff, isDirect_iff, isDirect_iff]
      rw [Bool.eq_false_iff, Ne, isDirect_iff] at hfirst
      constructor
      · rintro (hkey | ⟨map, hmem, other, hother, hline⟩)
        · exact .inl (List.mem_cons_of_mem _ hkey)
        · exact .inr ⟨map, hmem, other, List.mem_cons_of_mem _ hother, hline⟩
      · rintro (hkey | ⟨map, hmem, other, hother, hline⟩)
        · rcases List.mem_cons.1 hkey with rfl | hkey
          · exact absurd (.inl List.mem_cons_self) hfirst
          · exact .inl hkey
        · rcases List.mem_cons.1 hother with rfl | hother
          · exact absurd (.inr ⟨map, hmem, other, List.mem_cons_self, hline⟩) hfirst
          · exact .inr ⟨map, hmem, other, hother, hline⟩

/-! ## Removal with all dependents -/

/-- The payload type is a target, or it is lost from the order or from the map. -/
def Removed (m m' : Media) (targets : List CInt) (payloadType : CInt) : Prop :=
  payloadType ∈ targets ∨
    (payloadType ∈ m.mOrderedPayloadTypes ∧ payloadType ∉ m'.mOrderedPayloadTypes) ∨
    (payloadType ∈ m.mRtpMaps.entries.map Prod.fst ∧
      payloadType ∉ m'.mRtpMaps.entries.map Prod.fst)

instance (m m' : Media) (targets : List CInt) (payloadType : CInt) :
    Decidable (Removed m m' targets payloadType) := inferInstanceAs (Decidable (_ ∨ _))

/-- What is removed is gone, nothing that is left names it, and it depends on the targets. All else
is as it was. -/
structure RemovesDependents (m m' : Media) (targets : List CInt) : Prop where
  gone : ∀ payloadType, Removed m m' targets payloadType →
    payloadType ∉ m'.mOrderedPayloadTypes ∧ payloadType ∉ m'.mRtpMaps.entries.map Prod.fst
  unnamed : ∀ entry ∈ m'.mRtpMaps.entries, ∀ payloadType, Removed m m' targets payloadType →
    ¬entry.2.NamesApt payloadType
  needed : ∀ payloadType, Removed m m' targets payloadType → Dependent m targets payloadType
  others : m' = m.without (Removed m m' targets ·)

/-- A call that removes payload types. -/
inductive Removal where
  | rtpMap (payloadType : CInt)
  | format (name : Text)

namespace Removal

/-- What the call does. -/
def apply (m : Media) : Removal → Media
  | .rtpMap payloadType => m.removeRtpMap payloadType
  | .format name => m.removeFormat name

/-- The payload types that the call is for. -/
def targets (m : Media) : Removal → List CInt
  | .rtpMap payloadType => [payloadType]
  | .format name => m.payloadTypesOf name

theorem apply_eq (m : Media) (removal : Removal) :
    removal.apply m = m.without (m.isDirect (removal.targets m)) := by
  cases removal with
  | rtpMap payloadType => exact m.removeRtpMap_eq payloadType
  | format name => exact m.removeAll_eq (m.payloadTypesOf name)

end Removal

/-- What is removed are the targets and what has a line for one. -/
theorem removed_without_iff {m : Media} {targets : List CInt} {payloadType : CInt} :
    Removed m (m.without (m.isDirect targets)) targets payloadType ↔
      m.isDirect targets payloadType = true := by
  have hkeys : payloadType ∈ (m.without (m.isDirect targets)).mRtpMaps.entries.map Prod.fst ↔
      payloadType ∈ m.mRtpMaps.entries.map Prod.fst ∧ m.isDirect targets payloadType = false := by
    simp [without, OrderedMap.filter]
  rw [Removed, hkeys, without, List.mem_filter, Bool.not_eq_true']
  constructor
  · rintro (htarget | ⟨hmem, hnot⟩ | ⟨hmem, hnot⟩)
    · exact isDirect_iff.2 (.inl htarget)
    · by_contra hdirect
      exact hnot ⟨hmem, Bool.eq_false_iff.2 hdirect⟩
    · by_contra hdirect
      exact hnot ⟨hmem, Bool.eq_false_iff.2 hdirect⟩
  · intro hdirect
    rcases isDirect_iff.1 hdirect with htarget | ⟨map, hmem, -⟩
    · exact .inl htarget
    · refine .inr (.inr ⟨List.mem_map_of_mem hmem, fun hleft => ?_⟩)
      rw [hdirect] at hleft
      cases hleft.2

/-- **Removal closes over dependents** if all that depends on the targets is a target or has a line
for one, and only then. -/
theorem removesDependents_iff (m : Media) (removal : Removal) :
    RemovesDependents m (removal.apply m) (removal.targets m) ↔
      ∀ payloadType, Dependent m (removal.targets m) payloadType →
        m.isDirect (removal.targets m) payloadType = true := by
  rw [removal.apply_eq m]
  generalize removal.targets m = targets
  have hleft : ∀ entry ∈ (m.without (m.isDirect targets)).mRtpMaps.entries,
      entry ∈ m.mRtpMaps.entries ∧ m.isDirect targets entry.1 = false := by
    intro entry hentry
    simpa [without, OrderedMap.filter] using hentry
  constructor
  · intro h payloadType hdependent
    induction hdependent with
    | target htarget => exact isDirect_iff.2 (.inl htarget)
    | @names payloadType original map _ hmap hnames ih =>
      -- the RTP map names a payload type that is removed, so it is not left
      by_contra hdirect
      have hmem : (payloadType, map) ∈ (m.without (m.isDirect targets)).mRtpMaps.entries := by
        rw [without, OrderedMap.filter, List.mem_filter]
        exact ⟨hmap, by simpa using hdirect⟩
      exact h.unnamed _ hmem original (removed_without_iff.2 ih) hnames
  · intro h
    refine ⟨fun payloadType hremoved => ?_, fun entry hentry payloadType hremoved hnames => ?_,
      fun payloadType hremoved => .of_isDirect (removed_without_iff.1 hremoved), ?_⟩
    · have hdirect := removed_without_iff.1 hremoved
      simp [without, OrderedMap.filter, hdirect]
    · obtain ⟨hmem, hnot⟩ := hleft entry hentry
      have hdependent := Dependent.of_isDirect (removed_without_iff.1 hremoved)
      rw [h entry.1 (.names hdependent hmem hnames)] at hnot
      cases hnot
    · refine without_congr fun payloadType => ?_
      rw [Bool.eq_iff_iff, decide_eq_true_iff, removed_without_iff]

/-- The lines of a codec and of its retransmissions, which have two format parameters. -/
def rtxLines : List Text :=
  [bytes "a=mid:video", bytes "a=rtpmap:96 H264/90000", bytes "a=rtpmap:97 rtx/90000",
    bytes "a=fmtp:97 apt=96;rtx-time=3000"]

/-- The RTP map of the retransmissions. -/
def rtxMap : RtpMap where
  payloadType := ⟨97, by decide⟩
  format := bytes "rtx"
  clockRate := ⟨90000, by decide⟩
  fmtps := [bytes "apt=96;rtx-time=3000"]

theorem rtxMap_namesApt : rtxMap.NamesApt ⟨96, by decide⟩ := by
  have hsplit : bytes "apt=96;rtx-time=3000" =
      bytes "apt=96" ++ semicolon :: bytes "rtx-time=3000" := rfl
  refine ⟨bytes "apt=96;rtx-time=3000", by decide +kernel, bytes "apt=96", ?_, by decide +kernel⟩
  rw [hsplit, Utils.explode_append (by decide)]
  exact List.mem_cons_self

/-- The retransmissions of a codec that is removed are left. -/
theorem not_removesDependents_rtx :
    ¬∀ (mline mid : Text) (dir : Direction) (texts : List Text) (start m : Media)
      (removal : Removal),
      ofMLine mline mid dir = .ok start → texts.foldlM parseSdpLine start = .ok m →
      RemovesDependents m (removal.apply m) (removal.targets m) := by
  intro hall
  obtain ⟨start, m, hstart, hm, hmaps, hdirect⟩ : ∃ start m,
      ofMLine (bytes "video 9 UDP/TLS/RTP/SAVPF") [] .unknown = .ok start ∧
      rtxLines.foldlM parseSdpLine start = .ok m ∧
      (⟨97, by decide⟩, rtxMap) ∈ m.mRtpMaps.entries ∧
      m.isDirect [⟨96, by decide⟩] ⟨97, by decide⟩ = false :=
    ⟨_, _, rfl, rfl, .tail _ (.head _), by decide +kernel⟩
  have h := hall _ [] .unknown rtxLines start m (.rtpMap ⟨96, by decide⟩) hstart hm
  refine h.unnamed (⟨97, by decide⟩, rtxMap) ?_ ⟨96, by decide⟩ (.inl List.mem_cons_self)
    rtxMap_namesApt
  rw [Removal.apply_eq, without, OrderedMap.filter, List.mem_filter]
  exact ⟨hmaps, by simp [Removal.targets, hdirect]⟩

end Media

end Sdp

end Rtc
