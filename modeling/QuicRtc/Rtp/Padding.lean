import QuicRtc.Rtp.MalformedFrame
import QuicRtc.Rtp.Packet

/-!
# Padding

What the depacketizers do with the padding of RTP packets. The loop of `buildFrames` reads the
length of the padding and uses it only to see that there is no payload. The padding behind a single
NAL unit or behind a fragment goes to the decoder, and behind an aggregation packet it is read as
further units, unless it is too short for one.

The main result `buildFrames_padding_iff` compares the runs on packets with and without padding.
-/

namespace Rtc

/-! ## Payloads -/

/-- The payload of a packet. -/
inductive MediaPayload where
  | empty
  | single (nalu : List UInt8)
  | fragment (data : List UInt8)
  | aggregation (header : List UInt8) (nalus : List (List UInt8))
  deriving DecidableEq, Repr

namespace MediaPayload

/-- The units of an aggregation packet, each behind its length. -/
def aggregated (nalus : List (List UInt8)) : List UInt8 :=
  nalus.flatMap fun nalu => BigEndian.encode 2 nalu.length ++ nalu

/-- The payload as laid out in the packet. -/
def toBytes : MediaPayload → List UInt8
  | empty => []
  | single nalu => nalu
  | fragment data => data
  | aggregation header nalus => header ++ aggregated nalus

/-- The type in the payload header. -/
def unitType : Depacketizer.Codec → List UInt8 → UInt8
  | .h264, payload => NalUnitHeader.unitType (payload.getD 0 0)
  | .h265, payload => (H265NalUnitHeader.read payload).unitType

/-- The bytes of the payload header. -/
def headerSize : Depacketizer.Codec → ℕ
  | .h264 => 1
  | .h265 => 2

/-- The types of single units. -/
def IsSingle : Depacketizer.Codec → UInt8 → Prop
  | .h264, type => 0 < type ∧ type < 24
  | .h265, type => type < 48

instance (codec : Depacketizer.Codec) (type : UInt8) : Decidable (IsSingle codec type) :=
  match codec with
  | .h264 => inferInstanceAs (Decidable (0 < type ∧ type < 24))
  | .h265 => inferInstanceAs (Decidable (type < 48))

/-- The type of fragments. -/
def fragmentType : Depacketizer.Codec → UInt8
  | .h264 => NalUnitFragmentA.nalTypeFuA
  | .h265 => H265NalUnitFragment.nalTypeFu

/-- The type of aggregation packets. -/
def aggregationType : Depacketizer.Codec → UInt8
  | .h264 => 24
  | .h265 => 48

/-- The payload is well-formed. A fragment has a header behind the payload header. -/
def WellFormed (codec : Depacketizer.Codec) : MediaPayload → Prop
  | empty => True
  | single nalu => headerSize codec ≤ nalu.length ∧ IsSingle codec (unitType codec nalu)
  | fragment data =>
    headerSize codec + 1 ≤ data.length ∧ unitType codec data = fragmentType codec
  | aggregation header nalus =>
    header.length = headerSize codec ∧ unitType codec header = aggregationType codec ∧
      nalus ≠ [] ∧ ∀ nalu ∈ nalus, 1 ≤ nalu.length ∧ nalu.length < 65536

/-- The padding does not get into the access unit. -/
def Harmless (padding : List UInt8) : MediaPayload → Prop
  | empty => True
  | single _ => padding = []
  | fragment _ => padding = []
  -- a unit takes at least three bytes
  | aggregation _ _ => padding.length ≤ 2

end MediaPayload

/-! ## Aggregated units -/

section Aggregated

variable {separator : Separator} {tooLarge : DepacketizerException}

/-- The length in front of a unit is read back. -/
private theorem naluSize_encode {n : ℕ} (h : n < 65536) :
    (UInt8.ofNat (n / 256)).toNat <<< 8 ||| (UInt8.ofNat n).toNat = n := by
  have hlow : (UInt8.ofNat n).toNat = n % 256 := by simp
  have hhigh : (UInt8.ofNat (n / 256)).toNat = n / 256 := by
    simp only [UInt8.toNat_ofNat']
    omega
  rw [hlow, hhigh, ← Nat.shiftLeft_add_eq_or_of_lt (show n % 256 < 2 ^ 8 by omega),
    Nat.shiftLeft_eq]
  omega

/-- Each unit is added behind a separator. -/
theorem addAggregated_append {nalus : List (List UInt8)}
    (hnalus : ∀ nalu ∈ nalus, 1 ≤ nalu.length ∧ nalu.length < 65536)
    (accessUnit rest : List UInt8) :
    addAggregated separator tooLarge accessUnit (MediaPayload.aggregated nalus ++ rest) =
      addAggregated separator tooLarge
        (accessUnit ++ nalus.flatMap (separator.startCode ++ ·)) rest := by
  induction nalus generalizing accessUnit with
  | nil => simp [MediaPayload.aggregated]
  | cons nalu nalus ih =>
    obtain ⟨hpos, hlt⟩ := hnalus nalu (List.mem_cons_self ..)
    obtain ⟨first, bytes, rfl⟩ : ∃ first bytes, nalu = first :: bytes :=
      List.exists_cons_of_length_pos hpos
    have hlayout : MediaPayload.aggregated ((first :: bytes) :: nalus) ++ rest =
        UInt8.ofNat ((first :: bytes).length / 256) :: UInt8.ofNat (first :: bytes).length ::
          (first :: (bytes ++ (MediaPayload.aggregated nalus ++ rest))) := by
      simp [MediaPayload.aggregated, BigEndian.encode]
    have hsplit : first :: (bytes ++ (MediaPayload.aggregated nalus ++ rest)) =
        (first :: bytes) ++ (MediaPayload.aggregated nalus ++ rest) := rfl
    rw [hlayout, addAggregated, naluSize_encode hlt, hsplit, if_neg (by simp), List.take_left,
      List.drop_left, ih fun nalu' h => hnalus nalu' (List.mem_cons_of_mem _ h),
      List.flatMap_cons]
    simp only [List.append_assoc]

/-- The loop only adds to the access unit. -/
theorem addAggregated_grows (accessUnit payload : List UInt8) :
    (∃ e, addAggregated separator tooLarge accessUnit payload = .error e) ∨
      ∃ extra, addAggregated separator tooLarge accessUnit payload = .ok (accessUnit ++ extra) := by
  induction accessUnit, payload using addAggregated.induct separator with
  | case1 accessUnit high low first rest naluSize hlt =>
    rw [addAggregated, if_pos hlt]
    exact Or.inl ⟨_, rfl⟩
  | case2 accessUnit high low first rest naluSize hle ih =>
    rw [addAggregated, if_neg hle]
    refine ih.imp_right ?_
    rintro ⟨extra, hextra⟩
    exact ⟨separator.startCode ++ (first :: rest).take naluSize ++ extra, by
      simpa only [List.append_assoc] using hextra⟩
  | case3 accessUnit payload hshort =>
    right
    refine ⟨[], ?_⟩
    rw [addAggregated, List.append_nil]
    exact hshort

/-- What is left behind the units is read as a unit if it has three bytes. -/
theorem addAggregated_rest (accessUnit rest : List UInt8) :
    ((∃ e, addAggregated separator tooLarge accessUnit rest = .error e) ∧ ¬rest.length ≤ 2) ∨
      ∃ extra, addAggregated separator tooLarge accessUnit rest = .ok (accessUnit ++ extra) ∧
        (extra = [] ↔ rest.length ≤ 2) := by
  by_cases hlong : rest.length ≤ 2
  · right
    refine ⟨[], ?_, iff_of_true rfl hlong⟩
    rw [addAggregated_of_le hlong, List.append_nil]
  · obtain ⟨high, low, first, rest, rfl⟩ := exists_cons₃_of_le (Nat.lt_of_not_le hlong)
    rw [addAggregated]
    split
    · exact Or.inl ⟨⟨_, rfl⟩, hlong⟩
    · rcases @addAggregated_grows separator tooLarge
        (accessUnit ++ separator.startCode ++
          (first :: rest).take (high.toNat <<< 8 ||| low.toNat))
        ((first :: rest).drop (high.toNat <<< 8 ||| low.toNat)) with herror | ⟨extra, hextra⟩
      · exact Or.inl ⟨herror, hlong⟩
      · right
        refine ⟨_, hextra.trans (by rw [List.append_assoc, List.append_assoc]), ?_⟩
        simp [startCode_ne_nil]

end Aggregated

/-! ## One payload -/

/-- A payload adds a unit in a run without its padding. In a run with the padding it adds the same
unit, and nothing else only if the padding is harmless. -/
def PaddedStep (addPayload : AddPayload) (payload padding : List UInt8) (harmless : Prop) : Prop :=
  ∀ accessUnit accessUnit', (accessUnit = [] ↔ accessUnit' = []) →
    ∃ unit, accessUnit ++ unit ≠ [] ∧ accessUnit' ++ unit ≠ [] ∧
      addPayload accessUnit payload = .ok (accessUnit ++ unit) ∧
      ((∃ e, addPayload accessUnit' (payload ++ padding) = .error e) ∧ ¬harmless ∨
        ∃ extra, addPayload accessUnit' (payload ++ padding) = .ok (accessUnit' ++ unit ++ extra) ∧
          (extra = [] ↔ harmless))

section Step

variable {addPayload : AddPayload} {padding : List UInt8}

/-- A payload that is added as it is, behind a separator. -/
theorem paddedStep_single (separator : Separator) {nalu : List UInt8}
    (h : ∀ accessUnit rest, addPayload accessUnit (nalu ++ rest) =
      .ok (accessUnit ++ separator.startCode ++ (nalu ++ rest))) :
    PaddedStep addPayload nalu padding (padding = []) := by
  intro accessUnit accessUnit' _
  refine ⟨separator.startCode ++ nalu, by simp [startCode_ne_nil], by simp [startCode_ne_nil],
    ?_, Or.inr ⟨padding, ?_, Iff.rfl⟩⟩
  · simpa [List.append_assoc] using h accessUnit []
  · simpa [List.append_assoc] using h accessUnit' padding

/-- A fragment is added without its headers. A header of the unit comes first where it starts one,
and in an empty access unit. -/
theorem paddedStep_fragment (separator : Separator) {data : List UInt8} (starts : Bool)
    (header piece : List UInt8)
    (h : ∀ accessUnit rest, addPayload accessUnit (data ++ rest) =
      .ok (if starts ∨ accessUnit = [] then
        accessUnit ++ separator.startCode ++ header ++ (piece ++ rest)
        else accessUnit ++ (piece ++ rest))) :
    PaddedStep addPayload data padding (padding = []) := by
  intro accessUnit accessUnit' hiff
  by_cases hstarts : starts ∨ accessUnit = []
  · have hstarts' : starts ∨ accessUnit' = [] := hstarts.imp_right hiff.1
    refine ⟨separator.startCode ++ header ++ piece, by simp [startCode_ne_nil],
      by simp [startCode_ne_nil], ?_, Or.inr ⟨padding, ?_, Iff.rfl⟩⟩
    · simpa [hstarts, List.append_assoc] using h accessUnit []
    · simpa [hstarts', List.append_assoc] using h accessUnit' padding
  · have hne : accessUnit ≠ [] := fun hnil => hstarts (Or.inr hnil)
    have hne' : accessUnit' ≠ [] := fun hnil => hne (hiff.2 hnil)
    refine ⟨piece, by simp [hne], by simp [hne'], ?_, Or.inr ⟨padding, ?_, Iff.rfl⟩⟩
    · have hdata := h accessUnit []
      rw [if_neg hstarts] at hdata
      simpa using hdata
    · have hdata := h accessUnit' padding
      rw [if_neg fun hstarts' => hstarts (hstarts'.imp_right hiff.2)] at hdata
      rw [hdata, List.append_assoc]

/-- An aggregation packet. -/
theorem paddedStep_aggregation (separator : Separator) (tooLarge : DepacketizerException)
    {header : List UInt8}
    {nalus : List (List UInt8)} (hne : nalus ≠ [])
    (hnalus : ∀ nalu ∈ nalus, 1 ≤ nalu.length ∧ nalu.length < 65536)
    (h : ∀ accessUnit rest, addPayload accessUnit (header ++ rest) =
      addAggregated separator tooLarge accessUnit rest) :
    PaddedStep addPayload (header ++ MediaPayload.aggregated nalus) padding
      (padding.length ≤ 2) := by
  intro accessUnit accessUnit' _
  have hunit : nalus.flatMap (separator.startCode ++ ·) ≠ [] := by
    obtain ⟨nalu, nalus, rfl⟩ := List.exists_cons_of_ne_nil hne
    simp [startCode_ne_nil]
  refine ⟨nalus.flatMap (separator.startCode ++ ·), by simp [hunit], by simp [hunit], ?_, ?_⟩
  · have hstep : addAggregated separator tooLarge accessUnit
        (MediaPayload.aggregated nalus ++ []) = _ := addAggregated_append hnalus accessUnit []
    rw [List.append_nil] at hstep
    rw [h, hstep, addAggregated]
    simp
  · rw [List.append_assoc, h, addAggregated_append hnalus]
    exact addAggregated_rest _ padding

end Step

/-- The steps of the H.264 depacketizer. -/
theorem H264.paddedStep {separator : Separator} {media : MediaPayload} {padding : List UInt8}
    (h : media.WellFormed .h264) (hne : media ≠ .empty) :
    PaddedStep (H264.addPayload separator) media.toBytes padding (media.Harmless padding) := by
  cases media with
  | empty => exact absurd rfl hne
  | single nalu =>
    obtain ⟨hlength, hpos, hlt⟩ := h
    obtain ⟨first, bytes, rfl⟩ : ∃ first bytes, nalu = first :: bytes :=
      List.exists_cons_of_length_pos hlength
    change 0 < NalUnitHeader.unitType first at hpos
    change NalUnitHeader.unitType first < 24 at hlt
    -- the type is below those of FU-A and STAP-A
    have hfu : NalUnitHeader.unitType first ≠ NalUnitFragmentA.nalTypeFuA := by
      intro heq
      rw [heq] at hlt
      exact absurd hlt (by decide)
    refine paddedStep_single separator fun accessUnit rest => ?_
    rw [MediaPayload.toBytes, List.cons_append, H264.addPayload.eq_def]
    simp only [if_neg hfu, if_pos (And.intro hpos hlt)]
  | fragment data =>
    obtain ⟨hlength, htype⟩ := h
    obtain ⟨indicator, header, bytes, rfl⟩ : ∃ indicator header bytes,
        data = indicator :: header :: bytes := exists_cons₂_of_le hlength
    change NalUnitHeader.unitType indicator = NalUnitFragmentA.nalTypeFuA at htype
    refine paddedStep_fragment separator (NalUnitFragmentHeader.isStart header)
      [NalUnitHeader.idc indicator ||| NalUnitFragmentHeader.unitType header] bytes
      fun accessUnit rest => ?_
    rw [MediaPayload.toBytes, List.cons_append, List.cons_append, H264.addPayload]
    simp only [if_pos htype]
    split_ifs <;> rfl
  | aggregation header nalus =>
    obtain ⟨hlength, htype, hnalus, hsizes⟩ := h
    obtain ⟨first, rfl⟩ : ∃ first, header = [first] := List.length_eq_one_iff.1 hlength
    change NalUnitHeader.unitType first = 24 at htype
    refine paddedStep_aggregation separator
      (.runtimeError "H264 STAP-A declared size is larger than buffer") hnalus hsizes
      fun accessUnit rest => ?_
    rw [List.singleton_append, H264.addPayload.eq_def]
    simp only [htype]
    rfl

/-- The steps of the H.265 depacketizer. -/
theorem H265.paddedStep {separator : Separator} {media : MediaPayload} {padding : List UInt8}
    (h : media.WellFormed .h265) (hne : media ≠ .empty) :
    PaddedStep (H265.addPayload separator) media.toBytes padding (media.Harmless padding) := by
  cases media with
  | empty => exact absurd rfl hne
  | single nalu =>
    obtain ⟨hlength, hlt⟩ := h
    obtain ⟨first, second, bytes, rfl⟩ : ∃ first second bytes, nalu = first :: second :: bytes :=
      exists_cons₂_of_le hlength
    change H265NalUnitHeader.unitType ⟨first, second⟩ < 48 at hlt
    -- the type is below those of aggregation packets and fragmentation units
    have hfu : H265NalUnitHeader.unitType ⟨first, second⟩ ≠ H265NalUnitFragment.nalTypeFu := by
      intro heq
      rw [heq] at hlt
      exact absurd hlt (by decide)
    have hap : H265NalUnitHeader.unitType ⟨first, second⟩ ≠ 48 := by
      intro heq
      rw [heq] at hlt
      exact absurd hlt (by decide)
    refine paddedStep_single separator fun accessUnit rest => ?_
    rw [MediaPayload.toBytes, List.cons_append, List.cons_append, H265.addPayload.eq_def]
    simp only [if_neg hfu, if_neg hap, if_pos hlt]
  | fragment data =>
    obtain ⟨hlength, htype⟩ := h
    obtain ⟨first, second, header, bytes, rfl⟩ : ∃ first second header bytes,
        data = first :: second :: header :: bytes := exists_cons₃_of_le hlength
    change H265NalUnitHeader.unitType ⟨first, second⟩ = H265NalUnitFragment.nalTypeFu at htype
    let unit := H265NalUnitHeader.setUnitType ⟨first, second⟩
      (H265NalUnitFragmentHeader.unitType header)
    refine paddedStep_fragment separator (H265NalUnitFragmentHeader.isStart header)
      [unit.first, unit.second] bytes fun accessUnit rest => ?_
    rw [MediaPayload.toBytes, List.cons_append, List.cons_append, List.cons_append,
      H265.addPayload]
    simp only [if_pos htype]
    split_ifs <;> rfl
  | aggregation header nalus =>
    obtain ⟨hlength, htype, hnalus, hsizes⟩ := h
    obtain ⟨first, second, rfl⟩ : ∃ first second, header = [first, second] :=
      List.length_eq_two.1 hlength
    change H265NalUnitHeader.unitType ⟨first, second⟩ = 48 at htype
    refine paddedStep_aggregation separator
      (.runtimeError "H265 AP declared size is larger than buffer") hnalus hsizes
      fun accessUnit rest => ?_
    rw [List.cons_append, List.singleton_append, H265.addPayload.eq_def]
    simp only [htype]
    rfl

/-! ## Runs with and without padding -/

/-- A packet with a well-formed payload for a codec. -/
structure MediaPacket (codec : Depacketizer.Codec) where
  packet : RtpPacket
  media : MediaPayload
  wellFormed : media.WellFormed codec
  payload_eq : packet.payload = media.toBytes

namespace MediaPacket

variable {codec : Depacketizer.Codec} (separator : Separator)

/-- The packet as laid out in a message. -/
def toBytes (p : MediaPacket codec) : List UInt8 := p.packet.toBytes

/-- The packet as it was before padding was added. -/
def unpadded (p : MediaPacket codec) : List UInt8 :=
  (p.packet.withPadding [] RtpPacket.padding_last_nil).toBytes

/-- The padding does not get into the access unit. -/
def Harmless (p : MediaPacket codec) : Prop := p.media.Harmless p.packet.padding

theorem paddedStep {media : MediaPayload} (h : media.WellFormed codec) (hne : media ≠ .empty)
    (padding : List UInt8) :
    PaddedStep (Depacketizer.addPayload codec separator) media.toBytes padding
      (media.Harmless padding) := by
  cases codec with
  | h264 => exact H264.paddedStep h hne
  | h265 => exact H265.paddedStep h hne

theorem toBytes_eq_nil_iff {media : MediaPayload} (h : media.WellFormed codec) :
    media.toBytes = [] ↔ media = .empty := by
  have hpos : 0 < MediaPayload.headerSize codec := by cases codec <;> decide
  rw [← List.length_eq_zero_iff]
  cases media with
  | empty => simp [MediaPayload.toBytes]
  | single nalu =>
    have hlength := h.1
    simp only [MediaPayload.toBytes, reduceCtorEq, iff_false]
    omega
  | fragment data =>
    have hlength := h.1
    simp only [MediaPayload.toBytes, reduceCtorEq, iff_false]
    omega
  | aggregation header nalus =>
    have hlength := h.1
    simp only [MediaPayload.toBytes, reduceCtorEq, iff_false, List.length_append]
    omega

/-- One packet in both runs. Nothing is added for an empty payload. -/
theorem addPacket_cases (p : MediaPacket codec) {accessUnit accessUnit' : List UInt8}
    (hiff : accessUnit = [] ↔ accessUnit' = []) :
    ∃ unit, (accessUnit ++ unit = [] ↔ accessUnit' ++ unit = []) ∧
      (Depacketizer.addPayload codec separator).addPacket accessUnit p.unpadded =
        .ok (accessUnit ++ unit) ∧
      ((∃ e, (Depacketizer.addPayload codec separator).addPacket accessUnit' p.toBytes =
          .error e) ∧ ¬p.Harmless ∨
        ∃ extra, (accessUnit' ++ unit = [] → extra = []) ∧
          (Depacketizer.addPayload codec separator).addPacket accessUnit' p.toBytes =
            .ok (accessUnit' ++ unit ++ extra) ∧ (extra = [] ↔ p.Harmless)) := by
  have hunpadded := (p.packet.withPadding [] RtpPacket.padding_last_nil).addPacket_toBytes
    (Depacketizer.addPayload codec separator) accessUnit
  have hpadded := p.packet.addPacket_toBytes (Depacketizer.addPayload codec separator) accessUnit'
  change (Depacketizer.addPayload codec separator).addPacket accessUnit p.unpadded =
    if p.packet.payload = [] then .ok accessUnit
    else Depacketizer.addPayload codec separator accessUnit (p.packet.payload ++ []) at hunpadded
  change (Depacketizer.addPayload codec separator).addPacket accessUnit' p.toBytes = _ at hpadded
  rw [p.payload_eq] at hunpadded hpadded
  by_cases hempty : p.media = .empty
  · -- the packet is skipped, with padding and without
    rw [if_pos ((toBytes_eq_nil_iff p.wellFormed).2 hempty)] at hunpadded hpadded
    refine ⟨[], by simpa using hiff, by simpa using hunpadded,
      Or.inr ⟨[], fun _ => rfl, by simpa using hpadded, ?_⟩⟩
    rw [Harmless, hempty]
    exact iff_of_true rfl trivial
  · have hne : p.media.toBytes ≠ [] := fun hnil =>
      hempty ((toBytes_eq_nil_iff p.wellFormed).1 hnil)
    rw [if_neg hne] at hunpadded hpadded
    rw [List.append_nil] at hunpadded
    obtain ⟨unit, hunit, hunit', hok, hcases⟩ :=
      paddedStep separator p.wellFormed hempty p.packet.padding accessUnit accessUnit' hiff
    refine ⟨unit, iff_of_false hunit hunit', hunpadded.trans hok, ?_⟩
    rw [hpadded]
    exact hcases.imp_right fun ⟨extra, hextra, hharmless⟩ =>
      ⟨extra, fun hnil => absurd hnil hunit', hextra, hharmless⟩

/-- The packets in both runs: the one with the padding throws or makes an access unit that is at
least as long, and longer if some padding is not harmless. -/
theorem buildAccessUnit_cases (packets : List (MediaPacket codec)) :
    ∀ accessUnit accessUnit' : List UInt8, (accessUnit = [] ↔ accessUnit' = []) →
      accessUnit.length ≤ accessUnit'.length →
      ∃ built, (Depacketizer.addPayload codec separator).buildAccessUnit accessUnit
          (packets.map unpadded) = .ok built ∧
        ((∃ e, (Depacketizer.addPayload codec separator).buildAccessUnit accessUnit'
            (packets.map toBytes) = .error e) ∧ (∃ p ∈ packets, ¬p.Harmless) ∨
          ∃ built', (Depacketizer.addPayload codec separator).buildAccessUnit accessUnit'
              (packets.map toBytes) = .ok built' ∧ (built = [] ↔ built' = []) ∧
            built.length ≤ built'.length ∧
            (accessUnit.length < accessUnit'.length ∨ (∃ p ∈ packets, ¬p.Harmless) →
              built.length < built'.length) ∧
            (accessUnit = accessUnit' → (∀ p ∈ packets, p.Harmless) → built = built')) := by
  induction packets with
  | nil =>
    intro accessUnit accessUnit' hiff hle
    exact ⟨accessUnit, rfl, Or.inr ⟨accessUnit', rfl, hiff, hle, by simp, fun heq _ => heq⟩⟩
  | cons p packets ih =>
    intro accessUnit accessUnit' hiff hle
    obtain ⟨unit, hunit, hunpadded, hpadded⟩ := p.addPacket_cases separator hiff
    rcases hpadded with ⟨⟨e, herror⟩, hharmful⟩ | ⟨extra, hnil, hpadded, hharmless⟩
    · -- the loop ends here
      obtain ⟨built, hbuilt, -⟩ := ih _ _ hunit (by simpa using hle)
      refine ⟨built, ?_, Or.inl ⟨⟨e, ?_⟩, p, List.mem_cons_self .., hharmful⟩⟩
      · rw [List.map_cons, AddPayload.buildAccessUnit, List.foldlM_cons, hunpadded]
        exact hbuilt
      · rw [List.map_cons, AddPayload.buildAccessUnit, List.foldlM_cons, herror]
        rfl
    · have hiff' : accessUnit ++ unit = [] ↔ accessUnit' ++ unit ++ extra = [] := by
        rw [hunit]
        exact ⟨fun h => by rw [h, hnil h]; rfl, fun h => (List.append_eq_nil_iff.1 h).1⟩
      have hle' : (accessUnit ++ unit).length ≤ (accessUnit' ++ unit ++ extra).length := by
        simp only [List.length_append]
        omega
      obtain ⟨built, hbuilt, hcases⟩ := ih _ _ hiff' hle'
      refine ⟨built, ?_, ?_⟩
      · rw [List.map_cons, AddPayload.buildAccessUnit, List.foldlM_cons, hunpadded]
        exact hbuilt
      · rw [List.map_cons, AddPayload.buildAccessUnit, List.foldlM_cons, hpadded]
        rcases hcases with ⟨herror, p', hmem, hharmful⟩ | ⟨built', hbuilt', hnil', hlen, hlt, heq⟩
        · exact Or.inl ⟨herror, p', List.mem_cons_of_mem _ hmem, hharmful⟩
        · refine Or.inr ⟨built', hbuilt', hnil', hlen, fun hor => hlt ?_, fun hsame hall => ?_⟩
          · -- the access units differ already, or a later packet makes them differ
            rcases hor with hless | ⟨p', hmem, hharmful⟩
            · left
              simp only [List.length_append]
              omega
            · rcases List.mem_cons.1 hmem with rfl | hmem
              · left
                have hextra : 0 < extra.length :=
                  List.length_pos_iff.2 fun h => hharmful (hharmless.1 h)
                simp only [List.length_append]
                omega
              · exact Or.inr ⟨p', hmem, hharmful⟩
          · have hnone := hharmless.2 (hall p (List.mem_cons_self ..))
            exact heq (by rw [hsame, hnone, List.append_nil])
              fun p' hmem => hall p' (List.mem_cons_of_mem _ hmem)

/-- For every group of packets with well-formed payloads and every padding: the access unit is that
of the packets without the padding exactly when no single NAL unit and no fragment is padded, and no
aggregation packet has more than two bytes of padding. -/
theorem buildFrames_padding_iff (packets : List (MediaPacket codec)) (payloadType : UInt8)
    (timestamp : UInt32) :
    Depacketizer.buildFrames codec separator ⟨packets.map toBytes, payloadType, timestamp⟩ =
        Depacketizer.buildFrames codec separator
          ⟨packets.map unpadded, payloadType, timestamp⟩ ↔
      ∀ p ∈ packets, p.media.Harmless p.packet.padding := by
  obtain ⟨built, hbuilt, hcases⟩ := buildAccessUnit_cases separator packets [] [] Iff.rfl le_rfl
  rw [Depacketizer.buildFrames_eq, Depacketizer.buildFrames_eq, AddPayload.buildFrames,
    AddPayload.buildFrames, hbuilt]
  rcases hcases with ⟨⟨e, herror⟩, p, hmem, hharmful⟩ | ⟨built', hbuilt', hnil, -, hlt, heq⟩
  · rw [herror]
    exact iff_of_false (by simp) fun hall => hharmful (hall p hmem)
  · rw [hbuilt']
    show (Except.ok (if built' = [] then _ else _) : Except DepacketizerException _) =
      Except.ok (if built = [] then _ else _) ↔ _
    constructor
    · intro hframes p hmem
      by_contra hharmful
      have hless := hlt (Or.inr ⟨p, hmem, hharmful⟩)
      have hne : built' ≠ [] := List.ne_nil_of_length_pos (Nat.zero_lt_of_lt hless)
      rw [if_neg hne, if_neg fun h => hne (hnil.1 h)] at hframes
      have hdata : built' = built := by simpa using hframes
      rw [hdata] at hless
      exact lt_irrefl _ hless
    · intro hall
      rw [heq rfl hall]

/-- A NAL unit of one byte with one byte of padding. -/
def paddedUnit : MediaPacket .h264 where
  packet :=
    { typeByte := 96
      seqNumber := 1
      timestamp := 7
      ssrc := 1
      csrcs := []
      extensionHeader := none
      payload := [0x65]
      padding := [1]
      csrcs_le := by decide
      extensionHeader_body := RtpPacket.extensionHeader_body_none
      padding_last := by decide +kernel }
  media := .single [0x65]
  wellFormed := ⟨by decide, by decide +kernel⟩
  payload_eq := rfl

/-- The byte of padding is handed to the decoder. -/
theorem buildFrames_paddedUnit :
    Depacketizer.buildFrames .h264 .startSequence ⟨[paddedUnit.toBytes], 96, 7⟩ =
        .ok [⟨[0, 0, 0, 1, 0x65, 1], 96, 7⟩] ∧
      Depacketizer.buildFrames .h264 .startSequence ⟨[paddedUnit.unpadded], 96, 7⟩ =
        .ok [⟨[0, 0, 0, 1, 0x65], 96, 7⟩] ∧
      Depacketizer.buildFrames .h264 .startSequence ⟨[paddedUnit.toBytes], 96, 7⟩ ≠
        Depacketizer.buildFrames .h264 .startSequence ⟨[paddedUnit.unpadded], 96, 7⟩ := by
  have hpadded : Depacketizer.buildFrames .h264 .startSequence ⟨[paddedUnit.toBytes], 96, 7⟩ =
      .ok [⟨[0, 0, 0, 1, 0x65, 1], 96, 7⟩] := rfl
  have hunpadded : Depacketizer.buildFrames .h264 .startSequence ⟨[paddedUnit.unpadded], 96, 7⟩ =
      .ok [⟨[0, 0, 0, 1, 0x65], 96, 7⟩] := rfl
  refine ⟨hpadded, hunpadded, ?_⟩
  rw [hpadded, hunpadded]
  simp

end MediaPacket

end Rtc
