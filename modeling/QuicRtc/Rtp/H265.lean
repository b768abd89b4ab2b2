import QuicRtc.Rtp.Fragments

/-!
# H.265 over RTP

The two-byte NAL unit header and the fragment header (`h265nalunit.hpp`), the fragments of
`H265NalUnitFragment` and the payloads that `H265RtpDepacketizer::buildFrames` takes.

The main result `H265.h265_roundTrip_iff` has the condition of H.264. Behind an extension header
that is too long the depacketizer does not throw here: the zeros it starts on read as a single unit,
so the frame comes back too long (`length_lt_of_long`).
-/

namespace Rtc

/-! ## Headers -/

/-- `H265NalUnitHeader`. -/
@[ext]
structure H265NalUnitHeader where
  first : UInt8 := 0
  second : UInt8 := 0
  deriving DecidableEq, Repr

namespace H265NalUnitHeader

/-- `H265NalUnitHeader::forbiddenBit`. -/
def forbiddenBit (h : H265NalUnitHeader) : Bool := h.first >>> 7 != 0

/-- `H265NalUnitHeader::unitType`. -/
def unitType (h : H265NalUnitHeader) : UInt8 := (h.first &&& 0x7E) >>> 1

/-- `H265NalUnitHeader::nuhLayerId`. Its high bit is in the first byte. -/
def nuhLayerId (h : H265NalUnitHeader) : UInt8 :=
  ((h.first &&& 0x1) <<< (5 : UInt8)) ||| ((h.second &&& 0xF8) >>> (3 : UInt8))

/-- `H265NalUnitHeader::nuhTempIdPlus1`. -/
def nuhTempIdPlus1 (h : H265NalUnitHeader) : UInt8 := h.second &&& 0x07

/-- `H265NalUnitHeader::setForbiddenBit`. -/
def setForbiddenBit (h : H265NalUnitHeader) (isSet : Bool) : H265NalUnitHeader :=
  { h with first := (h.first &&& 0x7F) ||| (isSet.toUInt8 <<< (7 : UInt8)) }

/-- `H265NalUnitHeader::setUnitType`. -/
def setUnitType (h : H265NalUnitHeader) (type : UInt8) : H265NalUnitHeader :=
  { h with first := (h.first &&& 0x81) ||| ((type &&& 0x3F) <<< (1 : UInt8)) }

/-- `H265NalUnitHeader::setNuhLayerId`. -/
def setNuhLayerId (h : H265NalUnitHeader) (nuhLayerId : UInt8) : H265NalUnitHeader where
  first := (h.first &&& 0xFE) ||| ((nuhLayerId &&& 0x20) >>> (5 : UInt8))
  second := (h.second &&& 0x07) ||| ((nuhLayerId &&& 0x1F) <<< (3 : UInt8))

/-- `H265NalUnitHeader::setNuhTempIdPlus1`. -/
def setNuhTempIdPlus1 (h : H265NalUnitHeader) (nuhTempIdPlus1 : UInt8) : H265NalUnitHeader :=
  { h with second := (h.second &&& 0xF8) ||| (nuhTempIdPlus1 &&& 0x07) }

/-- The header at the front of a NAL unit. -/
def read (nalu : List UInt8) : H265NalUnitHeader := ⟨nalu.getD 0 0, nalu.getD 1 0⟩

end H265NalUnitHeader

namespace H265NalUnitFragmentHeader

/-- `H265NalUnitFragmentHeader::isStart`. The header is the byte `_first`. -/
def isStart (first : UInt8) : Bool := first >>> 7 != 0

/-- `H265NalUnitFragmentHeader::isEnd`. -/
def isEnd (first : UInt8) : Bool := (first >>> 6) &&& 0x01 != 0

/-- `H265NalUnitFragmentHeader::unitType`. -/
def unitType (first : UInt8) : UInt8 := first &&& 0x3F

/-- `H265NalUnitFragmentHeader::setStart`. -/
def setStart (first : UInt8) (isSet : Bool) : UInt8 :=
  (first &&& 0x7F) ||| (isSet.toUInt8 <<< (7 : UInt8))

/-- `H265NalUnitFragmentHeader::setEnd`. -/
def setEnd (first : UInt8) (isSet : Bool) : UInt8 :=
  (first &&& 0xBF) ||| (isSet.toUInt8 <<< (6 : UInt8))

/-- `H265NalUnitFragmentHeader::setUnitType`. -/
def setUnitType (first type : UInt8) : UInt8 := (first &&& 0xC0) ||| (type &&& 0x3F)

end H265NalUnitFragmentHeader

/-! ## Fragments -/

namespace H265NalUnitFragment

/-- `H265NalUnitFragment::nal_type_fu`. -/
def nalTypeFu : UInt8 := 49

/-- `H265NalUnitFragment::setFragmentType`, on the fragment header. -/
def setFragmentType (first : UInt8) (type : FragmentType) : UInt8 :=
  match type with
  | .start => H265NalUnitFragmentHeader.setEnd (H265NalUnitFragmentHeader.setStart first true) false
  | .end => H265NalUnitFragmentHeader.setEnd (H265NalUnitFragmentHeader.setStart first false) true
  | .middle =>
    H265NalUnitFragmentHeader.setEnd (H265NalUnitFragmentHeader.setStart first false) false

/-- The first two bytes of a fragment, as the constructor sets them. -/
def fragmentIndicator (forbiddenBit : Bool) (nuhLayerId nuhTempIdPlus1 : UInt8) :
    H265NalUnitHeader :=
  let h : H265NalUnitHeader := {}
  (((h.setForbiddenBit forbiddenBit).setNuhLayerId nuhLayerId).setNuhTempIdPlus1
    nuhTempIdPlus1).setUnitType nalTypeFu

/-- The third byte of a fragment, as the constructor sets it. -/
def fragmentHeader (type : FragmentType) (unitType : UInt8) : UInt8 :=
  H265NalUnitFragmentHeader.setUnitType (setFragmentType 0 type) unitType

/-- The constructor of `H265NalUnitFragment`. -/
def make (type : FragmentType) (forbiddenBit : Bool) (nuhLayerId nuhTempIdPlus1 unitType : UInt8)
    (data : List UInt8) : List UInt8 :=
  let indicator := fragmentIndicator forbiddenBit nuhLayerId nuhTempIdPlus1
  indicator.first :: indicator.second :: fragmentHeader type unitType :: data

/-- The fragment that `fragmentsFrom` makes of a piece of a NAL unit. -/
def ofNalUnit (nalu : List UInt8) (type : FragmentType) (data : List UInt8) : List UInt8 :=
  let h := H265NalUnitHeader.read nalu
  make type h.forbiddenBit (h.nuhLayerId &&& 0x3F) (h.nuhTempIdPlus1 &&& 0x07) (h.unitType &&& 0x3F)
    data

/-- `H265NalUnitFragment::type`, of a payload. -/
def type (fragment : List UInt8) : FragmentType :=
  let fragmentHeader := fragment.getD 2 0
  if H265NalUnitFragmentHeader.isStart fragmentHeader then .start
  else if H265NalUnitFragmentHeader.isEnd fragmentHeader then .end
  else .middle

end H265NalUnitFragment

namespace H265

/-- The fragments of `H265NalUnitFragment::fragmentsFrom`. -/
def format : FragmentFormat where
  headerSize := 2
  -- the NAL unit header and the FU header
  overhead := 3
  fragment := H265NalUnitFragment.ofNalUnit
  headerSize_lt := by decide
  length_fragment := by
    intro nalu type piece
    show piece.length + 1 + 1 + 1 = 3 + piece.length
    omega

/-- `H265NalUnits::generateFragments`. -/
def generateFragments (maxFragmentSize : UInt16) (nalus : List (List UInt8)) :
    Option (List (List UInt8)) :=
  format.generateFragments maxFragmentSize nalus

/-- The bytes of the packet behind the RTP headers, in the loop of
`H265RtpDepacketizer::buildFrames`. -/
def addPayload (separator : Separator) : AddPayload := fun accessUnit payload =>
  match payload with
  | first :: second :: rest =>
    let nalUnitHeader : H265NalUnitHeader := ⟨first, second⟩
    if nalUnitHeader.unitType = H265NalUnitFragment.nalTypeFu then
      match rest with
      | [] => .error .outOfRange
      | nalUnitFragmentHeader :: data =>
        if H265NalUnitFragmentHeader.isStart nalUnitFragmentHeader ∨ accessUnit = [] then
          let unit := nalUnitHeader.setUnitType
            (H265NalUnitFragmentHeader.unitType nalUnitFragmentHeader)
          .ok (accessUnit ++ separator.startCode ++ [unit.first, unit.second] ++ data)
        else .ok (accessUnit ++ data)
    else if nalUnitHeader.unitType = 48 then
      addAggregated separator (.runtimeError "H265 AP declared size is larger than buffer")
        accessUnit rest
    else if nalUnitHeader.unitType < 48 then .ok (accessUnit ++ separator.startCode ++ payload)
    -- not passed to the decoder
    else .ok accessUnit
  | _ => .error .outOfRange

/-- `H265RtpDepacketizer::buildFrames`. -/
def buildFrames (separator : Separator) (packets : List (List UInt8)) (payloadType : UInt8)
    (timestamp : UInt32) : Except DepacketizerException (List Frame) :=
  (addPayload separator).buildFrames packets payloadType timestamp

/-- A NAL unit: the forbidden bit is clear and the type is one that is passed to the decoder. -/
structure ValidNalu (nalu : List UInt8) : Prop where
  two_le : 2 ≤ nalu.length
  forbiddenBit : (H265NalUnitHeader.read nalu).forbiddenBit = false
  le : (H265NalUnitHeader.read nalu).unitType ≤ 47

/-- A unit that fits is sent as it is, another one as a start, middle and an end fragment with the
layer id and the temporal id of the unit. -/
def FragmentsOf : UInt16 → List UInt8 → List (List UInt8) → Prop :=
  FragmentFormat.FragmentsOf H265NalUnitFragment.type fun nalu fragment =>
    (H265NalUnitHeader.read fragment).unitType = H265NalUnitFragment.nalTypeFu ∧
    (H265NalUnitHeader.read fragment).nuhLayerId = (H265NalUnitHeader.read nalu).nuhLayerId ∧
    (H265NalUnitHeader.read fragment).nuhTempIdPlus1 =
      (H265NalUnitHeader.read nalu).nuhTempIdPlus1

/-- What is sent of a frame is numbered, marked at the end and fits, and the depacketizer gives back
the units. -/
def RoundTrip (separator : Separator) (maxFragmentSize : UInt16) : RtpPacketizationConfig →
    List (List UInt8) → UInt8 → UInt32 → Prop :=
  format.RoundTrip (FragmentsOf maxFragmentSize) (addPayload separator) separator maxFragmentSize

/-! ## The header bits -/

/-- The layer id that is written into a fragment holds the bits of the unit in their places. The
first byte matters for one bit only. -/
private theorem layerBits (second bit : UInt8) (hbit : bit = 0 ∨ bit = 1) :
    let nuhLayerId := ((bit <<< (5 : UInt8)) ||| ((second &&& 0xF8) >>> (3 : UInt8))) &&& 0x3F
    (nuhLayerId &&& 0x20) >>> (5 : UInt8) = bit ∧
      ((((0 &&& 0x07) ||| ((nuhLayerId &&& 0x1F) <<< (3 : UInt8))) &&& 0xF8) |||
        (((second &&& 0x07) &&& 0x07) &&& 0x07)) = second := by
  revert second
  rcases hbit with rfl | rfl <;> exact BigEndian.forall_byte (by decide +kernel)

private theorem lowBit (first : UInt8) : first &&& 0x1 = 0 ∨ first &&& 0x1 = 1 := by
  revert first
  exact BigEndian.forall_byte (by decide +kernel)

/-- The first byte of a fragment of a unit whose first byte is `first`, when `high` is the high bit
of the layer id. -/
private def indicatorFirst (first high : UInt8) : UInt8 :=
  (((((0 &&& 0x7F) ||| ((first >>> 7 != 0).toUInt8 <<< (7 : UInt8))) &&& 0xFE) ||| high) &&&
    0x81) ||| ((H265NalUnitFragment.nalTypeFu &&& 0x3F) <<< (1 : UInt8))

/-- From it the depacketizer restores the first byte of the unit. -/
private theorem firstBits (first : UInt8) : (H265NalUnitHeader.mk first 0).forbiddenBit = false →
    let indicator : H265NalUnitHeader := ⟨indicatorFirst first (first &&& 0x1), 0⟩
    indicator.unitType = H265NalUnitFragment.nalTypeFu ∧
      indicator.first &&& 0x1 = first &&& 0x1 ∧
      (indicator.setUnitType ((H265NalUnitHeader.mk first 0).unitType &&& 0x3F)).first = first := by
  revert first
  exact BigEndian.forall_byte (by decide +kernel)

/-- The fragment header holds the type of the unit. -/
private theorem fragmentHeaderBits (first : UInt8) (type : FragmentType) :
    let unitType := (H265NalUnitHeader.mk first 0).unitType &&& 0x3F
    let header := H265NalUnitFragment.fragmentHeader type unitType
    H265NalUnitFragmentHeader.unitType header = unitType ∧
      (H265NalUnitFragmentHeader.isStart header = true ↔ type = .start) ∧
      (H265NalUnitFragmentHeader.isEnd header = true ↔ type = .end) := by
  revert first
  cases type <;> exact BigEndian.forall_byte (by decide +kernel)

/-- The headers of a fragment hold the header of the unit. -/
theorem fragmentBits (h : H265NalUnitHeader) (type : FragmentType)
    (hforbidden : h.forbiddenBit = false) :
    let indicator := H265NalUnitFragment.fragmentIndicator h.forbiddenBit (h.nuhLayerId &&& 0x3F)
      (h.nuhTempIdPlus1 &&& 0x07)
    let header := H265NalUnitFragment.fragmentHeader type (h.unitType &&& 0x3F)
    indicator.unitType = H265NalUnitFragment.nalTypeFu ∧ indicator.nuhLayerId = h.nuhLayerId ∧
      indicator.nuhTempIdPlus1 = h.nuhTempIdPlus1 ∧
      indicator.setUnitType (H265NalUnitFragmentHeader.unitType header) = h ∧
      (H265NalUnitFragmentHeader.isStart header = true ↔ type = .start) ∧
      (H265NalUnitFragmentHeader.isEnd header = true ↔ type = .end) := by
  intro indicator header
  obtain ⟨hlayer, hsecond⟩ := layerBits h.second (h.first &&& 0x1) (lowBit h.first)
  obtain ⟨htype, hlow, hfirst⟩ := firstBits h.first hforbidden
  obtain ⟨hunit, hstart, hend⟩ := fragmentHeaderBits h.first type
  have hindicatorSecond : indicator.second = h.second := hsecond
  have hindicatorFirst : indicator.first = indicatorFirst h.first (h.first &&& 0x1) := by
    conv_rhs => rw [← hlayer]
    rfl
  -- the indicator differs from the header in the type only, and the type comes back
  refine ⟨?_, ?_, ?_, ?_, hstart, hend⟩
  · rw [H265NalUnitHeader.unitType, hindicatorFirst]
    exact htype
  · rw [H265NalUnitHeader.nuhLayerId, hindicatorSecond, hindicatorFirst, hlow]
    rfl
  · rw [H265NalUnitHeader.nuhTempIdPlus1, hindicatorSecond]
    rfl
  · have hrestored : (indicator.setUnitType (h.unitType &&& 0x3F)).first = h.first := by
      rw [H265NalUnitHeader.setUnitType, hindicatorFirst]
      exact hfirst
    have hheader : H265NalUnitFragmentHeader.unitType header = h.unitType &&& 0x3F := hunit
    rw [hheader]
    exact H265NalUnitHeader.ext hrestored hindicatorSecond

/-- A type below that of the aggregation packets is neither of the types with a payload format of
their own. -/
private theorem singleBits (unitType : UInt8) : unitType ≤ 47 →
    unitType ≠ H265NalUnitFragment.nalTypeFu ∧ unitType ≠ 48 ∧ unitType < 48 := by
  revert unitType
  exact BigEndian.forall_byte (by decide +kernel)

/-! ## Payloads -/

theorem ValidNalu.exists_cons {nalu : List UInt8} (h : ValidNalu nalu) :
    ∃ first second rest, nalu = first :: second :: rest :=
  exists_cons₂_of_le h.two_le

section Payloads

variable {separator : Separator} {accessUnit payload : List UInt8}

/-- A payload that is a single unit. -/
theorem addPayload_single {first second : UInt8} {rest : List UInt8}
    (hle : (H265NalUnitHeader.mk first second).unitType ≤ 47) :
    addPayload separator accessUnit (first :: second :: rest) =
      .ok (accessUnit ++ (separator.startCode ++ first :: second :: rest)) := by
  obtain ⟨hfu, hap, hsingle⟩ := singleBits _ hle
  show (if _ then _ else if _ then _ else if _ then _ else _) = _
  rw [if_neg hfu, if_neg hap, if_pos hsingle, List.append_assoc]

/-- A payload that is a fragment. -/
theorem addPayload_ofNalUnit {nalu : List UInt8} (hvalid : ValidNalu nalu) (type : FragmentType)
    (piece : List UInt8) :
    addPayload separator accessUnit (H265NalUnitFragment.ofNalUnit nalu type piece) =
      .ok (accessUnit ++ ((if type = .start ∨ accessUnit = [] then
        separator.startCode ++ nalu.take 2 else []) ++ piece)) := by
  obtain ⟨hfu, -, -, hunit, hstart, -⟩ :=
    fragmentBits (H265NalUnitHeader.read nalu) type hvalid.forbiddenBit
  obtain ⟨first, second, rest, rfl⟩ := hvalid.exists_cons
  refine (if_pos hfu).trans ?_
  rw [hunit]
  simp only [hstart]
  split
  · simp only [List.append_assoc]
    rfl
  · rw [List.nil_append]

/-- The payloads of the packetizer are taken as they were meant. -/
theorem reassembles (separator : Separator) :
    (addPayload separator).Reassembles format separator ValidNalu where
  single := by
    intro nalu accessUnit hvalid
    obtain ⟨first, second, rest, rfl⟩ := hvalid.exists_cons
    rw [List.append_assoc]
    exact addPayload_single hvalid.le
  start := by
    intro nalu accessUnit piece hvalid
    refine (addPayload_ofNalUnit hvalid .start piece).trans ?_
    rw [if_pos (Or.inl rfl)]
    simp only [List.append_assoc]
    rfl
  later := by
    intro nalu accessUnit type piece hvalid hlater hne
    refine (addPayload_ofNalUnit hvalid type piece).trans ?_
    rw [if_neg (not_or.2 ⟨hlater, hne⟩), List.nil_append]

end Payloads

/-- The type of a fragment is read back. -/
theorem type_ofNalUnit {nalu : List UInt8} (hvalid : ValidNalu nalu) (type : FragmentType)
    (piece : List UInt8) :
    H265NalUnitFragment.type (H265NalUnitFragment.ofNalUnit nalu type piece) = type := by
  obtain ⟨-, -, -, -, hstart, hend⟩ :=
    fragmentBits (H265NalUnitHeader.read nalu) type hvalid.forbiddenBit
  show (if _ then _ else if _ then _ else _) = type
  split
  · next h => exact (hstart.1 h).symm
  · next h =>
    split
    · next h' => exact (hend.1 h').symm
    · next h' =>
      cases type with
      | start => exact absurd (hstart.2 rfl) h
      | «end» => exact absurd (hend.2 rfl) h'
      | middle => rfl

/-! ## Behind a long extension header -/

/-- What a payload adds depends on the access unit only in whether that is empty, and takes at most
a separator and the payload. -/
def Grows (separator : Separator) (payload : List UInt8) : Prop :=
  ∀ accessUnit : List UInt8, ∃ growth : List UInt8, growth ≠ [] ∧
    growth.length ≤ separator.startCode.length + payload.length ∧
    ∀ accessUnit', (accessUnit' = [] ↔ accessUnit = []) →
      addPayload separator accessUnit' payload = .ok (accessUnit' ++ growth)

theorem grows_of_sent {separator : Separator} {maxFragmentSize : UInt16} {nalu : List UInt8}
    {fragments : List (List UInt8)} (hvalid : ValidNalu nalu)
    (hsent : format.Sent maxFragmentSize nalu fragments) :
    ∀ fragment ∈ fragments, Grows separator fragment := by
  intro fragment hfragment accessUnit
  rw [FragmentFormat.Sent] at hsent
  split at hsent
  · -- fragments: the first one brings the start code and the header
    obtain ⟨pieces, rfl, -, -, hsize⟩ := hsent
    obtain ⟨piece, hpiece, rfl⟩ := List.mem_map.1 hfragment
    have hdata := (hsize piece hpiece).1
    refine ⟨(if piece.1 = .start ∨ accessUnit = [] then
        separator.startCode ++ nalu.take 2 else []) ++
      piece.2, ?_, ?_, fun accessUnit' hempty => ?_⟩
    · rw [← List.length_pos_iff, List.length_append]
      omega
    · have hprefix : (if piece.1 = .start ∨ accessUnit = [] then
          separator.startCode ++ nalu.take 2 else []).length ≤ separator.startCode.length + 2 := by
        split
        · rw [List.length_append, List.length_take]
          omega
        · exact Nat.zero_le _
      have hlength := format.length_fragment nalu piece.1 piece.2
      have hoverhead : format.overhead.toNat = 3 := rfl
      rw [List.length_append]
      omega
    · refine (addPayload_ofNalUnit hvalid piece.1 piece.2).trans ?_
      simp only [hempty]
  · -- a unit that is sent as it is
    subst hsent
    rw [List.mem_singleton] at hfragment
    subst hfragment
    obtain ⟨first, second, rest, rfl⟩ := hvalid.exists_cons
    refine ⟨separator.startCode ++ first :: second :: rest, by simp, by simp,
      fun accessUnit' _ => ?_⟩
    exact addPayload_single hvalid.le

/-- Zeros in front of a payload make it a single unit. -/
theorem addPayload_replicate_zero {separator : Separator} {zeros : ℕ} (hzeros : 2 ≤ zeros)
    (accessUnit payload : List UInt8) :
    addPayload separator accessUnit (List.replicate zeros 0 ++ payload) =
      .ok (accessUnit ++ (separator.startCode ++ (List.replicate zeros 0 ++ payload))) := by
  obtain ⟨zeros, rfl⟩ := Nat.exists_eq_add_of_le' hzeros
  exact addPayload_single (by decide)

/-- One packet: the depacketizer adds at least what the fragment alone adds, and more behind an
extension header that is too long. -/
theorem addPacket_ahead {separator : Separator} {config : RtpPacketizationConfig} {mark : Bool}
    {fragment sent received : List UInt8} (hgrows : Grows separator fragment) (hne : fragment ≠ [])
    (hempty : received = [] ↔ sent = []) (hle : sent.length ≤ received.length) :
    ∃ sent' received', addPayload separator sent fragment = .ok sent' ∧
      (addPayload separator).addPacket received (config.packetize mark fragment).1 =
        .ok received' ∧ (received' = [] ↔ sent' = []) ∧ sent'.length ≤ received'.length ∧
      (262140 < config.elementsSize mark → sent'.length < received'.length) := by
  obtain ⟨growth, hgrowth, hlength, hadd⟩ := hgrows sent
  by_cases hlimit : config.elementsSize mark ≤ 262140
  · refine ⟨sent ++ growth, received ++ growth, hadd sent Iff.rfl, ?_, ?_, ?_, fun hlong => ?_⟩
    · rw [(addPayload separator).addPacket_packetize hlimit hne]
      exact hadd received hempty
    · simp [hgrowth]
    · simpa using hle
    · omega
  · obtain ⟨zeros, hzeros, hlast⟩ :=
      (addPayload separator).addPacket_packetize_of_long (not_le.1 hlimit) fragment
    have hlonger : (sent ++ growth).length < (received ++
        (separator.startCode ++ (List.replicate zeros 0 ++ fragment))).length := by
      simp only [List.length_append, List.length_replicate]
      omega
    refine ⟨sent ++ growth, _, hadd sent Iff.rfl,
      (hlast received).trans (addPayload_replicate_zero (by omega) received fragment), ?_,
      hlonger.le, fun _ => hlonger⟩
    simp [hgrowth, hne]

/-- If the extension elements of the last packet are too long, then what the depacketizer collects
is longer than what the fragments make up. -/
theorem length_lt_of_long {separator : Separator} (config : RtpPacketizationConfig)
    (fragments : List (List UInt8)) (hlong : 262140 < config.elementsSize true) :
    fragments ≠ [] → (∀ fragment ∈ fragments, Grows separator fragment ∧ fragment ≠ []) →
      ∀ sent received, (received = [] ↔ sent = []) → sent.length ≤ received.length →
        ∃ sent' received', fragments.foldlM (addPayload separator) sent = .ok sent' ∧
          (addPayload separator).buildAccessUnit received (config.packets fragments) =
            .ok received' ∧ sent'.length < received'.length := by
  -- the last packet is marked, and its extensions are the ones that are too long
  induction config, fragments using RtpPacketizationConfig.packets.induct with
  | case1 config =>
    intro hne
    exact absurd rfl hne
  | case2 config fragment =>
    intro _ hgrows sent received hempty hle
    obtain ⟨hfragment, hne⟩ := hgrows fragment (by simp)
    obtain ⟨sent', received', hsent, hreceived, -, -, hlt⟩ :=
      addPacket_ahead hfragment hne hempty hle
    refine ⟨sent', received', ?_, ?_, hlt hlong⟩
    · rw [List.foldlM_cons, hsent]
      rfl
    · rw [RtpPacketizationConfig.packets, AddPayload.buildAccessUnit, List.foldlM_cons, hreceived]
      rfl
  | case3 config fragment fragments hcons ih =>
    intro _ hgrows sent received hempty hle
    obtain ⟨hfragment, hne⟩ := hgrows fragment (by simp)
    obtain ⟨next, next', hsent, hreceived, hempty', hle', -⟩ :=
      addPacket_ahead hfragment hne hempty hle
    obtain ⟨sent', received', hsent', hreceived', hlt⟩ := ih hlong hcons
      (fun fragment' h => hgrows fragment' (List.mem_cons_of_mem _ h)) next next' hempty' hle'
    refine ⟨sent', received', ?_, ?_, hlt⟩
    · rw [List.foldlM_cons, hsent]
      exact hsent'
    · rw [RtpPacketizationConfig.packets, AddPayload.buildAccessUnit, List.foldlM_cons, hreceived]
      · exact hreceived'
      · exact hcons

/-! ## The round trip -/

section RoundTrip

variable {separator : Separator} {maxFragmentSize : UInt16} {config : RtpPacketizationConfig}
  {nalus : List (List UInt8)} {payloadType : UInt8} {timestamp : UInt32}

theorem ValidNalu.ne_nil {nalu : List UInt8} (h : ValidNalu nalu) : nalu ≠ [] := by
  obtain ⟨first, second, rest, rfl⟩ := h.exists_cons
  exact List.cons_ne_nil _ _

/-- Behind a longer extension header the frame is not that of the units. -/
theorem buildFrames_ne_of_long {groups : List (List (List UInt8))} (hnalus : nalus ≠ [])
    (hvalid : ∀ nalu ∈ nalus, ValidNalu nalu)
    (hsent : List.Forall₂ (format.Sent maxFragmentSize) nalus groups)
    (hlong : 262140 < config.elementsSize true) :
    buildFrames separator (config.packets groups.flatten) payloadType timestamp ≠
      .ok [⟨(nalus.map (separator.startCode ++ ·)).flatten, payloadType, timestamp⟩] := by
  have hfragments := format.sent_flatten hsent fun nalu hnalu => (hvalid nalu hnalu).ne_nil
  have hboth := (List.forall₂_and_left nalus groups).2 ⟨hvalid, hsent⟩
  have hgrows : ∀ fragment ∈ groups.flatten, Grows separator fragment ∧ fragment ≠ [] := by
    intro fragment hfragment
    obtain ⟨group, hgroup, hmem⟩ := List.mem_flatten.1 hfragment
    obtain ⟨i, hi, hget⟩ := List.getElem_of_mem hgroup
    have hi' : i < nalus.length := hboth.length_eq ▸ hi
    obtain ⟨hnalu, hgroupSent⟩ := hboth.get hi' hi
    refine ⟨grows_of_sent hnalu hgroupSent fragment ?_, (hfragments fragment hfragment).1⟩
    rw [List.get_eq_getElem, hget]
    exact hmem
  -- what the receiver collects is longer than what was sent
  obtain ⟨sent, received, hsentUnit, hreceived, hlt⟩ := length_lt_of_long
    config groups.flatten hlong (format.flatten_ne_nil hsent hnalus) hgrows [] [] Iff.rfl le_rfl
  have hunits := (reassembles separator).foldlM_flatten hsent [] hvalid
  rw [hsentUnit, List.nil_append] at hunits
  have hne : received ≠ [] := by
    rw [← List.length_pos_iff]
    omega
  rw [buildFrames, AddPayload.buildFrames, hreceived]
  show Except.ok (if _ = [] then _ else _) ≠ _
  rw [if_neg hne]
  intro heq
  have hdata : received = sent := by
    rw [Except.ok.inj hunits]
    exact (Frame.mk.inj (List.cons.inj (Except.ok.inj heq)).1).1
  exact absurd (congrArg List.length hdata) hlt.ne'

/-- **H.265 round trip.** -/
theorem h265_roundTrip_iff (hnalus : nalus ≠ []) (hvalid : ∀ nalu ∈ nalus, ValidNalu nalu)
    (hmax : 6 ≤ maxFragmentSize) :
    RoundTrip separator maxFragmentSize config nalus payloadType timestamp ↔
      config.elementsSize true ≤ 262140 := by
  refine (reassembles separator).roundTrip_iff_of_long ?_ (fun _ h => h.ne_nil)
    (UInt16.le_iff_toNat_le.1 hmax) hnalus hvalid ?_
  · intro nalu fragments hnalu hsent
    refine format.fragmentsOf_of_sent
      (fun type piece => ⟨type_ofNalUnit hnalu type piece, ?_⟩) hsent
    obtain ⟨hfu, hlayer, htemp, -⟩ :=
      fragmentBits (H265NalUnitHeader.read nalu) type hnalu.forbiddenBit
    exact ⟨hfu, hlayer, htemp⟩
  · intro groups hsent hlong
    exact buildFrames_ne_of_long hnalus hvalid hsent hlong

/-- A unit of eight bytes in fragments, and one of three. -/
theorem h265_roundTrip_of_eight :
    RoundTrip .startSequence 6
      { ssrc := 1, payloadType := 96, sequenceNumber := 65535, timestamp := 0, rid := some [0x68] }
      [[0x27, 0xf9, 1, 2, 3, 4, 5, 6], [0x40, 1, 0x0c]] 96 0 :=
  (h265_roundTrip_iff (by decide)
    (fun nalu h => by
      rcases List.mem_cons.1 h with rfl | h
      · exact ⟨by decide, by decide, by decide⟩
      · rw [List.mem_singleton.1 h]
        exact ⟨by decide, by decide, by decide⟩) (by decide)).2 (by decide)

/-- A mid of 262140 bytes. -/
theorem h265_roundTrip_fails :
    ¬∀ (separator : Separator) (maxFragmentSize : UInt16) (config : RtpPacketizationConfig)
      (nalus : List (List UInt8)) (payloadType : UInt8) (timestamp : UInt32), nalus ≠ [] →
      (∀ nalu ∈ nalus, ValidNalu nalu) → 6 ≤ maxFragmentSize →
      RoundTrip separator maxFragmentSize config nalus payloadType timestamp := by
  intro hall
  obtain ⟨mid, hmid⟩ : ∃ mid : List UInt8, mid.length = 262140 :=
    ⟨List.replicate 262140 0x61, List.length_replicate⟩
  have hnalu : ∀ nalu ∈ [[0x26, 1, 2, 3]], ValidNalu nalu := by
    intro nalu h
    rw [List.mem_singleton.1 h]
    exact ⟨by decide, by decide, by decide⟩
  obtain ⟨groups, hgroups, -, -, hbuild⟩ := hall .longStartSequence 1220
    { ssrc := 1, payloadType := 96, sequenceNumber := 0, timestamp := 0, mid := some mid }
    [[0x26, 1, 2, 3]] 96 0 (by decide) hnalu (by decide)
  have hmax : 2 * format.overhead.toNat ≤ (1220 : UInt16).toNat := by decide
  obtain ⟨groups', hgroups', hsent⟩ := format.generateFragments_eq hmax [[0x26, 1, 2, 3]]
  have hflatten : groups.flatten = groups'.flatten :=
    Option.some.inj (hgroups.symm.trans hgroups')
  rw [hflatten] at hbuild
  refine buildFrames_ne_of_long (by decide) hnalu hsent ?_ hbuild
  simp only [RtpPacketizationConfig.elementsSize, RtpPacketizationConfig.stringElementSize, hmid]
  omega

end RoundTrip

end H265

end Rtc
