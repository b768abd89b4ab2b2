import QuicRtc.Rtp.Fragments

/-!
# H.264 over RTP

The NAL unit and fragment headers (`nalunit.hpp`), the fragments of `NalUnitFragmentA` and the
payloads that `H264RtpDepacketizer::buildFrames` takes.

The main result `H264.h264_roundTrip_iff` is that the depacketizer gives back the units of a frame
that `H264RtpPacketizer::outgoing` has sent if, and only if, the extension elements of its last
packet take at most 262140 bytes: a longer extension header does not fit its 16-bit length.
-/

namespace Rtc

/-! ## Headers -/

namespace NalUnitHeader

/-- `NalUnitHeader::forbiddenBit`. The header is the byte `_first`. -/
def forbiddenBit (first : UInt8) : Bool := first >>> 7 != 0

/-- `NalUnitHeader::nri`. -/
def nri (first : UInt8) : UInt8 := (first >>> 5) &&& 0x03

/-- `NalUnitHeader::idc`. -/
def idc (first : UInt8) : UInt8 := first &&& 0x60

/-- `NalUnitHeader::unitType`. -/
def unitType (first : UInt8) : UInt8 := first &&& 0x1F

/-- `NalUnitHeader::setForbiddenBit`. -/
def setForbiddenBit (first : UInt8) (isSet : Bool) : UInt8 :=
  (first &&& 0x7F) ||| (isSet.toUInt8 <<< (7 : UInt8))

/-- `NalUnitHeader::setNRI`. -/
def setNRI (first nri : UInt8) : UInt8 := (first &&& 0x9F) ||| ((nri &&& 0x03) <<< (5 : UInt8))

/-- `NalUnitHeader::setUnitType`. -/
def setUnitType (first type : UInt8) : UInt8 := (first &&& 0xE0) ||| (type &&& 0x1F)

end NalUnitHeader

namespace NalUnitFragmentHeader

/-- `NalUnitFragmentHeader::isStart`. -/
def isStart (first : UInt8) : Bool := first >>> 7 != 0

/-- `NalUnitFragmentHeader::isEnd`. -/
def isEnd (first : UInt8) : Bool := (first >>> 6) &&& 0x01 != 0

/-- `NalUnitFragmentHeader::unitType`. -/
def unitType (first : UInt8) : UInt8 := first &&& 0x1F

/-- `NalUnitFragmentHeader::setStart`. -/
def setStart (first : UInt8) (isSet : Bool) : UInt8 :=
  (first &&& 0x7F) ||| (isSet.toUInt8 <<< (7 : UInt8))

/-- `NalUnitFragmentHeader::setEnd`. -/
def setEnd (first : UInt8) (isSet : Bool) : UInt8 :=
  (first &&& 0xBF) ||| (isSet.toUInt8 <<< (6 : UInt8))

/-- `NalUnitFragmentHeader::setReservedBit6`. -/
def setReservedBit6 (first : UInt8) (isSet : Bool) : UInt8 :=
  (first &&& 0xDF) ||| (isSet.toUInt8 <<< (5 : UInt8))

/-- `NalUnitFragmentHeader::setUnitType`. -/
def setUnitType (first type : UInt8) : UInt8 := (first &&& 0xE0) ||| (type &&& 0x1F)

end NalUnitFragmentHeader

/-! ## Fragments -/

namespace NalUnitFragmentA

/-- `NalUnitFragmentA::nal_type_fu_A`. -/
def nalTypeFuA : UInt8 := 28

/-- `NalUnitFragmentA::setFragmentType`, on the fragment header. -/
def setFragmentType (first : UInt8) (type : FragmentType) : UInt8 :=
  let first := NalUnitFragmentHeader.setReservedBit6 first false
  match type with
  | .start => NalUnitFragmentHeader.setEnd (NalUnitFragmentHeader.setStart first true) false
  | .end => NalUnitFragmentHeader.setEnd (NalUnitFragmentHeader.setStart first false) true
  | .middle => NalUnitFragmentHeader.setEnd (NalUnitFragmentHeader.setStart first false) false

/-- The first byte of a fragment, as the constructor sets it. -/
def fragmentIndicator (forbiddenBit : Bool) (nri : UInt8) : UInt8 :=
  NalUnitHeader.setUnitType
    (NalUnitHeader.setNRI (NalUnitHeader.setForbiddenBit 0 forbiddenBit) nri) nalTypeFuA

/-- The second byte of a fragment, as the constructor sets it. -/
def fragmentHeader (type : FragmentType) (unitType : UInt8) : UInt8 :=
  NalUnitFragmentHeader.setUnitType (setFragmentType 0 type) unitType

/-- The constructor of `NalUnitFragmentA`. -/
def make (type : FragmentType) (forbiddenBit : Bool) (nri unitType : UInt8) (data : List UInt8) :
    List UInt8 :=
  fragmentIndicator forbiddenBit nri :: fragmentHeader type unitType :: data

/-- The fragment that `fragmentsFrom` makes of a piece of a NAL unit. -/
def ofNalUnit (nalu : List UInt8) (type : FragmentType) (data : List UInt8) : List UInt8 :=
  let first := nalu.headD 0
  make type (NalUnitHeader.forbiddenBit first) (NalUnitHeader.nri first &&& 0x03)
    (NalUnitHeader.unitType first &&& 0x1F) data

/-- `NalUnitFragmentA::type`, of a payload. -/
def type (fragment : List UInt8) : FragmentType :=
  let fragmentHeader := fragment.getD 1 0
  if NalUnitFragmentHeader.isStart fragmentHeader then .start
  else if NalUnitFragmentHeader.isEnd fragmentHeader then .end
  else .middle

end NalUnitFragmentA

namespace H264

/-- The fragments of `NalUnitFragmentA::fragmentsFrom`. -/
def format : FragmentFormat where
  headerSize := 1
  -- the FU indicator and the FU header
  overhead := 2
  fragment := NalUnitFragmentA.ofNalUnit
  headerSize_lt := by decide
  length_fragment := by
    intro nalu type piece
    show piece.length + 1 + 1 = 2 + piece.length
    omega

/-- `NalUnits::generateFragments`. -/
def generateFragments (maxFragmentSize : UInt16) (nalus : List (List UInt8)) :
    Option (List (List UInt8)) :=
  format.generateFragments maxFragmentSize nalus

/-- The bytes of the packet behind the RTP headers, in the loop of
`H264RtpDepacketizer::buildFrames`. -/
def addPayload (separator : Separator) : AddPayload := fun accessUnit payload =>
  match payload with
  | [] => .error .outOfRange
  | nalUnitHeader :: rest =>
    if NalUnitHeader.unitType nalUnitHeader = NalUnitFragmentA.nalTypeFuA then
      match rest with
      | [] => .error .outOfRange
      | nalUnitFragmentHeader :: data =>
        if NalUnitFragmentHeader.isStart nalUnitFragmentHeader ∨ accessUnit = [] then
          .ok (accessUnit ++ separator.startCode ++
            [NalUnitHeader.idc nalUnitHeader |||
              NalUnitFragmentHeader.unitType nalUnitFragmentHeader] ++ data)
        else .ok (accessUnit ++ data)
    else if 0 < NalUnitHeader.unitType nalUnitHeader ∧
        NalUnitHeader.unitType nalUnitHeader < 24 then
      .ok (accessUnit ++ separator.startCode ++ payload)
    else if NalUnitHeader.unitType nalUnitHeader = 24 then
      addAggregated separator (.runtimeError "H264 STAP-A declared size is larger than buffer")
        accessUnit rest
    else .error (.runtimeError "Unknown H264 RTP Packetization")

/-- `H264RtpDepacketizer::buildFrames`. -/
def buildFrames (separator : Separator) (packets : List (List UInt8)) (payloadType : UInt8)
    (timestamp : UInt32) : Except DepacketizerException (List Frame) :=
  (addPayload separator).buildFrames packets payloadType timestamp

/-- A NAL unit: the forbidden bit is clear and the type is that of a single unit. -/
structure ValidNalu (nalu : List UInt8) : Prop where
  ne_nil : nalu ≠ []
  forbiddenBit : NalUnitHeader.forbiddenBit (nalu.headD 0) = false
  one_le : 1 ≤ NalUnitHeader.unitType (nalu.headD 0)
  le : NalUnitHeader.unitType (nalu.headD 0) ≤ 23

/-- A unit that fits is sent as it is, another one as a start, middle and an end FU-A fragment. -/
def FragmentsOf : UInt16 → List UInt8 → List (List UInt8) → Prop :=
  FragmentFormat.FragmentsOf NalUnitFragmentA.type fun _ fragment =>
    NalUnitHeader.unitType (fragment.headD 0) = NalUnitFragmentA.nalTypeFuA

/-- What is sent of a frame is numbered, marked at the end and fits, and the depacketizer gives back
the units. -/
def RoundTrip (separator : Separator) (maxFragmentSize : UInt16) : RtpPacketizationConfig →
    List (List UInt8) → UInt8 → UInt32 → Prop :=
  format.RoundTrip (FragmentsOf maxFragmentSize) (addPayload separator) separator maxFragmentSize

/-! ## The header bits -/

/-- The headers of a fragment hold the header of the unit. -/
private theorem fragmentBits (first : UInt8) (type : FragmentType)
    (hforbidden : NalUnitHeader.forbiddenBit first = false) :
    let indicator := NalUnitFragmentA.fragmentIndicator (NalUnitHeader.forbiddenBit first)
      (NalUnitHeader.nri first &&& 0x03)
    let header := NalUnitFragmentA.fragmentHeader type (NalUnitHeader.unitType first &&& 0x1F)
    NalUnitHeader.unitType indicator = NalUnitFragmentA.nalTypeFuA ∧
      NalUnitHeader.idc indicator ||| NalUnitFragmentHeader.unitType header = first ∧
      (NalUnitFragmentHeader.isStart header = true ↔ type = .start) ∧
      (NalUnitFragmentHeader.isEnd header = true ↔ type = .end) := by
  revert first
  cases type <;> exact BigEndian.forall_byte (by decide +kernel)

/-- The type of a single unit is none of those with a payload format of their own. -/
private theorem singleBits (unitType : UInt8) : 1 ≤ unitType → unitType ≤ 23 →
    unitType ≠ NalUnitFragmentA.nalTypeFuA ∧ 0 < unitType ∧ unitType < 24 := by
  revert unitType
  exact BigEndian.forall_byte (by decide +kernel)

/-- The payloads of the packetizer are taken as they were meant. -/
theorem reassembles (separator : Separator) :
    (addPayload separator).Reassembles format separator ValidNalu where
  single := by
    intro nalu accessUnit hvalid
    obtain ⟨first, rest, rfl⟩ := List.exists_cons_of_ne_nil hvalid.ne_nil
    obtain ⟨hfu, hsingle⟩ := singleBits _ hvalid.one_le hvalid.le
    rw [List.headD_cons] at hfu hsingle
    show (if _ then _ else if _ then _ else _) = _
    rw [if_neg hfu, if_pos hsingle]
  start := by
    intro nalu accessUnit piece hvalid
    obtain ⟨first, rest, rfl⟩ := List.exists_cons_of_ne_nil hvalid.ne_nil
    obtain ⟨hfu, hheader, hstart, -⟩ := fragmentBits first .start hvalid.forbiddenBit
    show (if _ then if _ then _ else _ else _) = _
    rw [List.headD_cons, if_pos hfu, if_pos (Or.inl (hstart.2 rfl)), hheader]
    rfl
  later := by
    intro nalu accessUnit type piece hvalid hlater hne
    obtain ⟨first, rest, rfl⟩ := List.exists_cons_of_ne_nil hvalid.ne_nil
    obtain ⟨hfu, -, hstart, -⟩ := fragmentBits first type hvalid.forbiddenBit
    show (if _ then if _ then _ else _ else _) = _
    rw [List.headD_cons, if_pos hfu, if_neg]
    exact not_or.2 ⟨fun h => hlater (hstart.1 h), hne⟩

/-- The type of a fragment is read back. -/
theorem type_ofNalUnit {nalu : List UInt8} (hvalid : ValidNalu nalu) (type : FragmentType)
    (piece : List UInt8) :
    NalUnitFragmentA.type (NalUnitFragmentA.ofNalUnit nalu type piece) = type := by
  obtain ⟨-, -, hstart, hend⟩ := fragmentBits (nalu.headD 0) type hvalid.forbiddenBit
  show (if _ then _ else if _ then _ else _) = type
  split
  · next h => exact (hstart.1 h).symm
  · next h =>
    split
    · next h' => exact (hend.1 h').symm
    · next h' =>
      cases type with
      | start => exact absurd (hstart.2 rfl) h
      | «end» => exact absurd (hend.2 rfl) h'
      | middle => rfl

/-! ## The round trip -/

section RoundTrip

variable {separator : Separator} {maxFragmentSize : UInt16} {config : RtpPacketizationConfig}
  {nalus : List (List UInt8)} {payloadType : UInt8} {timestamp : UInt32}

/-- A zero byte is no payload. -/
theorem addPayload_replicate_zero {zeros : ℕ} (hzeros : 0 < zeros)
    (accessUnit payload : List UInt8) :
    addPayload separator accessUnit (List.replicate zeros 0 ++ payload) =
      .error (.runtimeError "Unknown H264 RTP Packetization") := by
  obtain ⟨zeros, rfl⟩ := Nat.exists_eq_add_one_of_ne_zero hzeros.ne'
  rw [List.replicate_succ]
  rfl

/-- Behind a longer extension header the depacketizer throws. -/
theorem buildFrames_ne_ok_of_long {fragments : List (List UInt8)} (hne : fragments ≠ [])
    (hlong : 262140 < config.elementsSize true) (frames : List Frame) :
    buildFrames separator (config.packets fragments) payloadType timestamp ≠ .ok frames := by
  obtain ⟨last, hsplit⟩ : ∃ last, fragments = fragments.dropLast ++ [last] :=
    ⟨_, (List.dropLast_append_getLast hne).symm⟩
  rw [hsplit, buildFrames, AddPayload.buildFrames]
  obtain ⟨first, -, hloop⟩ :=
    (addPayload separator).buildAccessUnit_packets_append config fragments.dropLast last []
  have hlong' : 262140 < (config.advance fragments.dropLast.length).elementsSize true := hlong
  obtain ⟨zeros, hzeros, hlast⟩ := (addPayload separator).addPacket_packetize_of_long hlong' last
  rw [hloop]
  cases (addPayload separator).buildAccessUnit [] first with
  | error e =>
    intro h
    cases h
  | ok next =>
    show Except.bind ((addPayload separator).addPacket next _) _ ≠ _
    rw [hlast, addPayload_replicate_zero (by omega)]
    intro h
    cases h

/-- **H.264 round trip.** -/
theorem h264_roundTrip_iff (hnalus : nalus ≠ []) (hvalid : ∀ nalu ∈ nalus, ValidNalu nalu)
    (hmax : 4 ≤ maxFragmentSize) :
    RoundTrip separator maxFragmentSize config nalus payloadType timestamp ↔
      config.elementsSize true ≤ 262140 := by
  refine (reassembles separator).roundTrip_iff_of_long ?_ (fun _ h => h.ne_nil)
    (UInt16.le_iff_toNat_le.1 hmax) hnalus hvalid ?_
  · intro nalu fragments hnalu hsent
    refine format.fragmentsOf_of_sent
      (fun type piece => ⟨type_ofNalUnit hnalu type piece, ?_⟩) hsent
    exact (fragmentBits (nalu.headD 0) type hnalu.forbiddenBit).1
  · intro groups hsent hlong
    exact buildFrames_ne_ok_of_long (format.flatten_ne_nil hsent hnalus) hlong _

/-- A unit of five bytes, which takes fragments. -/
theorem h264_roundTrip_of_five :
    RoundTrip .longStartSequence 4
      { ssrc := 1, payloadType := 96, sequenceNumber := 65535, timestamp := 0, mid := some [0x30] }
      [[0x65, 1, 2, 3, 4]] 96 0 :=
  (h264_roundTrip_iff (by decide)
    (fun nalu h => by
      rw [List.mem_singleton.1 h]
      exact ⟨by decide, by decide, by decide, by decide⟩) (by decide)).2 (by decide)

/-- A mid of 262140 bytes. -/
theorem h264_roundTrip_fails :
    ¬∀ (separator : Separator) (maxFragmentSize : UInt16) (config : RtpPacketizationConfig)
      (nalus : List (List UInt8)) (payloadType : UInt8) (timestamp : UInt32), nalus ≠ [] →
      (∀ nalu ∈ nalus, ValidNalu nalu) → 4 ≤ maxFragmentSize →
      RoundTrip separator maxFragmentSize config nalus payloadType timestamp := by
  intro hall
  obtain ⟨mid, hmid⟩ : ∃ mid : List UInt8, mid.length = 262140 :=
    ⟨List.replicate 262140 0x61, List.length_replicate⟩
  obtain ⟨groups, hgroups, -, -, hbuild⟩ := hall .longStartSequence 1220
    { ssrc := 1, payloadType := 96, sequenceNumber := 0, timestamp := 0, mid := some mid }
    [[0x65, 1, 2, 3]] 96 0 (by decide)
    (fun nalu h => by
      rw [List.mem_singleton.1 h]
      exact ⟨by decide, by decide, by decide, by decide⟩) (by decide)
  have hflatten : groups.flatten = [[0x65, 1, 2, 3]] := Option.some.inj hgroups.symm
  rw [hflatten] at hbuild
  refine buildFrames_ne_ok_of_long (by decide) ?_ _ hbuild
  simp only [RtpPacketizationConfig.elementsSize, RtpPacketizationConfig.stringElementSize, hmid]
  omega

end RoundTrip

end H264

end Rtc
