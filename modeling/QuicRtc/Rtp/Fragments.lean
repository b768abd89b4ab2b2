import Mathlib.Algebra.Order.Floor.Div
import QuicRtc.Rtp.Spec

/-!
# NAL units in RTP packets

What the H.264 and the H.265 code have in common: the loop of `fragmentsFrom` over a NAL unit that
is too long for a packet, `generateFragments`, the loop of `outgoing` over the fragments of a frame
and the loop of `buildFrames` over its packets. The two codecs differ in the headers of a fragment
and in how `buildFrames` takes a payload.

* `fragmentsFrom_eq`: a unit is cut into a start, middle pieces and an end, none of which is empty
  or too long, and which put together are the unit without its header.
* `buildAccessUnit_packets`: the depacketizer sees the payloads that were packetized, as long as
  the extension elements take at most 262140 bytes.
-/

namespace Rtc

/-! ## Fragments -/

/-- `NalUnitFragmentA::FragmentType` and `H265NalUnitFragment::FragmentType`. -/
inductive FragmentType where
  | start
  | middle
  | «end»
  deriving DecidableEq, Repr

/-- The loop of `fragmentsFrom`: the types of the fragments, and the bytes of the payload in each.
`none` when the loop takes more than `fuel` rounds. -/
def fragmentLoop (payload : List UInt8) :
    ℕ → UInt16 → ℕ → Option (List (FragmentType × List UInt8))
  | fuel, maxFragmentSize, offset =>
    if offset < payload.length then
      match fuel with
      | 0 => none
      | fuel + 1 =>
        let (fragmentType, size) :=
          if offset = 0 then (FragmentType.start, maxFragmentSize)
          else if offset + maxFragmentSize.toNat < payload.length then
            (FragmentType.middle, maxFragmentSize)
          else
            (FragmentType.end,
              -- the last fragment takes what is left
              if payload.length < offset + maxFragmentSize.toNat then
                UInt16.ofNat (payload.length - offset)
              else maxFragmentSize)
        (fragmentLoop payload fuel size (offset + size.toNat)).map
          ((fragmentType, (payload.drop offset).take size.toNat) :: ·)
    else some []

/-- What a codec puts around the pieces of a NAL unit. -/
structure FragmentFormat where
  /-- The bytes of the NAL unit header. -/
  headerSize : ℕ
  /-- The bytes before the piece in a fragment. -/
  overhead : UInt16
  /-- `fragment nalu fragmentType piece` is the fragment with a piece of a NAL unit. -/
  fragment : List UInt8 → FragmentType → List UInt8 → List UInt8
  headerSize_lt : headerSize < overhead.toNat
  length_fragment : ∀ nalu fragmentType piece,
    (fragment nalu fragmentType piece).length = overhead.toNat + piece.length

namespace FragmentFormat

variable (format : FragmentFormat)

/-- The bytes of the unit in each fragment: the fragments are made even. -/
def fragmentSize (nalu : List UInt8) (maxFragmentSize : UInt16) : UInt16 :=
  let fragmentsCount := nalu.length ⌈/⌉ maxFragmentSize.toNat
  UInt16.ofNat (nalu.length ⌈/⌉ fragmentsCount) - format.overhead

/-- `fragmentsFrom`. -/
def fragmentsFrom (nalu : List UInt8) (maxFragmentSize : UInt16) : Option (List (List UInt8)) :=
  let payload := nalu.drop format.headerSize
  (fragmentLoop payload payload.length (format.fragmentSize nalu maxFragmentSize) 0).map
    (·.map fun piece => format.fragment nalu piece.1 piece.2)

/-- `generateFragments`. -/
def generateFragments (maxFragmentSize : UInt16) :
    List (List UInt8) → Option (List (List UInt8))
  | [] => some []
  | nalu :: nalus => do
    let fragments ←
      if maxFragmentSize.toNat < nalu.length then format.fragmentsFrom nalu maxFragmentSize
      else some [nalu]
    return fragments ++ (← generateFragments maxFragmentSize nalus)

end FragmentFormat

/-! ## Packets -/

/-- The loop of `outgoing` over the fragments of a message. Only the last packet is marked. -/
def RtpPacketizationConfig.packets (config : RtpPacketizationConfig) :
    List (List UInt8) → List (List UInt8)
  | [] => []
  | [fragment] => [(config.packetize true fragment).1]
  | fragment :: fragments =>
    (config.packetize false fragment).1 :: (config.packetize false fragment).2.packets fragments

/-- The exceptions of `buildFrames`. -/
inductive DepacketizerException where
  /-- `std::out_of_range`, from `at`. -/
  | outOfRange
  | runtimeError (what : String)
  deriving DecidableEq, Repr

/-- `NalUnit::Separator`, without `Length`, which the constructors of the depacketizers reject. -/
inductive Separator where
  | longStartSequence
  | shortStartSequence
  | startSequence
  deriving DecidableEq, Repr

/-- What `addSeparator` puts in front of a NAL unit. -/
def Separator.startCode : Separator → List UInt8
  | .longStartSequence | .startSequence => [0, 0, 0, 1]
  | .shortStartSequence => [0, 0, 1]

/-- A message of `buildFrames` with its `FrameInfo`. -/
structure Frame where
  data : List UInt8
  payloadType : UInt8
  timestamp : UInt32
  deriving DecidableEq, Repr

/-- `addPayload accessUnit payload`: how a codec adds a payload to the access unit. -/
abbrev AddPayload := List UInt8 → List UInt8 → Except DepacketizerException (List UInt8)

namespace AddPayload

variable (addPayload : AddPayload)

/-- The loop of `buildFrames` for one packet. The payload is what follows the headers, with the
padding. -/
def addPacket (accessUnit pkt : List UInt8) : Except DepacketizerException (List UInt8) := do
  let rtpPaddingSize ←
    if (RtpHeader.read pkt).padding then
      match pkt.getLast? with
      | some last => .ok last.toNat
      | none => .error .outOfRange
    else .ok 0
  if pkt.length = rtpHeaderSize pkt + rtpPaddingSize then .ok accessUnit
  else addPayload accessUnit (pkt.drop (rtpHeaderSize pkt))

/-- `rtpPaddingSize`: the last byte of a packet with the padding flag. -/
def rtpPaddingSize (pkt : List UInt8) : Except DepacketizerException ℕ :=
  if (RtpHeader.read pkt).padding then
    match pkt.getLast? with
    | some last => .ok last.toNat
    | none => .error .outOfRange
  else .ok 0

/-- The padding is used to find out whether there is a payload, and for nothing else. -/
theorem addPacket_eq (accessUnit pkt : List UInt8) :
    addPayload.addPacket accessUnit pkt = (rtpPaddingSize pkt).bind fun size =>
      if pkt.length = rtpHeaderSize pkt + size then .ok accessUnit
      else addPayload accessUnit (pkt.drop (rtpHeaderSize pkt)) := by
  unfold addPacket rtpPaddingSize
  split
  · cases pkt.getLast? <;> rfl
  · rfl

/-- The loop of `buildFrames`. -/
def buildAccessUnit (accessUnit : List UInt8) (packets : List (List UInt8)) :
    Except DepacketizerException (List UInt8) :=
  packets.foldlM addPayload.addPacket accessUnit

/-- `buildFrames`. -/
def buildFrames (packets : List (List UInt8)) (payloadType : UInt8) (timestamp : UInt32) :
    Except DepacketizerException (List Frame) := do
  let accessUnit ← addPayload.buildAccessUnit [] packets
  return if accessUnit = [] then [] else [⟨accessUnit, payloadType, timestamp⟩]

end AddPayload

/-- The units of an aggregation packet, from behind its payload header: each with its length in two
bytes. `tooLarge` is thrown for a length that is larger than the rest. -/
def addAggregated (separator : Separator) (tooLarge : DepacketizerException)
    (accessUnit : List UInt8) : List UInt8 → Except DepacketizerException (List UInt8)
  -- at least one byte follows the length
  | high :: low :: rest@(_ :: _) =>
    let naluSize := high.toNat <<< 8 ||| low.toNat
    if rest.length < naluSize then .error tooLarge
    else
      addAggregated separator tooLarge (accessUnit ++ separator.startCode ++ rest.take naluSize)
        (rest.drop naluSize)
  | _ => .ok accessUnit
  termination_by payload => payload.length
  decreasing_by all_goals simp_all only [List.length_drop, List.length_cons]; omega

/-! ## The pieces of a unit -/

/-- The pieces are a start, middle pieces and an end. They make up the payload, and none is empty or
longer than `limit`. -/
structure Cut (limit : ℕ) (payload : List UInt8) (pieces : List (FragmentType × List UInt8)) :
    Prop where
  types : ∃ middles, pieces.map Prod.fst =
    .start :: (List.replicate middles .middle ++ [.end])
  bytes : (pieces.map Prod.snd).flatten = payload
  size : ∀ piece ∈ pieces, 1 ≤ piece.2.length ∧ piece.2.length ≤ limit

theorem fragmentLoop_of_le {payload : List UInt8} {fuel offset : ℕ} {size : UInt16}
    (h : payload.length ≤ offset) : fragmentLoop payload fuel size offset = some [] := by
  rw [fragmentLoop.eq_def]
  exact if_neg (not_lt.2 h)

/-- The loop behind the first round: it goes on with middle pieces until what is left fits. -/
theorem fragmentLoop_of_pos {payload : List UInt8} {size : UInt16} (hsize : 0 < size.toNat) :
    ∀ {fuel offset : ℕ}, 0 < offset → offset < payload.length → payload.length - offset ≤ fuel →
      ∃ pieces middles, fragmentLoop payload fuel size offset = some pieces ∧
        pieces.map Prod.fst = List.replicate middles .middle ++ [.end] ∧
        (pieces.map Prod.snd).flatten = payload.drop offset ∧
        ∀ piece ∈ pieces, 1 ≤ piece.2.length ∧ piece.2.length ≤ size.toNat := by
  intro fuel
  induction fuel with
  | zero =>
    intro offset _ hlt hfuel
    omega
  | succ fuel ih =>
    intro offset hpos hlt hfuel
    have hne : offset ≠ 0 := by omega
    by_cases hmiddle : offset + size.toNat < payload.length
    · obtain ⟨pieces, middles, hloop, htypes, hbytes, hpieces⟩ :=
        ih (Nat.add_pos_right _ hsize) hmiddle (by omega)
      refine ⟨(.middle, (payload.drop offset).take size.toNat) :: pieces, middles + 1, ?_, ?_, ?_,
        ?_⟩
      · rw [fragmentLoop, if_pos hlt]
        simp only [hne, hmiddle, if_true, if_false, hloop, Option.map_some]
      · rw [List.map_cons, htypes, List.replicate_succ, List.cons_append]
      · rw [List.map_cons, List.flatten_cons, hbytes, ← List.drop_drop, List.take_append_drop]
      · rintro piece (_ | ⟨_, hpiece⟩)
        · simp only [List.length_take, List.length_drop]
          omega
        · exact hpieces piece hpiece
    · -- the last round takes what is left
      obtain ⟨last, hlast, hround⟩ : ∃ last : UInt16, last.toNat = payload.length - offset ∧
          (if payload.length < offset + size.toNat then UInt16.ofNat (payload.length - offset)
            else size) = last := by
        refine ⟨_, ?_, rfl⟩
        have hbound := size.toNat_lt
        split
        · exact UInt16.toNat_ofNat_of_lt' (by show _ < 65536; omega)
        · omega
      refine ⟨[(.end, (payload.drop offset).take last.toNat)], 0, ?_, rfl, ?_, ?_⟩
      · have hend : fragmentLoop payload fuel last (offset + last.toNat) = some [] :=
          fragmentLoop_of_le (by omega)
        rw [fragmentLoop, if_pos hlt]
        simp only [hne, hmiddle, if_false, hround, hend, Option.map_some]
      · rw [List.map_singleton, List.flatten_singleton, hlast, ← List.length_drop, List.take_length]
      · intro piece hpiece
        rw [List.mem_singleton] at hpiece
        subst hpiece
        simp only [List.length_take, List.length_drop]
        omega

/-- The loop cuts a payload that is longer than a piece. -/
theorem fragmentLoop_cut {payload : List UInt8} {size : UInt16} (hsize : 0 < size.toNat)
    (hlong : size.toNat < payload.length) :
    ∃ pieces, fragmentLoop payload payload.length size 0 = some pieces ∧
      Cut size.toNat payload pieces := by
  obtain ⟨fuel, hfuel⟩ : ∃ fuel, payload.length = fuel + 1 := ⟨payload.length - 1, by omega⟩
  have hrest : payload.length - size.toNat ≤ fuel := by omega
  obtain ⟨pieces, middles, hloop, htypes, hbytes, hpieces⟩ :=
    fragmentLoop_of_pos hsize hsize hlong hrest
  refine ⟨(.start, payload.take size.toNat) :: pieces, ?_, ⟨middles, ?_⟩, ?_, ?_⟩
  · rw [hfuel, fragmentLoop, if_pos (by omega)]
    simp only [if_true, Nat.zero_add, hloop, Option.map_some, List.drop_zero]
  · rw [List.map_cons, htypes]
  · rw [List.map_cons, List.flatten_cons, hbytes, List.take_append_drop]
  · rintro piece (_ | ⟨_, hpiece⟩)
    · simp only [List.length_take]
      omega
    · exact hpieces piece hpiece

namespace FragmentFormat

variable (format : FragmentFormat) {nalu : List UInt8} {maxFragmentSize : UInt16}

/-- The fragments of a unit that is too long are even, and none is longer than it may be. -/
theorem evenSize_le (hlong : maxFragmentSize.toNat < nalu.length) :
    nalu.length ⌈/⌉ (nalu.length ⌈/⌉ maxFragmentSize.toNat) ≤ maxFragmentSize.toNat := by
  rcases Nat.eq_zero_or_pos maxFragmentSize.toNat with hzero | hpos
  · simp [hzero]
  · have hcover : nalu.length ≤ maxFragmentSize.toNat * (nalu.length ⌈/⌉ maxFragmentSize.toNat) :=
      (ceilDiv_le_iff_le_mul hpos).1 le_rfl
    have hcount : 0 < nalu.length ⌈/⌉ maxFragmentSize.toNat := by
      apply Nat.pos_of_ne_zero
      intro hzero
      rw [hzero, Nat.mul_zero] at hcover
      omega
    rw [ceilDiv_le_iff_le_mul hcount, Nat.mul_comm]
    exact hcover

/-- The subtraction of the overhead. -/
theorem fragmentSize_toNat (hlong : maxFragmentSize.toNat < nalu.length)
    (hoverhead : format.overhead.toNat ≤
      nalu.length ⌈/⌉ (nalu.length ⌈/⌉ maxFragmentSize.toNat)) :
    (format.fragmentSize nalu maxFragmentSize).toNat =
      nalu.length ⌈/⌉ (nalu.length ⌈/⌉ maxFragmentSize.toNat) - format.overhead.toNat := by
  have hle := evenSize_le hlong
  have hbound := maxFragmentSize.toNat_lt
  have hofNat : (UInt16.ofNat (nalu.length ⌈/⌉ (nalu.length ⌈/⌉ maxFragmentSize.toNat))).toNat =
      nalu.length ⌈/⌉ (nalu.length ⌈/⌉ maxFragmentSize.toNat) :=
    UInt16.toNat_ofNat_of_lt' (by show _ < 65536; omega)
  rw [fragmentSize, UInt16.toNat_sub_of_le, hofNat]
  rw [UInt16.le_iff_toNat_le, hofNat]
  exact hoverhead

/-- `fragmentsFrom` on a unit whose even fragments are longer than the overhead. -/
theorem fragmentsFrom_of_lt (hlong : maxFragmentSize.toNat < nalu.length)
    (hoverhead : format.overhead.toNat <
      nalu.length ⌈/⌉ (nalu.length ⌈/⌉ maxFragmentSize.toNat)) :
    ∃ pieces, format.fragmentsFrom nalu maxFragmentSize =
        some (pieces.map fun piece => format.fragment nalu piece.1 piece.2) ∧
      Cut (maxFragmentSize.toNat - format.overhead.toNat) (nalu.drop format.headerSize) pieces := by
  have hlt := format.headerSize_lt
  have hle := evenSize_le hlong
  have hsize := format.fragmentSize_toNat hlong hoverhead.le
  have hpos : 0 < (format.fragmentSize nalu maxFragmentSize).toNat := by omega
  have hlong' : (format.fragmentSize nalu maxFragmentSize).toNat <
      (nalu.drop format.headerSize).length := by
    rw [List.length_drop]
    omega
  obtain ⟨pieces, hloop, htypes, hbytes, hpieces⟩ := fragmentLoop_cut hpos hlong'
  refine ⟨pieces, ?_, htypes, hbytes, fun piece hpiece => ?_⟩
  · rw [fragmentsFrom]
    simp only [hloop, Option.map_some]
  · have := hpieces piece hpiece
    omega

/-- A unit that is too long takes at least two fragments, and one less would not do. -/
theorem exists_fragmentsCount {n m : ℕ} (hpos : 0 < m) (hlong : m < n) :
    ∃ count, n ⌈/⌉ m = count ∧ 2 ≤ count ∧ n ≤ m * count ∧ m * (count - 1) < n := by
  obtain ⟨count, hcount⟩ : ∃ count, n ⌈/⌉ m = count := ⟨_, rfl⟩
  have hcover : n ≤ m * count := (ceilDiv_le_iff_le_mul hpos).1 hcount.le
  have htwo : 2 ≤ count := by
    by_contra hless
    have hone : count ≤ 1 := by omega
    have := Nat.mul_le_mul_left m hone
    omega
  refine ⟨count, hcount, htwo, hcover, ?_⟩
  rw [← not_le, ← ceilDiv_le_iff_le_mul hpos, hcount]
  omega

/-- Where a fragment may be twice as long as the overhead, an even one is longer than it. -/
theorem overhead_lt_evenSize (hmax : 2 * format.overhead.toNat ≤ maxFragmentSize.toNat)
    (hlong : maxFragmentSize.toNat < nalu.length) :
    format.overhead.toNat < nalu.length ⌈/⌉ (nalu.length ⌈/⌉ maxFragmentSize.toNat) := by
  have hlt := format.headerSize_lt
  obtain ⟨count, hcount, htwo, -, hfewer⟩ := exists_fragmentsCount (by omega) hlong
  rw [hcount, ← not_le, ceilDiv_le_iff_le_mul (by omega), not_le]
  calc count * format.overhead.toNat
    _ ≤ (2 * (count - 1)) * format.overhead.toNat := Nat.mul_le_mul_right _ (by omega)
    _ = (2 * format.overhead.toNat) * (count - 1) := by ring
    _ ≤ maxFragmentSize.toNat * (count - 1) := Nat.mul_le_mul_right _ hmax
    _ < nalu.length := hfewer

/-- `fragmentsFrom` on a unit that is too long. -/
theorem fragmentsFrom_eq (hmax : 2 * format.overhead.toNat ≤ maxFragmentSize.toNat)
    (hlong : maxFragmentSize.toNat < nalu.length) :
    ∃ pieces, format.fragmentsFrom nalu maxFragmentSize =
        some (pieces.map fun piece => format.fragment nalu piece.1 piece.2) ∧
      Cut (maxFragmentSize.toNat - format.overhead.toNat) (nalu.drop format.headerSize) pieces :=
  format.fragmentsFrom_of_lt hlong (format.overhead_lt_evenSize hmax hlong)

/-- How a unit is sent: as it is if it fits, otherwise in fragments. -/
def Sent (maxFragmentSize : UInt16) (nalu : List UInt8) (fragments : List (List UInt8)) : Prop :=
  if maxFragmentSize.toNat < nalu.length then
    ∃ pieces, fragments = pieces.map (fun piece => format.fragment nalu piece.1 piece.2) ∧
      Cut (maxFragmentSize.toNat - format.overhead.toNat) (nalu.drop format.headerSize) pieces
  else fragments = [nalu]

/-- `generateFragments` returns, and sends one unit after the other. -/
theorem generateFragments_eq (hmax : 2 * format.overhead.toNat ≤ maxFragmentSize.toNat)
    (nalus : List (List UInt8)) :
    ∃ groups, format.generateFragments maxFragmentSize nalus = some groups.flatten ∧
      List.Forall₂ (format.Sent maxFragmentSize) nalus groups := by
  induction nalus with
  | nil => exact ⟨[], rfl, .nil⟩
  | cons nalu nalus ih =>
    obtain ⟨groups, hgroups, hsent⟩ := ih
    by_cases hlong : maxFragmentSize.toNat < nalu.length
    · obtain ⟨pieces, hpieces, hcut⟩ := format.fragmentsFrom_eq hmax hlong
      refine ⟨(pieces.map fun piece => format.fragment nalu piece.1 piece.2) :: groups, ?_,
        .cons ?_ hsent⟩
      · rw [generateFragments, if_pos hlong, hpieces, hgroups]
        rfl
      · rw [Sent, if_pos hlong]
        exact ⟨pieces, rfl, hcut⟩
    · refine ⟨[nalu] :: groups, ?_, .cons ?_ hsent⟩
      · rw [generateFragments, if_neg hlong, hgroups]
        rfl
      · rw [Sent, if_neg hlong]

/-- No fragment is empty or longer than a payload may be. -/
theorem Sent.length {fragments : List (List UInt8)} {format : FragmentFormat}
    (h : format.Sent maxFragmentSize nalu fragments) (hnalu : nalu ≠ []) :
    ∀ fragment ∈ fragments, fragment ≠ [] ∧ fragment.length ≤ maxFragmentSize.toNat := by
  have hlt := format.headerSize_lt
  intro fragment hfragment
  rw [Sent] at h
  split at h
  · obtain ⟨pieces, rfl, hcut⟩ := h
    obtain ⟨piece, hpiece, rfl⟩ := List.mem_map.1 hfragment
    have hsize := hcut.size piece hpiece
    rw [← List.length_pos_iff, format.length_fragment]
    omega
  · next hfits =>
    rw [h, List.mem_singleton] at hfragment
    subst hfragment
    exact ⟨hnalu, not_lt.1 hfits⟩

theorem Sent.ne_nil {fragments : List (List UInt8)} {format : FragmentFormat}
    (h : format.Sent maxFragmentSize nalu fragments) : fragments ≠ [] := by
  rw [Sent] at h
  split at h
  · obtain ⟨pieces, rfl, ⟨middles, htypes⟩, -, -⟩ := h
    rintro hnil
    rw [List.map_eq_nil_iff] at hnil
    rw [hnil] at htypes
    exact absurd htypes (by simp)
  · rw [h]
    exact List.cons_ne_nil _ _

/-- The fragments of a frame. -/
theorem sent_flatten {nalus : List (List UInt8)} {groups : List (List (List UInt8))}
    (hsent : List.Forall₂ (format.Sent maxFragmentSize) nalus groups) :
    (∀ nalu ∈ nalus, nalu ≠ []) →
      ∀ fragment ∈ groups.flatten, fragment ≠ [] ∧ fragment.length ≤ maxFragmentSize.toNat := by
  induction hsent with
  | nil =>
    intro _ fragment hfragment
    exact absurd hfragment List.not_mem_nil
  | @cons nalu group nalus groups hgroup _ ih =>
    intro hnalus fragment hfragment
    rw [List.flatten_cons, List.mem_append] at hfragment
    rcases hfragment with hfirst | hlater
    · exact hgroup.length (hnalus nalu (by simp)) fragment hfirst
    · exact ih (fun nalu' h => hnalus nalu' (List.mem_cons_of_mem _ h)) fragment hlater

/-- A unit that fits is sent as it is, another one as a start, middle and an end fragment, as `type`
reads them, with the header that `Header nalu` asks for. -/
def FragmentsOf (type : List UInt8 → FragmentType) (Header : List UInt8 → List UInt8 → Prop)
    (maxFragmentSize : UInt16) (nalu : List UInt8) (fragments : List (List UInt8)) : Prop :=
  if maxFragmentSize.toNat < nalu.length then
    (∃ middles, fragments.map type = .start :: (List.replicate middles .middle ++ [.end])) ∧
    ∀ fragment ∈ fragments, Header nalu fragment
  else fragments = [nalu]

/-- The pieces that are sent of a unit are seen from their headers. -/
theorem fragmentsOf_of_sent {type : List UInt8 → FragmentType}
    {Header : List UInt8 → List UInt8 → Prop} {fragments : List (List UInt8)}
    (hread : ∀ fragmentType piece, type (format.fragment nalu fragmentType piece) = fragmentType ∧
      Header nalu (format.fragment nalu fragmentType piece))
    (hsent : format.Sent maxFragmentSize nalu fragments) :
    FragmentsOf type Header maxFragmentSize nalu fragments := by
  rw [Sent] at hsent
  rw [FragmentsOf]
  split at hsent
  · next hlong =>
    rw [if_pos hlong]
    obtain ⟨pieces, rfl, ⟨middles, htypes⟩, -, -⟩ := hsent
    refine ⟨⟨middles, ?_⟩, fun fragment hfragment => ?_⟩
    · rw [← htypes, List.map_map]
      exact List.map_congr_left fun piece _ => (hread piece.1 piece.2).1
    · obtain ⟨piece, -, rfl⟩ := List.mem_map.1 hfragment
      exact (hread piece.1 piece.2).2
  · next hfits =>
    rw [if_neg hfits]
    exact hsent

/-- There is a fragment if there is a unit. -/
theorem flatten_ne_nil {nalus : List (List UInt8)} {groups : List (List (List UInt8))}
    (hsent : List.Forall₂ (format.Sent maxFragmentSize) nalus groups) (hnalus : nalus ≠ []) :
    groups.flatten ≠ [] := by
  cases hsent with
  | nil => exact absurd rfl hnalus
  | cons hgroup _ =>
    rw [List.flatten_cons]
    exact List.append_ne_nil_of_left_ne_nil hgroup.ne_nil _

end FragmentFormat

/-! ## The packets of a frame -/

/-- The packets of a frame: numbered from the sequence number of the configuration, marked at the
end, and with payloads that fit. -/
structure NumberedPackets (config : RtpPacketizationConfig) (maxFragmentSize : UInt16)
    (packets : List (List UInt8)) : Prop where
  seqNumber : ∀ i (h : i < packets.length),
    (RtpHeader.read packets[i]).seqNumber = config.sequenceNumber + UInt16.ofNat i
  marker : ∀ i (h : i < packets.length),
    (RtpHeader.read packets[i]).marker = decide (i + 1 = packets.length)
  payload : ∀ pkt ∈ packets, pkt.length ≤ rtpHeaderSize pkt + maxFragmentSize.toNat

namespace RtpPacketizationConfig

variable (config : RtpPacketizationConfig) (mark : Bool)

/-- The configuration after `n` packets. -/
def advance (n : ℕ) : RtpPacketizationConfig :=
  { config with sequenceNumber := config.sequenceNumber + UInt16.ofNat n }

@[simp]
theorem elementsSize_advance (n : ℕ) :
    (config.advance n).elementsSize mark = config.elementsSize mark := rfl

@[simp]
theorem elementsSize_packetize (payload : List UInt8) (mark' : Bool) :
    (config.packetize mark' payload).2.elementsSize mark = config.elementsSize mark := rfl

theorem packets_eq_mapIdx (fragments : List (List UInt8)) :
    config.packets fragments = fragments.mapIdx fun i fragment =>
      ((config.advance i).packetize (i + 1 = fragments.length) fragment).1 := by
  induction config, fragments using packets.induct with
  | case1 config => rfl
  | case2 config fragment =>
    have hzero : config.advance 0 = config := by
      simp [advance]
    simp [packets, hzero]
  | case3 config fragment fragments hne ih =>
    have hzero : config.advance 0 = config := by
      simp [advance]
    have hnext : ∀ n, (config.packetize false fragment).2.advance n = config.advance (n + 1) := by
      intro n
      simp only [advance, packetize, UInt16.ofNat_add, UInt16.add_assoc]
      rw [UInt16.add_comm (UInt16.ofNat n)]
      rfl
    have hmark : decide (1 = (fragment :: fragments).length) = false := by
      cases fragments with
      | nil => exact absurd rfl hne
      | cons => simp
    rw [packets, ih, List.mapIdx_cons, hzero, Nat.zero_add, hmark]
    · simp only [hnext, List.length_cons, Nat.add_right_cancel_iff]
    · exact hne

@[simp]
theorem length_packets (fragments : List (List UInt8)) :
    (config.packets fragments).length = fragments.length := by
  rw [packets_eq_mapIdx, List.length_mapIdx]

theorem numberedPackets {fragments : List (List UInt8)} {maxFragmentSize : UInt16}
    (hlimit : config.elementsSize true ≤ 262140)
    (hfits : ∀ fragment ∈ fragments, fragment.length ≤ maxFragmentSize.toNat) :
    NumberedPackets config maxFragmentSize (config.packets fragments) where
  seqNumber := by
    intro i h
    simp only [packets_eq_mapIdx, List.getElem_mapIdx, read_packetize, seqNumber_header, advance]
  marker := by
    intro i h
    simp only [packets_eq_mapIdx, List.getElem_mapIdx, read_packetize, marker_header,
      List.length_mapIdx]
  payload := by
    intro pkt hpkt
    rw [packets_eq_mapIdx, List.mem_mapIdx] at hpkt
    obtain ⟨i, hi, rfl⟩ := hpkt
    have hsize := hfits fragments[i] (List.getElem_mem hi)
    rw [length_packetize, rtpHeaderSize_packetize]
    · omega
    · rw [rtpExtHeaderSize_le_iff]
      exact (elementsSize_le _ _).trans hlimit

/-- The last packet of a frame. -/
theorem packets_append (fragments : List (List UInt8)) (last : List UInt8) :
    ∃ first, config.packets (fragments ++ [last]) =
      first ++ [((config.advance fragments.length).packetize true last).1] := by
  rw [packets_eq_mapIdx, List.mapIdx_append]
  refine ⟨_, congrArg _ ?_⟩
  simp

end RtpPacketizationConfig

/-- What is sent of a frame is numbered, marked at the end and fits, and the depacketizer gives back
the units. `Fragmented` says what is sent of a unit. -/
def FragmentFormat.RoundTrip (format : FragmentFormat)
    (Fragmented : List UInt8 → List (List UInt8) → Prop) (addPayload : AddPayload)
    (separator : Separator) (maxFragmentSize : UInt16) (config : RtpPacketizationConfig)
    (nalus : List (List UInt8)) (payloadType : UInt8) (timestamp : UInt32) : Prop :=
  ∃ groups, format.generateFragments maxFragmentSize nalus = some groups.flatten ∧
    List.Forall₂ Fragmented nalus groups ∧
    NumberedPackets config maxFragmentSize (config.packets groups.flatten) ∧
    addPayload.buildFrames (config.packets groups.flatten) payloadType timestamp =
      .ok [⟨(nalus.map (separator.startCode ++ ·)).flatten, payloadType, timestamp⟩]

/-! ## The loop of the depacketizer -/

theorem startCode_ne_nil (separator : Separator) : separator.startCode ≠ [] := by
  cases separator <;> exact List.cons_ne_nil _ _

/-- A payload with the two bytes of a header. -/
theorem exists_cons₂_of_le {payload : List UInt8} (h : 2 ≤ payload.length) :
    ∃ first second rest, payload = first :: second :: rest := by
  obtain ⟨first, others, rfl⟩ := List.exists_cons_of_length_pos (Nat.zero_lt_of_lt h)
  rw [List.length_cons] at h
  obtain ⟨second, rest, rfl⟩ := List.exists_cons_of_length_pos (Nat.le_of_succ_le_succ h)
  exact ⟨first, second, rest, rfl⟩

/-- A payload with something behind these bytes. -/
theorem exists_cons₃_of_le {payload : List UInt8} (h : 3 ≤ payload.length) :
    ∃ first second third rest, payload = first :: second :: third :: rest := by
  obtain ⟨first, second, others, rfl⟩ := exists_cons₂_of_le (Nat.le_of_succ_le h)
  rw [List.length_cons, List.length_cons] at h
  obtain ⟨third, rest, rfl⟩ := List.exists_cons_of_length_pos
    (Nat.le_of_succ_le_succ (Nat.le_of_succ_le_succ h))
  exact ⟨first, second, third, rest, rfl⟩

/-- No unit is read from a length alone. -/
theorem addAggregated_of_le {separator : Separator} {tooLarge : DepacketizerException}
    {accessUnit payload : List UInt8} (h : payload.length ≤ 2) :
    addAggregated separator tooLarge accessUnit payload = .ok accessUnit := by
  rw [addAggregated]
  rintro high low first rest rfl
  simp only [List.length_cons] at h
  omega

namespace AddPayload

variable (addPayload : AddPayload)

/-- The packets of `packetize` have no padding. -/
theorem addPacket_packetize_of_drop {config : RtpPacketizationConfig} {mark : Bool}
    {accessUnit payload rest : List UInt8}
    (hdrop : (config.packetize mark payload).1.drop
      (rtpHeaderSize (config.packetize mark payload).1) = rest) (hne : rest ≠ []) :
    addPayload.addPacket accessUnit (config.packetize mark payload).1 =
      addPayload accessUnit rest := by
  obtain ⟨hpadding, -, -⟩ := config.flags_header mark
  have hlength : (config.packetize mark payload).1.length ≠
      rtpHeaderSize (config.packetize mark payload).1 := by
    intro heq
    rw [← heq, List.drop_length] at hdrop
    exact hne hdrop.symm
  rw [addPacket, RtpPacketizationConfig.read_packetize, hpadding, hdrop,
    if_neg Bool.false_ne_true]
  exact if_neg hlength

theorem addPacket_packetize {config : RtpPacketizationConfig} {mark : Bool}
    {accessUnit payload : List UInt8} (hlimit : config.elementsSize mark ≤ 262140)
    (hne : payload ≠ []) :
    addPayload.addPacket accessUnit (config.packetize mark payload).1 =
      addPayload accessUnit payload :=
  addPayload.addPacket_packetize_of_drop
    (config.drop_packetize mark payload ((config.rtpExtHeaderSize_le_iff mark).2 hlimit)) hne

/-- With a longer extension header the payload starts with zeros. -/
theorem addPacket_packetize_of_long {config : RtpPacketizationConfig} {mark : Bool}
    (hlimit : 262140 < config.elementsSize mark) (payload : List UInt8) :
    ∃ zeros, 262144 ≤ zeros ∧ ∀ accessUnit,
      addPayload.addPacket accessUnit (config.packetize mark payload).1 =
        addPayload accessUnit (List.replicate zeros 0 ++ payload) := by
  have hlong : 262144 < config.rtpExtHeaderSize mark := by
    rw [← not_le, config.rtpExtHeaderSize_le_iff]
    omega
  obtain ⟨zeros, hzeros, hdrop⟩ := config.drop_packetize_of_long mark payload hlong
  refine ⟨zeros, hzeros, fun accessUnit => addPayload.addPacket_packetize_of_drop hdrop ?_⟩
  rw [← List.length_pos_iff, List.length_append, List.length_replicate]
  omega

/-- The depacketizer sees the payloads that were packetized. -/
theorem buildAccessUnit_packets (config : RtpPacketizationConfig) (fragments : List (List UInt8))
    (accessUnit : List UInt8) (hlimit : config.elementsSize true ≤ 262140)
    (hne : ∀ fragment ∈ fragments, fragment ≠ []) :
    addPayload.buildAccessUnit accessUnit (config.packets fragments) =
      fragments.foldlM addPayload accessUnit := by
  induction config, fragments using RtpPacketizationConfig.packets.induct
    generalizing accessUnit with
  | case1 config => rfl
  | case2 config fragment =>
    rw [RtpPacketizationConfig.packets, buildAccessUnit, List.foldlM_cons, List.foldlM_cons,
      addPayload.addPacket_packetize hlimit (hne fragment (by simp))]
    rfl
  | case3 config fragment fragments hcons ih =>
    rw [RtpPacketizationConfig.packets, buildAccessUnit, List.foldlM_cons, List.foldlM_cons,
      addPayload.addPacket_packetize ((config.elementsSize_le false).trans hlimit)
        (hne fragment (by simp))]
    · refine bind_congr fun next => ?_
      exact ih next hlimit fun fragment' h => hne fragment' (List.mem_cons_of_mem _ h)
    · exact hcons

/-! ## Reassembly -/

/-- How a codec has to take the payloads of `generateFragments` for the units in `Valid`. -/
structure Reassembles (format : FragmentFormat) (separator : Separator)
    (Valid : List UInt8 → Prop) : Prop where
  single : ∀ {nalu accessUnit}, Valid nalu →
    addPayload accessUnit nalu = .ok (accessUnit ++ separator.startCode ++ nalu)
  start : ∀ {nalu accessUnit piece}, Valid nalu →
    addPayload accessUnit (format.fragment nalu .start piece) =
      .ok (accessUnit ++ separator.startCode ++ nalu.take format.headerSize ++ piece)
  later : ∀ {nalu accessUnit fragmentType piece}, Valid nalu → fragmentType ≠ .start →
    accessUnit ≠ [] →
    addPayload accessUnit (format.fragment nalu fragmentType piece) = .ok (accessUnit ++ piece)

namespace Reassembles

variable {addPayload} {format : FragmentFormat} {separator : Separator}
  {Valid : List UInt8 → Prop} {maxFragmentSize : UInt16}

/-- The pieces behind the start are appended. -/
theorem foldlM_later (h : addPayload.Reassembles format separator Valid) {nalu : List UInt8}
    (hvalid : Valid nalu) (pieces : List (FragmentType × List UInt8)) :
    ∀ accessUnit, accessUnit ≠ [] → (∀ piece ∈ pieces, piece.1 ≠ .start) →
      (pieces.map fun piece => format.fragment nalu piece.1 piece.2).foldlM addPayload accessUnit =
        .ok (accessUnit ++ (pieces.map Prod.snd).flatten) := by
  induction pieces with
  | nil =>
    intro accessUnit _ _
    simp [pure, Except.pure]
  | cons piece pieces ih =>
    intro accessUnit hne hlater
    have hnext := ih (accessUnit ++ piece.2) (by simp [hne])
      fun piece' hpiece => hlater piece' (List.mem_cons_of_mem _ hpiece)
    rw [List.map_cons, List.foldlM_cons, h.later hvalid (hlater piece (by simp)) hne]
    show List.foldlM addPayload _ _ = _
    rw [hnext, List.map_cons, List.flatten_cons, List.append_assoc]

/-- The fragments of a unit give back the unit. -/
theorem foldlM_sent (h : addPayload.Reassembles format separator Valid) {nalu : List UInt8}
    (hvalid : Valid nalu) {fragments : List (List UInt8)}
    (hsent : format.Sent maxFragmentSize nalu fragments) (accessUnit : List UInt8) :
    fragments.foldlM addPayload accessUnit =
      .ok (accessUnit ++ (separator.startCode ++ nalu)) := by
  rw [FragmentFormat.Sent] at hsent
  split at hsent
  · obtain ⟨pieces, rfl, ⟨middles, htypes⟩, hbytes, hsize⟩ := hsent
    cases pieces with
    | nil => exact absurd htypes (by simp)
    | cons first pieces =>
      rw [List.map_cons, List.cons.injEq] at htypes
      obtain ⟨hfirst, htypes⟩ := htypes
      -- the start fragment opens the unit, and the others are appended to it
      have hlater : ∀ piece ∈ pieces, piece.1 ≠ .start := by
        intro piece hpiece
        have hmem : piece.1 ∈ pieces.map Prod.fst := List.mem_map_of_mem hpiece
        rw [htypes] at hmem
        rcases List.mem_append.1 hmem with hmiddle | hend
        · rw [List.eq_of_mem_replicate hmiddle]
          decide
        · rw [List.mem_singleton.1 hend]
          decide
      have hstart : addPayload accessUnit (format.fragment nalu .start first.2) = _ :=
        h.start hvalid
      have hne : accessUnit ++ separator.startCode ++ nalu.take format.headerSize ++
          first.2 ≠ [] := by
        have hfirstSize := (hsize first (by simp)).1
        rw [← List.length_pos_iff, List.length_append]
        omega
      rw [List.map_cons, List.foldlM_cons, hfirst, hstart]
      show List.foldlM addPayload _ _ = _
      rw [h.foldlM_later hvalid pieces _ hne hlater]
      -- the header that was taken apart, and the pieces behind it
      have hwhole : nalu = nalu.take format.headerSize ++
          (first.2 ++ (pieces.map Prod.snd).flatten) := by
        rw [← List.flatten_cons, ← List.map_cons, hbytes, List.take_append_drop]
      conv_rhs => rw [hwhole]
      simp only [List.append_assoc]
  · subst hsent
    rw [List.foldlM_cons, h.single hvalid, List.append_assoc]
    rfl

/-- The fragments of a frame give back its units, each behind a separator. -/
theorem foldlM_flatten (h : addPayload.Reassembles format separator Valid)
    {nalus : List (List UInt8)} {groups : List (List (List UInt8))}
    (hsent : List.Forall₂ (format.Sent maxFragmentSize) nalus groups) :
    ∀ accessUnit, (∀ nalu ∈ nalus, Valid nalu) →
      groups.flatten.foldlM addPayload accessUnit =
        .ok (accessUnit ++ (nalus.map (separator.startCode ++ ·)).flatten) := by
  induction hsent with
  | nil =>
    intro accessUnit _
    simp [pure, Except.pure]
  | @cons nalu group nalus groups hgroup _ ih =>
    intro accessUnit hvalid
    rw [List.flatten_cons, List.foldlM_append, h.foldlM_sent (hvalid nalu (by simp)) hgroup]
    show List.foldlM addPayload _ _ = _
    rw [ih _ fun nalu' hnalu => hvalid nalu' (List.mem_cons_of_mem _ hnalu), List.map_cons,
      List.flatten_cons, List.append_assoc]

/-- The depacketizer gives back the frame when its extension elements are short enough. -/
theorem buildFrames_packets (h : addPayload.Reassembles format separator Valid)
    (hne : ∀ nalu, Valid nalu → nalu ≠ []) {nalus : List (List UInt8)}
    {groups : List (List (List UInt8))} (hnalus : nalus ≠ [])
    (hvalid : ∀ nalu ∈ nalus, Valid nalu)
    (hsent : List.Forall₂ (format.Sent maxFragmentSize) nalus groups)
    {config : RtpPacketizationConfig} (hlimit : config.elementsSize true ≤ 262140)
    (payloadType : UInt8) (timestamp : UInt32) :
    addPayload.buildFrames (config.packets groups.flatten) payloadType timestamp =
      .ok [⟨(nalus.map (separator.startCode ++ ·)).flatten, payloadType, timestamp⟩] := by
  have hfragments := format.sent_flatten hsent fun nalu hnalu => hne nalu (hvalid nalu hnalu)
  have hdata : (nalus.map (separator.startCode ++ ·)).flatten ≠ [] := by
    cases nalus with
    | nil => exact absurd rfl hnalus
    | cons nalu nalus =>
      rw [List.map_cons, List.flatten_cons, List.append_assoc]
      refine List.append_ne_nil_of_left_ne_nil ?_ _
      cases separator <;> exact List.cons_ne_nil _ _
  rw [buildFrames, addPayload.buildAccessUnit_packets config _ _ hlimit
    fun fragment hfragment => (hfragments fragment hfragment).1,
    h.foldlM_flatten hsent [] hvalid, List.nil_append]
  show Except.ok (if _ = [] then _ else _) = _
  rw [if_neg hdata]

/-- With short enough extension elements the frame comes back; otherwise it has to be shown that it
does not. -/
theorem roundTrip_iff_of_long {Fragmented : List UInt8 → List (List UInt8) → Prop}
    (h : addPayload.Reassembles format separator Valid)
    (hfragmented : ∀ nalu fragments, Valid nalu → format.Sent maxFragmentSize nalu fragments →
      Fragmented nalu fragments)
    (hne : ∀ nalu, Valid nalu → nalu ≠ [])
    (hmax : 2 * format.overhead.toNat ≤ maxFragmentSize.toNat) {nalus : List (List UInt8)}
    (hnalus : nalus ≠ []) (hvalid : ∀ nalu ∈ nalus, Valid nalu) {config : RtpPacketizationConfig}
    {payloadType : UInt8} {timestamp : UInt32}
    (hlong : ∀ groups, List.Forall₂ (format.Sent maxFragmentSize) nalus groups →
      262140 < config.elementsSize true →
      addPayload.buildFrames (config.packets groups.flatten) payloadType timestamp ≠
        .ok [⟨(nalus.map (separator.startCode ++ ·)).flatten, payloadType, timestamp⟩]) :
    format.RoundTrip Fragmented addPayload separator maxFragmentSize config nalus payloadType
      timestamp ↔ config.elementsSize true ≤ 262140 := by
  obtain ⟨groups, hgroups, hsent⟩ := format.generateFragments_eq hmax nalus
  constructor
  · rintro ⟨groups', hgroups', -, -, hbuild⟩
    by_contra hlimit
    have hflatten : groups'.flatten = groups.flatten :=
      Option.some.inj (hgroups'.symm.trans hgroups)
    rw [hflatten] at hbuild
    exact hlong groups hsent (not_le.1 hlimit) hbuild
  · intro hlimit
    have hfragments := format.sent_flatten hsent fun nalu hnalu => hne nalu (hvalid nalu hnalu)
    have hboth := (List.forall₂_and_left nalus groups).2 ⟨hvalid, hsent⟩
    exact ⟨groups, hgroups,
      hboth.imp fun nalu group hgroup => hfragmented nalu group hgroup.1 hgroup.2,
      config.numberedPackets hlimit fun fragment hfragment => (hfragments fragment hfragment).2,
      h.buildFrames_packets hne hnalus hvalid hsent hlimit payloadType timestamp⟩

end Reassembles

/-- The loop up to the last packet. -/
theorem buildAccessUnit_packets_append (config : RtpPacketizationConfig)
    (fragments : List (List UInt8)) (last : List UInt8) (accessUnit : List UInt8) :
    ∃ first, config.packets (fragments ++ [last]) =
      first ++ [((config.advance fragments.length).packetize true last).1] ∧
    addPayload.buildAccessUnit accessUnit (config.packets (fragments ++ [last])) =
      (addPayload.buildAccessUnit accessUnit first).bind fun next =>
        addPayload.addPacket next ((config.advance fragments.length).packetize true last).1 := by
  obtain ⟨first, hfirst⟩ := config.packets_append fragments last
  refine ⟨first, hfirst, ?_⟩
  rw [hfirst, buildAccessUnit, List.foldlM_append]
  refine bind_congr fun next => ?_
  rw [List.foldlM_cons]
  exact bind_pure _

end AddPayload

end Rtc
