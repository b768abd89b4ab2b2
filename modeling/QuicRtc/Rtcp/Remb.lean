import Mathlib.Order.Bounds.Basic
import Mathlib.Tactic.IntervalCases
import QuicRtc.Rtcp.Feedback

/-!
# REMB packets

`RtcpRemb::preparePacket` writes a bitrate as an exponent of 6 bits and a mantissa of 18 bits, in
one word with the number of SSRCs. `getBitrate` multiplies the mantissa by the square of the
exponent where the bitrate is the mantissa times a power of two, and `RembHandler` only looks at
packets with one SSRC.

The main result `remb_exact_iff` says for which bitrates and numbers of SSRCs both go unnoticed.
-/

namespace Rtc

/-! ## Preparing a packet -/

/-- `RtcpFbHeader`, in host order. -/
structure RtcpFbHeader where
  header : RtcpHeader
  packetSender : UInt32
  mediaSource : UInt32
  deriving DecidableEq, Repr

/-- `RtcpRemb`, in host order, with all its SSRCs. -/
structure RtcpRemb where
  header : RtcpFbHeader
  id : List UInt8
  bitrate : UInt32
  ssrc : List UInt32
  deriving DecidableEq, Repr

namespace RtcpRemb

/-- `offsetof(RtcpRemb, _ssrc)`. -/
def ssrcOffset : ℕ := 20

/-- `RtcpRemb::SizeWithSSRCs`. -/
def sizeWithSsrcs (count : ℕ) : ℕ := sizeOf + (count - 1) * 4

/-- The loop of `setBitrate`: the exponent, and what is left of the bitrate. -/
def normalize (exp inBitrate : UInt32) : UInt32 × UInt32 :=
  if _h : 0x3FFFF < inBitrate then normalize (exp + 1) (inBitrate / 2) else (exp, inBitrate)
termination_by inBitrate.toNat
decreasing_by
  have hlt : 0x3FFFF < inBitrate.toNat := UInt32.lt_iff_toNat_lt.1 _h
  rw [UInt32.toNat_div]
  show inBitrate.toNat / 2 < inBitrate.toNat
  omega

/-- `RtcpRemb::setBitrate`. -/
def setBitrate (p : RtcpRemb) (numSsrc inBitrate : UInt32) : RtcpRemb :=
  let (exp, mantissa) := normalize 0 inBitrate
  let length : UInt16 := (UInt32.ofNat (ssrcOffset / 4) - 1 + numSsrc).toUInt16
  { p with
    header := { p.header with header := { p.header.header with length } }
    bitrate := (numSsrc <<< (32 - 8)) ||| (exp <<< (32 - 8 - 6)) ||| mantissa }

/-- `RtcpRemb::preparePacket`. -/
def preparePacket (p : RtcpRemb) (senderSsrc numSsrc inBitrate : UInt32) : RtcpRemb :=
  setBitrate
    { p with
      header := ⟨RtcpHeader.prepareHeader 206 15 0, senderSsrc, 0⟩
      id := uniqueId }
    numSsrc inBitrate

/-- `RtcpRemb::getNumSSRC`. -/
def getNumSsrc (p : RtcpRemb) : UInt32 := p.bitrate >>> 24

/-- The packet as laid out in the buffer. -/
def toBytes (p : RtcpRemb) : List UInt8 :=
  [p.header.header.first, p.header.header.payloadType] ++
    BigEndian.encode 2 p.header.header.length.toNat ++
    BigEndian.encode 4 p.header.packetSender.toNat ++
    BigEndian.encode 4 p.header.mediaSource.toNat ++ p.id ++
    BigEndian.encode 4 p.bitrate.toNat ++ p.ssrc.flatMap fun ssrc => BigEndian.encode 4 ssrc.toNat

end RtcpRemb

/-! ## The mantissa and the exponent -/

/-- The exponent of a bitrate: the least power of two by which it is divided into 18 bits. -/
def IsExponent (bitrate k : ℕ) : Prop := IsLeast {k | bitrate / 2 ^ k < 2 ^ 18} k

theorem isExponent_zero_iff {b : ℕ} : IsExponent b 0 ↔ b < 2 ^ 18 := by
  constructor
  · intro h
    have hmem : b / 2 ^ 0 < 2 ^ 18 := h.1
    simpa using hmem
  · intro h
    exact ⟨by simpa using h, fun k _ => Nat.zero_le k⟩

/-- One division less. -/
theorem isExponent_succ_iff {b k : ℕ} :
    IsExponent b (k + 1) ↔ 2 ^ 18 ≤ b ∧ IsExponent (b / 2) k := by
  have hdiv : ∀ j, b / 2 ^ (j + 1) = b / 2 / 2 ^ j := by
    intro j
    rw [Nat.div_div_eq_div_mul, pow_succ, Nat.mul_comm]
  constructor
  · rintro ⟨hmem, hleast⟩
    have hmem' : b / 2 ^ (k + 1) < 2 ^ 18 := hmem
    refine ⟨not_lt.1 fun hlt => ?_, (hdiv k ▸ hmem' : b / 2 / 2 ^ k < 2 ^ 18), fun j hj => ?_⟩
    · have hzero := hleast (show b / 2 ^ 0 < 2 ^ 18 by simpa using hlt)
      omega
    · have hj' : b / 2 / 2 ^ j < 2 ^ 18 := hj
      have hle := hleast (show b / 2 ^ (j + 1) < 2 ^ 18 from hdiv j ▸ hj')
      omega
  · rintro ⟨hlong, hmem, hleast⟩
    have hmem' : b / 2 / 2 ^ k < 2 ^ 18 := hmem
    refine ⟨(hdiv k ▸ hmem' : b / 2 ^ (k + 1) < 2 ^ 18), fun j hj => ?_⟩
    have hj' : b / 2 ^ j < 2 ^ 18 := hj
    cases j with
    | zero =>
      rw [pow_zero, Nat.div_one] at hj'
      omega
    | succ j =>
      rw [hdiv] at hj'
      exact Nat.succ_le_succ (hleast hj')

theorem IsExponent.unique {b k j : ℕ} (hk : IsExponent b k) (hj : IsExponent b j) : k = j :=
  IsLeast.unique hk hj

/-- A bitrate of 32 bits is divided at most 14 times. -/
theorem IsExponent.le {b : UInt32} {k : ℕ} (h : IsExponent b.toNat k) : k ≤ 14 := by
  have hlt := b.toNat_lt
  refine h.2 ?_
  show b.toNat / 2 ^ 14 < 2 ^ 18
  omega

namespace RtcpRemb

/-- The loop divides until the bitrate fits, and no longer. -/
theorem normalize_eq (exp b : UInt32) :
    ∃ k, IsExponent b.toNat k ∧ (normalize exp b).1 = exp + UInt32.ofNat k ∧
      (normalize exp b).2.toNat = b.toNat / 2 ^ k := by
  induction exp, b using normalize.induct with
  | case1 exp b hlong ih =>
    obtain ⟨k, hk, hexp, hmantissa⟩ := ih
    have hhalf : (b / 2).toNat = b.toNat / 2 := UInt32.toNat_div b 2
    have hlong' : 0x3FFFF < b.toNat := UInt32.lt_iff_toNat_lt.1 hlong
    rw [normalize, dif_pos hlong]
    refine ⟨k + 1, isExponent_succ_iff.2 ⟨hlong', hhalf ▸ hk⟩, ?_, ?_⟩
    · rw [hexp, UInt32.ofNat_add, UInt32.add_comm (UInt32.ofNat k), ← UInt32.add_assoc]
      rfl
    · rw [hmantissa, hhalf, Nat.div_div_eq_div_mul, pow_succ, Nat.mul_comm]
  | case2 exp b hshort =>
    have hshort' : b.toNat ≤ 0x3FFFF := not_lt.1 fun hlt => hshort (UInt32.lt_iff_toNat_lt.2 hlt)
    rw [normalize, dif_neg hshort]
    refine ⟨0, isExponent_zero_iff.2 (by omega), ?_, by simp⟩
    exact (UInt32.add_zero exp).symm

/-- The fields of the word do not overlap. -/
theorem toNat_word {n k m : UInt32} (hn : n.toNat ≤ 255) (hk : k.toNat ≤ 63)
    (hm : m.toNat < 2 ^ 18) :
    ((n <<< (32 - 8)) ||| (k <<< (32 - 8 - 6)) ||| m).toNat =
      n.toNat * 2 ^ 24 + k.toNat * 2 ^ 18 + m.toNat := by
  have hnShift : (n <<< (32 - 8)).toNat = n.toNat <<< 24 := by
    rw [UInt32.toNat_shiftLeft]
    show n.toNat <<< 24 % 2 ^ 32 = _
    rw [Nat.shiftLeft_eq]
    omega
  have hkShift : (k <<< (32 - 8 - 6)).toNat = k.toNat <<< 18 := by
    rw [UInt32.toNat_shiftLeft]
    show k.toNat <<< 18 % 2 ^ 32 = _
    rw [Nat.shiftLeft_eq]
    omega
  have hlow : k.toNat <<< 18 ||| m.toNat = k.toNat * 2 ^ 18 + m.toNat := by
    rw [← Nat.shiftLeft_add_eq_or_of_lt hm, Nat.shiftLeft_eq]
  have hlt : k.toNat * 2 ^ 18 + m.toNat < 2 ^ 24 := by omega
  rw [UInt32.toNat_or, UInt32.toNat_or, hnShift, hkShift, Nat.or_assoc, hlow,
    ← Nat.shiftLeft_add_eq_or_of_lt hlt, Nat.shiftLeft_eq, Nat.add_assoc]

variable {br : UInt32} {n k m : ℕ}

theorem getNumSsrc_eq {p : RtcpRemb} (h : p.bitrate.toNat = n * 2 ^ 24 + k * 2 ^ 18 + m)
    (hk : k ≤ 63) (hm : m < 2 ^ 18) : p.getNumSsrc.toNat = n := by
  rw [getNumSsrc, UInt32.toNat_shiftRight, h]
  show (n * 2 ^ 24 + k * 2 ^ 18 + m) >>> 24 = n
  rw [Nat.shiftRight_eq_div_pow]
  omega

/-- The mantissa is multiplied by the square of the exponent. -/
theorem getBitrate_eq (h : br.toNat = n * 2 ^ 24 + k * 2 ^ 18 + m) (hk : k ≤ 14)
    (hm : m < 2 ^ 18) : (getBitrate br).toNat = m * k ^ 2 := by
  have hexp : ((br <<< 8) >>> 26).toNat = k := by
    rw [UInt32.toNat_shiftRight, UInt32.toNat_shiftLeft, h]
    show ((n * 2 ^ 24 + k * 2 ^ 18 + m) <<< 8 % 2 ^ 32) >>> 26 = k
    rw [Nat.shiftLeft_eq, Nat.shiftRight_eq_div_pow]
    omega
  have hmantissa : (br &&& 0x3FFFF).toNat = m := by
    rw [UInt32.toNat_and, h]
    show (n * 2 ^ 24 + k * 2 ^ 18 + m) &&& (2 ^ 18 - 1) = m
    rw [Nat.and_two_pow_sub_one_eq_mod]
    omega
  have hexp8 : ((br <<< 8) >>> 26).toUInt8.toNat = k := by
    rw [UInt32.toNat_toUInt8, hexp]
    omega
  have hsquare : k ^ 2 ≤ 196 := Nat.pow_le_pow_left hk 2
  have hproduct : m * k ^ 2 < 2 ^ 32 := by
    calc m * k ^ 2 ≤ m * 196 := Nat.mul_le_mul_left m hsquare
      _ < 2 ^ 32 := by omega
  rw [getBitrate, UInt32.toNat_mul, hmantissa, hexp8, UInt32.toNat_ofNat_of_lt' (by
    show k ^ 2 < 2 ^ 32
    omega)]
  exact Nat.mod_eq_of_lt hproduct

/-- The square of an exponent is the power of two for 2 and 4 only. -/
theorem mul_square_eq_iff (hk : k ≤ 14) : m * k ^ 2 = m * 2 ^ k ↔ m = 0 ∨ k = 2 ∨ k = 4 := by
  rw [mul_eq_mul_left_iff, or_comm]
  refine or_congr_right ?_
  interval_cases k <;> decide

/-- What is prepared for a bitrate. -/
theorem preparePacket_spec (p : RtcpRemb) (senderSsrc : UInt32) {numSsrc : UInt32} (b : UInt32)
    (hn : numSsrc.toNat ≤ 255) :
    ∃ k, IsExponent b.toNat k ∧ k ≤ 14 ∧ b.toNat / 2 ^ k < 2 ^ 18 ∧
      (p.preparePacket senderSsrc numSsrc b).bitrate.toNat =
        numSsrc.toNat * 2 ^ 24 + k * 2 ^ 18 + b.toNat / 2 ^ k := by
  obtain ⟨k, hk, hexp, hmantissa⟩ := normalize_eq 0 b
  have hle := hk.le
  have hlt : b.toNat / 2 ^ k < 2 ^ 18 := hk.1
  have hexp' : (normalize 0 b).1.toNat = k := by
    rw [hexp, UInt32.zero_add]
    exact UInt32.toNat_ofNat_of_lt' (by show k < 2 ^ 32; omega)
  refine ⟨k, hk, hle, hlt, ?_⟩
  show ((numSsrc <<< (32 - 8)) ||| ((normalize 0 b).1 <<< (32 - 8 - 6)) |||
    (normalize 0 b).2).toNat = _
  rw [toNat_word hn (by omega) (by omega), hexp', hmantissa]

/-- The header that is prepared. -/
theorem header_preparePacket (p : RtcpRemb) (senderSsrc : UInt32) {numSsrc : UInt32} (b : UInt32)
    (hn : numSsrc.toNat ≤ 255) :
    ∃ length : UInt16, length.toNat = 4 + numSsrc.toNat ∧
      (p.preparePacket senderSsrc numSsrc b).header.header = ⟨0x8F, 206, length⟩ := by
  refine ⟨(UInt32.ofNat (ssrcOffset / 4) - 1 + numSsrc).toUInt16, ?_, rfl⟩
  have hfour : UInt32.ofNat (ssrcOffset / 4) - 1 = 4 := by decide
  rw [hfour, UInt32.toNat_toUInt16, UInt32.toNat_add]
  show (4 + numSsrc.toNat) % 2 ^ 32 % 2 ^ 16 = _
  omega

end RtcpRemb

/-! ## The handler -/

/-- A sub-packet that is no REMB packet. -/
structure OtherSubPacket (packet : List UInt8) (header : RtcpHeader) : Prop where
  read : RtcpHeader.read packet = .ok header
  length : packet.length = header.lengthInBytes
  other : ¬(header.payloadType = 206 ∧ header.reportCount = 15 ∧
    (packet.drop 12).take 4 = RtcpRemb.uniqueId)

/-- Reading a header does not depend on what follows the packet. -/
theorem read_append {packet : List UInt8} {header : RtcpHeader}
    (h : RtcpHeader.read packet = .ok header) (tail : List UInt8) :
    RtcpHeader.read (packet ++ tail) = .ok header := by
  match packet, h with
  | first :: payloadType :: high :: low :: rest, h => exact h

section Walk

variable {data packet tail : List UInt8} {offset : ℕ} {header : RtcpHeader}

/-- The header at the start of a sub-packet is reached before those behind it. -/
theorem headers_of_read (hdata : data.drop offset = packet ++ tail)
    (hread : RtcpHeader.read packet = .ok header) (hlength : packet.length = header.lengthInBytes) :
    headers data offset = (offset, header) :: headers data (offset + packet.length) := by
  have hfour : 4 ≤ header.lengthInBytes := by
    rw [RtcpHeader.lengthInBytes]
    omega
  have hinside : RtcpHeader.sizeOf + offset ≤ data.length := by
    have htotal := congrArg List.length hdata
    rw [List.length_drop, List.length_append] at htotal
    rw [RtcpHeader.sizeOf]
    omega
  rw [headers, dif_pos hinside, hdata, read_append hread, hlength]

/-- What follows a packet. -/
theorem drop_length (hdata : data.drop offset = packet ++ tail) :
    data.drop (offset + packet.length) = tail := by
  rw [← List.drop_drop, hdata, List.drop_left]

/-- The bytes inside a packet. -/
theorem take_drop_inside {i n : ℕ} (hdata : data.drop offset = packet ++ tail)
    (hinside : i + n ≤ packet.length) :
    (data.drop (offset + i)).take n = (packet.drop i).take n := by
  rw [← List.drop_drop, hdata, List.drop_append_of_le_length (by omega),
    List.take_append_of_le_length]
  rw [List.length_drop]
  omega

/-- Other sub-packets do not end the loop. -/
theorem hit_of_other (hdata : data.drop offset = packet ++ tail)
    (h : OtherSubPacket packet header) : RembHandler.hit data (offset, header) = false := by
  rw [← Bool.not_eq_true]
  intro hhit
  have hwhole : Whole data (offset, header) := by
    have htotal := congrArg List.length hdata
    have hlength := h.length
    rw [List.length_drop, List.length_append] at htotal
    have hfour : 4 ≤ header.lengthInBytes := by
      rw [RtcpHeader.lengthInBytes]
      omega
    show offset + header.lengthInBytes ≤ data.length
    omega
  obtain ⟨hheader, hid⟩ := (RembHandler.hit_iff data _ hwhole).1 hhit
  simp only [RembHandler.isRembHeader, Bool.and_eq_true, decide_eq_true_eq] at hheader
  obtain ⟨⟨htype, hcount⟩, hsize⟩ := hheader
  refine h.other ⟨htype, hcount, ?_⟩
  have hinside : 12 + 4 ≤ packet.length := by
    rw [h.length, hsize, RtcpRemb.sizeOf]
    decide
  rw [← take_drop_inside hdata hinside]
  exact hid

/-- The loop passes them. -/
theorem find?_of_others {others : List (List UInt8)}
    (hothers : ∀ packet ∈ others, ∃ header, OtherSubPacket packet header)
    (hdata : data.drop offset = others.flatten ++ tail) :
    (headers data offset).find? (RembHandler.hit data) =
      (headers data (offset + others.flatten.length)).find? (RembHandler.hit data) := by
  induction others generalizing offset with
  | nil => rfl
  | cons packet others ih =>
    obtain ⟨⟨header, hother⟩, hothers⟩ := List.forall_mem_cons.1 hothers
    rw [List.flatten_cons, List.append_assoc] at hdata
    rw [headers_of_read hdata hother.read hother.length, List.find?_cons,
      hit_of_other hdata hother, ih hothers (drop_length hdata), List.flatten_cons,
      List.length_append, Nat.add_assoc]

/-- At the end there are no more headers. -/
theorem headers_end : headers data data.length = [] := by
  rw [headers, dif_neg]
  rw [RtcpHeader.sizeOf]
  omega

end Walk

namespace RtcpRemb

/-- A REMB packet for `n` SSRCs. -/
structure Prepared (p : RtcpRemb) (n : ℕ) : Prop where
  header : ∃ length : UInt16, length.toNat = 4 + n ∧ p.header.header = ⟨0x8F, 206, length⟩
  id : p.id = uniqueId
  ssrc : p.ssrc.length = n

variable {p : RtcpRemb} {n : ℕ}

/-- The packet fills the buffer. -/
theorem Prepared.length_toBytes (h : p.Prepared n) : p.toBytes.length = 20 + 4 * n := by
  have hssrc : (p.ssrc.flatMap fun ssrc => BigEndian.encode 4 ssrc.toNat).length = 4 * n := by
    rw [List.length_flatMap]
    simp only [BigEndian.length_encode, List.map_const', h.ssrc, List.sum_replicate_nat]
    exact Nat.mul_comm n 4
  simp only [toBytes, List.length_append, hssrc, BigEndian.length_encode, h.id]
  rfl

theorem read_toBytes (p : RtcpRemb) : RtcpHeader.read p.toBytes = .ok p.header.header := by
  have hlength : p.header.header.length.toNat < 256 ^ 2 := p.header.header.length.toNat_lt
  obtain ⟨high, low, hencode⟩ : ∃ high low,
      BigEndian.encode 2 p.header.header.length.toNat = [high, low] := ⟨_, _, rfl⟩
  have hdecode := BigEndian.decode_encode hlength
  rw [hencode] at hdecode
  simp only [toBytes, hencode, List.cons_append, List.append_assoc, List.nil_append]
  show Except.ok (RtcpHeader.mk _ _ (UInt16.ofNat (BigEndian.decode [high, low]))) = _
  rw [hdecode, UInt16.ofNat_toNat]

/-- The fields behind the two SSRCs of the header. -/
theorem Prepared.drop_toBytes (h : p.Prepared n) :
    ∃ rest, p.toBytes.drop 12 = uniqueId ++ (BigEndian.encode 4 p.bitrate.toNat ++ rest) := by
  refine ⟨p.ssrc.flatMap fun ssrc => BigEndian.encode 4 ssrc.toNat, ?_⟩
  have hfront : ([p.header.header.first, p.header.header.payloadType] ++
      BigEndian.encode 2 p.header.header.length.toNat ++
      BigEndian.encode 4 p.header.packetSender.toNat ++
      BigEndian.encode 4 p.header.mediaSource.toNat).length = 12 := by
    simp only [List.length_append, BigEndian.length_encode]
    rfl
  rw [toBytes, List.append_assoc, List.append_assoc, ← hfront, List.drop_left, h.id]

/-- What the loop does at the packet. -/
theorem Prepared.visit (h : p.Prepared n) {data tail : List UInt8} {offset : ℕ}
    (hdata : data.drop offset = p.toBytes ++ tail) :
    RembHandler.hit data (offset, p.header.header) = decide (n = 1) ∧
      (n = 1 → RembHandler.visitHeader (data.drop offset) p.header.header =
        .ok (some (getBitrate p.bitrate))) := by
  obtain ⟨length, hlength, hheader⟩ := h.header
  obtain ⟨rest, hdrop⟩ := h.drop_toBytes
  have hbytes := h.length_toBytes
  have hid : (data.drop (offset + 12)).take 4 = uniqueId := by
    rw [take_drop_inside hdata (by omega), hdrop]
    exact List.take_left' rfl
  -- the handler takes no header but that of six words, which is one SSRC
  have hremb : RembHandler.isRembHeader p.header.header = decide (n = 1) := by
    rw [hheader, RembHandler.isRembHeader, RtcpHeader.lengthInBytes, RtcpHeader.reportCount,
      hlength, sizeOf]
    have hcount : ((0x8F : UInt8) &&& 0x1F).toNat = 15 := by decide
    simp only [hcount, decide_true, Bool.true_and, decide_eq_decide]
    omega
  constructor
  · show RembHandler.mayBeRemb data (offset, p.header.header) = _
    rw [RembHandler.mayBeRemb, hremb, hid]
    simp
  · intro hn
    rw [decide_eq_true hn] at hremb
    have hvisit := RembHandler.visitHeader_eq data (offset, p.header.header) hremb
    rw [if_pos hid, readSsrc] at hvisit
    rw [hvisit]
    have hinside : 16 + 4 ≤ (data.drop offset).length := by
      rw [hdata, List.length_append]
      omega
    have hword : ((data.drop offset).drop 16).take 4 = BigEndian.encode 4 p.bitrate.toNat := by
      rw [List.drop_drop, take_drop_inside hdata (by omega)]
      show (p.toBytes.drop (12 + 4)).take 4 = _
      rw [← List.drop_drop, hdrop, List.drop_left' (by rfl)]
      exact List.take_left' (BigEndian.length_encode 4 _)
    rw [if_pos hinside, hword, BigEndian.decode_encode p.bitrate.toNat_lt, UInt32.ofNat_toNat]
    rfl

/-- What the handler reports for a control message that has the packet as its only REMB packet. -/
theorem Prepared.incoming (h : p.Prepared n) {front rest : List (List UInt8)}
    (hfront : ∀ packet ∈ front, ∃ header, OtherSubPacket packet header)
    (hrest : ∀ packet ∈ rest, ∃ header, OtherSubPacket packet header) {message : Message}
    (hdata : message.data = front.flatten ++ p.toBytes ++ rest.flatten) :
    RembHandler.incoming [message] =
      .ok [if n = 1 then [getBitrate p.bitrate] else []] := by
  obtain ⟨length, hlength, hheader⟩ := h.header
  have hbytes := h.length_toBytes
  have hpacket : message.data.drop (0 + front.flatten.length) = p.toBytes ++ rest.flatten := by
    rw [hdata, List.append_assoc, Nat.zero_add, List.drop_left]
  have hlengthInBytes : p.toBytes.length = p.header.header.lengthInBytes := by
    rw [hbytes, RtcpHeader.lengthInBytes, hheader, hlength]
    omega
  obtain ⟨hhit, hvisit⟩ := h.visit hpacket
  -- the sub-packets in front are passed, and those behind the packet if it is passed
  have hfind : (headers message.data 0).find? (RembHandler.hit message.data) =
      if n = 1 then some (0 + front.flatten.length, p.header.header) else none := by
    have hrest' : (headers message.data
        (0 + front.flatten.length + p.toBytes.length)).find? (RembHandler.hit message.data) =
          none := by
      have hbehind : message.data.drop (0 + front.flatten.length + p.toBytes.length) =
          rest.flatten ++ [] := by rw [drop_length hpacket, List.append_nil]
      rw [find?_of_others hrest hbehind]
      have hend : 0 + front.flatten.length + p.toBytes.length + rest.flatten.length =
          message.data.length := by
        rw [hdata, List.length_append, List.length_append, Nat.zero_add]
      rw [hend, headers_end]
      rfl
    have hstart : message.data.drop 0 = front.flatten ++ (p.toBytes ++ rest.flatten) := by
      rw [List.drop_zero, hdata, List.append_assoc]
    rw [find?_of_others hfront hstart,
      headers_of_read hpacket (read_toBytes p) hlengthInBytes, List.find?_cons, hhit, hrest']
    by_cases hn : n = 1 <;> simp [hn]
  have hfuel : message.data.length - 0 < message.data.length + 1 := by omega
  have hloop := RembHandler.incomingLoop_eq hfuel
  rw [hfind] at hloop
  rw [FeedbackHandler.incoming_cons, FeedbackHandler.called, hloop]
  by_cases hn : n = 1
  · have hcalled : RembHandler.visit (message.data.drop (0 + front.flatten.length))
        p.header.header = .ok (some (getBitrate p.bitrate)) := hvisit hn
    simp only [if_pos hn, hcalled]
    rfl
  · simp only [if_neg hn]
    rfl

/-! ## Exactness -/

/-- A packet for `n` SSRCs and the bitrate `b` is what it should be: the number of SSRCs, the length
and the bitrate with its low bits cleared, which the handler reports once for a message. -/
def Exact (p : RtcpRemb) (n b : UInt32) (message : Message) : Prop :=
  p.getNumSsrc = n ∧ p.header.header.length.toNat = sizeWithSsrcs n.toNat / 4 - 1 ∧
    ∃ k, IsExponent b.toNat k ∧ (getBitrate p.bitrate).toNat = b.toNat / 2 ^ k * 2 ^ k ∧
      ∃ reported, RembHandler.incoming [message] = .ok [[reported]] ∧
        reported.toNat = b.toNat / 2 ^ k * 2 ^ k

/-- The exponents for which the square is the power of two. -/
theorem exponent_iff {b k : ℕ} (hk : IsExponent b k) :
    b / 2 ^ k = 0 ∨ k = 2 ∨ k = 4 ↔
      b = 0 ∨ (2 ^ 19 ≤ b ∧ b < 2 ^ 20) ∨ (2 ^ 21 ≤ b ∧ b < 2 ^ 22) := by
  have htwo : k = 2 ↔ 2 ^ 19 ≤ b ∧ b < 2 ^ 20 := by
    have hiff : IsExponent b 2 ↔ 2 ^ 19 ≤ b ∧ b < 2 ^ 20 := by
      rw [isExponent_succ_iff, isExponent_succ_iff, isExponent_zero_iff]
      omega
    rw [← hiff]
    exact ⟨fun h => h ▸ hk, hk.unique⟩
  have hfour : k = 4 ↔ 2 ^ 21 ≤ b ∧ b < 2 ^ 22 := by
    have hiff : IsExponent b 4 ↔ 2 ^ 21 ≤ b ∧ b < 2 ^ 22 := by
      rw [isExponent_succ_iff, isExponent_succ_iff, isExponent_succ_iff, isExponent_succ_iff,
        isExponent_zero_iff]
      omega
    rw [← hiff]
    exact ⟨fun h => h ▸ hk, hk.unique⟩
  have hzero : b / 2 ^ k = 0 ↔ b = 0 := by
    refine ⟨fun h => ?_, fun h => by rw [h, Nat.zero_div]⟩
    by_contra hne
    -- one division less would do
    have hlt := (Nat.div_eq_zero_iff_lt (Nat.two_pow_pos k)).1 h
    cases k with
    | zero =>
      rw [pow_zero] at hlt
      omega
    | succ j =>
      have hmem : b / 2 ^ j < 2 ^ 18 := by
        rw [pow_succ] at hlt
        have hle : b / 2 ^ j < 2 := (Nat.div_lt_iff_lt_mul (Nat.two_pow_pos j)).2 (by omega)
        omega
      have := hk.2 hmem
      omega
  rw [htwo, hfour, hzero]

/-- **REMB packets.** The prepared packet and what the handler reports for a control message with it
are right for one SSRC and a bitrate that is 0 or divided two or four times, and only then. -/
theorem remb_exact_iff (p : RtcpRemb) (senderSsrc : UInt32) (front rest : List (List UInt8))
    {n b : UInt32} (hone : 1 ≤ n) (hmax : n ≤ 255) (hssrc : p.ssrc.length = n.toNat)
    (hfront : ∀ packet ∈ front, ∃ header, OtherSubPacket packet header)
    (hrest : ∀ packet ∈ rest, ∃ header, OtherSubPacket packet header) {message : Message}
    (hdata : message.data =
      front.flatten ++ (p.preparePacket senderSsrc n b).toBytes ++ rest.flatten) :
    Exact (p.preparePacket senderSsrc n b) n b message ↔
      n = 1 ∧ (b = 0 ∨ (2 ^ 19 ≤ b.toNat ∧ b.toNat < 2 ^ 20) ∨
        (2 ^ 21 ≤ b.toNat ∧ b.toNat < 2 ^ 22)) := by
  have hn : n.toNat ≤ 255 := UInt32.le_iff_toNat_le.1 hmax
  have hpos : 1 ≤ n.toNat := UInt32.le_iff_toNat_le.1 hone
  obtain ⟨k, hk, hle, hlt, hword⟩ := p.preparePacket_spec senderSsrc b hn
  have hprepared : (p.preparePacket senderSsrc n b).Prepared n.toNat :=
    ⟨p.header_preparePacket senderSsrc b hn, rfl, hssrc⟩
  obtain ⟨length, hlength, hheader⟩ := hprepared.header
  have hincoming := hprepared.incoming hfront hrest hdata
  have hbitrate := getBitrate_eq hword hle hlt
  have hzero : b.toNat = 0 ↔ b = 0 := UInt32.toNat_inj (b := 0)
  have hn1 : n.toNat = 1 ↔ n = 1 := UInt32.toNat_inj (b := 1)
  simp only [hn1] at hincoming
  constructor
  · rintro ⟨-, -, j, hj, hget, reported, hreported, -⟩
    obtain rfl := hk.unique hj
    rw [hbitrate, mul_square_eq_iff hle, exponent_iff hk, hzero] at hget
    refine ⟨?_, hget⟩
    -- nothing is reported for more than one SSRC
    by_contra hne
    rw [hincoming, if_neg hne] at hreported
    cases hreported
  · rintro ⟨rfl, hgood⟩
    rw [← hzero, ← exponent_iff hk, ← mul_square_eq_iff hle] at hgood
    refine ⟨?_, ?_, k, hk, hbitrate.trans hgood, _, by rw [hincoming, if_pos rfl],
      hbitrate.trans hgood⟩
    · rw [← UInt32.toNat_inj]
      exact getNumSsrc_eq hword (by omega) hlt
    · rw [hheader, hlength]
      rfl

/-- A packet with one SSRC, before it is prepared. -/
def blank : RtcpRemb := ⟨⟨⟨0, 0, 0⟩, 0, 0⟩, [0, 0, 0, 0], 0, [1]⟩

/-- A bitrate that is divided twice, in a message of its own. -/
theorem remb_exact_of_524288 :
    Exact (blank.preparePacket 1 1 524288) 1 524288
      ⟨(blank.preparePacket 1 1 524288).toBytes, .control, 0, none⟩ :=
  (remb_exact_iff blank 1 [] [] (by decide) (by decide) rfl (List.forall_mem_nil _)
    (List.forall_mem_nil _) (by simp)).2 ⟨rfl, Or.inr (Or.inl ⟨by decide, by decide⟩)⟩

/-- A bitrate of 18 bits is multiplied by zero. -/
theorem not_exact_of_100000 :
    getBitrate (blank.preparePacket 1 1 100000).bitrate = 0 ∧
      ¬Exact (blank.preparePacket 1 1 100000) 1 100000
        ⟨(blank.preparePacket 1 1 100000).toBytes, .control, 0, none⟩ := by
  have hone : (1 : UInt32).toNat ≤ 255 := by decide
  obtain ⟨k, hk, hle, hlt, hword⟩ := blank.preparePacket_spec 1 100000 hone
  obtain rfl : k = 0 := hk.unique (isExponent_zero_iff.2 (by decide))
  have hbitrate := getBitrate_eq hword hle hlt
  rw [zero_pow (by decide), Nat.mul_zero] at hbitrate
  refine ⟨UInt32.toNat_inj.1 hbitrate, ?_⟩
  rintro ⟨-, -, j, hj, hget, -⟩
  obtain rfl := hk.unique hj
  rw [hbitrate] at hget
  exact absurd hget (by decide)

end RtcpRemb

end Rtc
