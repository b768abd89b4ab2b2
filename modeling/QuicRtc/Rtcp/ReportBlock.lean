import Mathlib.Tactic.IntervalCases
import QuicRtc.Lib.BigEndian

/-!
# Report blocks

`RtcpReportBlock` keeps its fields in network order, and every setter and getter converts. On a
little-endian host the conversion swaps the bytes of a word.

The main result `setting_kept_iff` says that every setter is recovered by its getters and leaves
those of the other fields, but for `setNTPOfSR`: `getNTPOfSR` shifts the 32 bits that have been
stored by 16 more.
-/

namespace Rtc

/-! ## Byte order -/

/-- `htonl` and `ntohl` on a little-endian host. -/
def htonl (x : UInt32) : UInt32 := UInt32.ofNat (BigEndian.swap 4 x.toNat)

/-- `htons` and `ntohs` on a little-endian host. -/
def htons (x : UInt16) : UInt16 := UInt16.ofNat (BigEndian.swap 2 x.toNat)

theorem toNat_htonl (x : UInt32) : (htonl x).toNat = BigEndian.swap 4 x.toNat :=
  UInt32.toNat_ofNat_of_lt' (BigEndian.swap_lt 4 x.toNat)

@[simp]
theorem htonl_htonl (x : UInt32) : htonl (htonl x) = x := by
  rw [← UInt32.toNat_inj, toNat_htonl, toNat_htonl, BigEndian.swap_swap x.toNat_lt]

@[simp]
theorem htons_htons (x : UInt16) : htons (htons x) = x := by
  have hword : (htons x).toNat = BigEndian.swap 2 x.toNat :=
    UInt16.toNat_ofNat_of_lt' (BigEndian.swap_lt 2 x.toNat)
  rw [htons, hword, BigEndian.swap_swap x.toNat_lt, UInt16.ofNat_toNat]

/-! ## The block -/

/-- `RtcpReportBlock`, with the words as they are in memory. -/
structure RtcpReportBlock where
  ssrcWord : UInt32
  fractionLostAndPacketsLost : UInt32
  seqNoCyclesWord : UInt16
  highestSeqNoWord : UInt16
  jitterWord : UInt32
  lastReport : UInt32
  delaySinceLastReport : UInt32
  deriving DecidableEq, Repr

namespace RtcpReportBlock

variable (b : RtcpReportBlock)

/-- `RtcpReportBlock::getSSRC`. -/
def getSsrc : UInt32 := htonl b.ssrcWord

/-- `RtcpReportBlock::setSSRC`. -/
def setSsrc (ssrc : UInt32) : RtcpReportBlock := { b with ssrcWord := htonl ssrc }

/-- `RtcpReportBlock::setPacketsLost`. -/
def setPacketsLost (fractionLost : UInt8) (packetsLostCount : UInt32) : RtcpReportBlock :=
  { b with
    fractionLostAndPacketsLost :=
      htonl ((fractionLost.toUInt32 <<< 24) ||| (packetsLostCount &&& 0xFFFFFF)) }

/-- `RtcpReportBlock::getFractionLost`. The first byte is taken without a conversion. -/
def getFractionLost : UInt8 := (b.fractionLostAndPacketsLost &&& 0xFF).toUInt8

/-- `RtcpReportBlock::getPacketsLostCount`. The first byte is cleared before the conversion. -/
def getPacketsLostCount : UInt32 := htonl (b.fractionLostAndPacketsLost &&& 0xFFFFFF00)

/-- `RtcpReportBlock::seqNoCycles`. -/
def seqNoCycles : UInt16 := htons b.seqNoCyclesWord

/-- `RtcpReportBlock::highestSeqNo`. -/
def highestSeqNo : UInt16 := htons b.highestSeqNoWord

/-- `RtcpReportBlock::extendedHighestSeqNo`. -/
def extendedHighestSeqNo : UInt32 :=
  (b.seqNoCycles.toUInt32 <<< 16) ||| b.highestSeqNo.toUInt32

/-- `RtcpReportBlock::jitter`. -/
def jitter : UInt32 := htonl b.jitterWord

/-- `RtcpReportBlock::delaySinceSR`. -/
def delaySinceSr : UInt32 := htonl b.delaySinceLastReport

/-- `RtcpReportBlock::setSeqNo`. -/
def setSeqNo (highestSeqNo seqNoCycles : UInt16) : RtcpReportBlock :=
  { b with highestSeqNoWord := htons highestSeqNo, seqNoCyclesWord := htons seqNoCycles }

/-- `RtcpReportBlock::setJitter`. -/
def setJitter (jitter : UInt32) : RtcpReportBlock := { b with jitterWord := htonl jitter }

/-- `RtcpReportBlock::setNTPOfSR`. -/
def setNtpOfSr (ntp : UInt64) : RtcpReportBlock :=
  { b with lastReport := htonl (ntp >>> 16).toUInt32 }

/-- `RtcpReportBlock::getNTPOfSR`. -/
def getNtpOfSr : UInt32 := htonl b.lastReport <<< 16

/-- `RtcpReportBlock::setDelaySinceSR`. -/
def setDelaySinceSr (sr : UInt32) : RtcpReportBlock :=
  { b with delaySinceLastReport := htonl sr }

/-! ## What the getters read -/

/-- The fields, each with its getters. -/
inductive Field where
  | ssrc
  | packetsLost
  | seqNo
  | jitter
  | ntpOfSr
  | delaySinceSr
  deriving DecidableEq, Repr

/-- What the getters of a field read. -/
def values : Field → List ℕ
  | .ssrc => [b.getSsrc.toNat]
  | .packetsLost => [b.getFractionLost.toNat, b.getPacketsLostCount.toNat]
  | .seqNo => [b.highestSeqNo.toNat, b.seqNoCycles.toNat, b.extendedHighestSeqNo.toNat]
  | .jitter => [b.jitter.toNat]
  | .ntpOfSr => [b.getNtpOfSr.toNat]
  | .delaySinceSr => [b.delaySinceSr.toNat]

/-- A call of a setter. -/
inductive Setting where
  | ssrc (ssrc : UInt32)
  | packetsLost (fractionLost : UInt8) (packetsLostCount : UInt32)
  | seqNo (highestSeqNo seqNoCycles : UInt16)
  | jitter (jitter : UInt32)
  | ntpOfSr (ntp : UInt64)
  | delaySinceSr (sr : UInt32)

namespace Setting

/-- The field that is set. -/
def field : Setting → Field
  | .ssrc _ => .ssrc
  | .packetsLost _ _ => .packetsLost
  | .seqNo _ _ => .seqNo
  | .jitter _ => .jitter
  | .ntpOfSr _ => .ntpOfSr
  | .delaySinceSr _ => .delaySinceSr

/-- The block behind the call. -/
def apply (b : RtcpReportBlock) : Setting → RtcpReportBlock
  | .ssrc value => b.setSsrc value
  | .packetsLost fractionLost packetsLostCount => b.setPacketsLost fractionLost packetsLostCount
  | .seqNo highestSeqNo seqNoCycles => b.setSeqNo highestSeqNo seqNoCycles
  | .jitter value => b.setJitter value
  | .ntpOfSr ntp => b.setNtpOfSr ntp
  | .delaySinceSr sr => b.setDelaySinceSr sr

/-- What the getters of the field should read: the arguments, the extended sequence number, and the
middle 32 bits of the time. -/
def expected : Setting → List ℕ
  | .ssrc value => [value.toNat]
  | .packetsLost fractionLost packetsLostCount => [fractionLost.toNat, packetsLostCount.toNat]
  | .seqNo highestSeqNo seqNoCycles =>
    [highestSeqNo.toNat, seqNoCycles.toNat, seqNoCycles.toNat * 2 ^ 16 + highestSeqNo.toNat]
  | .jitter value => [value.toNat]
  | .ntpOfSr ntp => [ntp.toNat / 2 ^ 16 % 2 ^ 32]
  | .delaySinceSr sr => [sr.toNat]

/-- A count of lost packets is below 2²⁴. -/
def Valid : Setting → Prop
  | .packetsLost _ packetsLostCount => packetsLostCount.toNat < 2 ^ 24
  | _ => True

/-- A time has no bit set among the middle ones. -/
def MiddleZero : Setting → Prop
  | .ntpOfSr ntp => ntp.toNat / 2 ^ 16 % 2 ^ 32 = 0
  | _ => True

end Setting

/-- The call is recovered by the getters of its field, and changes what no other getter reads. -/
def Kept (s : Setting) : Prop :=
  (s.apply b).values s.field = s.expected ∧
    ∀ field, field ≠ s.field → (s.apply b).values field = b.values field

/-- No setter touches the word of another field. -/
theorem values_of_ne (s : Setting) {field : Field} (h : field ≠ s.field) :
    (s.apply b).values field = b.values field := by
  cases s <;> cases field <;> first
    | exact absurd rfl h
    | simp only [Setting.apply, setSsrc, setPacketsLost, setSeqNo, setJitter, setNtpOfSr,
        setDelaySinceSr, values, getSsrc, getFractionLost, getPacketsLostCount, seqNoCycles,
        highestSeqNo, extendedHighestSeqNo, jitter, getNtpOfSr, delaySinceSr]

/-! ## Shared words -/

theorem mul_add_div {a b : ℕ} (h : b < 256) : (a * 256 + b) / 256 = a := by
  omega

/-- The four bytes in the opposite order. -/
theorem swap_bytes {n₀ n₁ n₂ n₃ : ℕ} (h₀ : n₀ < 256) (h₁ : n₁ < 256) (h₂ : n₂ < 256)
    (h₃ : n₃ < 256) : BigEndian.swap 4 (((n₀ * 256 + n₁) * 256 + n₂) * 256 + n₃) =
      ((n₃ * 256 + n₂) * 256 + n₁) * 256 + n₀ := by
  have hbyte : ∀ n : ℕ, (UInt8.ofNat n).toNat = n % 256 := fun n => UInt8.toNat_ofNat'
  have hdigits : ∀ n, BigEndian.swap 4 n = ((n % 256 * 256 + n / 256 % 256) * 256 +
      n / 256 / 256 % 256) * 256 + n / 256 / 256 / 256 % 256 := by
    intro n
    show BigEndian.decode [UInt8.ofNat n, UInt8.ofNat (n / 256), UInt8.ofNat (n / 256 / 256),
      UInt8.ofNat (n / 256 / 256 / 256)] = _
    simp only [BigEndian.decode, List.foldl_cons, List.foldl_nil, hbyte, Nat.zero_mul,
      Nat.zero_add]
  rw [hdigits, mul_add_div h₃, mul_add_div h₂, mul_add_div h₁, Nat.mul_add_mod_of_lt h₃,
    Nat.mul_add_mod_of_lt h₂, Nat.mul_add_mod_of_lt h₁, Nat.mod_eq_of_lt h₀]

/-- The first byte of a swapped word is the last one, and without it the other three are left. -/
theorem swap_word {f n : ℕ} (hf : f < 256) (hn : n < 2 ^ 24) :
    BigEndian.swap 4 (f * 2 ^ 24 + n) % 256 = f ∧
      BigEndian.swap 4 (BigEndian.swap 4 (f * 2 ^ 24 + n) / 256 * 256) = n := by
  obtain ⟨n₁, n₂, n₃, h₁, h₂, h₃, rfl⟩ : ∃ n₁ n₂ n₃, n₁ < 256 ∧ n₂ < 256 ∧ n₃ < 256 ∧
      n = (n₁ * 256 + n₂) * 256 + n₃ :=
    ⟨n / 65536, n / 256 % 256, n % 256, by omega, by omega, by omega, by omega⟩
  have hword : f * 2 ^ 24 + ((n₁ * 256 + n₂) * 256 + n₃) =
      ((f * 256 + n₁) * 256 + n₂) * 256 + n₃ := by ring
  have hcleared : ∀ a, (a * 256 + f) / 256 * 256 = a * 256 + 0 := by
    intro a
    rw [mul_add_div hf, Nat.add_zero]
  rw [hword, swap_bytes hf h₁ h₂ h₃, hcleared, swap_bytes h₃ h₂ h₁ (by decide : 0 < 256),
    Nat.zero_mul, Nat.zero_add]
  exact ⟨Nat.mul_add_mod_of_lt hf, rfl⟩

/-- The mask clears the low byte. -/
theorem toNat_clear (w : UInt32) : (w &&& 0xFFFFFF00).toNat = w.toNat / 256 * 256 := by
  have hlt := w.toNat_lt
  have hmask : (0xFFFFFF00 : UInt32).toNat = (2 ^ 24 - 1) <<< 8 := by decide
  have hhigh : w.toNat / 256 < 2 ^ 24 := by omega
  have hsplit : w.toNat = (w.toNat / 256) <<< 8 ||| w.toNat % 256 := by
    rw [← Nat.shiftLeft_add_eq_or_of_lt (Nat.mod_lt w.toNat (by decide : 0 < 2 ^ 8)),
      Nat.shiftLeft_eq]
    omega
  have hlow : w.toNat % 256 &&& (2 ^ 24 - 1) <<< 8 = 0 := by
    refine Nat.eq_of_testBit_eq fun i => ?_
    rw [Nat.testBit_and, Nat.testBit_shiftLeft, Nat.zero_testBit]
    by_cases hi : 8 ≤ i
    · have hbyte : w.toNat % 256 < 2 ^ 8 := Nat.mod_lt w.toNat (by decide)
      have hlt : w.toNat % 256 < 2 ^ i :=
        lt_of_lt_of_le hbyte (Nat.pow_le_pow_right (by decide : 0 < 2) hi)
      rw [Nat.testBit_lt_two_pow hlt, Bool.false_and]
    · simp [hi]
  rw [UInt32.toNat_and, hmask]
  conv_lhs => rw [hsplit]
  rw [Nat.and_or_distrib_right, hlow, Nat.or_zero, ← Nat.shiftLeft_and_distrib,
    Nat.and_two_pow_sub_one_eq_mod, Nat.mod_eq_of_lt hhigh, Nat.shiftLeft_eq]

section PacketsLost

variable (fractionLost : UInt8) {packetsLostCount : UInt32}

/-- The word before it is converted. -/
theorem toNat_packetsLost (h : packetsLostCount.toNat < 2 ^ 24) :
    ((fractionLost.toUInt32 <<< 24) ||| (packetsLostCount &&& 0xFFFFFF)).toNat =
      fractionLost.toNat * 2 ^ 24 + packetsLostCount.toNat := by
  have hfraction := fractionLost.toNat_lt
  have hshift : (fractionLost.toUInt32 <<< 24).toNat = fractionLost.toNat <<< 24 := by
    rw [UInt32.toNat_shiftLeft]
    show fractionLost.toNat <<< 24 % 2 ^ 32 = _
    rw [Nat.shiftLeft_eq]
    omega
  have hcount : (packetsLostCount &&& 0xFFFFFF).toNat = packetsLostCount.toNat := by
    rw [UInt32.toNat_and]
    show packetsLostCount.toNat &&& (2 ^ 24 - 1) = _
    rw [Nat.and_two_pow_sub_one_eq_mod, Nat.mod_eq_of_lt h]
  rw [UInt32.toNat_or, hshift, hcount, ← Nat.shiftLeft_add_eq_or_of_lt h, Nat.shiftLeft_eq]

/-- The fraction is the first byte in memory, and the count is in the other three. -/
theorem values_setPacketsLost (h : packetsLostCount.toNat < 2 ^ 24) :
    (b.setPacketsLost fractionLost packetsLostCount).getFractionLost.toNat = fractionLost.toNat ∧
      (b.setPacketsLost fractionLost packetsLostCount).getPacketsLostCount.toNat =
        packetsLostCount.toNat := by
  have hfraction := fractionLost.toNat_lt
  have hword := toNat_packetsLost fractionLost h
  obtain ⟨hfirst, hrest⟩ := swap_word hfraction h
  rw [setPacketsLost, getFractionLost, getPacketsLostCount]
  dsimp only
  generalize (fractionLost.toUInt32 <<< 24) ||| (packetsLostCount &&& 0xFFFFFF) = w at hword
  rw [← hword] at hfirst hrest
  constructor
  · rw [UInt32.toNat_toUInt8, UInt32.toNat_and, toNat_htonl]
    show (BigEndian.swap 4 w.toNat &&& (2 ^ 8 - 1)) % 2 ^ 8 = _
    rw [Nat.and_two_pow_sub_one_eq_mod, Nat.mod_mod]
    exact hfirst
  · rw [toNat_htonl, toNat_clear, toNat_htonl, hrest]

end PacketsLost

/-! ## Every setter -/

/-- The two halves of the extended sequence number. -/
theorem toNat_extended (highestSeqNo seqNoCycles : UInt16) :
    ((seqNoCycles.toUInt32 <<< 16) ||| highestSeqNo.toUInt32).toNat =
      seqNoCycles.toNat * 2 ^ 16 + highestSeqNo.toNat := by
  have hcycles := seqNoCycles.toNat_lt
  have hshift : (seqNoCycles.toUInt32 <<< 16).toNat = seqNoCycles.toNat <<< 16 := by
    rw [UInt32.toNat_shiftLeft]
    show seqNoCycles.toNat <<< 16 % 2 ^ 32 = _
    rw [Nat.shiftLeft_eq]
    omega
  rw [UInt32.toNat_or, hshift]
  show seqNoCycles.toNat <<< 16 ||| highestSeqNo.toNat = _
  rw [← Nat.shiftLeft_add_eq_or_of_lt highestSeqNo.toNat_lt, Nat.shiftLeft_eq]

/-- The middle bits that are stored are shifted out by half when they are read. -/
theorem toNat_getNtpOfSr (ntp : UInt64) :
    (b.setNtpOfSr ntp).getNtpOfSr.toNat =
      ntp.toNat / 2 ^ 16 % 2 ^ 32 * 2 ^ 16 % 2 ^ 32 := by
  have hmiddle : (ntp >>> 16).toUInt32.toNat = ntp.toNat / 2 ^ 16 % 2 ^ 32 := by
    rw [UInt64.toNat_toUInt32, UInt64.toNat_shiftRight]
    show ntp.toNat >>> 16 % 2 ^ 32 = _
    rw [Nat.shiftRight_eq_div_pow]
  rw [setNtpOfSr, getNtpOfSr, htonl_htonl, UInt32.toNat_shiftLeft, hmiddle]
  show (ntp.toNat / 2 ^ 16 % 2 ^ 32) <<< 16 % 2 ^ 32 = _
  rw [Nat.shiftLeft_eq]

/-- That gives them back only if none is set. -/
theorem shifted_eq_iff {m : ℕ} : m * 2 ^ 16 % 2 ^ 32 = m ↔ m = 0 := by
  -- what is left of the shift is the low half, moved to the high one
  have hshift : m * 2 ^ 16 % 2 ^ 32 = m % 2 ^ 16 * 2 ^ 16 := by
    rw [show 2 ^ 32 = 2 ^ 16 * 2 ^ 16 from rfl, Nat.mul_mod_mul_right]
  rw [hshift]
  constructor
  · intro heq
    have hlow : m % 2 ^ 16 = 0 := by
      rw [← heq, Nat.mul_mod_left]
    rw [hlow, Nat.zero_mul] at heq
    exact heq.symm
  · rintro rfl
    rfl

/-- **Report blocks.** A setter is recovered by its getters and changes no other field, except for
a time with a bit set among the middle 32. -/
theorem setting_kept_iff (s : Setting) (h : s.Valid) : b.Kept s ↔ s.MiddleZero := by
  have hframe : ∀ field, field ≠ s.field → (s.apply b).values field = b.values field :=
    fun field hne => b.values_of_ne s hne
  rw [Kept, and_iff_left hframe]
  cases s with
  | ssrc value =>
    refine iff_of_true ?_ trivial
    show [(htonl (htonl value)).toNat] = [value.toNat]
    rw [htonl_htonl]
  | packetsLost fractionLost packetsLostCount =>
    refine iff_of_true ?_ trivial
    obtain ⟨hfraction, hcount⟩ := b.values_setPacketsLost fractionLost h
    show [(b.setPacketsLost fractionLost packetsLostCount).getFractionLost.toNat,
      (b.setPacketsLost fractionLost packetsLostCount).getPacketsLostCount.toNat] = _
    rw [hfraction, hcount]
    rfl
  | seqNo highest cycles =>
    refine iff_of_true ?_ trivial
    show [(htons (htons highest)).toNat, (htons (htons cycles)).toNat,
      (((htons (htons cycles)).toUInt32 <<< 16) ||| (htons (htons highest)).toUInt32).toNat] = _
    rw [htons_htons, htons_htons, toNat_extended]
    rfl
  | jitter value =>
    refine iff_of_true ?_ trivial
    show [(htonl (htonl value)).toNat] = [value.toNat]
    rw [htonl_htonl]
  | ntpOfSr ntp =>
    show [(b.setNtpOfSr ntp).getNtpOfSr.toNat] = [ntp.toNat / 2 ^ 16 % 2 ^ 32] ↔
      ntp.toNat / 2 ^ 16 % 2 ^ 32 = 0
    rw [List.singleton_inj, toNat_getNtpOfSr]
    exact shifted_eq_iff
  | delaySinceSr value =>
    refine iff_of_true ?_ trivial
    show [(htonl (htonl value)).toNat] = [value.toNat]
    rw [htonl_htonl]

/-- A block of zeros. -/
def zero : RtcpReportBlock := ⟨0, 0, 0, 0, 0, 0, 0⟩

/-- Lost packets in three bytes. -/
theorem setting_kept_packetsLost :
    zero.Kept (.packetsLost 0x80 0x123456) ↔ (Setting.packetsLost 0x80 0x123456).MiddleZero :=
  zero.setting_kept_iff (.packetsLost 0x80 0x123456)
    (by decide : (0x123456 : UInt32).toNat < 2 ^ 24)

/-- One second is stored as 2¹⁶ and read as 0. -/
theorem ntpOfSr_not_recovered :
    ¬∀ (b : RtcpReportBlock) (s : Setting), s.Valid → b.Kept s := by
  intro hall
  obtain ⟨hvalues, -⟩ := hall zero (.ntpOfSr 0x100000000) trivial
  have hread : (zero.setNtpOfSr 0x100000000).getNtpOfSr.toNat = 0 := by
    rw [toNat_getNtpOfSr]
    decide
  have hmiddle : (zero.setNtpOfSr 0x100000000).getNtpOfSr.toNat = 0x10000 :=
    List.singleton_inj.1 hvalues
  rw [hread] at hmiddle
  exact absurd hmiddle (by decide)

end RtcpReportBlock

end Rtc
