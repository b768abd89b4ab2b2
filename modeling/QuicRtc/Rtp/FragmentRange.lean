import QuicRtc.Rtp.H264
import QuicRtc.Rtp.H265

/-!
# The range of `fragmentsFrom`

`fragmentsFrom` makes the fragments of a unit even before it takes the overhead off, in 16 bits. For
the smallest sizes that are larger than the overhead, an even fragment can be all overhead: the loop
then adds a start fragment without payload in every round and does not end.

The divisions of the source are those of doubles, which round to what is computed here for units of
less than 2^53 bytes.

* `InRange`: `fragmentsFrom` returns fragments that are neither empty nor too long, and reads inside
  of the unit.
* `inRange_iff`: which pairs of a unit's length and a maximum size are the exceptions.
-/

namespace Rtc

/-- The rounds of the loop of `fragmentsFrom`, at most `fuel` of them: the offset, and how many
bytes the fragment takes from there. -/
def fragmentRounds (payload : List UInt8) : ℕ → UInt16 → ℕ → List (ℕ × UInt16)
  | 0, _, _ => []
  | fuel + 1, maxFragmentSize, offset =>
    if offset < payload.length then
      let size :=
        if offset = 0 then maxFragmentSize
        else if offset + maxFragmentSize.toNat < payload.length then maxFragmentSize
        else if payload.length < offset + maxFragmentSize.toNat then
          UInt16.ofNat (payload.length - offset)
        else maxFragmentSize
      (offset, size) :: fragmentRounds payload fuel size (offset + size.toNat)
    else []

namespace FragmentFormat

/-- What a caller of `fragmentsFrom` relies on. -/
structure InRange (format : FragmentFormat) (nalu : List UInt8) (maxFragmentSize : UInt16) :
    Prop where
  /-- The loop ends. -/
  terminates : ∃ fuel, (fragmentLoop (nalu.drop format.headerSize) fuel
    (format.fragmentSize nalu maxFragmentSize) 0).isSome
  /-- The subtraction of the overhead does not underflow. -/
  noUnderflow : format.overhead.toNat ≤
    nalu.length ⌈/⌉ (nalu.length ⌈/⌉ maxFragmentSize.toNat)
  /-- Every fragment carries a byte, and none is too long. -/
  fragments : ∃ fragments, format.fragmentsFrom nalu maxFragmentSize = some fragments ∧
    ∀ fragment ∈ fragments,
      format.overhead.toNat < fragment.length ∧ fragment.length ≤ maxFragmentSize.toNat
  /-- No iterator passes the end of the unit. -/
  inside : ∀ fuel, ∀ round ∈ fragmentRounds (nalu.drop format.headerSize) fuel
    (format.fragmentSize nalu maxFragmentSize) 0,
      round.1 + round.2.toNat ≤ (nalu.drop format.headerSize).length

end FragmentFormat

/-- A fragment reads inside of the payload if the first one does. -/
theorem fragmentRounds_inside {payload : List UInt8} :
    ∀ {fuel offset : ℕ} {size : UInt16}, (offset = 0 → size.toNat ≤ payload.length) →
      ∀ round ∈ fragmentRounds payload fuel size offset,
        round.1 + round.2.toNat ≤ payload.length := by
  intro fuel
  induction fuel with
  | zero =>
    intro offset size _ round hround
    exact absurd hround List.not_mem_nil
  | succ fuel ih =>
    intro offset size hfirst round hround
    rw [fragmentRounds] at hround
    split at hround
    · next hlt =>
      dsimp only at hround
      obtain ⟨last, hlast⟩ : ∃ last, (if offset = 0 then size
        else if offset + size.toNat < payload.length then size
        else if payload.length < offset + size.toNat then UInt16.ofNat (payload.length - offset)
        else size) = last := ⟨_, rfl⟩
      -- what the round takes is left, and it is all or the size is kept
      have hinside : offset + last.toNat ≤ payload.length ∧
          (offset + last.toNat = 0 → last.toNat ≤ payload.length) := by
        refine ⟨?_, fun _ => ?_⟩
        · have hbound := size.toNat_lt
          rw [← hlast]
          split_ifs with hzero hmiddle hend
          · have := hfirst hzero
            omega
          · omega
          · rw [UInt16.toNat_ofNat_of_lt' (by show _ < 65536; omega)]
            omega
          · omega
        · omega
      rw [hlast] at hround
      rcases List.mem_cons.1 hround with rfl | hround
      · exact hinside.1
      · exact ih hinside.2 round hround
    · exact absurd hround List.not_mem_nil

/-- A loop that takes no bytes does not end. -/
theorem fragmentLoop_zero {payload : List UInt8} (hpayload : 0 < payload.length) (fuel : ℕ) :
    fragmentLoop payload fuel 0 0 = none := by
  induction fuel with
  | zero => rw [fragmentLoop, if_pos hpayload]
  | succ fuel ih =>
    rw [fragmentLoop, if_pos hpayload]
    simp [ih]

namespace FragmentFormat

variable (format : FragmentFormat) {nalu : List UInt8} {maxFragmentSize : UInt16}

/-- `fragmentsFrom` is in range exactly where an even fragment is more than overhead. -/
theorem inRange_iff_lt (hlong : maxFragmentSize.toNat < nalu.length) :
    format.InRange nalu maxFragmentSize ↔
      format.overhead.toNat < nalu.length ⌈/⌉ (nalu.length ⌈/⌉ maxFragmentSize.toNat) := by
  have hheader := format.headerSize_lt
  constructor
  · intro h
    by_contra hle
    have hsize := format.fragmentSize_toNat hlong h.noUnderflow
    have hmax := h.noUnderflow.trans (evenSize_le hlong)
    have hzero : format.fragmentSize nalu maxFragmentSize = 0 := by
      apply UInt16.toNat_inj.1
      rw [hsize]
      show _ = 0
      omega
    obtain ⟨fuel, hfuel⟩ := h.terminates
    -- the loop stays at the start of the payload
    have hpayload : 0 < (nalu.drop format.headerSize).length := by
      rw [List.length_drop]
      omega
    rw [hzero, fragmentLoop_zero hpayload] at hfuel
    cases hfuel
  · intro hlt
    have hle := evenSize_le hlong
    have hsize := format.fragmentSize_toNat hlong hlt.le
    obtain ⟨pieces, hfragments, hcut⟩ := format.fragmentsFrom_of_lt hlong hlt
    obtain ⟨loop, hloop, -⟩ := Option.map_eq_some_iff.1 hfragments
    refine ⟨⟨_, by rw [hloop]; rfl⟩, hlt.le, ⟨_, hfragments, ?_⟩, fun fuel => ?_⟩
    · intro fragment hfragment
      obtain ⟨piece, hpiece, rfl⟩ := List.mem_map.1 hfragment
      obtain ⟨hpos, hfits⟩ := hcut.size piece hpiece
      rw [format.length_fragment]
      omega
    · apply fragmentRounds_inside
      intro _
      rw [hsize, List.length_drop]
      omega

end FragmentFormat

/-! ## The exceptions -/

namespace FragmentFormat

/-- The unit of four bytes in fragments of three. -/
theorem evenSize_le_two_iff {n m : ℕ} (hm : 2 < m) (hlong : m < n) :
    n ⌈/⌉ (n ⌈/⌉ m) ≤ 2 ↔ m = 3 ∧ n = 4 := by
  obtain ⟨count, hcount, htwo, hcover, hfewer⟩ := exists_fragmentsCount (by omega) hlong
  rw [hcount, ceilDiv_le_iff_le_mul (by omega)]
  constructor
  · intro hle
    -- three bytes in all fragments but one, and two in each
    have hthree : 3 * (count - 1) ≤ m * (count - 1) := Nat.mul_le_mul_right _ hm
    obtain rfl : count = 2 := by omega
    omega
  · rintro ⟨rfl, rfl⟩
    omega

/-- Units of up to nine bytes in fragments of four or five. -/
theorem evenSize_le_three_iff {n m : ℕ} (hm : 3 < m) (hlong : m < n) :
    n ⌈/⌉ (n ⌈/⌉ m) ≤ 3 ↔ m = 4 ∧ (n = 5 ∨ n = 6 ∨ n = 9) ∨ m = 5 ∧ n = 6 := by
  obtain ⟨count, hcount, htwo, hcover, hfewer⟩ := exists_fragmentsCount (by omega) hlong
  rw [hcount, ceilDiv_le_iff_le_mul (by omega)]
  constructor
  · intro hle
    -- four bytes in all fragments but one, and three in each
    have hfour : 4 * (count - 1) ≤ m * (count - 1) := Nat.mul_le_mul_right _ hm
    obtain rfl | rfl : count = 2 ∨ count = 3 := by omega
    · omega
    · omega
  · rintro (⟨rfl, rfl | rfl | rfl⟩ | ⟨rfl, rfl⟩)
    all_goals omega

/-- For every unit that is longer than the maximum size, which is larger than the overhead of two
bytes in H.264 and of three in H.265: `fragmentsFrom` is in range except for a unit of 4 bytes with
the maximum 3 in H.264, and in H.265 for units of 5, 6 and 9 bytes with the maximum 4 and of 6 bytes
with 5. -/
theorem inRange_iff {nalu : List UInt8} {maxFragmentSize : UInt16}
    (hlong : maxFragmentSize.toNat < nalu.length) :
    (2 < maxFragmentSize.toNat →
      (H264.format.InRange nalu maxFragmentSize ↔
        ¬(maxFragmentSize.toNat = 3 ∧ nalu.length = 4))) ∧
    (3 < maxFragmentSize.toNat →
      (H265.format.InRange nalu maxFragmentSize ↔
        ¬(maxFragmentSize.toNat = 4 ∧ (nalu.length = 5 ∨ nalu.length = 6 ∨ nalu.length = 9) ∨
          maxFragmentSize.toNat = 5 ∧ nalu.length = 6))) := by
  constructor
  · intro hmax
    rw [inRange_iff_lt _ hlong, ← evenSize_le_two_iff hmax hlong, not_le]
    rfl
  · intro hmax
    rw [inRange_iff_lt _ hlong, ← evenSize_le_three_iff hmax hlong, not_le]
    rfl

theorem inRange_iff_seven :
    H264.format.InRange [0x65, 1, 2, 3, 4, 5, 6] 4 ∧
      H265.format.InRange [0x26, 1, 2, 3, 4, 5, 6] 4 :=
  ⟨((inRange_iff (by decide)).1 (by decide)).2 (by decide),
    ((inRange_iff (by decide)).2 (by decide)).2 (by decide)⟩

/-- A unit of four bytes is never cut into fragments of three, of which two are overhead. -/
theorem not_inRange :
    2 < (3 : UInt16).toNat ∧ (3 : UInt16).toNat < [(0x65 : UInt8), 1, 2, 3].length ∧
      ¬H264.format.InRange [0x65, 1, 2, 3] 3 ∧
      ∀ fuel, fragmentLoop [1, 2, 3] fuel
        (H264.format.fragmentSize [0x65, 1, 2, 3] 3) 0 = none := by
  have hsize : H264.format.fragmentSize [0x65, 1, 2, 3] 3 = 0 := by decide
  have hloop (fuel : ℕ) :
      fragmentLoop [1, 2, 3] fuel (H264.format.fragmentSize [0x65, 1, 2, 3] 3) 0 = none := by
    rw [hsize]
    exact fragmentLoop_zero (by decide) fuel
  refine ⟨by decide, by decide, fun h => ?_, hloop⟩
  obtain ⟨fuel, hfuel⟩ := h.terminates
  have hsome : (fragmentLoop [1, 2, 3] fuel
      (H264.format.fragmentSize [0x65, 1, 2, 3] 3) 0).isSome := hfuel
  rw [hloop fuel] at hsome
  cases hsome

end FragmentFormat

end Rtc
