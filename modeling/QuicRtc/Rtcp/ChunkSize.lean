import QuicRtc.Rtcp.Sdes

/-!
# The size of an SDES chunk

A chunk takes one word for its SSRC and as many as its items and the zero behind them need.
`RtcpSdesChunk::Size` adds the items up in 32 bits and converts the number of words to 8 bits. The
conversion of a larger number is not defined by the language, so what is proved about the size
holds for every conversion that keeps the numbers below 256.

* `sizeBy_ofNat`: `sizeWith` is the size in 32 bits, with the conversion that keeps the low bits.
* `sizeBy_eq_exactSize_iff`: when the size is the exact one.
* `sizesExactly_iff`: the same of `getSize`, on any chunk that is laid out with the items.
-/

namespace Rtc

/-- An item as it is laid out: its type is not the one that ends the chunk, and its text has a
length. -/
structure SdesItem where
  type : UInt8
  text : List UInt8
  type_ne_zero : type ≠ 0
  text_le : text.length ≤ 255

namespace SdesItem

/-- The length that `setText` stores. -/
def length (item : SdesItem) : UInt8 := UInt8.ofNat item.text.length

/-- The type, the length and the text. -/
def bytes (item : SdesItem) : List UInt8 := item.type :: item.length :: item.text

theorem toNat_length (item : SdesItem) : item.length.toNat = item.text.length :=
  UInt8.toNat_ofNat_of_lt' (Nat.lt_succ_of_le item.text_le)

end SdesItem

namespace RtcpSdesChunk

/-- A chunk, up to the zero that ends its items. -/
def layOut (ssrc : UInt32) (items : List SdesItem) : List UInt8 :=
  BigEndian.encode 4 ssrc.toNat ++ (items.flatMap SdesItem.bytes ++ [0])

/-- The words of the SSRC and of the items with a zero behind them, in bytes. -/
def exactSize (lengths : List UInt8) : ℕ :=
  4 * (1 + ((lengths.map fun length => length.toNat + 2).sum + 1) ⌈/⌉ 4)

/-- The size is exact, and `getSize` returns it, wherever a chunk with these items stands. -/
structure SizesExactly (lengths : List UInt8) : Prop where
  size : sizeWith lengths = exactSize lengths
  getSize : ∀ (before rest : List UInt8) (ssrc : UInt32) (items : List SdesItem),
    items.map SdesItem.length = lengths →
      getSize (before ++ layOut ssrc items ++ rest) before.length = .ok (exactSize lengths)

/-! ## The walk over a chunk that is laid out -/

theorem items_layOut (items : List SdesItem) (rest : List UInt8) :
    Items (items.flatMap SdesItem.bytes ++ 0 :: rest) (items.map SdesItem.length) := by
  induction items with
  | nil => exact .nil
  | cons item items ih =>
    have hcons : (item :: items).flatMap SdesItem.bytes ++ 0 :: rest =
        item.type :: item.length :: (item.text ++ (items.flatMap SdesItem.bytes ++ 0 :: rest)) := by
      rw [List.flatMap_cons, List.append_assoc]
      rfl
    rw [hcons, List.map_cons]
    refine .cons item.type_ne_zero ?_
    -- the text is skipped by its length
    rw [item.toNat_length, List.drop_left]
    exact ih

theorem getSize_layOut (before rest : List UInt8) (ssrc : UInt32) (items : List SdesItem) :
    getSize (before ++ layOut ssrc items ++ rest) before.length =
      .ok (sizeWith (items.map SdesItem.length)) := by
  refine getSize_of_items ?_
  have hssrc : (BigEndian.encode 4 ssrc.toNat).length = 4 := BigEndian.length_encode _ _
  have hdrop : (before ++ layOut ssrc items ++ rest).drop (before.length + 4) =
      items.flatMap SdesItem.bytes ++ 0 :: rest := by
    rw [← List.drop_drop, List.append_assoc, List.drop_left, layOut, List.append_assoc,
      List.append_assoc]
    exact List.drop_left' hssrc
  rw [hdrop]
  exact items_layOut items rest

/-! ## The number of words -/

/-- The sizes of the items, added in 32 bits. -/
def itemsSize (textLengths : List UInt8) : UInt32 :=
  textLengths.foldl
    (fun itemsSize length => itemsSize + UInt32.ofNat (RtcpSdesItem.sizeWith length)) 0

/-- `RtcpSdesChunk::Size` with a conversion of the number of words. -/
def sizeBy (convert : ℕ → UInt8) (textLengths : List UInt8) : ℕ :=
  ((convert ((itemsSize textLengths + 1).toNat ⌈/⌉ 4)).toNat + 1) * 4

theorem toNat_itemsSize (lengths : List UInt8) :
    (itemsSize lengths).toNat = (lengths.map RtcpSdesItem.sizeWith).sum % 2 ^ 32 := by
  induction lengths using List.reverseRecOn with
  | nil => rfl
  | append_singleton lengths length ih =>
    rw [itemsSize, List.foldl_append, List.foldl_cons, List.foldl_nil, ← itemsSize,
      UInt32.toNat_add, ih, UInt32.toNat_ofNat', List.map_append, List.sum_append,
      List.map_singleton, List.sum_singleton, Nat.mod_add_mod, Nat.add_mod_mod]

/-- The low bits of the number of words do not depend on the bits that are lost. -/
theorem sizeBy_ofNat (lengths : List UInt8) : sizeBy UInt8.ofNat lengths = sizeWith lengths := by
  have hwords : (UInt8.ofNat ((itemsSize lengths + 1).toNat ⌈/⌉ 4)).toNat =
      (UInt8.ofNat (((lengths.map RtcpSdesItem.sizeWith).sum + 1) ⌈/⌉ 4)).toNat := by
    have hone : (1 : UInt32).toNat = 1 := rfl
    rw [UInt32.toNat_add, toNat_itemsSize, hone, Nat.ceilDiv_eq_add_pred_div,
      Nat.ceilDiv_eq_add_pred_div, UInt8.toNat_ofNat', UInt8.toNat_ofNat']
    omega
  rw [sizeBy, sizeWith, hwords]

variable {convert : ℕ → UInt8} {lengths : List UInt8}

/-- The size is exact as long as the number of words fits in 8 bits, whatever becomes of a larger
one. -/
theorem sizeBy_eq_exactSize_iff (hconvert : ∀ n < 256, (convert n).toNat = n) :
    sizeBy convert lengths = exactSize lengths ↔
      (lengths.map RtcpSdesItem.sizeWith).sum ≤ 1019 := by
  have hexact : exactSize lengths =
      4 * (1 + ((lengths.map RtcpSdesItem.sizeWith).sum + 1) ⌈/⌉ 4) := rfl
  have hone : (1 : UInt32).toNat = 1 := rfl
  rw [hexact, sizeBy]
  constructor
  · -- no byte is large enough for more words
    intro hsize
    have hlt := (convert ((itemsSize lengths + 1).toNat ⌈/⌉ 4)).toNat_lt
    rw [Nat.ceilDiv_eq_add_pred_div (_ + 1)] at hsize
    omega
  · intro hsum
    have hwords : (itemsSize lengths + 1).toNat = (lengths.map RtcpSdesItem.sizeWith).sum + 1 := by
      rw [UInt32.toNat_add, toNat_itemsSize, hone]
      omega
    have hlt : ((lengths.map RtcpSdesItem.sizeWith).sum + 1) ⌈/⌉ 4 < 256 := by
      rw [Nat.ceilDiv_eq_add_pred_div]
      omega
    rw [hwords, hconvert _ hlt]
    omega

/-- The size of a chunk is exact if and only if its items take at most 1019 bytes. -/
theorem sizesExactly_iff (lengths : List UInt8) :
    SizesExactly lengths ↔ (lengths.map RtcpSdesItem.sizeWith).sum ≤ 1019 := by
  have hsize : sizeWith lengths = exactSize lengths ↔
      (lengths.map RtcpSdesItem.sizeWith).sum ≤ 1019 := by
    rw [← sizeBy_ofNat]
    exact sizeBy_eq_exactSize_iff fun n hn => UInt8.toNat_ofNat_of_lt' hn
  constructor
  · intro h
    exact hsize.1 h.size
  · intro hsum
    refine ⟨hsize.2 hsum, fun before rest ssrc items hitems => ?_⟩
    rw [getSize_layOut, hitems, hsize.2 hsum]

/-- Four items with the longest text need 259 words, and 3 are counted. -/
theorem not_sizesExactly_four : ¬SizesExactly [255, 255, 255, 255] ∧
    sizeWith [255, 255, 255, 255] = 12 ∧ exactSize [255, 255, 255, 255] = 1036 := by
  have hsize : sizeWith [255, 255, 255, 255] = 12 := by decide
  have hexact : exactSize [255, 255, 255, 255] = 1036 := by decide
  refine ⟨fun h => ?_, hsize, hexact⟩
  have hsame := h.size
  rw [hsize, hexact] at hsame
  cases hsame

end RtcpSdesChunk

end Rtc
